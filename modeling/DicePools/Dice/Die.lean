import DicePools.Text.Blank
import DicePools.Text.Case
import DicePools.Text.Numeral

/-! The five die sizes of a pool, from the d12 down to the d4. -/

namespace DicePools

/-- One of the five die sizes, largest first. -/
inductive Die where
  | d12
  | d10
  | d8
  | d6
  | d4
  deriving DecidableEq, Repr, Inhabited

namespace Die

/-- Every die, largest first: the order of the buckets of a pool. -/
def all : List Die := [d12, d10, d8, d6, d4]

def sides : Die → Nat
  | d12 => 12
  | d10 => 10
  | d8 => 8
  | d6 => 6
  | d4 => 4

/-- The bucket of the die in a pool, counting from the d12 bucket. -/
def index : Die → Nat
  | d12 => 0
  | d10 => 1
  | d8 => 2
  | d6 => 3
  | d4 => 4

def ofIndex? (i : Nat) : Option Die := all[i]?

def ofSides? (n : Nat) : Option Die := all.find? (·.sides == n)

/-- The largest die whose face does not exceed `face`, and the d4 below every die. -/
def atMost (face : Nat) : Die := (all.find? (·.sides ≤ face)).getD d4

def tag (d : Die) : String := "d" ++ toString d.sides

/-- Reads a tag such as `d8` or ` D12 `: blanks around it and the case of the `d` are free,
and the number of sides is an unsigned numeral. -/
def ofTag? (s : String) : Option Die :=
  match (Text.lower (Text.trim s)).toList with
  | 'd' :: rest => (Text.u32? (String.ofList rest)).bind ofSides?
  | _ => none

@[simp] theorem ofSides?_sides (d : Die) : ofSides? d.sides = some d := by
  cases d <;> rfl

@[simp] theorem ofIndex?_index (d : Die) : ofIndex? d.index = some d := by
  cases d <;> rfl

theorem index_lt (d : Die) : d.index < 5 := by
  cases d <;> decide

theorem index_injective {d e : Die} (h : d.index = e.index) : d = e := by
  cases d <;> cases e <;> simp_all [index]

theorem mem_all (d : Die) : d ∈ all := by
  cases d <;> decide

example : atMost 9 = d8 ∧ atMost 100 = d12 ∧ atMost 2 = d4 ∧ ofTag? " D12 " = some d12 ∧
    ofTag? "d20" = none ∧ ofTag? "d+8" = some d8 := by decide

end Die

end DicePools
