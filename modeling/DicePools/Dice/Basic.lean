import DicePools.Dice.Die

/-! Dice pools: five 32-bit counts, one per die size, added with saturation and compared from the
d12 bucket down. -/

namespace DicePools

def countMax : Nat := 4294967295

/-- Adds two counts, stopping at the largest count. -/
def satAdd (a b : UInt32) : UInt32 := UInt32.ofNat (min (a.toNat + b.toNat) countMax)

def satSum (xs : List UInt32) : UInt32 := xs.foldl satAdd 0

theorem toNat_satAdd (a b : UInt32) : (satAdd a b).toNat = min (a.toNat + b.toNat) countMax := by
  unfold satAdd countMax
  rw [UInt32.toNat_ofNat']
  omega

/-- Counts of d12, d10, d8, d6 and d4. -/
structure Dice where
  d12 : UInt32
  d10 : UInt32
  d8 : UInt32
  d6 : UInt32
  d4 : UInt32
  deriving DecidableEq, Repr, Inhabited

namespace Dice

def empty : Dice := ⟨0, 0, 0, 0, 0⟩

def count (x : Dice) : Die → UInt32
  | .d12 => x.d12
  | .d10 => x.d10
  | .d8 => x.d8
  | .d6 => x.d6
  | .d4 => x.d4

def ofFn (f : Die → UInt32) : Dice := ⟨f .d12, f .d10, f .d8, f .d6, f .d4⟩

def toList (x : Dice) : List UInt32 := [x.d12, x.d10, x.d8, x.d6, x.d4]

/-- The pool of five given counts, largest die first; missing counts are zero. -/
def ofList : List UInt32 → Dice
  | [a, b, c, d, e] => ⟨a, b, c, d, e⟩
  | _ => empty

@[simp] theorem count_ofFn (f : Die → UInt32) (d : Die) : (ofFn f).count d = f d := by
  cases d <;> rfl

theorem ext_count {x y : Dice} (h : ∀ d, x.count d = y.count d) : x = y := by
  cases x; cases y
  have h12 := h .d12; have h10 := h .d10; have h8 := h .d8; have h6 := h .d6; have h4 := h .d4
  simp_all [count]

@[simp] theorem ofFn_count (x : Dice) : ofFn x.count = x := by cases x; rfl

theorem count_eq_getElem? (x : Dice) (d : Die) : x.toList[d.index]? = some (x.count d) := by
  cases d <;> rfl

def single (n : UInt32) (d : Die) : Dice := ofFn fun e => if e = d then n else 0

def add (x y : Dice) : Dice := ofFn fun d => satAdd (x.count d) (y.count d)

instance : Add Dice := ⟨add⟩

@[simp] theorem count_add (x y : Dice) (d : Die) :
    (x + y).count d = satAdd (x.count d) (y.count d) := count_ofFn _ d

def sum (xs : List Dice) : Dice := xs.foldl (· + ·) empty

def total (x : Dice) : UInt32 := satSum x.toList

def isEmpty (x : Dice) : Bool := x.toList.all (· == 0)

/-- The largest die present with its count. -/
def leading? (x : Dice) : Option (UInt32 × Die) :=
  (Die.all.find? (x.count · != 0)).map fun d => (x.count d, d)

/-- The count and die when exactly one bucket is occupied. -/
def single? (x : Dice) : Option (UInt32 × Die) :=
  match Die.all.filter (x.count · != 0) with
  | [d] => some (x.count d, d)
  | _ => none

def maxDie? (x : Dice) : Option Die := x.leading?.map (·.2)

/-- The face of the largest die present, or `-1` for the empty pool. -/
def maxValue (x : Dice) : Int :=
  match x.maxDie? with
  | some d => d.sides
  | none => -1

/-- Moves every die larger than `limit` into the bucket of `limit`. -/
def limitTo (x : Dice) (limit : Die) : Dice :=
  ofFn fun d =>
    if d.index < limit.index then 0
    else if d = limit then satSum ((Die.all.filter (·.index ≤ limit.index)).map x.count)
    else x.count d

/-- Raises every die `steps` sizes, stopping at the d12. -/
def upgrade (x : Dice) (steps : Nat) : Dice :=
  ofFn fun d => satSum ((Die.all.filter fun e => e.index - steps = d.index).map x.count)

/-- The dice of a skill with `marks` marks: a d12 for every five marks, and for a remainder
`r` one more die in bucket `5 - r` (one mark is a d4, four marks a d10). -/
def ofMarks (marks : UInt32) : Dice :=
  let rest := marks.toNat % 5
  let extra : Die → UInt32 := fun d => if rest ≠ 0 ∧ d.index = 5 - rest then 1 else 0
  ofFn fun d => if d = .d12 then marks / 5 else extra d

/-- Lexicographic comparison from the d12 bucket down. -/
def compare (x y : Dice) : Ordering :=
  (Ord.compare x.d12 y.d12).then <| (Ord.compare x.d10 y.d10).then <|
    (Ord.compare x.d8 y.d8).then <| (Ord.compare x.d6 y.d6).then (Ord.compare x.d4 y.d4)

instance : Ord Dice := ⟨compare⟩

instance : Std.TransCmp Dice.compare :=
  inferInstanceAs (Std.TransCmp (compareLex (compareOn Dice.d12) (compareLex (compareOn Dice.d10)
    (compareLex (compareOn Dice.d8) (compareLex (compareOn Dice.d6) (compareOn Dice.d4))))))

instance : Std.LawfulEqCmp Dice.compare where
  eq_of_compare {x y} h := by
    simp only [Dice.compare, Ordering.then_eq_eq, Std.compare_eq_iff_eq] at h
    cases x
    cases y
    simp_all

@[simp] theorem count_limitTo (x : Dice) (limit d : Die) :
    (x.limitTo limit).count d =
      if d.index < limit.index then 0
      else if d = limit then satSum ((Die.all.filter (·.index ≤ limit.index)).map x.count)
      else x.count d := count_ofFn _ d

@[simp] theorem count_upgrade (x : Dice) (steps : Nat) (d : Die) :
    (x.upgrade steps).count d =
      satSum ((Die.all.filter fun e => e.index - steps = d.index).map x.count) := count_ofFn _ d

example : ofMarks 7 = ⟨1, 0, 0, 1, 0⟩ ∧ ofMarks 4 = ⟨0, 1, 0, 0, 0⟩ ∧ ofMarks 0 = empty := by
  decide

example : (⟨0, 1, 0, 1, 0⟩ : Dice).upgrade 1 = ⟨1, 0, 1, 0, 0⟩ ∧
    (⟨1, 1, 1, 1, 0⟩ : Dice).limitTo .d8 = ⟨0, 0, 3, 1, 0⟩ := by decide

end Dice

end DicePools
