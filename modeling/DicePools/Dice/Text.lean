import DicePools.Dice.Basic
import DicePools.Log
import DicePools.Text.Split

/-! Dice written as comma separated terms such as `2d8, d6`; a term that names no die is skipped
with a warning. -/

namespace DicePools
namespace Dice

/-- Reads one term such as `3d6` or `D12`: the count before the first `d` (one when blank) and
the sides after it, both unsigned numerals with blanks around them. -/
def parseTerm? (term : String) : Option (UInt32 × Die) := do
  let (countText, sidesText) ← Text.splitOnce (Text.lower (Text.trim term)) 'd'
  let count ← match Text.trim countText with
    | "" => some 1
    | text => Text.u32? text
  let die ← (Text.u32? (Text.trim sidesText)).bind Die.ofSides?
  pure (UInt32.ofNat count, die)

def terms (text : String) : List String :=
  ((Text.splitAll text ',').map Text.trim).filter (· ≠ "")

/-- Reads comma separated terms into a pool, warning about each term that names no die. -/
def parse (text : String) : Logged Dice :=
  (terms text).foldlM (fun acc term =>
    match parseTerm? term with
    | some (n, d) => pure (acc + single n d)
    | none => do
      Logged.warn "skipping unreadable dice term"
      pure acc) empty

/-- One term of the written form, or nothing for an empty bucket. -/
def termText (short : Bool) (n : UInt32) (d : Die) : Option String :=
  if n = 0 then none
  else if n = 1 ∧ short then some d.tag
  else some (toString n.toNat ++ d.tag)

/-- Writes a pool as terms, largest die first; the short form leaves out a count of one. -/
def format (x : Dice) (short : Bool) : String :=
  ", ".intercalate (Die.all.filterMap fun d => termText short (x.count d) d)

example : format ⟨0, 0, 2, 1, 0⟩ true = "2d8, d6" ∧ format ⟨0, 0, 2, 1, 0⟩ false = "2d8, 1d6" ∧
    format empty true = "" := by decide

end Dice
end DicePools
