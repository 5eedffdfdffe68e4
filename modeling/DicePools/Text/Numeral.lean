/-! Decimal numerals of signed and unsigned fixed-width integers. -/

namespace DicePools
namespace Text

/-- The value of a non-empty run of ASCII digits. -/
def digitsValue? (cs : List Char) : Option Nat :=
  if cs.isEmpty || !cs.all Char.isDigit then none
  else some (cs.foldl (fun acc c => 10 * acc + (c.toNat - '0'.toNat)) 0)

/-- An unsigned numeral at most `bound`: digits after an optional `+`. -/
def natBelow? (bound : Nat) (s : String) : Option Nat :=
  let digits := match s.toList with
    | '+' :: rest => rest
    | cs => cs
  match digitsValue? digits with
  | some n => if n ≤ bound then some n else none
  | none => none

/-- A signed numeral within `[lo, hi]`: digits after an optional `+` or `-`. -/
def intWithin? (lo hi : Int) (s : String) : Option Int :=
  let (negative, digits) := match s.toList with
    | '+' :: rest => (false, rest)
    | '-' :: rest => (true, rest)
    | cs => (false, cs)
  match digitsValue? digits with
  | some n =>
    let v : Int := if negative then -(n : Int) else n
    if lo ≤ v ∧ v ≤ hi then some v else none
  | none => none

def u32Max : Nat := 4294967295

def u32? (s : String) : Option Nat := natBelow? u32Max s

def u64? (s : String) : Option Nat := natBelow? 18446744073709551615 s

def i32? (s : String) : Option Int := intWithin? (-2147483648) 2147483647 s

def i64? (s : String) : Option Int := intWithin? (-9223372036854775808) 9223372036854775807 s

example : u32? "+8" = some 8 ∧ u32? "-0" = none ∧ u32? "4294967296" = none ∧ u32? "" = none ∧
    i32? "-3" = some (-3) ∧ i32? "+" = none := by decide

end Text
end DicePools
