import DicePools.Decimal.Shortest

/-! Narrowing binary64 values to integers: cut toward zero, clamped into the range, NaN to zero. -/

namespace DicePools
namespace Decimal

/-- The integer part of a finite value (cut toward zero); none for the infinities and NaN. -/
def truncate? (f : Float) : Option Int :=
  let bits := f.toBits
  if (bits >>> 52) &&& 0x7FF = 0x7FF then none
  else
    let x := Binary.ofBits bits
    let magnitude : Nat := if 0 ≤ x.q then x.m * Nat.pow 2 x.q.toNat else x.m / Nat.pow 2 (-x.q).toNat
    some (if bits >>> 63 = 1 then -(magnitude : Int) else magnitude)

/-- The value narrowed into `[lo, hi]`: cut toward zero and clamped, NaN to zero. -/
def narrow (lo hi : Int) (f : Float) : Int :=
  match truncate? f with
  | some v => max lo (min hi v)
  | none => if f.isNaN then 0 else if f < 0 then lo else hi

def toI64 (f : Float) : Int := narrow (-9223372036854775808) 9223372036854775807 f

def toU64 (f : Float) : Nat := (narrow 0 18446744073709551615 f).toNat

/-- Rounds halves toward positive infinity, so -0.5 becomes 0 and 2.5 becomes 3. -/
def roundHalfUp (x : Float) : Float := (x + 0.5).floor

example : truncate? 2.75 = some 2 := by decide +kernel
example : truncate? (-2.75) = some (-2) := by decide +kernel
example : toU64 (-3.0) = 0 := by decide +kernel

end Decimal
end DicePools
