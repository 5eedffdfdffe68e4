import DicePools.Decimal.Shortest

/-! The three layouts of a float's digits: scientific for JSON, plain for reports, and fixed. -/

namespace DicePools
namespace Decimal

def zeros (n : Nat) : String := String.ofList (List.replicate n '0')

def digitText (n : Nat) : String := toString n

def nonFiniteText (f : Float) : String :=
  if f.isNaN then "NaN" else if f < 0 then "-inf" else "inf"

/-- Shortest digits with an exponent outside `[1e-5, 1e16)`, `.0` on whole numbers. -/
def Dec.scientific (d : Dec) : String :=
  if d.digits = 0 then "0.0" else
  let ds := digitText d.digits
  let len : Int := ds.length
  let kk := len + d.exp
  if 0 ≤ d.exp ∧ kk ≤ 16 then ds ++ zeros d.exp.toNat ++ ".0"
  else if 0 < kk ∧ kk ≤ 16 then
    String.ofList (ds.toList.take kk.toNat) ++ "." ++ String.ofList (ds.toList.drop kk.toNat)
  else if -5 < kk ∧ kk ≤ 0 then "0." ++ zeros (-kk).toNat ++ ds
  else
    let mantissa := match ds.toList with
      | [c] => String.singleton c
      | c :: rest => String.singleton c ++ "." ++ String.ofList rest
      | [] => ""
    mantissa ++ "e" ++ toString (kk - 1)

/-- Shortest digits at every magnitude without exponent; whole numbers without `.0`. -/
def Dec.plain (d : Dec) : String :=
  if d.digits = 0 then "0" else
  let ds := digitText d.digits
  let kk : Int := ds.length + d.exp
  if 0 ≤ d.exp then ds ++ zeros d.exp.toNat
  else if 0 < kk then
    String.ofList (ds.toList.take kk.toNat) ++ "." ++ String.ofList (ds.toList.drop kk.toNat)
  else "0." ++ zeros (-kk).toNat ++ ds

def scientificText? (f : Float) : Option String :=
  (ofFloat? f .toEven).map fun (negative, d) => (if negative then "-" else "") ++ d.scientific

/-- A float as printed in reports: shortest digits without exponent. -/
def plainText (f : Float) : String :=
  match ofFloat? f .up with
  | some (negative, d) => (if negative then "-" else "") ++ d.plain
  | none => nonFiniteText f

/-- `num / den` rounded to the nearest natural number, a half going to the even one. -/
def roundHalfEven (num den : Nat) : Nat :=
  let q := num / den
  let r := num % den
  if 2 * r > den then q + 1
  else if 2 * r < den then q
  else if q % 2 = 1 then q + 1 else q

/-- A float rounded to `places` decimals, exactly, a half going to the even neighbour. -/
def fixedText (f : Float) (places : Nat) : String :=
  let b := f.toBits
  let negative := b >>> 63 == 1
  let e := (b >>> 52) &&& 0x7FF
  if e == 0x7FF then nonFiniteText f else
  let x := Binary.ofBits b
  -- x.m * 2^q * 10^places, rounded
  let n := roundHalfEven (x.m * Nat.pow 2 x.q.toNat * Nat.pow 10 places) (Nat.pow 2 (-x.q).toNat)
  let ds := digitText n
  let ds := if ds.length ≤ places then zeros (places + 1 - ds.length) ++ ds else ds
  let whole := String.ofList (ds.toList.take (ds.length - places))
  let frac := String.ofList (ds.toList.drop (ds.length - places))
  (if negative then "-" else "") ++ whole ++ (if places = 0 then "" else "." ++ frac)

example : Dec.scientific ⟨12, 0⟩ = "12.0" ∧ Dec.scientific ⟨1, 16⟩ = "1e16" ∧
    Dec.scientific ⟨15, -7⟩ = "1.5e-6" ∧ Dec.scientific ⟨1, -5⟩ = "0.00001" ∧
    Dec.plain ⟨8333333333333333, -17⟩ = "0.08333333333333333" ∧ Dec.plain ⟨1, 20⟩ =
      "100000000000000000000" := by decide

end Decimal
end DicePools
