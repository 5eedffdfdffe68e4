import DicePools.Decimal.Shortest

/-! Reading a decimal text into the nearest float, and the JSON reader's `scaleByTen`, which may
miss it by one unit in the last place. -/

namespace DicePools
namespace Decimal

def digitRun (cs : List Char) : Nat × Nat :=
  (cs.foldl (fun acc c => 10 * acc + (c.toNat - '0'.toNat)) 0, cs.length)

/-- The nearest float to `digits * 10 ^ exp`, with the given sign. -/
def nearest (negative : Bool) (digits : Nat) (exp : Int) : Float :=
  let magnitude : Float :=
    if digits = 0 then 0
    else
      let size : Int := (toString digits).length + exp
      if size > 310 then Float.ofScientific 1 false 400
      else if size < -330 then 0
      else if 0 ≤ exp then Float.ofScientific digits false exp.toNat
      else Float.ofScientific digits true (-exp).toNat
  if negative then -magnitude else magnitude

def tenPower (k : Nat) : Float := Float.ofScientific 1 false k

/-- The significand kept of a run of digits, appended while below `2 ^ 64`, and the number of
digits kept. -/
def keepDigits (sig : Nat) : List Char → Nat × Nat
  | [] => (sig, 0)
  | c :: cs =>
    let next := 10 * sig + (c.toNat - '0'.toNat)
    if next < Nat.pow 2 64 then
      let (s, n) := keepDigits next cs
      (s, n + 1)
    else (sig, 0)

theorem keepDigits_kept_le (sig : Nat) (cs : List Char) : (keepDigits sig cs).2 ≤ cs.length := by
  induction cs generalizing sig with
  | nil => simp [keepDigits]
  | cons c cs ih =>
    simp only [keepDigits]
    split
    · simpa using ih _
    · simp

theorem keepDigits_lt (sig : Nat) (cs : List Char) (h : sig < Nat.pow 2 64) :
    (keepDigits sig cs).1 < Nat.pow 2 64 := by
  induction cs generalizing sig with
  | nil => simpa [keepDigits] using h
  | cons c cs ih =>
    simp only [keepDigits]
    split
    · next hn => exact ih _ hn
    · exact h

/-- `f · 10 ^ exp` by one multiplication or division with `tenPower`; `none` when out of range. -/
def scaleByTen (f : Float) (exp : Int) : Option Float :=
  if 0 ≤ exp then
    if exp ≤ 308 then
      let g := f * tenPower exp.toNat
      if g.isInf then none else some g
    else if f == 0 then some f else none
  else if -308 ≤ exp then some (f / tenPower (-exp).toNat)
  else if f == 0 then some f
  else scaleByTen (f / tenPower 308) (exp + 308)
termination_by (-exp).toNat
decreasing_by omega

/-- The value of a run of digits, or, when it passes `limit`, how many digits were read up to
and including the one that made it pass. -/
def boundedRun (limit : Nat) (cs : List Char) : Except Nat Nat :=
  go 0 0 cs
where
  /-- Reads on from the value `acc` of the first `n` digits. -/
  go (acc n : Nat) : List Char → Except Nat Nat
    | [] => .ok acc
    | c :: cs =>
      let next := 10 * acc + (c.toNat - '0'.toNat)
      if limit < next then .error (n + 1) else go next (n + 1) cs

/-- The decimal exponent after `e`: an optional sign and at least one digit. -/
def exponent? (cs : List Char) : Option Int :=
  let (negative, ds) := match cs with
    | '+' :: rest => (false, rest)
    | '-' :: rest => (true, rest)
    | rest => (false, rest)
  if ds.isEmpty || !ds.all Char.isDigit then none
  else
    let v := (digitRun ds).1
    some (if negative then -(v : Int) else v)

/-- Digits, an optional point and digits, an optional exponent. -/
def unsignedNumber? (negative : Bool) (cs : List Char) : Option Float :=
  let whole := cs.takeWhile Char.isDigit
  let rest := cs.dropWhile Char.isDigit
  let (frac, rest) := match rest with
    | '.' :: more => (more.takeWhile Char.isDigit, more.dropWhile Char.isDigit)
    | _ => ([], rest)
  if whole.isEmpty && frac.isEmpty then none
  else
    let exp? : Option Int := match rest with
      | [] => some 0
      | c :: more => if c = 'e' || c = 'E' then exponent? more else none
    exp?.map fun e =>
      let (w, _) := digitRun (whole ++ frac)
      nearest negative w (e - frac.length)

def asciiLower (cs : List Char) : List Char := cs.map Char.toLower

/-- Reads a float; `none` when the text is not a decimal. -/
def parseFloat? (s : String) : Option Float :=
  let (negative, cs) := match s.toList with
    | '+' :: rest => (false, rest)
    | '-' :: rest => (true, rest)
    | rest => (false, rest)
  let word := asciiLower cs
  if word = "inf".toList || word = "infinity".toList then
    some (if negative then -(Float.ofScientific 1 false 400) else Float.ofScientific 1 false 400)
  else if word = "nan".toList then some (0.0 / 0.0)
  else unsignedNumber? negative cs

end Decimal
end DicePools
