/-! The shortest decimal of a finite binary64 value, nearest the value among the shortest, computed
exactly over natural numbers. -/

namespace DicePools
namespace Decimal

/-- A finite non-negative binary64 value `m * 2 ^ q`. -/
structure Binary where
  m : Nat
  q : Int
  /-- The value below is half as far away as the value above (a power of two). -/
  narrowBelow : Bool
  deriving Repr

/-- The magnitude of a finite value, read from its bits. -/
def Binary.ofBits (b : UInt64) : Binary :=
  let e := ((b >>> 52) &&& 0x7FF).toNat
  let f := (b &&& 0xFFFFFFFFFFFFF).toNat
  if e = 0 then ⟨f, -1074, false⟩ else ⟨Nat.pow 2 52 + f, (e : Int) - 1075, f = 0 && e > 1⟩

/-- The decimal `digits * 10 ^ exp`. -/
structure Dec where
  digits : Nat
  exp : Int
  deriving Repr, DecidableEq, Inhabited

/-- How an exact tie between two nearest candidates is settled. -/
inductive Tie where
  /-- The candidate with the even last digit. -/
  | toEven
  /-- The larger candidate. -/
  | up
  deriving DecidableEq, Repr

def cmpScaled (a : Nat) (i : Int) (n : Nat) (j : Int) : Ordering :=
  Ord.compare (a * Nat.pow 10 i.toNat * Nat.pow 2 (-j).toNat) (n * Nat.pow 2 j.toNat * Nat.pow 10 (-i).toNat)

/-- The decimal lies in the interval of reals that round to the value. -/
def Binary.readsBack (x : Binary) (d : Dec) : Bool :=
  let lo := if x.narrowBelow then 4 * x.m - 1 else 4 * x.m - 2
  let hi := 4 * x.m + 2
  let inclusive := x.m % 2 == 0
  let cl := cmpScaled d.digits d.exp lo (x.q - 2)
  let ch := cmpScaled d.digits d.exp hi (x.q - 2)
  (cl == .gt || (inclusive && cl == .eq)) && (ch == .lt || (inclusive && ch == .eq))

/-- The least `k` with `m * 2 ^ q < 10 ^ k`, for a positive value: estimated from the binary
logarithm and corrected by exact comparisons. -/
def Binary.scale (x : Binary) : Int :=
  let estimate : Int := ((x.m.log2 : Int) + x.q) * 30103 / 100000 - 2
  let below (k : Int) : Bool := cmpScaled 1 k x.m x.q == .gt
  match (List.range 8).find? (fun (i : Nat) => below (estimate + i)) with
  | some i => estimate + i
  | none => estimate + 8

def Binary.floorOnGrid (x : Binary) (g : Int) : Nat :=
  (x.m * Nat.pow 2 x.q.toNat * Nat.pow 10 (-g).toNat) / (Nat.pow 2 (-x.q).toNat * Nat.pow 10 g.toNat)

/-- Moves trailing zeros of the digits into the exponent. -/
def Dec.strip (d : Dec) : Dec :=
  let rec go (fuel : Nat) (digits : Nat) (exp : Int) : Dec :=
    match fuel with
    | 0 => ⟨digits, exp⟩
    | fuel + 1 => if digits ≠ 0 ∧ digits % 10 = 0 then go fuel (digits / 10) (exp + 1)
      else ⟨digits, exp⟩
  go 400 d.digits d.exp

/-- The candidate of a grid `10 ^ g` nearest the value, if either neighbour reads back. -/
def Binary.onGrid (x : Binary) (tie : Tie) (g : Int) : Option Dec :=
  let t := x.floorOnGrid g
  let lowHit := x.readsBack ⟨t, g⟩
  let highHit := x.readsBack ⟨t + 1, g⟩
  if lowHit && highHit then
    -- compare twice the value with (2t + 1) * 10^g
    match cmpScaled (2 * t + 1) g (2 * x.m) x.q with
    | .gt => some ⟨t, g⟩
    | .lt => some ⟨t + 1, g⟩
    | .eq => if tie = .up || t % 2 = 1 then some ⟨t + 1, g⟩ else some ⟨t, g⟩
  else if lowHit then some ⟨t, g⟩
  else if highHit then some ⟨t + 1, g⟩
  else none

def Binary.exact (x : Binary) : Dec :=
  if 0 ≤ x.q then ⟨x.m * Nat.pow 2 x.q.toNat, 0⟩ else ⟨x.m * Nat.pow 5 (-x.q).toNat, x.q⟩

/-- The shortest decimal that reads back as a positive value, nearest the value among the
shortest. -/
def Binary.shortest (x : Binary) (tie : Tie) : Dec :=
  let k := x.scale
  match (List.range 17).findSome? (fun (i : Nat) => x.onGrid tie (k - (i + 1))) with
  | some d => d.strip
  | none => x.exact.strip

/-- The sign and shortest decimal of the float with bits `b`; `none` for NaN and the
infinities. Zero is `⟨0, 0⟩` with its sign. -/
def ofBits? (b : UInt64) (tie : Tie) : Option (Bool × Dec) :=
  let negative := b >>> 63 == 1
  let e := (b >>> 52) &&& 0x7FF
  if e == 0x7FF then none
  else
    let x := Binary.ofBits b
    if x.m = 0 then some (negative, ⟨0, 0⟩) else some (negative, x.shortest tie)

def ofFloat? (f : Float) (tie : Tie) : Option (Bool × Dec) := ofBits? f.toBits tie

-- 0.1, 1e23 and 5e-324
example : ofBits? 0x3FB999999999999A .toEven = some (false, ⟨1, -1⟩) := by decide +kernel
example : ofBits? 0x44B52D02C7E14AF6 .toEven = some (false, ⟨1, 23⟩) := by decide +kernel
example : ofBits? 0x0000000000000001 .toEven = some (false, ⟨5, -324⟩) := by decide +kernel

end Decimal
end DicePools
