import DicePools.Json.Basic
import DicePools.Log

/-! Decoders from JSON values to records, with complaints that say what was found and point at
it. -/

namespace DicePools
namespace Json

/-- Where, near a value, a complaint points. -/
inductive Spot where
  /-- After the value. -/
  | after
  /-- At the start of the value. -/
  | before
  /-- After the name of the member holding the value, and the blanks that follow it. -/
  | afterKey
  /-- Where reading of the enclosing object or array stops once the value is read: before the
  separator after it, or after the enclosing value when this one is its last part. -/
  | surfaced
  deriving DecidableEq, Inhabited

/-- Where a complaint points: member or item positions from the top value, innermost first,
and the spot near the value found there. -/
structure Anchor where
  path : List Nat
  spot : Spot
  deriving Inhabited

/-- Why a value could not be decoded, and where. -/
structure DecodeError where
  message : String
  anchor : Anchor
  deriving Inhabited

/-- A decoding step: it records diagnostics and may fail. -/
abbrev Decode := ExceptT DecodeError Logged

/-- A decoder reads the value found at a path. -/
abbrev Decoder (α : Type) := Json → List Nat → Decode α

def failAt {α : Type} (message : String) (here : List Nat) : Decode α :=
  throw ⟨message, ⟨here, .after⟩⟩

/-- The names as a complaint lists them: each in backticks, two joined by `or`, more after
`one of`. -/
def oneOf (names : List String) : String :=
  let ticked := names.map fun n => "`" ++ n ++ "`"
  match ticked with
  | [a] => a
  | [a, b] => a ++ " or " ++ b
  | _ => "one of " ++ ", ".intercalate ticked

def failNear {α : Type} (message : String) (here : List Nat) (spot : Spot) : Decode α :=
  throw ⟨message, ⟨here, spot⟩⟩

def quietly {α : Type} (m : Decode α) : Decode α :=
  ExceptT.mk ⟨(m.run).value, []⟩

def pointAfter {α : Type} (here : List Nat) (m : Decode α) : Decode α :=
  tryCatch m fun e => throw { e with anchor := ⟨here, .after⟩ }

/-- Text of a string as a complaint quotes it. -/
def quoteForMessage (s : String) : String :=
  String.ofList ('"' :: s.toList.flatMap (fun c =>
    match c with
    | '"' => ['\\', '"']
    | '\\' => ['\\', '\\']
    | '\n' => ['\\', 'n']
    | '\r' => ['\\', 'r']
    | '\t' => ['\\', 't']
    | c => [c]) ++ ['"'])

/-- What a complaint calls the value found. -/
def unexpected : Json → String
  | null => "null"
  | bool b => "boolean `" ++ (if b then "true" else "false") ++ "`"
  | num (.nat n) => "integer `" ++ toString n ++ "`"
  | num (.neg n) => "integer `" ++ toString n ++ "`"
  | num (.float f) => "floating point `" ++ (Decimal.scientificText? f).getD "NaN" ++ "`"
  | str s => "string " ++ quoteForMessage s
  | arr _ => "sequence"
  | obj _ => "map"

/-- The value has a type other than the one expected. -/
def invalidType {α : Type} (j : Json) (expected : String) (here : List Nat) : Decode α :=
  let spot : Spot := match j with
    | arr _ => .before
    | obj _ => .before
    | _ => .after
  throw ⟨"invalid type: " ++ unexpected j ++ ", expected " ++ expected, ⟨here, spot⟩⟩

def invalidValue {α : Type} (j : Json) (expected : String) (here : List Nat) : Decode α :=
  failAt ("invalid value: " ++ unexpected j ++ ", expected " ++ expected) here

def string : Decoder String
  | str s, _ => pure s
  | j, here => invalidType j "a string" here

def boolean : Decoder Bool
  | bool b, _ => pure b
  | j, here => invalidType j "a boolean" here

/-- An unsigned integer at most `bound`, named `what` in complaints. -/
def natUpTo (bound : Nat) (what : String) : Decoder Nat
  | num (.nat n), here => if n ≤ bound then pure n else invalidValue (num (.nat n)) what here
  | num (.neg n), here => invalidValue (num (.neg n)) what here
  | j, here => invalidType j what here

/-- A signed integer within `[lo, hi]`, named `what` in complaints. -/
def intWithin (lo hi : Int) (what : String) : Decoder Int
  | num (.nat n), here => if (n : Int) ≤ hi then pure n else invalidValue (num (.nat n)) what here
  | num (.neg n), here => if lo ≤ n then pure n else invalidValue (num (.neg n)) what here
  | j, here => invalidType j what here

def u32 : Decoder Nat := natUpTo 4294967295 "u32"

def u64 : Decoder Nat := natUpTo 18446744073709551615 "u64"

def i32 : Decoder Int := intWithin (-2147483648) 2147483647 "i32"

def i64 : Decoder Int := intWithin (-9223372036854775808) 9223372036854775807 "i64"

/-- A float; integers are taken as floats. -/
def float : Decoder Float
  | num n, _ => pure n.toFloat
  | j, here => invalidType j "f64" here

/-- An optional value: `null` is none. -/
def optional {α : Type} (d : Decoder α) : Decoder (Option α)
  | null, _ => pure none
  | j, here => some <$> d j here

/-- An array, each item decoded in order. -/
def list {α : Type} (d : Decoder α) : Decoder (List α)
  | arr xs, here => (xs.zipIdx).mapM fun (x, i) => d x (i :: here)
  | j, here => invalidType j "a sequence" here

/-- An object with string keys, each value decoded in order. -/
def members {α : Type} (d : Decoder α) : Decoder (List (String × α))
  | obj ms, here => (ms.zipIdx).mapM fun ((k, v), i) => do pure (k, ← d v (i :: here))
  | j, here => invalidType j "a map" here

/-- Inserts into a list sorted by key, a later value replacing an earlier one. -/
def insertByKey {α : Type} (k : String) (v : α) : List (String × α) → List (String × α)
  | [] => [(k, v)]
  | (k', v') :: rest =>
    if k = k' then (k, v) :: rest
    else if k < k' then (k, v) :: (k', v') :: rest
    else (k', v') :: insertByKey k v rest

/-- A dictionary: members sorted by key, the last of equal keys kept. -/
def sortedMap {α : Type} (ms : List (String × α)) : List (String × α) :=
  ms.foldl (fun acc (k, v) => insertByKey k v acc) []

/-- Whether a declared member may be left out: never, only from an object (where it reads as
absent), or always (it then takes its default). -/
inductive Presence where
  | required
  | optional
  | defaulted
  deriving DecidableEq, Inhabited

/-- One declared member of a record of type `σ`: its name, whether it may be left out, and how
its value, found at a path, updates the record being read. -/
structure Declared (σ : Type) where
  name : String
  presence : Presence
  update : Json → List Nat → σ → Decode σ

/-- A declared member decoded with `d` and stored with `put`. -/
def Declared.of {σ α : Type} (name : String) (presence : Presence) (d : Decoder α)
    (put : σ → α → σ) : Declared σ :=
  ⟨name, presence, fun j here s => do pure (put s (← d j here))⟩

/-- An array written for a record may stop before a member that has a default, and may not
hold more items than there are members. -/
def checkLength {σ : Type} (n : Nat) (here : List Nat) (expected : String)
    (fields : List (Declared σ)) : Decode Unit :=
  match ((fields.zipIdx).drop n).find? (·.1.presence != .defaulted) with
  | some (_, i) => failAt ("invalid length " ++ toString i ++ ", expected " ++ expected ++
      " with " ++ toString fields.length ++ " element" ++ (if fields.length = 1 then "" else "s")) here
  | none =>
    if n > fields.length then
      failAt ("invalid length " ++ toString n ++ ", expected fewer elements in array") here
    else pure ()

/-- Reads the members of an object in order into `init`, refusing a declared name written twice. -/
def readMembers {σ : Type} (fields : List (Declared σ)) (init : σ) (ms : List (String × Json))
    (here : List Nat) : Decode (σ × List String) :=
  (ms.zipIdx).foldlM (fun (s, seen) ((k, v), i) =>
    match fields.find? (·.name == k) with
    | some f =>
      if seen.contains k then failNear ("duplicate field `" ++ k ++ "`") (i :: here) .afterKey
      else do pure (← f.update v (i :: here) s, k :: seen)
    | none => pure (s, seen)) (init, [])

/-- The first required member not seen, reported after the object. -/
def checkRequired {σ : Type} (fields : List (Declared σ)) (seen : List String) (here : List Nat) :
    Decode Unit :=
  match fields.find? fun f => f.presence == .required && !seen.contains f.name with
  | some f => failAt ("missing field `" ++ f.name ++ "`") here
  | none => pure ()

/-- Reads a record from `init`: an object's members then the required check, or an array. -/
def record {σ : Type} (expected : String) (fields : List (Declared σ)) (init : σ) : Decoder σ :=
  fun j here =>
    match j with
    | obj ms => do
      let (s, seen) ← readMembers fields init ms here
      checkRequired fields seen here
      pure s
    | arr xs => do
      let s ← ((fields.zip xs).zipIdx).foldlM (fun s ((f, x), i) => f.update x (i :: here) s) init
      checkLength xs.length here expected fields
      pure s
    | j => invalidType j expected here

end Json
end DicePools
