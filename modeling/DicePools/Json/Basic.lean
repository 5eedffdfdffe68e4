import DicePools.Decimal.Layout

/-! JSON values, numbers kept in the class they were read as, and their compact text. -/

namespace DicePools

/-- A JSON number in the class it was read as. -/
inductive Number where
  /-- An unsigned integer below `2 ^ 64`. -/
  | nat (n : Nat)
  /-- A negative integer not below `-2 ^ 63`. -/
  | neg (n : Int)
  /-- Any other number. -/
  | float (f : Float)
  deriving Inhabited

/-- A JSON value. -/
inductive Json where
  | null
  | bool (b : Bool)
  | num (n : Number)
  | str (s : String)
  | arr (items : List Json)
  | obj (members : List (String × Json))
  deriving Inhabited

namespace Number

def toFloat : Number → Float
  | nat n => Float.ofNat n
  | neg n => Float.ofInt n
  | float f => f

def ofFloat? (f : Float) : Option Number :=
  if f.isNaN || f.isInf then none else some (float f)

/-- The number's text: integers in decimal, floats in their shortest form. -/
def text : Number → String
  | nat n => toString n
  | neg n => toString n
  | float f => (Decimal.scientificText? f).getD "null"

end Number

namespace Json

/-- A float as JSON: a number when finite, else `null`. -/
def ofFloat (f : Float) : Json :=
  match Number.ofFloat? f with
  | some n => num n
  | none => null

def ofNat (n : Nat) : Json := num (.nat n)

def ofInt (n : Int) : Json := if n < 0 then num (.neg n) else num (.nat n.toNat)

def ofStrings (xs : List String) : Json := arr (xs.map str)

def ofOption {α : Type} (f : α → Json) : Option α → Json
  | some a => f a
  | none => null

/-- The member of an object with this key, the last one if written twice. -/
def get? (j : Json) (key : String) : Option Json :=
  match j with
  | obj ms => (ms.reverse.find? (·.1 == key)).map (·.2)
  | _ => none

def field (j : Json) (key : String) : Json := (j.get? key).getD null

def getStr? : Json → Option String
  | str s => some s
  | _ => none

def getArr? : Json → Option (List Json)
  | arr xs => some xs
  | _ => none

def isNull : Json → Bool
  | null => true
  | _ => false

/-- Inserts a member into a list sorted by key, replacing a member with an equal key. -/
def insertSorted (k : String) (v : Json) : List (String × Json) → List (String × Json)
  | [] => [(k, v)]
  | (k', v') :: rest =>
    if k = k' then (k, v) :: rest
    else if k < k' then (k, v) :: (k', v') :: rest
    else (k', v') :: insertSorted k v rest

/-- Sorts the members of every object by key, keeping the last of equal keys. -/
def canonical : Json → Json
  | arr xs => arr (xs.attach.map fun ⟨x, _⟩ => canonical x)
  | obj ms => obj ((ms.attach.map fun ⟨(k, v), _⟩ => (k, canonical v)).foldl
      (fun acc (k, v) => insertSorted k v acc) [])
  | j => j
decreasing_by
  all_goals simp_wf
  · have := List.sizeOf_lt_of_mem ‹_ ∈ xs›; omega
  · have := List.sizeOf_lt_of_mem ‹_ ∈ ms›; simp_all; omega

def hexDigit (n : Nat) : Char := "0123456789abcdef".toList.getD n '0'

/-- A character as written inside a JSON string. -/
def escapeChar (c : Char) : List Char :=
  match c with
  | '"' => ['\\', '"']
  | '\\' => ['\\', '\\']
  | '\n' => ['\\', 'n']
  | '\r' => ['\\', 'r']
  | '\t' => ['\\', 't']
  | c =>
    if c.toNat = 8 then ['\\', 'b']
    else if c.toNat = 12 then ['\\', 'f']
    else if c.toNat < 0x20 then ['\\', 'u', '0', '0', hexDigit (c.toNat / 16), hexDigit (c.toNat % 16)]
    else [c]

def quote (s : String) : String := String.ofList ('"' :: s.toList.flatMap escapeChar ++ ['"'])

/-- The value written without blanks, members in their order. -/
def compact : Json → String
  | null => "null"
  | bool true => "true"
  | bool false => "false"
  | num n => n.text
  | str s => quote s
  | arr xs => "[" ++ ",".intercalate (xs.attach.map fun ⟨x, _⟩ => compact x) ++ "]"
  | obj ms =>
    "\x7b" ++ ",".intercalate (ms.attach.map fun ⟨(k, v), _⟩ => quote k ++ ":" ++ compact v) ++ "\x7d"
decreasing_by
  all_goals simp_wf
  · have := List.sizeOf_lt_of_mem ‹_ ∈ xs›; omega
  · have := List.sizeOf_lt_of_mem ‹_ ∈ ms›; simp_all; omega

end Json

end DicePools
