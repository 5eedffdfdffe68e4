import DicePools.Name
import DicePools.Json.Decode

/-! Key lists, written as a comma separated text or a list of names; empty lists match
everything. -/

namespace DicePools

/-- A list of keys in the order written. -/
structure KeyList where
  keys : List String
  deriving DecidableEq, Repr, Inhabited

namespace KeyList

def empty : KeyList := ⟨[]⟩

def parse (text : String) : KeyList := ⟨Name.splitKeys text⟩

def ofNames (names : List String) : KeyList := ⟨(names.map Name.key).filter (· ≠ "")⟩

def length (l : KeyList) : Nat := l.keys.length

def isEmpty (l : KeyList) : Bool := l.keys.isEmpty

def contains (l : KeyList) (name : String) : Bool := l.keys.contains (Name.key name)

def intersects (l : KeyList) (subjects : List String) : Bool :=
  l.keys.any fun k => subjects.any fun s => Name.key s == k

def display (l : KeyList) : String := ", ".intercalate l.keys

def untagged : String := "data did not match any variant of untagged enum RawKeyList"

/-- Reads a key list written as a comma separated text or as an array of names. -/
def decode : Json.Decoder KeyList
  | .str t, _ => pure (parse t)
  | .arr xs, here =>
    match xs.mapM Json.getStr? with
    | some names => pure (ofNames names)
    | none => Json.failNear untagged here .surfaced
  | _, here => Json.failNear untagged here .surfaced

def toJson (l : KeyList) : Json := Json.ofStrings l.keys

end KeyList

end DicePools
