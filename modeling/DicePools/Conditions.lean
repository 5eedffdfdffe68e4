import DicePools.Name
import DicePools.Json.Decode

/-! The status conditions of an actor: active names and quotas, both sorted, queried and updated
through `Name.key`. -/

namespace DicePools

/-! Condition names the engine reacts to. -/
namespace ConditionName

def burdened : String := "burdened"
def overBurdened : String := "over-burdened"
def cannotMove : String := "cannotmove"
def guarding : String := "guarding"
def aiming : String := "aiming"
def flying : String := "flying"
def slowed : String := "slowed"
def immobilized : String := "immobilized"
def halfBuried : String := "half-buried"
def blinded : String := "blinded"

end ConditionName

def insertSortedSet (x : String) : List String → List String
  | [] => [x]
  | y :: ys => if x = y then y :: ys else if x < y then x :: y :: ys else y :: insertSortedSet x ys

/-- Active conditions and quotas, each sorted by name. -/
structure Conditions where
  active : List String
  quotas : List (String × Int)
  deriving DecidableEq, Repr, Inhabited

namespace Conditions

def empty : Conditions := ⟨[], []⟩

def withActive (names : List String) : Conditions :=
  ⟨(names.map Name.key).foldl (fun acc k => insertSortedSet k acc) [], []⟩

def has (c : Conditions) (name : String) : Bool := c.active.contains (Name.key name)

def hasAny (c : Conditions) (names : List String) : Bool := names.any c.has

def add (c : Conditions) (names : List String) : Conditions :=
  { c with active := (names.map Name.key).foldl (fun acc k => insertSortedSet k acc) c.active }

def remove (c : Conditions) (names : List String) : Conditions :=
  { c with active := c.active.filter fun a => !(names.map Name.key).contains a }

def quota (c : Conditions) (name : String) : Option Int := c.quotas.lookup (Name.key name)

def setQuota (c : Conditions) (name : String) (value : Int) : Conditions :=
  { c with quotas := Json.insertByKey (Name.key name) value c.quotas }

/-- Reads a store as written in a snapshot, names kept as written. -/
def decode : Json.Decoder Conditions := fun j here => do
  let (active, quotas) ← Json.record "struct Conditions"
    [.of "active" .defaulted (Json.list Json.string) fun (_, q) a => (a, q),
     .of "quotas" .defaulted (Json.members Json.i64) fun (a, _) q => (a, q)] ([], []) j here
  pure ⟨active.foldl (fun acc k => insertSortedSet k acc) [], Json.sortedMap quotas⟩

def toJson (c : Conditions) : Json :=
  .obj [("active", Json.ofStrings c.active), ("quotas", .obj (c.quotas.map fun (k, v) => (k, Json.ofInt v)))]

end Conditions

end DicePools
