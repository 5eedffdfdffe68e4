/-! Equip slots and range bands, with a fallback for names the engine does not know. -/

namespace DicePools

/-- How a weapon is held. -/
inductive Equip where
  | goodHand
  | offHand
  | twoHands
  | other
  /-- A slot the engine does not know. -/
  | unknown
  deriving DecidableEq, Repr, Inhabited

namespace Equip

def all : List Equip := [goodHand, offHand, twoHands, other, unknown]

def name : Equip → String
  | goodHand => "goodhand"
  | offHand => "offhand"
  | twoHands => "twohands"
  | other => "other"
  | unknown => "unknown"

def ofName? (s : String) : Option Equip := all.find? (·.name == s)

def ofNameOrUnknown (s : String) : Equip := (ofName? s).getD unknown

/-- The filter key of the slot; an unknown slot has none. -/
def key : Equip → Option String
  | unknown => none
  | e => some e.name

end Equip

/-- Range bands, nearest first. -/
inductive RangeBand where
  | close
  | reach
  | near
  | short
  | medium
  | long
  | veryLong
  | extreme
  | far
  | horizon
  /-- A band the engine does not know. -/
  | unknown
  deriving DecidableEq, Repr, Inhabited

namespace RangeBand

def all : List RangeBand :=
  [close, reach, near, short, medium, long, veryLong, extreme, far, horizon, unknown]

def name : RangeBand → String
  | close => "close"
  | reach => "reach"
  | near => "near"
  | short => "short"
  | medium => "medium"
  | long => "long"
  | veryLong => "verylong"
  | extreme => "extreme"
  | far => "far"
  | horizon => "horizon"
  | unknown => "unknown"

/-- The distance in paces the band reaches to. -/
def paces : RangeBand → Nat
  | close => 1
  | reach => 2
  | near => 4
  | short => 12
  | medium => 36
  | long => 100
  | veryLong => 300
  | extreme => 1000
  | far => 3000
  | horizon => 11000
  | unknown => 0

def ofName? (s : String) : Option RangeBand := all.find? (·.name == s)

def ofNameOrUnknown (s : String) : RangeBand := (ofName? s).getD unknown

/-- The filter key of the band; an unknown band has none. -/
def key : RangeBand → Option String
  | unknown => none
  | b => some b.name

end RangeBand

end DicePools
