import DicePools.Setting.Basic
import DicePools.Item.Slot

/-! What each mode may match on, and the problems that make a rule malformed. -/

namespace DicePools

/-- A match field of a filter. -/
inductive MatchField where
  | itemType
  | itemName
  | tag
  | descriptor
  | effect
  | stat
  | equip
  | range
  | condition
  | otherItem
  | secondReadied
  | defense
  | oneInRoll
  deriving DecidableEq, Repr, Inhabited

namespace MatchField

def all : List MatchField :=
  [itemType, itemName, tag, descriptor, effect, stat, equip, range, condition, otherItem,
    secondReadied, defense, oneInRoll]

/-- The field's name in reports. -/
def name : MatchField → String
  | itemType => "type"
  | itemName => "name"
  | tag => "tag"
  | descriptor => "descriptor"
  | effect => "effect"
  | stat => "stat"
  | equip => "equip"
  | range => "range"
  | condition => "condition"
  | otherItem => "other_item"
  | secondReadied => "second_readied"
  | defense => "defense"
  | oneInRoll => "one_in_roll"

def ofKey? (key : String) : Option MatchField :=
  all.find? fun f => String.ofList (f.name.toList.filter (· ≠ '_')) == key

end MatchField

/-- A set of match fields. -/
structure FieldSet where
  mem : MatchField → Bool

namespace FieldSet

def empty : FieldSet := ⟨fun _ => false⟩

def ofList (fs : List MatchField) : FieldSet := ⟨fun f => fs.contains f⟩

def union (a b : FieldSet) : FieldSet := ⟨fun f => a.mem f || b.mem f⟩

def diff (a b : FieldSet) : FieldSet := ⟨fun f => a.mem f && !b.mem f⟩

def toList (s : FieldSet) : List MatchField := MatchField.all.filter s.mem

def names (s : FieldSet) : List String := s.toList.map (·.name)

def ofKeys (keys : List String) : FieldSet := ofList (keys.filterMap MatchField.ofKey?)

def item : FieldSet := ofList [.itemName, .tag, .descriptor, .effect, .stat, .equip, .range]

def situation : FieldSet := ofList [.condition, .otherItem]

theorem mem_toList (s : FieldSet) (f : MatchField) : f ∈ s.toList ↔ s.mem f = true := by
  cases f <;> simp [toList, MatchField.all]

end FieldSet

/-- The match fields a mode understands. -/
def Mode.allowed : Mode → FieldSet
  | .attackBonus | .counterBonus | .resistBonus | .aimBonus | .rangePenaltyReduction =>
    (FieldSet.item.union FieldSet.situation).union (.ofList [.secondReadied])
  | .defenseBonus =>
    (FieldSet.item.union FieldSet.situation).union (.ofList [.secondReadied, .defense])
  | .soakBonus | .guardBonus | .sprintBonus | .initiativeBonus | .moveBonus | .flyingBonus
  | .encumbranceBonus | .currencyValueChange => FieldSet.situation
  | .rerollBonus => (FieldSet.ofList [.stat]).union (FieldSet.situation.union (.ofList [.oneInRoll]))
  | .statChange | .diceUpgrade =>
    ((FieldSet.ofList [.itemType]).union FieldSet.item).union (.ofList [.otherItem])

/-- The match fields a filter sets: its non-empty lists, a second readied weapon, defenses not
all admitted, and a one in the roll. -/
def Filter.present (f : Filter) : FieldSet := ⟨fun
  | .itemType => !f.itemType.isEmpty
  | .itemName => !f.name.isEmpty
  | .tag => !f.tag.isEmpty
  | .descriptor => !f.descriptor.isEmpty
  | .effect => !f.effect.isEmpty
  | .stat => !f.stat.isEmpty
  | .equip => !f.equip.isEmpty
  | .range => !f.range.isEmpty
  | .condition => !f.condition.isEmpty
  | .otherItem => !f.otherItem.isEmpty
  | .secondReadied => f.needsSecondReadied
  | .defense => !(f.appliesToDodges && f.appliesToParries && f.appliesToSpecialDefenses)
  | .oneInRoll => f.requiresOneInRoll⟩

/-- A slot key names a slot a weapon can have. -/
def Equip.isKnownKey (k : String) : Bool :=
  match Equip.ofName? k with
  | some e => e != .unknown
  | none => false

/-- A band key names a band a weapon can have. -/
def RangeBand.isKnownKey (k : String) : Bool :=
  match RangeBand.ofName? k with
  | some b => b != .unknown
  | none => false

namespace Setting

/-- Problems of the payload: mismatched stat lists, a reroll or currency change without what it
changes, bonus sources that are no source. -/
def payloadProblems : Effect → List String
  | .statChange c =>
    if c.changeFrom.length ≠ c.changeTo.length then
      ["stat change lists differ in length (" ++ toString c.changeFrom.length ++ " vs " ++
        toString c.changeTo.length ++ ")"]
    else []
  | .rerollBonus r =>
    if (Text.trim r.rerollType).isEmpty then ["reroll bonus without a reroll type"] else []
  | .currencyValueChange c =>
    if (Text.trim c.currencyName).isEmpty then ["currency change without a currency name"] else []
  | e =>
    match e.diceBonus? with
    | some b => (b.sources.keys.filter fun s => (BonusSource.ofName? s).isNone).map fun s =>
        "unknown bonus source '" ++ s ++ "'"
    | none => []

/-- Everything wrong with a rule, in order. -/
def problems (s : Setting) : List String :=
  match s.effect with
  | .unrecognized written => ["unknown setting mode '" ++ written ++ "'"]
  | e =>
    match e.mode? with
    | none => []
    | some mode =>
      let allowed := mode.allowed
      let f := s.filter
      (match s.unreadable with
        | some reason => ["unreadable rule: " ++ reason]
        | none => []) ++
      ((f.present.diff allowed).names.map fun n =>
        mode.name ++ " does not support the " ++ n ++ " field") ++
      (f.autocheckOnly.keys.filterMap fun k =>
        match MatchField.ofKey? k with
        | some field => if allowed.mem field then none
          else some (mode.name ++ " cannot autocheck the " ++ k ++ " field")
        | none => some ("unknown autocheck field '" ++ k ++ "'")) ++
      ((f.equip.keys.filter (!Equip.isKnownKey ·)).map fun k => "unknown equip slot '" ++ k ++ "'") ++
      ((f.range.keys.filter (!RangeBand.isKnownKey ·)).map fun k =>
        "unknown range band '" ++ k ++ "'") ++
      payloadProblems e

end Setting

end DicePools
