import DicePools.Actor.Basic

/-! The situation a rule is evaluated in. -/

namespace DicePools

/-- The kind of defense being rolled. -/
inductive Defense where
  | dodge
  | parry
  | special
  deriving DecidableEq, Repr, Inhabited

namespace Defense

def all : List Defense := [dodge, parry, special]

def name : Defense → String
  | dodge => "dodge"
  | parry => "parry"
  | special => "special"

def ofName? (s : String) : Option Defense := all.find? (·.name == s)

end Defense

/-- What is known of the opposing side's item. -/
structure OpposingItem where
  name : String
  descriptors : KeyList
  effects : KeyList
  deriving Inhabited

def OpposingItem.ofItem (i : Item) : OpposingItem :=
  ⟨i.name, KeyList.ofNames i.descriptors, KeyList.ofNames i.effects⟩

/-- The situation a rule is evaluated in. -/
structure Context where
  item : Option Item
  other : Option OpposingItem
  conditions : Conditions
  defense : Option Defense
  /-- Stats of a roll without an item, as keys. -/
  stats : List String
  autocheck : Bool
  oneInRoll : Bool
  deriving Inhabited

namespace Context

def ofConditions (c : Conditions) : Context := ⟨none, none, c, none, [], false, false⟩

def withStats (ctx : Context) (stats : List String) : Context :=
  { ctx with stats := stats.map Name.key }

/-- The same context evaluated for the fields that start out checked. -/
def autochecking (ctx : Context) : Context := { ctx with autocheck := true }

end Context

/-- Reads an opposing item: `name`, `descriptors` and `effects`, each optional. -/
def OpposingItem.decode : Json.Decoder OpposingItem :=
  Json.record "struct OpposingItem"
    [.of "name" .defaulted Json.string fun o v => { o with name := v },
     .of "descriptors" .defaulted KeyList.decode fun o v => { o with descriptors := v },
     .of "effects" .defaulted KeyList.decode fun o v => { o with effects := v }]
    ⟨"", .empty, .empty⟩

end DicePools
