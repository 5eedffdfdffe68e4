import DicePools.KeyList
import DicePools.Dice.Text

/-! Gift rules: an effect tagged by its mode, a filter, and an optional gift to replace. -/

namespace DicePools

/-- The kind of a gift rule. -/
inductive Mode where
  | attackBonus
  | defenseBonus
  | counterBonus
  | resistBonus
  | soakBonus
  | guardBonus
  | aimBonus
  | sprintBonus
  | initiativeBonus
  | moveBonus
  | flyingBonus
  | rerollBonus
  | rangePenaltyReduction
  | encumbranceBonus
  | currencyValueChange
  | statChange
  | diceUpgrade
  deriving DecidableEq, Repr, Inhabited

namespace Mode

def all : List Mode :=
  [attackBonus, defenseBonus, counterBonus, resistBonus, soakBonus, guardBonus, aimBonus,
    sprintBonus, initiativeBonus, moveBonus, flyingBonus, rerollBonus, rangePenaltyReduction,
    encumbranceBonus, currencyValueChange, statChange, diceUpgrade]

def name : Mode → String
  | attackBonus => "attackBonus"
  | defenseBonus => "defenseBonus"
  | counterBonus => "counterBonus"
  | resistBonus => "resistBonus"
  | soakBonus => "soakBonus"
  | guardBonus => "guardBonus"
  | aimBonus => "aimBonus"
  | sprintBonus => "sprintBonus"
  | initiativeBonus => "initiativeBonus"
  | moveBonus => "moveBonus"
  | flyingBonus => "flyingBonus"
  | rerollBonus => "rerollBonus"
  | rangePenaltyReduction => "rangePenaltyReduction"
  | encumbranceBonus => "encumbranceBonus"
  | currencyValueChange => "currencyValueChange"
  | statChange => "statChange"
  | diceUpgrade => "diceUpgrade"

def ofName? (s : String) : Option Mode := all.find? (·.name == s)

def index (m : Mode) : Nat := all.idxOf m

/-- Modes whose rules add fields to a dice pool. -/
def isPoolKind : Mode → Bool
  | attackBonus | defenseBonus | counterBonus | resistBonus | soakBonus | sprintBonus
  | initiativeBonus => true
  | _ => false

end Mode

/-- Which exhaust state the granting gift must be in. -/
inductive WorksWhen where
  | anyState
  | refreshed
  | exhausted
  deriving DecidableEq, Repr, Inhabited

def WorksWhen.name : WorksWhen → String
  | .anyState => "anyState"
  | .refreshed => "refreshed"
  | .exhausted => "exhausted"

/-- When a bonus dice field starts out checked. -/
inductive AutoUse where
  /-- Checked when the rule also applies in an autocheck evaluation. -/
  | applied
  | always
  | never
  deriving DecidableEq, Repr, Inhabited

def AutoUse.name : AutoUse → String
  | .applied => "applied"
  | .always => "always"
  | .never => "never"

/-- Parts of a pool a dice bonus can pull in. -/
inductive BonusSource where
  | armor
  | shield
  | guard
  | guardAlways
  | aim
  | aimAlways
  deriving DecidableEq, Repr, Inhabited

namespace BonusSource

def all : List BonusSource := [armor, shield, guard, guardAlways, aim, aimAlways]

def name : BonusSource → String
  | armor => "armor"
  | shield => "shield"
  | guard => "guard"
  | guardAlways => "guard-always"
  | aim => "aim"
  | aimAlways => "aim-always"

def ofName? (s : String) : Option BonusSource := all.find? (·.name == s)

end BonusSource

/-- When a rule applies: key lists that must each meet the subject, and flags. -/
structure Filter where
  itemType : KeyList
  name : KeyList
  tag : KeyList
  descriptor : KeyList
  effect : KeyList
  stat : KeyList
  equip : KeyList
  range : KeyList
  condition : KeyList
  otherItem : KeyList
  worksWhen : WorksWhen
  needsSecondReadied : Bool
  appliesToDodges : Bool
  appliesToParries : Bool
  appliesToSpecialDefenses : Bool
  requiresOneInRoll : Bool
  autocheckOnly : KeyList
  deriving DecidableEq, Repr, Inhabited

/-- The filter that matches everything. -/
def Filter.any : Filter :=
  ⟨.empty, .empty, .empty, .empty, .empty, .empty, .empty, .empty, .empty, .empty, .anyState,
    false, true, true, true, false, .empty⟩

/-- Payload of the pool bonus modes. -/
structure DiceBonus where
  sources : KeyList
  stats : Option KeyList
  dice : Option Dice
  autoUsed : AutoUse
  exhaustsOnUse : Bool
  deriving DecidableEq, Repr, Inhabited

def DiceBonus.none : DiceBonus := ⟨.empty, Option.none, Option.none, .applied, false⟩

def DiceBonus.parsedSources (b : DiceBonus) : List BonusSource :=
  b.sources.keys.filterMap BonusSource.ofName?

/-- Payload of the guard and aim modes. -/
structure StatusDice where
  dice : Option Dice
  replacesBase : Bool
  deriving DecidableEq, Repr, Inhabited

/-- Payload of the movement modes: paces added and whether bad footing is ignored. -/
structure MoveBonus where
  stride : Int
  dash : Int
  run : Int
  ignoreBadFooting : Bool
  deriving DecidableEq, Repr, Inhabited

/-- Payload of the reroll mode. -/
structure RerollBonus where
  rerollType : String
  exhaustsOnUse : Bool
  identifierOverride : Option String
  deriving DecidableEq, Repr, Inhabited

/-- Payload of the currency value mode: the currency and its value text. -/
structure CurrencyChange where
  currencyName : String
  currencyValue : String
  deriving DecidableEq, Repr, Inhabited

/-- Payload of the stat change mode: stats replaced pairwise, and a label addition. -/
structure StatChange where
  changeFrom : KeyList
  changeTo : KeyList
  nameAddition : String
  deriving DecidableEq, Repr, Inhabited

/-- Payload of the dice upgrade mode. -/
structure DiceUpgrade where
  steps : Nat
  nameAddition : String
  deriving DecidableEq, Repr, Inhabited

/-- What a rule contributes, one constructor per mode, and the unknown modes. -/
inductive Effect where
  | attackBonus (b : DiceBonus)
  | defenseBonus (b : DiceBonus)
  | counterBonus (b : DiceBonus)
  | resistBonus (b : DiceBonus)
  | soakBonus (b : DiceBonus)
  | guardBonus (s : StatusDice)
  | aimBonus (s : StatusDice)
  | sprintBonus (b : DiceBonus)
  | initiativeBonus (b : DiceBonus)
  | moveBonus (m : MoveBonus)
  | flyingBonus (m : MoveBonus)
  | rerollBonus (r : RerollBonus)
  | rangePenaltyReduction (bands : Nat)
  | encumbranceBonus (stones : Float)
  | currencyValueChange (c : CurrencyChange)
  | statChange (c : StatChange)
  | diceUpgrade (u : DiceUpgrade)
  /-- A mode the engine does not know, as written. -/
  | unrecognized (modeName : String)
  deriving Repr, Inhabited, BEq

namespace Effect

/-- The mode of the effect; none for an unknown mode. -/
def mode? : Effect → Option Mode
  | attackBonus _ => some .attackBonus
  | defenseBonus _ => some .defenseBonus
  | counterBonus _ => some .counterBonus
  | resistBonus _ => some .resistBonus
  | soakBonus _ => some .soakBonus
  | guardBonus _ => some .guardBonus
  | aimBonus _ => some .aimBonus
  | sprintBonus _ => some .sprintBonus
  | initiativeBonus _ => some .initiativeBonus
  | moveBonus _ => some .moveBonus
  | flyingBonus _ => some .flyingBonus
  | rerollBonus _ => some .rerollBonus
  | rangePenaltyReduction _ => some .rangePenaltyReduction
  | encumbranceBonus _ => some .encumbranceBonus
  | currencyValueChange _ => some .currencyValueChange
  | statChange _ => some .statChange
  | diceUpgrade _ => some .diceUpgrade
  | unrecognized _ => none

/-- The dice bonus of a pool mode. -/
def diceBonus? : Effect → Option DiceBonus
  | attackBonus b | defenseBonus b | counterBonus b | resistBonus b | soakBonus b
  | sprintBonus b | initiativeBonus b => some b
  | _ => none

/-- The status dice of the guard and aim modes. -/
def statusDice? : Effect → Option StatusDice
  | guardBonus s | aimBonus s => some s
  | _ => none

/-- The effect of a mode with every payload field at its default. -/
def prototype : Mode → Effect
  | .attackBonus => attackBonus .none
  | .defenseBonus => defenseBonus .none
  | .counterBonus => counterBonus .none
  | .resistBonus => resistBonus .none
  | .soakBonus => soakBonus .none
  | .guardBonus => guardBonus ⟨none, true⟩
  | .aimBonus => aimBonus ⟨none, true⟩
  | .sprintBonus => sprintBonus .none
  | .initiativeBonus => initiativeBonus .none
  | .moveBonus => moveBonus ⟨0, 0, 0, false⟩
  | .flyingBonus => flyingBonus ⟨0, 0, 0, false⟩
  | .rerollBonus => rerollBonus ⟨"", false, none⟩
  | .rangePenaltyReduction => rangePenaltyReduction 0
  | .encumbranceBonus => encumbranceBonus 0
  | .currencyValueChange => currencyValueChange ⟨"", ""⟩
  | .statChange => statChange ⟨.empty, .empty, ""⟩
  | .diceUpgrade => diceUpgrade ⟨0, ""⟩

theorem mode?_prototype (m : Mode) : (prototype m).mode? = some m := by
  cases m <;> rfl

end Effect

/-- A gift rule: its effect, its filter, the gift it replaces, and why it could not be read. -/
structure Setting where
  effect : Effect
  filter : Filter
  replaceName : Option String
  unreadable : Option String
  deriving Repr, Inhabited, BEq

namespace Setting

def mode? (s : Setting) : Option Mode := s.effect.mode?

def prototype (m : Mode) : Setting := ⟨Effect.prototype m, Filter.any, none, none⟩

end Setting

/-! ## The rule's own JSON form -/

def Dice.optionJson (d : Option Dice) : Json := Json.ofOption (fun d => .str (d.format true)) d

/-- The payload members of an effect, after its `settingMode`. -/
def Effect.members : Effect → List (String × Json)
  | .attackBonus b | .defenseBonus b | .counterBonus b | .resistBonus b | .soakBonus b
  | .sprintBonus b | .initiativeBonus b =>
    [("bonusSources", b.sources.toJson), ("bonusStats", Json.ofOption KeyList.toJson b.stats),
      ("bonusDice", Dice.optionJson b.dice), ("bonusAutoUsed", .str b.autoUsed.name),
      ("bonusExhaustsOnUse", .bool b.exhaustsOnUse)]
  | .guardBonus s | .aimBonus s =>
    [("bonusDice", Dice.optionJson s.dice), ("replacesBaseBonus", .bool s.replacesBase)]
  | .moveBonus m | .flyingBonus m =>
    [("bonusStride", Json.ofInt m.stride), ("bonusDash", Json.ofInt m.dash),
      ("bonusRun", Json.ofInt m.run), ("ignoreBadFooting", .bool m.ignoreBadFooting)]
  | .rerollBonus r =>
    [("rerollType", .str r.rerollType), ("bonusExhaustsOnUse", .bool r.exhaustsOnUse),
      ("identifierOverride", Json.ofOption .str r.identifierOverride)]
  | .rangePenaltyReduction n => [("penaltyReduction", Json.ofNat n)]
  | .encumbranceBonus f => [("encumbranceBonus", Json.ofFloat f)]
  | .currencyValueChange c => [("currencyName", .str c.currencyName), ("currencyValue", .str c.currencyValue)]
  | .statChange c =>
    [("changeFrom", c.changeFrom.toJson), ("changeTo", c.changeTo.toJson), ("nameAddition", .str c.nameAddition)]
  | .diceUpgrade u => [("upgradeSteps", Json.ofNat u.steps), ("nameAddition", .str u.nameAddition)]
  | .unrecognized n => [("mode_name", .str n)]

def Filter.members (f : Filter) : List (String × Json) :=
  [("type", f.itemType.toJson), ("name", f.name.toJson), ("tag", f.tag.toJson),
    ("descriptor", f.descriptor.toJson), ("effect", f.effect.toJson), ("stat", f.stat.toJson),
    ("equip", f.equip.toJson), ("range", f.range.toJson), ("condition", f.condition.toJson),
    ("otherItem", f.otherItem.toJson), ("worksWhen", .str f.worksWhen.name),
    ("needsSecondReadied", .bool f.needsSecondReadied), ("appliesToDodges", .bool f.appliesToDodges),
    ("appliesToParries", .bool f.appliesToParries),
    ("appliesToSpecialDefenses", .bool f.appliesToSpecialDefenses),
    ("requiresOneInRoll", .bool f.requiresOneInRoll), ("autocheckOnly", f.autocheckOnly.toJson)]

/-- The rule as JSON: `settingMode`, the payload, the filter and `replaceName` when set. -/
def Setting.toJson (s : Setting) : Json :=
  let tag := match s.effect.mode? with
    | some m => m.name
    | none => "unrecognized"
  .obj ([("settingMode", .str tag)] ++ s.effect.members ++ s.filter.members ++
    match s.replaceName with
    | some r => [("replaceName", .str r)]
    | none => [])

end DicePools
