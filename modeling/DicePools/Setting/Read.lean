import DicePools.Setting.Basic
import DicePools.Json.Decode
import DicePools.Text.Numeral
import DicePools.Decimal.Read

/-! Reading gift rules, which never fails: scalars are read leniently, and an unreadable rule
keeps why. -/

namespace DicePools
namespace Setting

open Json

def degradedMessage : String := "unreadable setting value, using the default"

/-- The default value, with a warning. -/
def degrade {α : Type} (default : α) : Decode α := do
  (Logged.warn degradedMessage : Logged Unit)
  pure default

/-- A member that falls back to `default` when `d` cannot read it. -/
def lenient {α : Type} (d : Decoder α) (default : α) (j : Json) : Decode α :=
  tryCatch (d j []) fun _ => degrade default

/-- Like `lenient`, also reading the value from a text, trimmed, with `parse`. -/
def lenientScalar {α : Type} (parse : String → Option α) (d : Decoder α) (default : α)
    (j : Json) : Decode α :=
  match j with
  | .str s =>
    match parse (Text.trim s) with
    | some v => pure v
    | none => lenient d default j
  | _ => lenient d default j

def flagText? (s : String) : Option Bool :=
  if s = "true" then some true else if s = "false" then some false else none

/-- A number kept as text: a text as written, a number printed shortest; anything else falls
back to the empty text. -/
def numberText : Json → Decode String
  | .str s => pure s
  | .num n => pure n.text
  | _ => degrade ""

/-- A value of a closed set of names: the name as a string, or an object whose single member
is the name with `null`. -/
def named {α : Type} (names : List (String × α)) : Decoder α
  | .str s, here =>
    match names.lookup s with
    | some v => pure v
    | none => failAt ("unknown variant `" ++ s ++ "`, expected " ++ oneOf (names.map (·.1))) here
  | .obj [(s, .null)], here =>
    match names.lookup s with
    | some v => pure v
    | none => failAt ("unknown variant `" ++ s ++ "`, expected " ++ oneOf (names.map (·.1))) here
  | .obj [(_, v)], here => invalidType v "unit variant" here
  | .obj _, here => invalidValue (.obj []) "map with a single key" here
  | j, here => invalidType j "string or map" here

def worksWhen : Decoder WorksWhen :=
  named [("anyState", .anyState), ("refreshed", .refreshed), ("exhausted", .exhausted)]

def autoUse : Decoder AutoUse :=
  named [("applied", .applied), ("always", .always), ("never", .never)]

/-- Dice written as text; unreadable terms are skipped with a warning. -/
def dice : Decoder Dice
  | .str s, _ => (Dice.parse s : Logged Dice)
  | j, here => invalidType j "a string" here

def flag (j : Json) : Decode Bool := lenientScalar flagText? boolean false j

def int32 (j : Json) : Decode Int := lenientScalar Text.i32? i32 0 j

def nat32 (j : Json) : Decode Nat := lenientScalar Text.u32? u32 0 j

def real (j : Json) : Decode Float := lenientScalar Decimal.parseFloat? float 0 j

def strict {α : Type} (d : Decoder α) (j : Json) : Decode α := d j []

/-! ## Records as folds over their members -/

/-- How a member named `name` updates a record of type `σ`. -/
structure Member (σ : Type) where
  name : String
  update : Json → σ → Decode σ

/-- Reads the members of an object in order into `init`; unknown names are skipped. -/
def readMembers {σ : Type} (fields : List (Member σ)) (init : σ) (ms : List (String × Json)) :
    Decode σ :=
  ms.foldlM (fun acc (k, v) =>
    match fields.find? (·.name == k) with
    | some f => f.update v acc
    | none => pure acc) init

/-- Reads the items of an array into `init`, item `i` standing for declared member `i`; more
items than members are refused after the members are read. -/
def readItems {σ : Type} (fields : List (Member σ)) (init : σ) (xs : List Json) : Decode σ := do
  let s ← (fields.zip xs).foldlM (fun acc (f, x) => f.update x acc) init
  if fields.length < xs.length then
    failAt ("invalid length " ++ toString xs.length ++ ", expected fewer elements in array") []
  else pure s

theorem readMembers_nil {σ : Type} (fields : List (Member σ)) (init : σ) :
    readMembers fields init [] = pure init := rfl

/-! ## Payloads -/

def diceBonusMembers : List (Member DiceBonus) :=
  [⟨"bonusSources", fun j b => do pure { b with sources := ← strict KeyList.decode j }⟩,
   ⟨"bonusStats", fun j b => do pure { b with stats := ← strict (optional KeyList.decode) j }⟩,
   ⟨"bonusDice", fun j b => do pure { b with dice := ← strict (optional dice) j }⟩,
   ⟨"bonusAutoUsed", fun j b => do pure { b with autoUsed := ← lenient autoUse .applied j }⟩,
   ⟨"bonusExhaustsOnUse", fun j b => do pure { b with exhaustsOnUse := ← flag j }⟩]

def statusDiceMembers : List (Member StatusDice) :=
  [⟨"bonusDice", fun j s => do pure { s with dice := ← strict (optional dice) j }⟩,
   ⟨"replacesBaseBonus", fun j s => do pure { s with replacesBase := ← strict boolean j }⟩]

def moveBonusMembers : List (Member MoveBonus) :=
  [⟨"bonusStride", fun j m => do pure { m with stride := ← int32 j }⟩,
   ⟨"bonusDash", fun j m => do pure { m with dash := ← int32 j }⟩,
   ⟨"bonusRun", fun j m => do pure { m with run := ← int32 j }⟩,
   ⟨"ignoreBadFooting", fun j m => do pure { m with ignoreBadFooting := ← flag j }⟩]

def rerollMembers : List (Member RerollBonus) :=
  [⟨"rerollType", fun j r => do pure { r with rerollType := ← strict string j }⟩,
   ⟨"bonusExhaustsOnUse", fun j r => do pure { r with exhaustsOnUse := ← flag j }⟩,
   ⟨"identifierOverride", fun j r => do
      pure { r with identifierOverride := ← strict (optional string) j }⟩]

def currencyMembers : List (Member CurrencyChange) :=
  [⟨"currencyName", fun j c => do pure { c with currencyName := ← strict string j }⟩,
   ⟨"currencyValue", fun j c => do pure { c with currencyValue := ← numberText j }⟩]

def statChangeMembers : List (Member StatChange) :=
  [⟨"changeFrom", fun j c => do pure { c with changeFrom := ← strict KeyList.decode j }⟩,
   ⟨"changeTo", fun j c => do pure { c with changeTo := ← strict KeyList.decode j }⟩,
   ⟨"nameAddition", fun j c => do pure { c with nameAddition := ← strict string j }⟩]

def upgradeMembers : List (Member DiceUpgrade) :=
  [⟨"upgradeSteps", fun j u => do pure { u with steps := ← nat32 j }⟩,
   ⟨"nameAddition", fun j u => do pure { u with nameAddition := ← strict string j }⟩]

/-- The payload of a mode, read from the rule's other members. -/
def payload (mode : Mode) (ms : List (String × Json)) : Decode Effect :=
  let bonus (wrap : DiceBonus → Effect) := wrap <$> readMembers diceBonusMembers .none ms
  let status (wrap : StatusDice → Effect) := wrap <$> readMembers statusDiceMembers ⟨none, true⟩ ms
  let move (wrap : MoveBonus → Effect) := wrap <$> readMembers moveBonusMembers ⟨0, 0, 0, false⟩ ms
  match mode with
  | .attackBonus => bonus .attackBonus
  | .defenseBonus => bonus .defenseBonus
  | .counterBonus => bonus .counterBonus
  | .resistBonus => bonus .resistBonus
  | .soakBonus => bonus .soakBonus
  | .guardBonus => status .guardBonus
  | .aimBonus => status .aimBonus
  | .sprintBonus => bonus .sprintBonus
  | .initiativeBonus => bonus .initiativeBonus
  | .moveBonus => move .moveBonus
  | .flyingBonus => move .flyingBonus
  | .rerollBonus => .rerollBonus <$> readMembers rerollMembers ⟨"", false, none⟩ ms
  | .rangePenaltyReduction =>
    .rangePenaltyReduction <$>
      readMembers [⟨"penaltyReduction", fun j _ => nat32 j⟩] 0 ms
  | .encumbranceBonus =>
    .encumbranceBonus <$> readMembers [⟨"encumbranceBonus", fun j _ => real j⟩] 0 ms
  | .currencyValueChange => .currencyValueChange <$> readMembers currencyMembers ⟨"", ""⟩ ms
  | .statChange => .statChange <$> readMembers statChangeMembers ⟨.empty, .empty, ""⟩ ms
  | .diceUpgrade => .diceUpgrade <$> readMembers upgradeMembers ⟨0, ""⟩ ms

/-- The mode named by a `settingMode` value: a mode name, or a position in `Mode.all`. -/
def modeTag : Decoder Mode
  | .str s, here =>
    match Mode.ofName? s with
    | some m => pure m
    | none => failAt ("unknown variant `" ++ s ++ "`, expected " ++ oneOf (Mode.all.map (·.name))) here
  | .num (.nat n), here =>
    match Mode.all[n]? with
    | some m => pure m
    | none => invalidValue (.num (.nat n)) "variant index 0 <= i < 17" here
  | j, here => invalidType j "variant identifier" here

/-- The effect of a rule: the tag, then the payload from the other members. -/
def readEffect (ms : List (String × Json)) : Decode Effect :=
  match ms.find? (·.1 == "settingMode") with
  | none => failAt "missing field `settingMode`" []
  | some (_, tag) => do
    let mode ← modeTag tag []
    payload mode (ms.filter (·.1 != "settingMode"))

/-! ## The filter -/

/-- Members of a filter, in declaration order. -/
def filterMembers : List (Member Filter) :=
  [⟨"type", fun j f => do pure { f with itemType := ← strict KeyList.decode j }⟩,
   ⟨"name", fun j f => do pure { f with name := ← strict KeyList.decode j }⟩,
   ⟨"tag", fun j f => do pure { f with tag := ← strict KeyList.decode j }⟩,
   ⟨"descriptor", fun j f => do pure { f with descriptor := ← strict KeyList.decode j }⟩,
   ⟨"effect", fun j f => do pure { f with effect := ← strict KeyList.decode j }⟩,
   ⟨"stat", fun j f => do pure { f with stat := ← strict KeyList.decode j }⟩,
   ⟨"equip", fun j f => do pure { f with equip := ← strict KeyList.decode j }⟩,
   ⟨"range", fun j f => do pure { f with range := ← strict KeyList.decode j }⟩,
   ⟨"condition", fun j f => do pure { f with condition := ← strict KeyList.decode j }⟩,
   ⟨"otherItem", fun j f => do pure { f with otherItem := ← strict KeyList.decode j }⟩,
   ⟨"worksWhen", fun j f => do pure { f with worksWhen := ← lenient worksWhen .anyState j }⟩,
   ⟨"needsSecondReadied", fun j f => do pure { f with needsSecondReadied := ← flag j }⟩,
   ⟨"appliesToDodges", fun j f => do pure { f with appliesToDodges := ← strict boolean j }⟩,
   ⟨"appliesToParries", fun j f => do pure { f with appliesToParries := ← strict boolean j }⟩,
   ⟨"appliesToSpecialDefenses", fun j f => do
      pure { f with appliesToSpecialDefenses := ← strict boolean j }⟩,
   ⟨"requiresOneInRoll", fun j f => do pure { f with requiresOneInRoll := ← flag j }⟩,
   ⟨"autocheckOnly", fun j f => do pure { f with autocheckOnly := ← strict KeyList.decode j }⟩]

/-- A filter on its own: an object's members, or an array of the members in order. -/
def readFilter : Json → Decode Filter
  | .obj ms => readMembers filterMembers .any ms
  | .arr xs => readItems filterMembers .any xs
  | j => invalidType j "struct SettingFilter" []

/-! ## Whole rules -/

/-- A rule read strictly but for its lenient scalars: mode and payload, filter, replacement. -/
def wire : Json → Decode Setting
  | .obj ms => do
    let replaceName ← match ms.find? (·.1 == "replaceName") with
      | some (_, v) => strict (optional string) v
      | none => pure none
    let rest := ms.filter (·.1 != "replaceName")
    let e ← readEffect rest
    let f ← readMembers filterMembers .any rest
    pure ⟨e, f, replaceName, none⟩
  | j => invalidType j "struct WireSetting" []

/-- What is kept of a rule that cannot be read: the mode if `settingMode` is a known name, the
filter if it can be read on its own, the replacement name if it is a text, and the reason. -/
def salvage (j : Json) (reason : String) : Logged Setting := do
  let written := ((j.get? "settingMode").bind Json.getStr?).getD ""
  let e := match Mode.ofName? written with
    | some m => Effect.prototype m
    | none => .unrecognized written
  let f := match ← (readFilter j).run with
    | .ok f => f
    | .error _ => Filter.any
  pure ⟨e, f, (j.get? "replaceName").bind Json.getStr?, some reason⟩

/-- Reads a rule. Reading never fails: an unreadable rule is kept, marked with its reason. -/
def ofJson (j : Json) : Logged Setting := do
  let j := j.canonical
  match ← (wire j).run with
  | .ok s => pure s
  | .error e => salvage j e.message

end Setting
end DicePools
