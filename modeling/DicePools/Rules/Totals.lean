import DicePools.Rules.Aggregate

/-! Totals of the modes without pool fields. -/

namespace DicePools

/-- Summed movement bonuses. -/
structure MoveTotals where
  stride : Int
  dash : Int
  run : Int
  ignoreBadFooting : Bool
  deriving Inhabited

def MoveTotals.zero : MoveTotals := ⟨0, 0, 0, false⟩

/-- Adds one movement bonus, stopping when a sum leaves 32 bits. -/
def MoveTotals.add (t : MoveTotals) (m : MoveBonus) : Except Fault MoveTotals := do
  pure ⟨← addI32 t.stride m.stride, ← addI32 t.dash m.dash, ← addI32 t.run m.run,
    t.ignoreBadFooting || m.ignoreBadFooting⟩

/-- A reroll a gift grants. -/
structure RerollGrant where
  gift : ItemId
  exhaustsOnUse : Bool
  identifierOverride : Option String
  deriving Inhabited

/-- The accumulated effect of the rules of one mode. -/
structure Totals where
  movement : MoveTotals
  encumbrance : Float
  rangeReduction : Nat
  /-- Currency values by currency key, sorted by key. -/
  currencyValues : List (String × String)
  /-- Reroll grants by reroll type, sorted by type. -/
  rerolls : List (String × RerollGrant)
  deriving Inhabited

namespace Totals

def zero : Totals := ⟨.zero, 0, 0, [], []⟩

/-- Adds the effect of one used rule. -/
def add (t : Totals) (used : Rule) : Guarded Totals :=
  match used.setting.effect with
  | .moveBonus m | .flyingBonus m => do
    pure { t with movement := ← liftExcept (t.movement.add m) }
  | .encumbranceBonus e => pure { t with encumbrance := t.encumbrance + e }
  | .rangePenaltyReduction r => pure { t with rangeReduction := max t.rangeReduction r }
  | .currencyValueChange c =>
    pure { t with currencyValues := Json.insertByKey (Name.key c.currencyName) c.currencyValue t.currencyValues }
  | .rerollBonus r =>
    pure { t with rerolls := Json.insertByKey r.rerollType ⟨used.item.id, r.exhaustsOnUse, r.identifierOverride⟩ t.rerolls }
  | _ => do
    (Logged.debug "kind has no totals" : Logged Unit)
    pure t
where
  /-- A fault of a sum, in a guarded computation. -/
  liftExcept {α : Type} : Except Fault α → Guarded α
    | .ok a => pure a
    | .error f => throw f

end Totals

def MoveTotals.toJson (t : MoveTotals) : Json :=
  .obj [("stride", Json.ofInt t.stride), ("dash", Json.ofInt t.dash), ("run", Json.ofInt t.run),
    ("ignore_bad_footing", .bool t.ignoreBadFooting)]

def RerollGrant.toJson (g : RerollGrant) : Json :=
  .obj [("gift", .str g.gift.text), ("exhausts_on_use", .bool g.exhaustsOnUse),
    ("identifier_override", Json.ofOption .str g.identifierOverride)]

def Totals.toJson (t : Totals) : Json :=
  .obj [("movement", t.movement.toJson), ("encumbrance", Json.ofFloat t.encumbrance),
    ("range_reduction", Json.ofNat t.rangeReduction),
    ("currency_values", .obj (t.currencyValues.map fun (k, v) => (k, .str v))),
    ("rerolls", .obj (t.rerolls.map fun (k, g) => (k, g.toJson)))]

/-- Folds every applicable rule of a mode into totals. -/
def RuleBook.totals (b : RuleBook) (m : Mode) (ctx : Context) : Guarded Totals := do
  let used ← (b.usedRules m ctx : Logged _)
  used.foldlM (fun t (_, u) => t.add u) Totals.zero

def basicReroll : String := "ONE"

/-- The reroll types available: the granted ones, and the basic reroll (with no grant) when the
roll has a one and `addBasic` is set. -/
def RuleBook.rerollTypes (b : RuleBook) (ctx : Context) (addBasic : Bool) :
    Guarded (List (String × Option RerollGrant)) := do
  let t ← b.totals .rerollBonus ctx
  let types := t.rerolls.map fun (k, g) => (k, some g)
  pure (if ctx.oneInRoll && addBasic then Json.insertByKey basicReroll none types else types)

/-- The range penalty reduction of an attack, and whether its field starts checked: not for a
magic attack while a wand is readied. -/
def RuleBook.rangeReduction (b : RuleBook) (ctx : Context) : Guarded (Nat × Bool) := do
  let t ← b.totals .rangePenaltyReduction ctx
  let magic := ctx.item.any fun i => i.descriptors.contains "magic"
  let wandReady := b.actor.items.any fun i => i.isReadied && i.descriptors.contains "wand"
  pure (t.rangeReduction, !(magic && wandReady))

end DicePools
