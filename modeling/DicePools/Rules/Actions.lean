import DicePools.Rules.Transform

/-! The preset rolls and what each gathers. -/

namespace DicePools

/-- A roll an actor can make. -/
inductive Action where
  | attack
  | defense (kind : Defense)
  | counter
  | resist
  /-- Soak, with whether worn armor starts checked. -/
  | soak (autocheckArmor : Bool)
  | initiative
  | sprint
  | skill (stats : List String)
  | gifts (names : List String)
  deriving Inhabited

def explosive : String := "explosive"

/-- The start of a roll's label; weapon rolls name the item. -/
def Action.title (a : Action) (item : Option Item) : String :=
  let base := match a with
    | .attack => "Attack"
    | .defense .dodge => "Dodge"
    | .defense .parry => "Parry"
    | .defense .special => "Defense"
    | .counter => "Counter"
    | .resist => "Resist"
    | .soak _ => "Soak"
    | .initiative => "Initiative"
    | .sprint => "Sprint"
    | .skill _ => "Check"
    | .gifts _ => "Gifts"
  let namesItem := match a with
    | .attack | .defense .parry | .counter => true
    | _ => false
  match item with
  | some i => if namesItem then base ++ " with " ++ i.name else base
  | none => base

namespace RuleBook

/-- Selects a weapon roll's stats and adds its dice, after stat change and dice upgrade rules. -/
def weaponRoll (b : RuleBook) (ctx : Context) (item : Item) (roll : StatRoll) (c : Construction) :
    Logged Construction := do
  let (stats, statLabels) ← b.changeStats ctx roll.stats
  let c := stats.foldl Construction.precheck c
  let (dice, diceLabels) ← b.upgradeDice ctx roll.dice
  let c := if dice.isEmpty then c else c.insertField (.plain ("weapon-" ++ item.id.text) item.name dice)
  pure ((statLabels ++ diceLabels).foldl Construction.pushLabel c)

/-- Adds the dice of a named gift, if it is refreshed and has dice. -/
def giftField (b : RuleBook) (name : String) (c : Construction) : Logged Construction :=
  match (b.actor.itemNamed? name).bind fun i => i.gift?.map (i, ·) with
  | none => do
    Logged.warn "no such gift"
    pure c
  | some (i, g) =>
    if !g.isRefreshed then do
      Logged.debug "gift is exhausted"
      pure c
    else if g.useDice.dice.isEmpty then pure c
    else
      let c := g.useDice.stats.foldl Construction.precheck c
      pure (c.insertField ⟨"gift-" ++ i.id.text, i.name, g.useDice.dice, true, some i.id, g.exhaustWhenUsed⟩)

/-- The construction of a roll. -/
def prepareAction (b : RuleBook) (action : Action) (ctx : Context) : Logged Construction := do
  let c := Construction.empty.pushLabel (action.title ctx.item)
  let weapon := ctx.item.bind fun i => i.weapon?.map (i, ·)
  match action with
  | .attack =>
    let c ← statusBonus b .aim ctx false c
    let c ← match weapon with
      | some (i, w) => b.weaponRoll ctx i w.attack c
      | none => pure c
    aggregate b .attackBonus ctx c
  | .defense kind =>
    let ctx := { ctx with defense := some kind }
    let c := shieldField b.actor c
    let c ← statusBonus b .guard ctx false c
    let c ← match kind, weapon with
      | .dodge, _ => pure ((c.precheck "speed").precheck "dodge")
      | .parry, some (i, w) => b.weaponRoll ctx i w.defense c
      | _, _ => pure c
    aggregate b .defenseBonus ctx c
  | .counter =>
    let c ← statusBonus b .guard ctx false c
    let c ← match weapon with
      | some (i, w) => b.weaponRoll ctx i w.counter c
      | none => pure c
    aggregate b .counterBonus ctx c
  | .resist =>
    let c := if ctx.other.any (·.descriptors.contains explosive) then shieldField b.actor c else c
    aggregate b .resistBonus ctx c
  | .soak autocheckArmor =>
    let c := (armorFields b.actor autocheckArmor c).precheck "body"
    aggregate b .soakBonus ctx c
  | .initiative => aggregate b .initiativeBonus ctx ((c.precheck "speed").precheck "mind")
  | .sprint => aggregate b .sprintBonus ctx (c.precheck "speed")
  | .skill stats => pure (stats.foldl Construction.precheck c)
  | .gifts names => names.foldlM (fun c nm => b.giftField nm c) c

end RuleBook

end DicePools
