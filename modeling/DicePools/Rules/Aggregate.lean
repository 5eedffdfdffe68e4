import DicePools.Rules.Chain
import DicePools.Pool.Construction

/-! Folding the pool bonuses of a mode into a construction, and the guard and aim bonuses. -/

namespace DicePools

namespace RuleBook

/-- Every applicable base rule of a mode, in item order, with the rule whose effects it uses. -/
def usedRules (b : RuleBook) (m : Mode) (ctx : Context) : Logged (List (Rule × Rule)) :=
  ((b.baseRules m).filter (b.applies · ctx)).mapM fun r => do
    let e ← b.resolveChain r ctx
    pure (r, e.used)

end RuleBook

/-- A bonus tied to a status condition. -/
inductive StatusKind where
  | guard
  | aim
  deriving DecidableEq, Repr, Inhabited

namespace StatusKind

/-- The mode of the rules feeding the bonus. -/
def mode : StatusKind → Mode
  | guard => .guardBonus
  | aim => .aimBonus

/-- The condition that switches the bonus on. -/
def condition : StatusKind → String
  | guard => ConditionName.guarding
  | aim => ConditionName.aiming

/-- The id of the bonus field. -/
def fieldId : StatusKind → String
  | guard => "guard"
  | aim => "aim"

/-- The label of the bonus field. -/
def label : StatusKind → String
  | guard => "Guarding"
  | aim => "Aiming"

end StatusKind

/-- A field for each worn piece of armor with dice, at most three. -/
def armorFields (a : Actor) (checked : Bool) (c : Construction) : Construction :=
  a.wornArmor.foldl (fun c (i, r) =>
    if r.dice.isEmpty then c
    else c.insertField ⟨"armor-" ++ i.id.text, i.name, r.dice, checked, none, false⟩) c

/-- A field for the held shield's dice, if it has any. -/
def shieldField (a : Actor) (c : Construction) : Construction :=
  match a.heldShield? with
  | some (i, s) => if s.dice.isEmpty then c else c.insertField (.plain "shield" i.name s.dice)
  | none => c

/-- Adds the guard or aim field, when its condition is active or `force` is set. -/
def statusBonus (b : RuleBook) (kind : StatusKind) (ctx : Context) (force : Bool)
    (c : Construction) : Logged Construction := do
  if !force && !ctx.conditions.hasAny [kind.condition] then return c
  let (best, label, additive) ← (b.baseRules kind.mode).foldlM
    (fun (best, label, additive) r => do
      if !b.applies r ctx then return (best, label, additive)
      let used := (← b.resolveChain r ctx).used
      match used.setting.effect.statusDice? with
      | none => pure (best, label, additive)
      | some st =>
        let dice := st.dice.getD used.gift.useDice.dice
        if dice.isEmpty then pure (best, label, additive)
        else if st.replacesBase then
          if Dice.compare dice best == .gt then pure (dice, used.giftName ++ " " ++ kind.label, additive)
          else pure (best, label, additive)
        else pure (best, label, additive + dice))
    (Dice.single 1 .d8, kind.label, Dice.empty)
  pure (c.insertField (.plain kind.fieldId label (best + additive)))

/-- Adds the part of a bonus source. -/
def addSource (b : RuleBook) (ctx : Context) (c : Construction) : BonusSource → Logged Construction
  | .armor => pure (armorFields b.actor true c)
  | .shield => pure (shieldField b.actor c)
  | .guard => statusBonus b .guard ctx false c
  | .guardAlways => statusBonus b .guard ctx true c
  | .aim => statusBonus b .aim ctx false c
  | .aimAlways => statusBonus b .aim ctx true c

/-- What one used rule of a pool mode adds: sources, stats, then its dice field. -/
def addBonus (b : RuleBook) (ctx : Context) (c : Construction) (base used : Rule) :
    Logged Construction := do
  match used.setting.effect.diceBonus? with
  | none => pure c
  | some bonus =>
    let c ← bonus.parsedSources.foldlM (addSource b ctx) c
    let stats := match bonus.stats with
      | some l => l.keys
      | none => used.gift.useDice.stats
    let c := stats.foldl Construction.precheck c
    let dice := bonus.dice.getD used.gift.useDice.dice
    if dice.isEmpty then pure c
    else
      let checked := match bonus.autoUsed with
        | .always => true
        | .never => false
        | .applied => b.applies base ctx.autochecking
      pure (c.insertField ⟨used.item.id.text ++ "-" ++ toString used.index, used.giftName, dice,
        checked, some used.item.id, bonus.exhaustsOnUse⟩)

/-- Applies every applicable rule of a mode to a construction. Guard and aim delegate to
`statusBonus`; other modes that add no pool fields leave it as it is. -/
def aggregate (b : RuleBook) (m : Mode) (ctx : Context) (c : Construction) : Logged Construction :=
  match m with
  | .guardBonus => statusBonus b .guard ctx false c
  | .aimBonus => statusBonus b .aim ctx false c
  | m =>
    if !m.isPoolKind then do
      Logged.debug "not a pool kind, nothing to aggregate"
      pure c
    else do
      let used ← b.usedRules m ctx
      used.foldlM (fun c (base, u) => addBonus b ctx c base u) c

end DicePools
