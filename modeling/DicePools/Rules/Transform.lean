import DicePools.Rules.Aggregate

/-! Rewriting a weapon's roll by stat change and dice upgrade rules. -/

namespace DicePools

namespace RuleBook

/-- The stats after applicable stat change rules, and the label additions they carry. -/
def changeStats (b : RuleBook) (ctx : Context) (stats : List String) :
    Logged (List String × List String) := do
  let used ← b.usedRules .statChange ctx
  pure (used.foldl (fun (stats, additions) (_, u) =>
    match u.setting.effect with
    | .statChange c =>
      let stats := (c.changeFrom.keys.zip c.changeTo.keys).foldl
        (fun stats (src, dst) => stats.map fun s => if s == src then dst else s) stats
      (stats, if c.nameAddition.isEmpty then additions else additions ++ [c.nameAddition])
    | _ => (stats, additions)) (stats.map Name.key, []))

/-- The dice after applicable upgrade rules, and the label additions they carry. -/
def upgradeDice (b : RuleBook) (ctx : Context) (dice : Dice) : Logged (Dice × List String) := do
  let used ← b.usedRules .diceUpgrade ctx
  pure (used.foldl (fun (dice, additions) (_, u) =>
    match u.setting.effect with
    | .diceUpgrade g =>
      (dice.upgrade g.steps, if g.nameAddition.isEmpty then additions else additions ++ [g.nameAddition])
    | _ => (dice, additions)) (dice, []))

end RuleBook

end DicePools
