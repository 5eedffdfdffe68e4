import DicePools.Derived.Encumbrance
import DicePools.Derived.Movement

/-! Every derived statistic, encumbrance conditions brought in line before movement is computed. -/

namespace DicePools

/-- Every derived statistic of an actor. -/
structure DerivedStats where
  movement : Movement
  limits : Limits
  load : Load
  coinage : Coinage
  status : Encumbrance
  deriving Inhabited

/-- Computes every derived statistic under a store, and the store afterwards. -/
def RuleBook.derive (b : RuleBook) (cfg : Config) (store : Conditions) :
    Guarded (DerivedStats × Conditions) := do
  let coins ← b.coinage cfg store
  let load := b.load cfg coins
  let limits ← b.limits store
  let (status, store) ← if cfg.manageEncumbranceAuto then (store.manage limits load : Logged _)
    else pure (Encumbrance.classify limits load, store)
  let movement ← b.movement cfg store
  pure (⟨movement, limits, load, coins, status⟩, store)

/-- Derived statistics as written by the engine. -/
def DerivedStats.toJson (float : Float → Json) (d : DerivedStats) : Json :=
  .obj [("movement", d.movement.toJson), ("limits", d.limits.toJson), ("load", d.load.toJson float),
    ("coinage", d.coinage.toJson float), ("status", .str d.status.name)]

end DicePools
