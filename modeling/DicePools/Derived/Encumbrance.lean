import DicePools.Derived.Coinage

/-! The three carrying limits drawn from the body dice, and the encumbrance status of a load. -/

namespace DicePools

/-- Carried weight thresholds in stones. -/
structure Limits where
  none : Int
  burdened : Int
  overBurdened : Int
  deriving Inhabited

/-- The limits of `count` dice of size `die` with an encumbrance bonus. -/
def Limits.ofBody (count : Nat) (die : Die) (bonus : Float) : Limits :=
  let size := Float.ofNat die.sides
  let count := Float.ofNat count
  let limit (x : Float) := Decimal.toI64 (Decimal.roundHalfUp x)
  ⟨limit ((size / 2.0 - 1.0) * count + bonus), limit ((size - 1.0) * count + 2.0 * bonus),
    limit ((size / 2.0 * 3.0 - 1.0) * count + 3.0 * bonus)⟩

/-- The limits of the actor: none without body dice (with an error event). -/
def RuleBook.limits (b : RuleBook) (conditions : Conditions) : Guarded Limits :=
  match (b.actor.findTrait? "body").bind (·.dice.leading?) with
  | none => do
    (Logged.error "body dice missing" : Logged Unit)
    pure ⟨0, 0, 0⟩
  | some (count, die) => do
    let t ← b.totals .encumbranceBonus (Context.ofConditions conditions)
    pure (Limits.ofBody count.toNat die t.encumbrance)

/-- What the actor carries: the weight in stones and the worn armor pieces. -/
structure Load where
  weight : Float
  wornArmor : Nat
  deriving Inhabited

/-- The items' weight, plus the coins' weight when coins weigh anything. -/
def RuleBook.load (b : RuleBook) (cfg : Config) (coins : Coinage) : Load :=
  let items := b.actor.items.foldl (fun w i => w + i.totalWeight) (-0.0)
  ⟨items + (if cfg.coinsHaveWeight then coins.weight else 0.0), b.actor.wornArmorCount⟩

/-- How encumbered an actor is. -/
inductive Encumbrance where
  | unencumbered
  | burdened
  | overBurdened
  | cannotMove
  deriving DecidableEq, Repr, Inhabited

namespace Encumbrance

/-- The name in data. -/
def name : Encumbrance → String
  | unencumbered => "Unencumbered"
  | burdened => "Burdened"
  | overBurdened => "OverBurdened"
  | cannotMove => "CannotMove"

/-- The name shown to players. -/
def text : Encumbrance → String
  | unencumbered => "unencumbered"
  | burdened => "burdened"
  | overBurdened => "over-burdened"
  | cannotMove => "cannot-move"

/-- The status of a load against the limits. -/
def classify (l : Limits) (load : Load) : Encumbrance :=
  let w := load.weight
  if w > Float.ofInt l.overBurdened || load.wornArmor > 3 then cannotMove
  else if w > Float.ofInt l.burdened || load.wornArmor = 3 then overBurdened
  else if w > Float.ofInt l.none || load.wornArmor = 2 then burdened
  else unencumbered

end Encumbrance

/-- The store with the encumbrance conditions of a status: the conditions the status implies are
added, the others removed. -/
def Conditions.setEncumbrance (c : Conditions) : Encumbrance → Conditions
  | .cannotMove => c.add [ConditionName.burdened, ConditionName.overBurdened, ConditionName.cannotMove]
  | .overBurdened => (c.remove [ConditionName.cannotMove]).add [ConditionName.burdened, ConditionName.overBurdened]
  | .burdened => (c.remove [ConditionName.overBurdened, ConditionName.cannotMove]).add [ConditionName.burdened]
  | .unencumbered => c.remove [ConditionName.burdened, ConditionName.overBurdened, ConditionName.cannotMove]

/-- Brings the encumbrance conditions in line with the load; the status it found. -/
def Conditions.manage (c : Conditions) (l : Limits) (load : Load) : Logged (Encumbrance × Conditions) := do
  let status := Encumbrance.classify l load
  Logged.debug "encumbrance updated"
  pure (status, c.setEncumbrance status)

def Limits.toJson (l : Limits) : Json :=
  .obj [("none", Json.ofInt l.none), ("burdened", Json.ofInt l.burdened),
    ("over_burdened", Json.ofInt l.overBurdened)]

def Load.toJson (float : Float → Json) (l : Load) : Json :=
  .obj [("weight", float l.weight), ("worn_armor", Json.ofNat l.wornArmor)]

end DicePools
