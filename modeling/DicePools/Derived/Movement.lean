import DicePools.Pool.Request
import DicePools.Rules.Totals

/-! Stride, dash and run from the speed and body faces, with bonuses, blocking conditions and
checked 32-bit sums. -/

namespace DicePools

/-- Movement distances in paces. -/
structure Movement where
  stride : Int
  dash : Int
  run : Int
  ignoreBadFooting : Bool
  deriving Inhabited

def Movement.none : Movement := ⟨0, 0, 0, false⟩

def strideBlockers : List String :=
  [ConditionName.slowed, ConditionName.immobilized, ConditionName.halfBuried, ConditionName.cannotMove]

/-- Conditions that stop a dash. -/
def dashBlockers : List String :=
  [ConditionName.burdened, ConditionName.blinded, ConditionName.slowed, ConditionName.immobilized,
    ConditionName.halfBuried, ConditionName.cannotMove]

def runBlockers : List String :=
  [ConditionName.overBurdened, ConditionName.immobilized, ConditionName.halfBuried, ConditionName.cannotMove]

/-- A distance: zero when a condition blocks it, else its checked sum. -/
def blockedOr (blocked : Bool) (sum : Except Fault Int) : Except Fault Int :=
  if blocked then .ok 0 else sum

namespace RuleBook

/-- The largest face of the sprint pool, or zero when no pool can be built. -/
def sprintMax (b : RuleBook) (cfg : Config) (ctx : Context) (burdened : Bool) : Logged Int := do
  let c ← b.prepareAction .sprint ctx
  match ← b.actor.buildPool c.prechecked burdened cfg with
  | .error _ => pure 0
  | .ok pool =>
    let extra ← c.buildExtra "" cfg
    pure (max ((c.finish pool extra ⟨none, false⟩).total.maxValue) 0)

/-- The largest face of a trait's dice; -1 without the trait or its dice. -/
def largestFace (b : RuleBook) (key : String) : Int :=
  ((b.actor.findTrait? key).map (·.dice.maxValue)).getD (-1)

/-- The move bonuses in effect: those of the move bonus rules, and while flying those of the
flying bonus rules added to them. -/
def bonusMovement (b : RuleBook) (ctx : Context) (flying : Bool) : Guarded MoveTotals := do
  let bonus := (← b.totals .moveBonus ctx).movement
  if flying then
    let fly := (← b.totals .flyingBonus ctx).movement
    pure ⟨← addI32 bonus.stride fly.stride, ← addI32 bonus.dash fly.dash, ← addI32 bonus.run fly.run,
      bonus.ignoreBadFooting || fly.ignoreBadFooting⟩
  else pure bonus

/-- The pace of a run: the largest face of the sprint pool while flying, else speed. -/
def runPace (b : RuleBook) (cfg : Config) (ctx : Context) (burdened flying : Bool) (speed : Int) :
    Logged Int :=
  if flying then b.sprintMax cfg ctx burdened else pure speed

/-- The actor's movement under a condition store. -/
def movement (b : RuleBook) (cfg : Config) (conditions : Conditions) : Guarded Movement := do
  let speed := b.largestFace "speed"
  let body := b.largestFace "body"
  if speed ≤ 0 || body ≤ 0 then
    (Logged.error "speed or body dice missing" : Logged Unit)
    return Movement.none
  let burdened := conditions.hasAny [ConditionName.burdened]
  let flying := conditions.hasAny [ConditionName.flying]
  let speed := if burdened then min speed 8 else speed
  let ctx := Context.ofConditions conditions
  let bonus ← b.bonusMovement ctx flying
  let stride ← blockedOr (conditions.hasAny strideBlockers) (addI32 1 bonus.stride)
  let dash ← blockedOr (conditions.hasAny dashBlockers)
    (addI32 ((speed + 1) / 2 + (if body > speed then 1 else 0)) bonus.dash)
  let run ← if conditions.hasAny runBlockers then pure 0
    else do
      let pace ← (b.runPace cfg ctx burdened flying speed : Logged Int)
      addI32 (← addI32 (← addI32 body pace) dash) bonus.run
  pure ⟨stride, dash, run, bonus.ignoreBadFooting⟩

end RuleBook

def Movement.toJson (m : Movement) : Json :=
  .obj [("stride", Json.ofInt m.stride), ("dash", Json.ofInt m.dash), ("run", Json.ofInt m.run),
    ("ignore_bad_footing", .bool m.ignoreBadFooting)]

end DicePools
