import DicePools.Pool.Build
import DicePools.Rules.Actions

/-! Serving a roll request, from the conditions it adds to the finished pool handed to the
roller. -/

namespace DicePools

def Text.commaItems (s : String) : List String :=
  ((Text.splitAll s ',').map Text.trim).filter (!·.isEmpty)

/-- The roll a player names: `attack`, `dodge`, `parry`, `defense` (a special defense),
`counter`, `resist`, `soak`, `initiative`, `sprint`, `skill` or `gifts`. -/
def Action.ofName? (name : String) (stats gifts : List String) (autocheckArmor : Bool) :
    Option Action :=
  match name with
  | "attack" => some .attack
  | "dodge" => some (.defense .dodge)
  | "parry" => some (.defense .parry)
  | "defense" => some (.defense .special)
  | "counter" => some .counter
  | "resist" => some .resist
  | "soak" => some (.soak autocheckArmor)
  | "initiative" => some .initiative
  | "sprint" => some .sprint
  | "skill" => some (.skill stats)
  | "gifts" => some (.gifts gifts)
  | _ => none

/-- What a player asks to roll. -/
structure PoolRequest where
  action : Action
  item : Option String := none
  extra : String := ""
  limit : Option String := none
  against : Option String := none
  conditions : List String := []
  weak : Bool := false
  burdened : Bool := false
  /-- Fields to check or uncheck after the roll is prepared. -/
  toggles : List (String × Bool) := []
  deriving Inhabited

/-- Why a request could not be served. -/
inductive PoolError where
  | itemNotFound (name : String)
  | roll (e : RollError)
  deriving Inhabited

def PoolError.message : PoolError → String
  | .itemNotFound name => "item not found: \"" ++ name ++ "\""
  | .roll e => e.message

/-- Every stage of a served request. -/
structure PoolOutcome where
  construction : Construction
  toggled : List Bool
  stats : PoolPart
  extra : PoolPart
  limit : Option Die
  finished : FinishedPool
  deriving Inhabited

/-- The condition store a request rolls under. -/
def PoolRequest.store (r : PoolRequest) (base : Conditions) : Conditions :=
  let c := base.add r.conditions
  if r.burdened then c.add [ConditionName.burdened] else c

/-- Serves a request against the actor's rule book and a condition store. -/
def RuleBook.serve (b : RuleBook) (cfg : Config) (base : Conditions) (r : PoolRequest) :
    Logged (Except PoolError PoolOutcome) := do
  let a := b.actor
  let conditions := r.store base
  let burdened := conditions.hasAny [ConditionName.burdened]
  match r.item.map fun nm => (nm, a.itemNamed? nm) with
  | some (nm, none) => pure (.error (.itemNotFound nm))
  | found =>
    let other := r.against.map fun d => OpposingItem.mk "" (KeyList.parse d) KeyList.empty
    let ctx := Context.ofConditions conditions
    let ctx := { ctx with item := found.bind (·.2), other := other }
    let c ← b.prepareAction r.action ctx
    let (c, toggled) := r.toggles.foldl (fun (c, out) (id, on) =>
      let (c, hit) := c.setChecked id on
      (c, out ++ [hit])) (c, [])
    match ← a.buildPool c.prechecked burdened cfg with
    | .error e => pure (.error (.roll e))
    | .ok stats =>
      let extra ← c.buildExtra r.extra cfg
      let limit ← match r.limit with
        | some t => a.resolveLimit t burdened cfg
        | none => pure none
      pure (.ok ⟨c, toggled, stats, extra, limit, c.finish stats extra ⟨limit, r.weak⟩⟩)

end DicePools
