import DicePools.Pool.Request
import DicePools.Pool.Roll
import DicePools.Derived.Stats

/-! A table session: one actor and one condition store, the rule book built afresh at every
step. -/

namespace DicePools

/-- An actor and its conditions during play. -/
structure Session where
  actor : Actor
  conditions : Conditions
  config : Config
  deriving Inhabited

/-- How a step names an item: by name or by id. -/
inductive ItemRef where
  | named (name : String)
  | id (id : ItemId)
  deriving Inhabited

/-- Why an exhaust flag could not be set. -/
inductive ExhaustError where
  /-- No item has this name. -/
  | noItemNamed (name : String)
  | item (e : ItemError)
  deriving Inhabited

namespace Session

def start (a : Actor) (cfg : Config) : Session := ⟨a, a.conditions, cfg⟩

def book (s : Session) : Logged RuleBook := RuleBook.build s.actor

/-- Sets or clears a gift's exhaust flag. -/
def exhaust (s : Session) (ref : ItemRef) (value : Bool) : Except ExhaustError Session :=
  match ref with
  | .named n => match s.actor.itemNamed? n with
    | none => .error (.noItemNamed n)
    | some i => set i.id
  | .id i => set i
where
  set (i : ItemId) : Except ExhaustError Session :=
    match s.actor.setGiftExhausted i value with
    | .ok a => .ok { s with actor := a }
    | .error e => .error (.item e)

def pool (s : Session) (r : PoolRequest) : Logged (Except PoolError PoolOutcome) := do
  (← s.book).serve s.config s.conditions r

/-- The exhaust record of an extra gift: the named item, or the id with its item's name (no
name when no item has that id). -/
def extraRecord (s : Session) : ItemRef → Except ExhaustError ExhaustRecord
  | .named n => match s.actor.itemNamed? n with
    | some i => .ok ⟨i.id, i.name⟩
    | none => .error (.noItemNamed n)
  | .id i => .ok ⟨i, ((s.actor.item? i).map (·.name)).getD ""⟩

/-- Builds a request's pool, adds extra gifts to exhaust, and rolls it. -/
def roll (s : Session) (r : PoolRequest) (extra : List ExhaustRecord) (roller : DiceRoller) (mode : RollMode) :
    Logged (Except PoolError (FinishedPool × RollReport × Session)) := do
  match ← s.pool r with
  | .error e => pure (.error e)
  | .ok out =>
    let p := out.finished
    let p := { p with exhaust := p.exhaust ++ extra }
    match ← s.actor.performRoll roller p mode with
    | .error e => pure (.error (.roll e))
    | .ok (report, a) => pure (.ok (p, report, { s with actor := a }))

/-- Derives the actor's stats under the session's store, which it may update. -/
def derive (s : Session) : Guarded (DerivedStats × Session) := do
  let (d, c) ← (← (s.book : Logged RuleBook)).derive s.config s.conditions
  pure (d, { s with conditions := c })

def setConditions (s : Session) (add remove : List String) : Session :=
  { s with conditions := (s.conditions.add add).remove remove }

/-- The names of the gifts whose exhaust flag is set, in item order. -/
def exhaustedGifts (s : Session) : List String :=
  s.actor.items.filterMap fun i => match i.kind with
    | .gift g => if g.exhausted then some i.name else none
    | _ => none

end Session

end DicePools
