import DicePools.Pool.Build

/-! Rolling a finished pool and exhausting the gifts it used, each on its own. -/

namespace DicePools

/-- How a pool is rolled. -/
inductive RollMode where
  | highest
  | targetNumber (target : Nat)
  deriving Inhabited

/-- What a roller reports. -/
inductive RollOutcome where
  | highest (faces : List Nat) (highest : Nat)
  | targetNumber (faces : List Nat) (successes : Nat) (botch : Bool)
  deriving Inhabited

/-- Rolls pools in a mode under a label. -/
abbrev DiceRoller := RollMode → List Dice → String → Except RollError RollOutcome

def Dice.largestSides (pools : List Dice) : Nat :=
  pools.foldl (fun m d => max m ((d.maxDie?.map Die.sides).getD 0)) 0

/-- How many dice of the arrays have at least `target` sides, at most the largest 32-bit count. -/
def Dice.reaching (pools : List Dice) (target : Nat) : Nat :=
  let n := pools.foldl (fun n d =>
    n + (Die.all.filter (·.sides ≥ target)).foldl (fun n die => n + (d.count die).toNat) 0) 0
  min n Text.u32Max

/-- The roller whose every die shows its largest face; `closed` makes every roll fail. -/
def DiceRoller.largestFaces (closed : Bool) : DiceRoller := fun mode pools _ =>
  if closed then .error (.roller "table is closed")
  else match mode with
    | .highest => .ok (.highest [] (Dice.largestSides pools))
    | .targetNumber t => .ok (.targetNumber [] (Dice.reaching pools t) false)

/-- A completed roll and the exhaustion it caused. -/
structure RollReport where
  outcome : RollOutcome
  exhausted : List ExhaustRecord
  failures : List RollError
  deriving Inhabited

/-- Rolls a finished pool, then exhausts the gifts it used; the actor afterwards. -/
def Actor.performRoll (a : Actor) (roller : DiceRoller) (pool : FinishedPool) (mode : RollMode) :
    Logged (Except RollError (RollReport × Actor)) :=
  match roller mode pool.pools pool.label with
  | .error e => pure (.error e)
  | .ok outcome => do
    let (a, done, failed) ← pool.exhaust.foldlM (fun (acc : Actor × List ExhaustRecord × List RollError) r =>
      match acc.1.setGiftExhausted r.item true with
      | .ok a => pure (a, acc.2.1 ++ [r], acc.2.2)
      | .error e => do
        Logged.error "could not exhaust gift"
        pure (acc.1, acc.2.1, acc.2.2 ++ [.persist r.item e.message])) (a, [], [])
    pure (.ok (⟨outcome, done, failed⟩, a))

def RollOutcome.toJson : RollOutcome → Json
  | .highest faces h => .obj [("faces", .arr (faces.map Json.ofNat)), ("highest", Json.ofNat h)]
  | .targetNumber faces n botch =>
    .obj [("faces", .arr (faces.map Json.ofNat)), ("successes", Json.ofNat n), ("botch", .bool botch)]

end DicePools
