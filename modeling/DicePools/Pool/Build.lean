import DicePools.Pool.Construction
import DicePools.Actor.Basic
import DicePools.Config
import DicePools.Text.Numeral

/-! Building the stat and extra parts of a pool in sheet order, and finishing them into the pool
that is rolled. -/

namespace DicePools

/-- Why a roll could not be made or committed. -/
inductive RollError where
  /-- The actor has no traits and no skills. -/
  | noSelectableFields
  /-- The dice roller failed. -/
  | roller (message : String)
  /-- An item could not be updated. -/
  | persist (item : ItemId) (message : String)
  deriving Inhabited

def RollError.message : RollError → String
  | .noSelectableFields => "actor has no selectable traits or skills"
  | .roller m => "dice roller failed: " ++ m
  | .persist i m => "failed to update item " ++ i.short ++ ": " ++ m

/-- Arrays of dice and a label for each contribution. -/
structure PoolPart where
  arrays : List Dice
  labels : List String
  deriving Inhabited

def PoolPart.label (p : PoolPart) : String := " + ".intercalate p.labels

def PoolPart.push (p : PoolPart) (d : Dice) (label : String) : PoolPart :=
  ⟨p.arrays ++ [d], p.labels ++ [label]⟩

def extraDiceLabel : String := "Extra dice"

/-- Dice capped at the burdened limit when burdened and the stat is limited. -/
def Config.burdenLimited (c : Config) (dice : Dice) (key : String) (burdened : Bool) : Dice :=
  if burdened && c.isBurdenLimited key then dice.limitTo c.burdenedLimit else dice

/-- Marks every wanted name that `hit` accepts; whether any was. -/
def claim (wanted : List String) (matched : List Bool) (hit : String → Bool) : List Bool × Bool :=
  let matched := (wanted.zip matched).map fun (w, m) => m || hit w
  (matched, wanted.any hit)

/-- Gathers the traits, extra careers and skills named, in sheet order, and which names
selected anything. -/
def Actor.select (a : Actor) (names : List String) (burdened : Bool) (cfg : Config) :
    PoolPart × List Bool :=
  let wanted := names.map Name.key
  let hasCareers := !a.extraCareers.isEmpty
  let step (acc : PoolPart × List Bool) (hit : String → Bool) (dice : Dice) (key label : String) :=
    let (matched, any) := claim wanted acc.2 hit
    if any then (acc.1.push (cfg.burdenLimited dice key burdened) label, matched) else (acc.1, matched)
  let acc : PoolPart × List Bool := (⟨[], []⟩, wanted.map fun _ => false)
  let acc := a.traits.foldl (fun acc t => step acc t.selectedBy t.dice t.key (t.poolLabel hasCareers)) acc
  let acc := a.extraCareers.foldl (fun acc (i, c) => step acc (· == i.key) c.dice i.key i.name) acc
  a.skills.foldl (fun acc s => step acc (· == s.key) s.total s.key s.poolLabel) acc

/-- The dice of the named traits and skills; unknown names are skipped with a warning. -/
def Actor.buildPool (a : Actor) (names : List String) (burdened : Bool) (cfg : Config) :
    Logged (Except RollError PoolPart) := do
  if a.hasNoStats then return .error .noSelectableFields
  let (part, matched) := a.select names burdened cfg
  for (_, seen) in names.zip matched do
    if !seen then Logged.warn "no such trait or skill"
  pure (.ok part)

/-- The checked fields of a construction and the free-text extra dice: one array of all terms,
or, when extra dice are ordered, one array per comma-separated term. -/
def Construction.buildExtra (c : Construction) (raw : String) (cfg : Config) : Logged PoolPart := do
  let part := c.checkedFields.foldl (fun p f => p.push f.dice f.name) ⟨[], []⟩
  let raw := Text.trim raw
  if raw.isEmpty then return part
  if cfg.extraDiceOrdered then
    let terms ← (Text.splitAll raw ',').mapM Dice.parse
    let terms := terms.filter (!·.isEmpty)
    if terms.isEmpty then pure part else pure ⟨part.arrays ++ terms, part.labels ++ [extraDiceLabel]⟩
  else
    let dice ← Dice.parse raw
    pure (if dice.isEmpty then part else part.push dice extraDiceLabel)

/-- How a finished pool is adjusted: a die cap, and doubling for weak pools. -/
structure PoolOptions where
  limit : Option Die
  double : Bool
  deriving Inhabited

/-- A gift to exhaust once the roll is made. -/
structure ExhaustRecord where
  item : ItemId
  name : String
  deriving Inhabited

/-- The pool handed to the roller. -/
structure FinishedPool where
  pools : List Dice
  label : String
  exhaust : List ExhaustRecord
  deriving Inhabited

def FinishedPool.total (p : FinishedPool) : Dice := Dice.sum p.pools

/-- Joins the stat and extra parts into the final pool. -/
def Construction.finish (c : Construction) (pool extra : PoolPart) (opts : PoolOptions) :
    FinishedPool :=
  let pools := ((pool.arrays ++ extra.arrays).filter (!·.isEmpty)).map fun d =>
    let d := if opts.double then d + d else d
    match opts.limit with
    | some l => d.limitTo l
    | none => d
  let parts := pool.labels ++ extra.labels
  let label := if parts.isEmpty then c.label
    else (if c.label.isEmpty then "" else c.label ++ ": ") ++ " + ".intercalate parts
  let exhaust := (c.checkedFields.filter (·.exhaustsOnUse)).foldl (fun (acc : List ExhaustRecord) f =>
    match f.source with
    | some i => if acc.any (·.item == i) then acc else acc ++ [⟨i, f.name⟩]
    | none => acc) []
  ⟨pools, label, exhaust⟩

/-- A dice cap typed by a player: a stat's largest die, a die such as `d8`, or a number. -/
def Actor.resolveLimit (a : Actor) (text : String) (burdened : Bool) (cfg : Config) :
    Logged (Option Die) := do
  let text := Text.trim text
  if text.isEmpty then return none
  let (stat, _) := a.select [text] burdened cfg
  if !stat.arrays.isEmpty then return some ((Dice.sum stat.arrays).maxDie?.getD .d4)
  match Die.ofTag? text with
  | some d => pure (some d)
  | none =>
    match Text.u32? text with
    | some face => pure (some (Die.atMost face))
    | none => do
      Logged.warn "not a stat, die or number; ignoring limit"
      pure none

end DicePools
