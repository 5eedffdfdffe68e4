import DicePools.Command.Args
import DicePools.Text.Table
import DicePools.Json.Locate
import DicePools.Actor.Read
import DicePools.Rules.Validate
import DicePools.Session

/-! Running a command as a function from a file reader and the command line to the exit code and
the two output texts. -/

namespace DicePools

/-- Reads a file by path: its text, or why it could not be read. -/
abbrev FileReader := String → Except String String

/-- What a finished command leaves behind. -/
structure Outcome where
  exit : Nat
  stdout : String
  stderr : String
  deriving Inhabited

/-- Why a command stopped. -/
inductive Halt where
  /-- A failure reported as `error: …`. -/
  | failed (message : String)
  /-- A computation left its range. -/
  | fault (f : Fault)
  deriving Inhabited

/-- A command's work: output lines, or a halt. -/
abbrev Work := Except Halt

/-- Text of a file, or the failure to read it. -/
def readOrFail (read : FileReader) (path : String) : Work String :=
  match read path with
  | .ok text => .ok text
  | .error e => .error (.failed ("cannot read " ++ path ++ ": " ++ e))

/-- Loads and prepares a sheet; items without an id are numbered by position. -/
def loadActor (read : FileReader) (path : String) : Work Actor := do
  let text ← readOrFail read path
  match (Json.decodeText (Actor.decode fun i => ItemId.ofSerial (i + 1)) text).value with
  | .error m => .error (.failed (path ++ ": invalid actor data: " ++ m))
  | .ok a =>
    match a.prepare with
    | .ok a => .ok a
    | .error f => .error (.fault f)

/-- Loads the settings of a file, or the defaults when no file is named. -/
def loadConfig (read : FileReader) : Option String → Work Config
  | none => .ok Config.default
  | some path => do
    let text ← readOrFail read path
    match (Json.decodeText Config.read text).value with
    | .error m => .error (.failed (path ++ ": invalid config: " ++ m))
    | .ok c => .ok c

/-- A guarded computation's value, or the fault that stopped it. -/
def guardedValue {α : Type} (m : Guarded α) : Work α :=
  match m.run.value with
  | .ok v => .ok v
  | .error f => .error (.fault f)

/-- The lines of `ic stats`: the sheet, movement, encumbrance and the purse. -/
def statsReport (a : Actor) (cfg : Config) : Work (List String) := do
  let sheet : List String :=
    if a.hasNoStats then ["  (no traits or skills)"]
    else
      let rows := a.traits.map (fun t => [t.displayName, "trait", t.dice.format true]) ++
        a.skills.map fun s => [s.displayName, "skill (" ++ toString s.marks ++ " marks)", s.total.format true]
      (Table.mk ["Stat", "Kind", "Dice"] rows).render ++ [""]
  let book := (RuleBook.build a).value
  let (d, store) ← guardedValue (book.derive cfg a.conditions)
  let m := d.movement
  let movement := ["  Movement", "  stride " ++ toString m.stride ++ "  dash " ++ toString m.dash ++
    "  run " ++ toString m.run] ++ (if m.ignoreBadFooting then ["  ignores bad footing"] else []) ++ [""]
  let l := d.limits
  let encumbrance := ["  Encumbrance",
    "  carrying " ++ Decimal.fixedText d.load.weight 2 ++ " stones, " ++ toString d.load.wornArmor ++ " armor worn",
    "  limits " ++ toString l.none ++ " / " ++ toString l.burdened ++ " / " ++ toString l.overBurdened ++
      "  (" ++ d.status.text ++ ")"] ++
    (if store.active.isEmpty then [] else ["  conditions: " ++ ", ".intercalate store.active]) ++ [""]
  let carried := d.coinage.lines.filter (·.amount > 0)
  let coins :=
    if carried.isEmpty then []
    else ["  Coinage"] ++ (Table.mk ["Currency", "Coins", "Value each", "Weight"]
      (carried.map fun c => [c.name, toString c.amount, Decimal.plainText c.value,
        Decimal.fixedText c.weight 3])).render ++ ["  total value " ++ toString d.coinage.value]
  pure (["  " ++ a.name, ""] ++ sheet ++ movement ++ encumbrance ++ coins)

/-- The roll `ic pool` was asked for. -/
def PoolArgs.request (p : PoolArgs) : PoolRequest :=
  let action := (Action.ofName? p.action (Text.commaItems p.stats) (Text.commaItems p.gifts) !p.noArmor).getD
    (.skill (Text.commaItems p.stats))
  { action, item := p.item, extra := p.extra, limit := p.limit, against := p.against,
    conditions := Text.commaItems p.conditions, weak := p.weak, burdened := p.burdened }

/-- The lines of `ic pool`: the label, the fields, the pool and what it exhausts. -/
def poolReport (a : Actor) (cfg : Config) (p : PoolArgs) : Work (List String) := do
  let book := (RuleBook.build a).value
  match (book.serve cfg a.conditions p.request).value with
  | .error e => .error (.failed e.message)
  | .ok out =>
    let c := out.construction
    let fields :=
      if c.fields.isEmpty then []
      else (Table.mk ["", "Field", "Dice", "Exhausts"] (c.fields.map fun f =>
        [if f.checked then "x" else " ", f.name, f.dice.format true, if f.exhaustsOnUse then "yes" else ""])).render ++ [""]
    let fin := out.finished
    let pool :=
      if fin.pools.isEmpty then ["  (empty pool)"]
      else ["  pool:  " ++ " | ".intercalate (fin.pools.map (·.format true)), "  total: " ++ fin.total.format false]
    let limit := match out.limit with
      | some d => ["  limited to " ++ d.tag]
      | none => []
    pure (["  " ++ fin.label, ""] ++ fields ++ pool ++ limit ++ fin.exhaust.map fun r => "  exhausts " ++ r.name)

def countOf (n : Nat) (thing : String) : String :=
  toString n ++ " " ++ thing ++ (if n = 1 then "" else "s")

/-- The outcome of `ic check`: issue lines on the standard error, then a summary. -/
def checkOutcome (a : Actor) : Outcome :=
  let issues := a.validate.value
  let issueText := String.join (issues.map fun i => "  " ++ i.text ++ "\n")
  let errors := (issues.filter (·.isError)).length
  let warnings := issues.length - errors
  if errors > 0 then
    ⟨1, "", issueText ++ "error: " ++ countOf errors "error" ++ ", " ++ countOf warnings "warning" ++ "\n"⟩
  else
    let rules := a.items.foldl (fun n i => n + match i.kind with
      | .gift g => g.rules.length
      | _ => 0) 0
    let lines := ["  All checks passed for '" ++ a.name ++ "'.",
      "  " ++ toString a.traits.length ++ " traits, " ++ toString a.skills.length ++ " skills, " ++
        toString a.items.length ++ " items, " ++ toString rules ++ " gift rules"] ++
      (if warnings > 0 then ["  " ++ countOf warnings "warning"] else [])
    ⟨0, String.join (lines.map (· ++ "\n")), issueText⟩

def printed (lines : List String) : String := String.join (lines.map (· ++ "\n"))

/-- How a halted command ends. -/
def Halt.outcome : Halt → Outcome
  | .failed m => ⟨1, "", "error: " ++ m ++ "\n"⟩
  | .fault f => ⟨101, "", "thread 'main' panicked:\n" ++ f.message ++ "\n"⟩

/-- The files a command reads. -/
def Command.paths : Command → List String
  | .stats actor config => actor :: config.toList
  | .pool p => p.actor :: p.config.toList
  | .check actor => [actor]
  | _ => []

/-- Runs a command line against a file reader. -/
def Command.run (read : FileReader) : Command → Outcome
  | .version program => ⟨0, program ++ " " ++ programVersion ++ "\n", ""⟩
  | .usage m => ⟨2, "", "error: " ++ m ++ "\n"⟩
  | .stats path config =>
    match (do statsReport (← loadActor read path) (← loadConfig read config)) with
    | .ok lines => ⟨0, printed lines, ""⟩
    | .error h => h.outcome
  | .pool p =>
    match (do poolReport (← loadActor read p.actor) (← loadConfig read p.config) p) with
    | .ok lines => ⟨0, printed lines, ""⟩
    | .error h => h.outcome
  | .check path =>
    match loadActor read path with
    | .ok a => checkOutcome a
    | .error h => h.outcome

end DicePools
