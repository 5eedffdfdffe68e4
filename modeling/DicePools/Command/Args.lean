import DicePools.Text.Split

/-! The command line of `ic stats`, `ic pool` and `ic check`, its options and its usage errors. -/

namespace DicePools

def programVersion : String := "0.1.0"

/-- What `ic pool` was asked, as typed. -/
structure PoolArgs where
  actor : String
  config : Option String := none
  action : String := "skill"
  item : Option String := none
  stats : String := ""
  gifts : String := ""
  extra : String := ""
  limit : Option String := none
  against : Option String := none
  conditions : String := ""
  weak : Bool := false
  burdened : Bool := false
  noArmor : Bool := false
  deriving Inhabited

/-- A command line, understood. -/
inductive Command where
  /-- Print the name and version of the program or subcommand. -/
  | version (program : String)
  | stats (actor : String) (config : Option String)
  | pool (args : PoolArgs)
  | check (actor : String)
  /-- A command line that is not understood. -/
  | usage (message : String)
  deriving Inhabited

/-- An option a subcommand accepts: its long name, its short letter, whether it takes a value. -/
structure OptionSpec where
  long : String
  short : Option Char
  takesValue : Bool

/-- The words given to a subcommand, sorted out: options with their values, and plain
arguments. -/
structure Words where
  options : List (String × String)
  plain : List String
  deriving Inhabited

/-- How reading the words of a subcommand ends early. -/
inductive Stop where
  | version
  | usage (message : String)

def looksLikeOption (w : String) : Bool := w.startsWith "-" && w.length > 1

/-- Records an option's value; an option given twice is a usage error. -/
def Words.set (w : Words) (name value : String) : Except Stop Words :=
  if w.options.any (·.1 == name) then .error (.usage ("the argument '--" ++ name ++ "' cannot be used multiple times"))
  else .ok { w with options := w.options ++ [(name, value)] }

/-- A cluster of short options such as `-ab` or `-xvalue`, written as long options: a value
given inline stays inline, a value still to come is the next word. -/
def expandShorts (specs : List OptionSpec) : List Char → Except Stop (List String)
  | [] => .ok []
  | c :: more =>
    if c == 'V' then .error .version
    else match specs.find? (·.short == some c) with
      | none => .error (.usage ("unexpected argument '-" ++ String.singleton c ++ "' found"))
      | some spec =>
        if spec.takesValue then
          let inline := match more with
            | '=' :: v => v
            | v => v
          .ok [if inline.isEmpty then "--" ++ spec.long else "--" ++ spec.long ++ "=" ++ String.ofList inline]
        else do pure (("--" ++ spec.long) :: (← expandShorts specs more))

/-- Writes every short option cluster before `--` as long options. -/
def expandWords (specs : List OptionSpec) : List String → Except Stop (List String)
  | [] => .ok []
  | "--" :: rest => .ok ("--" :: rest)
  | w :: rest =>
    if looksLikeOption w && !w.startsWith "--" then do
      pure ((← expandShorts specs (w.toList.drop 1)) ++ (← expandWords specs rest))
    else do pure (w :: (← expandWords specs rest))

/-- Sorts out long options and plain words by the option specs. -/
def readWords (specs : List OptionSpec) : List String → Words → Except Stop Words
  | [], w => .ok w
  | "--" :: rest, w => .ok { w with plain := w.plain ++ rest }
  | word :: rest, w =>
    if word == "--version" then .error .version
    else if word.startsWith "--" then
      let body := (word.drop 2).toString
      let (name, inline) := match Text.splitOnce body '=' with
        | some (n, v) => (n, some v)
        | none => (body, none)
      match specs.find? (·.long == name) with
      | none => .error (.usage ("unexpected argument '" ++ word ++ "' found"))
      | some spec =>
        if spec.takesValue then
          match inline with
          | some v => do readWords specs rest (← w.set name v)
          | none => match rest with
            | v :: rest' =>
              if looksLikeOption v then .error (.usage ("a value is required for '--" ++ name ++ "'"))
              else do readWords specs rest' (← w.set name v)
            | [] => .error (.usage ("a value is required for '--" ++ name ++ "'"))
        else match inline with
          | some _ => .error (.usage ("unexpected value for '--" ++ name ++ "'"))
          | none => do readWords specs rest (← w.set name "")
    else readWords specs rest { w with plain := w.plain ++ [word] }

def statsSpecs : List OptionSpec := [⟨"config", some 'c', true⟩]

/-- The options of `ic pool`. -/
def poolSpecs : List OptionSpec :=
  [⟨"action", some 'a', true⟩, ⟨"item", some 'i', true⟩, ⟨"stats", some 's', true⟩,
   ⟨"gifts", some 'g', true⟩, ⟨"extra", some 'e', true⟩, ⟨"limit", some 'l', true⟩,
   ⟨"against", none, true⟩, ⟨"conditions", none, true⟩, ⟨"weak", none, false⟩,
   ⟨"burdened", none, false⟩, ⟨"no-armor", none, false⟩, ⟨"config", some 'c', true⟩]

/-- The rolls `--action` names. -/
def actionNames : List String :=
  ["attack", "dodge", "parry", "defense", "counter", "resist", "soak", "initiative", "sprint",
   "skill", "gifts"]

/-- The one plain argument a subcommand takes: the actor file. -/
def Words.actor (w : Words) : Except String String :=
  match w.plain with
  | [a] => .ok a
  | [] => .error "the following required arguments were not provided: <ACTOR>"
  | _ :: extra :: _ => .error ("unexpected argument '" ++ extra ++ "' found")

def Words.get? (w : Words) (name : String) : Option String := w.options.lookup name

/-- Understands a subcommand and its words. -/
def Command.ofSubcommand (name : String) (words : List String) : Command :=
  let specs := match name with
    | "stats" => statsSpecs
    | "pool" => poolSpecs
    | _ => []
  match expandWords specs words >>= fun ws => readWords specs ws ⟨[], []⟩ with
  | .error .version => .version ("ic-" ++ name)
  | .error (.usage m) => .usage m
  | .ok w =>
    match w.actor with
    | .error m => .usage m
    | .ok actor =>
      match name with
      | "stats" => .stats actor (w.get? "config")
      | "check" => .check actor
      | _ =>
        let action := (w.get? "action").getD "skill"
        if !actionNames.contains action then .usage ("invalid value '" ++ action ++ "' for '--action <ACTION>'")
        else
          let text (k : String) := (w.get? k).getD ""
          let given (k : String) := (w.get? k).isSome
          .pool ⟨actor, w.get? "config", action, w.get? "item", text "stats", text "gifts", text "extra",
            w.get? "limit", w.get? "against", text "conditions", given "weak", given "burdened",
            given "no-armor"⟩

/-- Understands a command line (the words after the program name). -/
def Command.parse : List String → Command
  | [] => .usage "a subcommand is required"
  | w :: rest =>
    if w == "--version" || w == "-V" then .version "ic"
    else if w == "stats" || w == "pool" || w == "check" then Command.ofSubcommand w rest
    else .usage ("unrecognized subcommand '" ++ w ++ "'")

end DicePools
