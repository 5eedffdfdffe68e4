import DicePools.Actor.Basic
import DicePools.Setting.Schema

/-! The rule book: every rule of every gift, checked against its mode's schema, with replacement
links. -/

namespace DicePools

/-- A rule's key: its gift's id and its position among the gift's rules. -/
structure RuleKey where
  item : ItemId
  index : Nat
  deriving DecidableEq, Repr, Inhabited

/-- A rule with the gift granting it. -/
structure Rule where
  item : Item
  gift : Gift
  index : Nat
  setting : Setting
  mode : Mode
  deriving Inhabited

namespace Rule

def key (r : Rule) : RuleKey := ⟨r.item.id, r.index⟩

def giftName (r : Rule) : String := r.item.name

/-- The key of the gift this rule replaces, if it names one. -/
def replaceTarget? (r : Rule) : Option String :=
  match r.setting.replaceName.map Name.key with
  | some "" => none
  | t => t

end Rule

/-- What went wrong with a rule while building a book. -/
inductive IssueKind where
  /-- The rule breaks its schema and never applies. -/
  | malformed
  /-- The rule replaces a gift or rule that does not exist. -/
  | unresolvedReplacement
  /-- The rule replaces a rule of its own gift. -/
  | selfReplacement
  deriving DecidableEq, Repr, Inhabited

def IssueKind.name : IssueKind → String
  | .malformed => "Malformed"
  | .unresolvedReplacement => "UnresolvedReplacement"
  | .selfReplacement => "SelfReplacement"

/-- A problem found while building a book. -/
structure Issue where
  rule : RuleKey
  gift : String
  kind : IssueKind
  message : String
  deriving Inhabited

/-- Links from a rule to the rule superseding it, one per target. -/
abbrev Links := List (RuleKey × RuleKey)

/-- Links `target` to `by`, replacing an earlier link of the same target in place. -/
def Links.insert (links : Links) (target by_ : RuleKey) : Links :=
  if links.any (·.1 == target) then links.map fun (t, b) => if t == target then (t, by_) else (t, b)
  else links ++ [(target, by_)]

/-- Every rule of a character, with replacement links and the problems found. -/
structure RuleBook where
  actor : Actor
  /-- Rules of known modes, in item order. -/
  rules : List Rule
  links : Links
  /-- Keys of the malformed rules, those of unknown modes included. -/
  malformed : List RuleKey
  issues : List Issue
  deriving Inhabited

namespace RuleBook

/-- The rules of the gifts, in item order, with the malformed keys and their issues; each
malformed rule is reported once, with its problems. -/
def collect (a : Actor) : Logged (List Rule × List RuleKey × List Issue) :=
  a.items.foldlM (fun acc item =>
    match item.kind with
    | .gift g => (g.rules.zipIdx).foldlM (fun (rules, bad, issues) (st, index) => do
        let key : RuleKey := ⟨item.id, index⟩
        let found := st.problems
        let (bad, issues) ← if found.isEmpty then pure (bad, issues) else do
          let message := "; ".intercalate found
          Logged.warn message
          pure (bad ++ [key], issues ++ [⟨key, item.name, .malformed, message⟩])
        match st.mode? with
        | some m => pure (rules ++ [⟨item, g, index, st, m⟩], bad, issues)
        | none => pure (rules, bad, issues)) acc
    | _ => pure acc) ([], [], [])

/-- The rule a replacing rule targets: the first rule of the same mode of the first gift named
by its target. -/
def targetOf? (rules : List Rule) (r : Rule) (target : String) : Option Rule :=
  let gift := (rules.find? (·.item.key == target)).map (·.item.id)
  rules.find? fun t => some t.item.id == gift && t.mode == r.mode

/-- Links every replacing rule to its target, reporting those that cannot be linked. -/
def link (rules : List Rule) : Logged (Links × List Issue) :=
  rules.foldlM (fun (links, issues) r =>
    match r.replaceTarget? with
    | none => pure (links, issues)
    | some target =>
      match targetOf? rules r target with
      | none => do
        Logged.warn "replacement target not found"
        pure (links, issues ++ [⟨r.key, r.giftName, .unresolvedReplacement,
          "no " ++ r.mode.name ++ " rule on a gift named '" ++ target ++ "'"⟩])
      | some t =>
        if t.item.id == r.item.id then do
          Logged.warn "gift tries to replace its own rule"
          pure (links, issues ++ [⟨r.key, r.giftName, .selfReplacement,
            "a gift cannot replace its own rules"⟩])
        else do
          if links.any (·.1 == t.key) then Logged.debug "replacement overridden"
          pure (links.insert t.key r.key, issues)) ([], [])

/-- Builds the book of a character. -/
def build (a : Actor) : Logged RuleBook := do
  let (rules, bad, issues) ← collect a
  let (links, linkIssues) ← link rules
  pure ⟨a, rules, links, bad, issues ++ linkIssues⟩

def baseRules (b : RuleBook) (m : Mode) : List Rule :=
  b.rules.filter fun r => r.replaceTarget?.isNone && r.mode == m

/-- The rule with a key; of rules sharing a key, the last. -/
def rule? (b : RuleBook) (k : RuleKey) : Option Rule := b.rules.reverse.find? (·.key == k)

def isMalformed (b : RuleBook) (k : RuleKey) : Bool := b.malformed.contains k

def replacementOf? (b : RuleBook) (k : RuleKey) : Option RuleKey := b.links.lookup k

def next? (b : RuleBook) (r : Rule) : Option Rule := (b.replacementOf? r.key).bind b.rule?

end RuleBook

end DicePools
