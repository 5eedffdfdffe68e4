import DicePools.Rules.Book

/-! Checking a character sheet for errors and warnings. -/

namespace DicePools

/-- A warning or error about a sheet: where it was found and what it is. -/
structure Finding where
  subject : String
  message : String
  isError : Bool
  deriving Inhabited

def Finding.text (f : Finding) : String :=
  (if f.isError then "error" else "warning") ++ ": " ++ f.subject ++ ": " ++ f.message

/-- Everything wrong with a sheet. -/
def Actor.validate (a : Actor) : Logged (List Finding) := do
  let empty : List Finding :=
    if a.hasNoStats then [⟨a.name, "actor has no traits or skills", true⟩] else []
  let book ← RuleBook.build a
  let fromBook := book.issues.map fun i =>
    (⟨i.gift, "rule " ++ toString (i.rule.index + 1) ++ ": " ++ i.message, i.kind == .malformed⟩ : Finding)
  let unknownStats : List Finding :=
    if a.hasNoStats then []
    else a.items.flatMap fun i =>
      (i.rollStats.filter fun st => (a.statDice? st).isNone).map fun st =>
        ⟨i.name, "rolls unknown stat '" ++ st ++ "'", false⟩
  pure (empty ++ fromBook ++ unknownStats)

end DicePools
