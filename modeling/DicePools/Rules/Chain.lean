import DicePools.Rules.Applies

/-! Replacement chains, followed while each replacement applies and stopped at a cycle. -/

namespace DicePools

/-- Where a chain walk ended: the rule whose effects apply, the substitutions made, and
whether the walk stopped on a cycle. -/
structure ChainEnd where
  used : Rule
  steps : Nat
  cycle : Bool
  deriving Inhabited

namespace RuleBook

/-- Walks on from `used`, having made `steps` substitutions, with `unvisited` the keys not yet
visited. -/
def walk (b : RuleBook) (ctx : Context) (used : Rule) (steps : Nat) (unvisited : List RuleKey) :
    Logged ChainEnd :=
  match b.next? used with
  | none => pure ⟨used, steps, false⟩
  | some n =>
    if h : n.key ∈ unvisited then
      if b.applies n ctx then b.walk ctx n (steps + 1) (unvisited.erase n.key)
      else pure ⟨used, steps, false⟩
    else do
      Logged.warn "replacement cycle detected"
      pure ⟨used, steps, true⟩
termination_by unvisited.length
decreasing_by
  have := List.length_erase_of_mem h
  have := List.length_pos_of_mem h
  omega

/-- Follows replacements from a rule for as long as each one applies. -/
def resolveChain (b : RuleBook) (r : Rule) (ctx : Context) : Logged ChainEnd :=
  b.walk ctx r 0 ((b.rules.map (·.key)).eraseDups.erase r.key)

end RuleBook

end DicePools
