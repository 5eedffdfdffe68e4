import DicePools.Dice.Text
import DicePools.Name

/-! Stat rolls written as `stat, stat; dice`, read as dice or stats when there is no `;`. -/

namespace DicePools

/-- Stats to pool, as keys, and flat dice added to the roll. -/
structure StatRoll where
  stats : List String
  dice : Dice
  deriving DecidableEq, Repr, Inhabited

namespace StatRoll

def empty : StatRoll := ⟨[], Dice.empty⟩

/-- Reads a roll, warning about dice terms that name no die. -/
def parse (text : String) : Logged StatRoll :=
  match Text.splitOnce text ';' with
  | some (stats, dice) => do
    let d ← Dice.parse dice
    pure ⟨Name.splitKeys stats, d⟩
  | none =>
    let first := ((Text.splitAll text ',').head?).getD ""
    if (Dice.parseTerm? first).isSome then do
      let d ← Dice.parse text
      pure ⟨[], d⟩
    else pure ⟨Name.splitKeys text, Dice.empty⟩

def isEmpty (r : StatRoll) : Bool := r.stats.isEmpty && r.dice.isEmpty

/-- The written form: stats, dice in short form, or `stats; dice`. -/
def text (r : StatRoll) : String :=
  let stats := ", ".intercalate r.stats
  if r.dice.isEmpty then stats
  else if stats.isEmpty then r.dice.format true
  else stats ++ "; " ++ r.dice.format true

end StatRoll

end DicePools
