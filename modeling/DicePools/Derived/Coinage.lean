import DicePools.Rules.Totals
import DicePools.Config
import DicePools.Decimal.Read
import DicePools.Decimal.Integral

/-! The purse: coins, value and weight per used currency, and the value rounded down. -/

namespace DicePools

def gramsPerStone : Float := 6350.0

/-- The value a currency is written with: a decimal such as `12`, or a fraction such as `1/12`. -/
def parseCurrencyValue (text : String) : Option Float :=
  let text := Text.trim text
  match Text.splitOnce text '/' with
  | some (num, den) => do
    let num ← Decimal.parseFloat? (Text.trim num)
    let den ← Decimal.parseFloat? (Text.trim den)
    if den != 0 then some (num / den) else none
  | none => Decimal.parseFloat? text

/-- One currency the actor carries. -/
structure CoinLine where
  key : String
  name : String
  amount : Nat
  /-- The value of one coin in the base currency. -/
  value : Float
  /-- The weight of the coins, in stones. -/
  weight : Float
  deriving Inhabited

/-- The purse: a line per currency, the value rounded down, and the weight. -/
structure Coinage where
  lines : List CoinLine
  value : Nat
  weight : Float
  deriving Inhabited

/-- Totals the actor's coins over every used currency of the settings. -/
def RuleBook.coinage (b : RuleBook) (cfg : Config) (conditions : Conditions) : Guarded Coinage := do
  let overrides := (← b.totals .currencyValueChange (Context.ofConditions conditions)).currencyValues
  let (lines, raw, weight) ← (cfg.currencies.filter (·.2.used)).foldlM
    (fun (acc : List CoinLine × Float × Float) (key, cur) => do
      let amount := (b.actor.coinage.lookup key).getD 0
      let text := (overrides.lookup key).getD cur.value
      let value ← match parseCurrencyValue text with
        | some v => pure v
        | none => do
          (Logged.warn "unreadable currency value" : Logged Unit)
          pure 0.0
      let lineWeight := cur.weightGrams * Float.ofNat amount / gramsPerStone
      pure (acc.1 ++ [⟨key, cur.name, amount, value, lineWeight⟩], acc.2.1 + value * Float.ofNat amount,
        acc.2.2 + lineWeight))
    ([], 0.0, 0.0)
  pure ⟨lines, Decimal.toU64 (max raw.floor 0.0), weight⟩

def CoinLine.toJson (float : Float → Json) (l : CoinLine) : Json :=
  .obj [("key", .str l.key), ("name", .str l.name), ("amount", Json.ofNat l.amount),
    ("value", float l.value), ("weight", float l.weight)]

def Coinage.toJson (float : Float → Json) (c : Coinage) : Json :=
  .obj [("lines", .arr (c.lines.map (CoinLine.toJson float))), ("value", Json.ofNat c.value),
    ("weight", float c.weight)]

end DicePools
