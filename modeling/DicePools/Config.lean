import DicePools.Json.Decode
import DicePools.Dice.Die
import DicePools.Name

/-! The engine settings that pool building and derived stats read, with their JSON defaults. -/

namespace DicePools

/-- A currency: its name, its value in the base currency as written (`"1/12"`), the weight of
one coin in grams, and whether it is counted at all. -/
structure Currency where
  name : String
  value : String
  weightGrams : Float
  used : Bool
  deriving Inhabited

/-- The engine's settings. -/
structure Config where
  burdenedLimit : Die
  burdenedList : List String
  manageEncumbranceAuto : Bool
  coinsHaveWeight : Bool
  extraDiceOrdered : Bool
  /-- Known currencies by key, sorted by key. -/
  currencies : List (String × Currency)
  deriving Inhabited

namespace Config

def default : Config where
  burdenedLimit := .d8
  burdenedList := ["speed", "climbing", "dodge", "endurance", "jumping", "stealth", "swimming"]
  manageEncumbranceAuto := true
  coinsHaveWeight := true
  extraDiceOrdered := false
  currencies := [("aureal", ⟨"Aureal", "12", 4.5, true⟩), ("denar", ⟨"Denar", "1", 4.5, true⟩),
    ("orichalk", ⟨"Orichalk", "1/12", 4.5, true⟩), ("quinqunx", ⟨"Quinqunx", "144", 22.5, true⟩)]

def isBurdenLimited (c : Config) (stat : String) : Bool := c.burdenedList.contains (Name.key stat)

def withCurrency (c : Config) (key : String) (cur : Currency) : Config :=
  { c with currencies := Json.insertByKey (Name.key key) cur c.currencies }

end Config

open Json

/-- A die named as written, `d12` to `d4`. -/
def Die.decode : Decoder Die
  | .str s, here =>
    match Die.all.find? (·.tag == s) with
    | some d => pure d
    | none => failAt ("unknown variant `" ++ s ++ "`, expected " ++ oneOf (Die.all.map (·.tag))) here
  | .obj [(s, .null)], here =>
    match Die.all.find? (·.tag == s) with
    | some d => pure d
    | none => failAt ("unknown variant `" ++ s ++ "`, expected " ++ oneOf (Die.all.map (·.tag))) here
  | .obj [(_, v)], here => invalidType v "unit variant" here
  | .obj _, here => failAt "invalid value: map, expected map with a single key" here
  | j, here => invalidType j "string or map" here

/-- A currency: `name` and `value` required, `weightGrams` and `used` optional. -/
def Currency.decode : Decoder Currency :=
  record "struct Currency"
    [.of "name" .required string fun c v => { c with name := v },
     .of "value" .required string fun c v => { c with value := v },
     .of "weightGrams" .defaulted float fun c v => { c with weightGrams := v },
     .of "used" .defaulted boolean fun c v => { c with used := v }]
    ⟨"", "", 0, true⟩

/-- Settings as written: every member optional; written currencies replace the defaults. -/
def Config.decode : Decoder Config :=
  record "struct EngineConfig"
    [.of "burdenedLimit" .defaulted Die.decode fun c v => { c with burdenedLimit := v },
     .of "burdenedList" .defaulted (list string) fun c v => { c with burdenedList := v },
     .of "manageEncumbranceAuto" .defaulted boolean fun c v => { c with manageEncumbranceAuto := v },
     .of "coinsHaveWeight" .defaulted boolean fun c v => { c with coinsHaveWeight := v },
     .of "extraDiceOrdered" .defaulted boolean fun c v => { c with extraDiceOrdered := v },
     .of "currencies" .defaulted (members Currency.decode) fun c v => { c with currencies := sortedMap v }]
    Config.default

/-- Settings read from JSON, with the stat list and the currency keys made compare-ready. -/
def Config.read : Decoder Config := fun j here => do
  let c ← Config.decode j here
  pure { c with
    burdenedList := c.burdenedList.map Name.key
    currencies := sortedMap (c.currencies.map fun (k, v) => (Name.key k, v)) }

def Config.ofJson (j : Json) : Decode Config := Config.read j []

def Currency.toJson (c : Currency) : Json :=
  .obj [("name", .str c.name), ("value", .str c.value), ("weightGrams", Json.ofFloat c.weightGrams),
    ("used", .bool c.used)]

def Config.toJson (c : Config) : Json :=
  .obj [("burdenedLimit", .str c.burdenedLimit.tag), ("burdenedList", Json.ofStrings c.burdenedList),
    ("manageEncumbranceAuto", .bool c.manageEncumbranceAuto), ("coinsHaveWeight", .bool c.coinsHaveWeight),
    ("extraDiceOrdered", .bool c.extraDiceOrdered),
    ("currencies", .obj (c.currencies.map fun (k, v) => (k, v.toJson)))]

end DicePools
