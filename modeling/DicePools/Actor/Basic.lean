import DicePools.Item.Basic
import DicePools.Conditions
import DicePools.Fault

/-! Character sheets: traits, skills with marks, items, conditions and coins. Preparing a sheet
makes its keys compare-ready and derives each skill's dice. -/

namespace DicePools

/-- A trait such as Body or Speed, or a species or career trait feeding skills. -/
structure Trait where
  key : String
  /-- An alias such as the species or career name. -/
  name : Option String
  dice : Dice
  skills : KeyList
  deriving Inhabited

namespace Trait

def displayName (t : Trait) : String := t.name.getD t.key

/-- The label in a rolled pool: the career trait shows its alias once extra careers need
telling apart; every other trait shows its key as a label. -/
def poolLabel (t : Trait) (hasExtraCareers : Bool) : String :=
  match t.name with
  | some n => if hasExtraCareers && t.key == "career" then n else Name.displayLabel t.key
  | none => Name.displayLabel t.key

/-- Whether a name selects the trait, by key or by alias. -/
def selectedBy (t : Trait) (name : String) : Bool :=
  let k := Name.key name
  t.key == k || t.name.any fun nick => Name.key nick == k

end Trait

/-- A skill with its marks and derived dice. -/
structure Skill where
  key : String
  name : String
  marks : Nat
  /-- Dice from marks and gift marks. -/
  own : Dice
  /-- Own dice plus every feeding trait and extra career. -/
  total : Dice
  deriving Inhabited

namespace Skill

def displayName (s : Skill) : String := if s.name.isEmpty then s.key else s.name

def poolLabel (s : Skill) : String := if s.name.isEmpty then Name.displayLabel s.key else s.name

end Skill

/-- Why an item could not be changed. -/
inductive ItemError where
  /-- No item has the id; the short id is given. -/
  | notFound (short : String)
  /-- The item is no gift; its name is given. -/
  | notAGift (name : String)
  deriving DecidableEq, Repr

def ItemError.message : ItemError → String
  | .notFound short => "item " ++ short ++ " not found"
  | .notAGift name => "item '" ++ name ++ "' is not a gift"

/-- A character sheet. -/
structure Actor where
  name : String
  traits : List Trait
  skills : List Skill
  items : List Item
  conditions : Conditions
  /-- Coins held, by currency key, sorted by key. -/
  coinage : List (String × Nat)
  deriving Inhabited

namespace Actor

/-- The extra careers, in stored order. -/
def extraCareers (a : Actor) : List (Item × Career) :=
  a.items.filterMap fun i =>
    match i.kind with
    | .extraCareer c => some (i, c)
    | _ => none

/-- The own and total dice of a skill on a sheet whose keys are compare-ready. -/
def skillDice (a : Actor) (s : Skill) : Except Fault (Dice × Dice) := do
  let giftMarks := ((a.items.filterMap Item.gift?).filter fun g =>
    g.grantsMark.any fun m => Name.key m == s.key).length
  let marks ← addU32 s.marks giftMarks
  let own := Dice.ofMarks (UInt32.ofNat marks)
  let fromTraits := Dice.sum ((a.traits.filter (·.skills.contains s.key)).map (·.dice))
  let fromCareers := Dice.sum (((a.extraCareers).filter (·.2.skills.contains s.key)).map (·.2.dice))
  pure (own, own + fromTraits + fromCareers)

/-- Makes keys compare-ready and derives every skill's dice; a skill whose marks and gift marks
exceed 32 bits stops the preparation. -/
def prepare (a : Actor) : Except Fault Actor := do
  let keyed : Actor := { a with
    traits := a.traits.map fun t => { t with key := Name.key t.key }
    skills := a.skills.map fun s => { s with key := Name.key s.key }
    coinage := Json.sortedMap (a.coinage.map fun (k, v) => (Name.key k, v)) }
  let skills ← keyed.skills.mapM fun s => do
    let (own, total) ← keyed.skillDice s
    pure { s with own := own, total := total }
  pure { keyed with skills := skills }

def findTrait? (a : Actor) (name : String) : Option Trait := a.traits.find? (·.selectedBy name)

/-- The first skill with the name's key. -/
def findSkill? (a : Actor) (name : String) : Option Skill :=
  let k := Name.key name
  a.skills.find? (·.key == k)

/-- The dice of a trait or skill by name; a trait wins a clash. -/
def statDice? (a : Actor) (name : String) : Option Dice :=
  match a.findTrait? name with
  | some t => some t.dice
  | none => (a.findSkill? name).map (·.total)

def hasNoStats (a : Actor) : Bool := a.traits.isEmpty && a.skills.isEmpty

def item? (a : Actor) (id : ItemId) : Option Item := a.items.find? (·.id == id)

/-- The first item whose name has the key of `name`. -/
def itemNamed? (a : Actor) (name : String) : Option Item :=
  let k := Name.key name
  a.items.find? (·.key == k)

/-- Sets the exhausted flag of the first item with an id, which must be a gift; a gift that
never exhausts is left alone. -/
def setGiftExhausted (a : Actor) (id : ItemId) (exhausted : Bool) : Except ItemError Actor :=
  match a.items.findIdx? (·.id == id) with
  | none => .error (.notFound id.short)
  | some k =>
    match a.items[k]? with
    | none => .error (.notFound id.short)
    | some i =>
      match i.kind with
      | .gift g =>
        if g.exhaustWhenUsed then
          .ok { a with items := a.items.set k { i with kind := .gift { g with exhausted := exhausted } } }
        else .ok a
      | _ => .error (.notAGift i.name)

/-- Worn armor, at most three pieces, in stored order. -/
def wornArmor (a : Actor) : List (Item × Armor) :=
  (a.items.filterMap fun i =>
    match i.kind with
    | .armor r => if r.worn then some (i, r) else none
    | _ => none).take 3

/-- The number of worn pieces of armor, all counted. -/
def wornArmorCount (a : Actor) : Nat :=
  (a.items.filter fun i =>
    match i.kind with
    | .armor r => r.worn
    | _ => false).length

/-- The first held shield. -/
def heldShield? (a : Actor) : Option (Item × Shield) :=
  a.items.findSome? fun i =>
    match i.kind with
    | .shield s => if s.held then some (i, s) else none
    | _ => none

def otherReadiedWeapons (a : Actor) (except : Option ItemId) : Nat :=
  (a.items.filter fun i => except != some i.id && i.isReadiedWeapon).length

theorem wornArmor_length_le (a : Actor) : a.wornArmor.length ≤ 3 := by
  simp only [wornArmor, List.length_take]; omega

end Actor

end DicePools
