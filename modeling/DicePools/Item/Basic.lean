import DicePools.Item.Id
import DicePools.Item.Slot
import DicePools.Item.StatRoll
import DicePools.Setting.Basic

/-! Items: gifts, weapons, armor, shields, extra careers and gear, and when an item is readied. -/

namespace DicePools

/-- A gift: an ability that may exhaust when used and carries rules. -/
structure Gift where
  tags : KeyList
  useDice : StatRoll
  exhaustWhenUsed : Bool
  exhausted : Bool
  grantsMark : Option String
  rules : List Setting
  deriving Inhabited

def Gift.isRefreshed (g : Gift) : Bool := !g.exhaustWhenUsed || !g.exhausted

/-- A weapon: how it is held, how far it reaches, and its three rolls. -/
structure Weapon where
  readied : Bool
  descriptors : KeyList
  effects : KeyList
  equip : Option Equip
  range : Option RangeBand
  attack : StatRoll
  defense : StatRoll
  counter : StatRoll
  deriving Inhabited

/-- A piece of armor and its soak dice. -/
structure Armor where
  worn : Bool
  dice : Dice
  deriving Inhabited

/-- A shield and its cover dice. -/
structure Shield where
  held : Bool
  dice : Dice
  deriving Inhabited

/-- An extra career: its dice and the skills it feeds. -/
structure Career where
  dice : Dice
  skills : KeyList
  deriving Inhabited

/-- General equipment. -/
structure Gear where
  readied : Bool
  descriptors : KeyList
  deriving Inhabited

/-- What an item is, with the data of its kind. -/
inductive ItemKind where
  | gift (g : Gift)
  | weapon (w : Weapon)
  | armor (a : Armor)
  | shield (s : Shield)
  | extraCareer (c : Career)
  | gear (g : Gear)
  deriving Inhabited

def ItemKind.names : List String := ["gift", "weapon", "armor", "shield", "extraCareer", "gear"]

/-- An item carried by a character. -/
structure Item where
  id : ItemId
  name : String
  /-- Weight of one unit, in stones. -/
  weight : Float
  quantity : Nat
  kind : ItemKind
  deriving Inhabited

namespace Item

def key (i : Item) : String := Name.key i.name

/-- The kind as a key, as type filters name it. -/
def kindKey (i : Item) : String :=
  match i.kind with
  | .gift _ => "gift"
  | .weapon _ => "weapon"
  | .armor _ => "armor"
  | .shield _ => "shield"
  | .extraCareer _ => "extracareer"
  | .gear _ => "gear"

def gift? (i : Item) : Option Gift :=
  match i.kind with
  | .gift g => some g
  | _ => none

def weapon? (i : Item) : Option Weapon :=
  match i.kind with
  | .weapon w => some w
  | _ => none

/-- Tags of a gift; none for other kinds. -/
def tags (i : Item) : List String :=
  match i.kind with
  | .gift g => g.tags.keys
  | _ => []

/-- Descriptors of a weapon or gear; none for other kinds. -/
def descriptors (i : Item) : List String :=
  match i.kind with
  | .weapon w => w.descriptors.keys
  | .gear g => g.descriptors.keys
  | _ => []

/-- Effects of a weapon; none for other kinds. -/
def effects (i : Item) : List String :=
  match i.kind with
  | .weapon w => w.effects.keys
  | _ => []

def appendNew (acc : List String) (names : List String) : List String :=
  names.foldl (fun acc n => if acc.contains n then acc else acc ++ [n]) acc

/-- Every stat the item rolls with, first mention first: a gift's use dice; a weapon's attack,
defense and counter. -/
def rollStats (i : Item) : List String :=
  match i.kind with
  | .gift g => appendNew [] g.useDice.stats
  | .weapon w => appendNew [] (w.attack.stats ++ w.defense.stats ++ w.counter.stats)
  | _ => []

/-- Whether the item is in hand or on the body. -/
def isReadied (i : Item) : Bool :=
  match i.kind with
  | .weapon w => w.readied
  | .gear g => g.readied
  | .shield s => s.held
  | .armor a => a.worn
  | .gift _ | .extraCareer _ => false

def totalWeight (i : Item) : Float := i.weight * Float.ofNat i.quantity

def isReadiedWeapon (i : Item) : Bool :=
  match i.kind with
  | .weapon w => w.readied
  | _ => false

theorem appendNew_nodup (names : List String) : (appendNew [] names).Nodup := by
  unfold appendNew
  suffices h : ∀ acc : List String, acc.Nodup → (names.foldl
      (fun acc n => if acc.contains n then acc else acc ++ [n]) acc).Nodup from h [] List.nodup_nil
  induction names with
  | nil => intro acc h; exact h
  | cons n rest ih =>
    intro acc h
    apply ih
    show (if acc.contains n = true then acc else acc ++ [n]).Nodup
    split
    · exact h
    · rename_i hn
      rw [List.nodup_append]
      refine ⟨h, by simp, ?_⟩
      intro a ha b hb hab
      simp only [List.mem_singleton] at hb
      subst hb hab
      simp_all

end Item

/-! ## The items' own JSON form -/

def Equip.optionJson (e : Option Equip) : Json := Json.ofOption (fun e => .str e.name) e

def RangeBand.optionJson (r : Option RangeBand) : Json := Json.ofOption (fun r => .str r.name) r

/-- The members of an item's kind, after its `type`. -/
def ItemKind.members : ItemKind → List (String × Json)
  | .gift g =>
    [("tags", g.tags.toJson), ("useDice", .str g.useDice.text),
      ("exhaustWhenUsed", .bool g.exhaustWhenUsed), ("exhausted", .bool g.exhausted),
      ("grantsMark", Json.ofOption .str g.grantsMark),
      ("specialSettings", .arr (g.rules.map Setting.toJson))]
  | .weapon w =>
    [("readied", .bool w.readied), ("descriptors", w.descriptors.toJson),
      ("effects", w.effects.toJson), ("equip", Equip.optionJson w.equip),
      ("range", RangeBand.optionJson w.range), ("attack", .str w.attack.text),
      ("defense", .str w.defense.text), ("counter", .str w.counter.text)]
  | .armor a => [("worn", .bool a.worn), ("dice", .str (a.dice.format true))]
  | .shield s => [("held", .bool s.held), ("dice", .str (s.dice.format true))]
  | .extraCareer c => [("dice", .str (c.dice.format true)), ("skills", c.skills.toJson)]
  | .gear g => [("readied", .bool g.readied), ("descriptors", g.descriptors.toJson)]

def ItemKind.name : ItemKind → String
  | .gift _ => "gift"
  | .weapon _ => "weapon"
  | .armor _ => "armor"
  | .shield _ => "shield"
  | .extraCareer _ => "extraCareer"
  | .gear _ => "gear"

/-- An item as JSON, its unit weight written by `weight`. -/
def Item.toJson (weight : Float → Json) (i : Item) : Json :=
  .obj ([("id", .str i.id.text), ("name", .str i.name), ("weight", weight i.weight),
    ("quantity", Json.ofNat i.quantity), ("type", .str i.kind.name)] ++ i.kind.members)

end DicePools
