import DicePools.Actor.Basic
import DicePools.Setting.Read

/-! Reading character sheets from JSON by the record rules of `Json.Decode`; an item without an
`id` takes the one `fresh` gives for its position, and gift rules are read leniently. -/

namespace DicePools

open Json

/-- Dice written as text; unreadable terms are skipped with a warning. -/
def Dice.decode : Decoder Dice
  | .str s, _ => (Dice.parse s : Logged Dice)
  | j, here => invalidType j "a string" here

/-- A roll written as text. -/
def StatRoll.decode : Decoder StatRoll
  | .str s, _ => (StatRoll.parse s : Logged StatRoll)
  | j, here => invalidType j "a string" here

/-- An id written as text. -/
def ItemId.decode : Decoder ItemId
  | .str s, here =>
    match ItemId.parse s with
    | .ok i => pure i
    | .error e => failAt ("UUID parsing failed: " ++ e) here
  | j, here => invalidType j "a UUID string" here

/-- A value of a set of names where any other name reads as `other`: the name as a string, or
an object whose single member is the name with `null`. -/
def namedOr {α : Type} (names : List (String × α)) (other : α) : Decoder α
  | .str s, _ => pure ((names.lookup s).getD other)
  | .obj [(s, .null)], _ => pure ((names.lookup s).getD other)
  | .obj [(_, v)], here => invalidType v "unit variant" here
  | .obj _, here => failAt "invalid value: map, expected map with a single key" here
  | j, here => invalidType j "string or map" here

/-- A slot by name; unknown names read as `unknown`. -/
def Equip.decode : Decoder Equip :=
  namedOr (Equip.all.map fun e => (e.name, e)) .unknown

/-- A band by name; unknown names read as `unknown`. -/
def RangeBand.decode : Decoder RangeBand :=
  namedOr (RangeBand.all.map fun r => (r.name, r)) .unknown

/-- Gift rules: an array of rules, each read leniently. -/
def Setting.decodeList : Decoder (List Setting)
  | .arr xs, _ => xs.mapM fun x => (Setting.ofJson x : Logged Setting)
  | j, here => invalidType j "a sequence" here

def Gift.empty : Gift := ⟨.empty, .empty, false, false, none, []⟩

def Weapon.empty : Weapon := ⟨false, .empty, .empty, none, none, .empty, .empty, .empty⟩

def Gift.fields : List (Declared Gift) :=
  [.of "tags" .defaulted KeyList.decode fun g v => { g with tags := v },
   .of "useDice" .defaulted StatRoll.decode fun g v => { g with useDice := v },
   .of "exhaustWhenUsed" .defaulted boolean fun g v => { g with exhaustWhenUsed := v },
   .of "exhausted" .defaulted boolean fun g v => { g with exhausted := v },
   .of "grantsMark" .defaulted (optional string) fun g v => { g with grantsMark := v },
   .of "specialSettings" .defaulted Setting.decodeList fun g v => { g with rules := v }]

def Weapon.fields : List (Declared Weapon) :=
  [.of "readied" .defaulted boolean fun w v => { w with readied := v },
   .of "descriptors" .defaulted KeyList.decode fun w v => { w with descriptors := v },
   .of "effects" .defaulted KeyList.decode fun w v => { w with effects := v },
   .of "equip" .defaulted (optional Equip.decode) fun w v => { w with equip := v },
   .of "range" .defaulted (optional RangeBand.decode) fun w v => { w with range := v },
   .of "attack" .defaulted StatRoll.decode fun w v => { w with attack := v },
   .of "defense" .defaulted StatRoll.decode fun w v => { w with defense := v },
   .of "counter" .defaulted StatRoll.decode fun w v => { w with counter := v }]

def Armor.fields : List (Declared Armor) :=
  [.of "worn" .defaulted boolean fun a v => { a with worn := v },
   .of "dice" .defaulted Dice.decode fun a v => { a with dice := v }]

def Shield.fields : List (Declared Shield) :=
  [.of "held" .defaulted boolean fun s v => { s with held := v },
   .of "dice" .defaulted Dice.decode fun s v => { s with dice := v }]

def Career.fields : List (Declared Career) :=
  [.of "dice" .defaulted Dice.decode fun c v => { c with dice := v },
   .of "skills" .defaulted KeyList.decode fun c v => { c with skills := v }]

def Gear.fields : List (Declared Gear) :=
  [.of "readied" .defaulted boolean fun g v => { g with readied := v },
   .of "descriptors" .defaulted KeyList.decode fun g v => { g with descriptors := v }]

/-- The kind of an item and its data, from the members other than id, name, weight and
quantity: the `type` tag first, then the kind's own members. -/
def ItemKind.decode (ms : List (String × Json)) (here : List Nat) : Decode ItemKind := do
  let tagged := ms.filter (·.1 == "type")
  let rest := ms.filter (·.1 != "type")
  match tagged with
  | [] => failAt "missing field `type`" here
  | _ :: _ :: _ => failAt "duplicate field `type`" here
  | [(_, t)] =>
    let kindName ← match t with
      | .str s =>
        if ItemKind.names.contains s then pure s
        else failAt ("unknown variant `" ++ s ++ "`, expected " ++ oneOf ItemKind.names) here
      | .num (.nat n) =>
        match ItemKind.names[n]? with
        | some s => pure s
        | none => invalidValue (.num (.nat n)) "variant index 0 <= i < 6" here
      | j => invalidType j "variant identifier" here
    match kindName with
    | "gift" => ItemKind.gift <$> kindRecord rest Gift.fields Gift.empty
    | "weapon" => ItemKind.weapon <$> kindRecord rest Weapon.fields Weapon.empty
    | "armor" => ItemKind.armor <$> kindRecord rest Armor.fields ⟨false, .empty⟩
    | "shield" => ItemKind.shield <$> kindRecord rest Shield.fields ⟨false, .empty⟩
    | "extraCareer" => ItemKind.extraCareer <$> kindRecord rest Career.fields ⟨.empty, .empty⟩
    | _ => ItemKind.gear <$> kindRecord rest Gear.fields ⟨false, .empty⟩
where
  /-- A kind's record, from the members other than the tag. -/
  kindRecord {σ : Type} (rest : List (String × Json)) (fields : List (Declared σ)) (init : σ) :
      Decode σ := do
    let (s, _) ← readMembers fields init rest here
    pure s

/-- What is read of an item before its kind: id, name, weight and quantity. -/
structure ItemHead where
  id : Option ItemId
  name : Option String
  weight : Float
  quantity : Nat

/-- The members read before an item's kind. -/
def ItemHead.fields : List (Declared ItemHead) :=
  [.of "id" .defaulted ItemId.decode fun h v => { h with id := some v },
   .of "name" .required string fun h v => { h with name := some v },
   .of "weight" .defaulted float fun h v => { h with weight := v },
   .of "quantity" .defaulted u32 fun h v => { h with quantity := v }]

/-- An item; `fresh` is its id when it has none. -/
def Item.decode (fresh : ItemId) : Decoder Item
  | .obj ms, here => do
    let (head, seen) ← readMembers ItemHead.fields ⟨none, none, 0, 1⟩ ms here
    checkRequired ItemHead.fields seen here
    let others := ms.filter fun (k, _) => !(ItemHead.fields.any (·.name == k))
    let kind ← pointAfter here (ItemKind.decode others here)
    pure ⟨head.id.getD fresh, head.name.getD "", head.weight, head.quantity, kind⟩
  | j, here => invalidType j "struct Item" here

/-- Items in order; item `i` (from 0) without an id takes `fresh i`. -/
def Item.decodeList (fresh : Nat → ItemId) : Decoder (List Item)
  | .arr xs, here => (xs.zipIdx).mapM fun (x, i) => Item.decode (fresh i) x (i :: here)
  | j, here => invalidType j "a sequence" here

def Trait.fields : List (Declared Trait) :=
  [.of "key" .required string fun t v => { t with key := v },
   .of "name" .defaulted (optional string) fun t v => { t with name := v },
   .of "dice" .required Dice.decode fun t v => { t with dice := v },
   .of "skills" .defaulted KeyList.decode fun t v => { t with skills := v }]

def Trait.decode : Decoder Trait := record "struct Trait" Trait.fields ⟨"", none, .empty, .empty⟩

/-- A skill's members; its dice are derived, not read. -/
def Skill.fields : List (Declared Skill) :=
  [.of "key" .required string fun s v => { s with key := v },
   .of "name" .defaulted string fun s v => { s with name := v },
   .of "marks" .defaulted u32 fun s v => { s with marks := v }]

def Skill.decode : Decoder Skill := record "struct Skill" Skill.fields ⟨"", "", 0, .empty, .empty⟩

/-- Coins by currency: the last of equal keys counts, sorted by key. -/
def coinageDecode : Decoder (List (String × Nat)) := fun j here => do
  pure (sortedMap (← members u64 j here))

def Actor.fields (fresh : Nat → ItemId) : List (Declared Actor) :=
  [.of "name" .defaulted string fun a v => { a with name := v },
   .of "traits" .defaulted (list Trait.decode) fun a v => { a with traits := v },
   .of "skills" .defaulted (list Skill.decode) fun a v => { a with skills := v },
   .of "items" .defaulted (Item.decodeList fresh) fun a v => { a with items := v },
   .of "conditions" .defaulted Conditions.decode fun a v => { a with conditions := v },
   .of "coinage" .defaulted coinageDecode fun a v => { a with coinage := v }]

def Actor.empty : Actor := ⟨"", [], [], [], Conditions.empty, []⟩

/-- A sheet, not yet prepared; item `i` (from 0) without an id takes `fresh i`. -/
def Actor.decode (fresh : Nat → ItemId) : Decoder Actor :=
  record "struct Actor" (Actor.fields fresh) Actor.empty

end DicePools
