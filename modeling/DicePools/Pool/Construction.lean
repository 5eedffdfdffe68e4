import DicePools.Item.Id
import DicePools.Dice.Text
import DicePools.Name
import DicePools.Json.Basic

/-! Pool constructions: the selected stats, the optional fields keyed by id, and the label. -/

namespace DicePools

/-- One optional block of dice offered beside the selected stats. -/
structure PoolField where
  id : String
  name : String
  dice : Dice
  checked : Bool
  /-- The item that contributed the field. -/
  source : Option ItemId
  /-- Whether rolling the field exhausts its source. -/
  exhaustsOnUse : Bool
  deriving Inhabited

def PoolField.plain (id name : String) (dice : Dice) : PoolField := ⟨id, name, dice, true, none, false⟩

/-- Everything gathered for one roll. -/
structure Construction where
  prechecked : List String
  fields : List PoolField
  label : String
  deriving Inhabited

namespace Construction

def empty : Construction := ⟨[], [], ""⟩

/-- Selects a stat, as a key, unless it is blank or already selected. -/
def precheck (c : Construction) (stat : String) : Construction :=
  let k := Name.key stat
  if k.isEmpty || c.prechecked.contains k then c else { c with prechecked := c.prechecked ++ [k] }

def withPrechecked (stats : List String) : Construction := stats.foldl precheck empty

/-- Adds a field, replacing the first field with the same id in place. -/
def insertField (c : Construction) (f : PoolField) : Construction :=
  match c.fields.findIdx? (·.id == f.id) with
  | some k => { c with fields := c.fields.set k f }
  | none => { c with fields := c.fields ++ [f] }

def field? (c : Construction) (id : String) : Option PoolField := c.fields.find? (·.id == id)

/-- Sets the checkbox of the first field with an id; false when there is none. -/
def setChecked (c : Construction) (id : String) (checked : Bool) : Construction × Bool :=
  match c.fields.findIdx? (·.id == id) with
  | some k => ({ c with fields := c.fields.modify k fun f => { f with checked := checked } }, true)
  | none => (c, false)

def checkedFields (c : Construction) : List PoolField := c.fields.filter (·.checked)

/-- Appends text to the label, after a space unless the label is empty; empty text adds
nothing. -/
def pushLabel (c : Construction) (text : String) : Construction :=
  if text.isEmpty then c
  else if c.label.isEmpty then { c with label := text }
  else { c with label := c.label ++ " " ++ text }

theorem precheck_nodup (c : Construction) (h : c.prechecked.Nodup) (stat : String) :
    (c.precheck stat).prechecked.Nodup := by
  unfold precheck
  simp only
  split
  · exact h
  · rename_i hk
    simp only [Bool.or_eq_true, not_or, Bool.not_eq_true] at hk
    rw [List.nodup_append]
    refine ⟨h, by simp, ?_⟩
    intro a ha b hb hab
    simp only [List.mem_singleton] at hb
    subst hb hab
    simp_all

end Construction

/-- A field as JSON, its dice in short form. -/
def PoolField.toJson (f : PoolField) : Json :=
  .obj [("id", .str f.id), ("name", .str f.name), ("dice", .str (f.dice.format true)),
    ("checked", .bool f.checked), ("source", Json.ofOption (fun i => .str i.text) f.source),
    ("exhausts_on_use", .bool f.exhaustsOnUse)]

def Construction.toJson (c : Construction) : Json :=
  .obj [("prechecked", Json.ofStrings c.prechecked), ("fields", .arr (c.fields.map PoolField.toJson)),
    ("label", .str c.label)]

end DicePools
