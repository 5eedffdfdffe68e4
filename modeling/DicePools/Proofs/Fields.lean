import DicePools.Pool.Construction
import Mathlib.Data.List.Basic

/-! Inserting pool fields by id, one at a time and in folds. -/

namespace DicePools
namespace Construction

/-- Inserting into a list of fields: the first field with the same id is replaced, or the field
goes last. -/
def insertFirst : List PoolField → PoolField → List PoolField
  | [], f => [f]
  | g :: gs, f => if g.id = f.id then f :: gs else g :: insertFirst gs f

variable {fs hs : List PoolField} {f g : PoolField}

theorem insertFirst_eq_match (fs : List PoolField) (f : PoolField) :
    insertFirst fs f = match fs.findIdx? (·.id == f.id) with
      | some k => fs.set k f
      | none => fs ++ [f] := by
  induction fs with
  | nil => rfl
  | cons g gs ih =>
    rw [List.findIdx?_cons]
    by_cases h : g.id = f.id
    · simp [insertFirst, h]
    · rcases hk : gs.findIdx? (·.id == f.id) with _ | k <;> simp only [hk] at ih <;>
        simp [insertFirst, h, hk, ih]

@[simp] theorem insertField_fields (c : Construction) (f : PoolField) :
    (c.insertField f).fields = insertFirst c.fields f := by
  rw [insertFirst_eq_match, insertField]
  cases c.fields.findIdx? (·.id == f.id) <;> rfl

@[simp] theorem precheck_fields (c : Construction) (stat : String) :
    (c.precheck stat).fields = c.fields := by
  unfold precheck
  simp only
  split <;> rfl

theorem foldl_precheck_fields (c : Construction) (stats : List String) :
    (stats.foldl precheck c).fields = c.fields := by
  induction stats generalizing c with
  | nil => rfl
  | cons s stats ih => rw [List.foldl_cons, ih, precheck_fields]

theorem insertFirst_of_not_mem (h : f.id ∉ fs.map (·.id)) : insertFirst fs f = fs ++ [f] := by
  induction fs with
  | nil => rfl
  | cons g gs ih =>
    simp only [List.map_cons, List.mem_cons, not_or] at h
    simp [insertFirst, Ne.symm h.1, ih h.2]

theorem ids_insertFirst (fs : List PoolField) (f : PoolField) :
    (insertFirst fs f).map (·.id) =
      if f.id ∈ fs.map (·.id) then fs.map (·.id) else fs.map (·.id) ++ [f.id] := by
  induction fs with
  | nil => rfl
  | cons g gs ih =>
    by_cases h : g.id = f.id
    · simp [insertFirst, h]
    · have hfg : f.id ≠ g.id := Ne.symm h
      simp only [insertFirst, h, if_false, List.map_cons, ih, List.mem_cons, hfg, false_or]
      split <;> simp

theorem ids_prefix_foldl_insertFirst (fs hs : List PoolField) :
    fs.map (·.id) <+: (hs.foldl insertFirst fs).map (·.id) := by
  induction hs generalizing fs with
  | nil => exact List.prefix_refl _
  | cons h hs ih =>
    have hstep : fs.map (·.id) <+: (insertFirst fs h).map (·.id) := by
      rw [ids_insertFirst]
      split
      · exact List.prefix_refl _
      · exact List.prefix_append _ _
    exact hstep.trans (ih _)

theorem mem_ids_foldl_insertFirst {x : String} :
    x ∈ (hs.foldl insertFirst fs).map (·.id) ↔ x ∈ fs.map (·.id) ∨ x ∈ hs.map (·.id) := by
  induction hs generalizing fs with
  | nil => simp
  | cons h hs ih =>
    rw [List.foldl_cons, ih, ids_insertFirst]
    by_cases hh : h.id ∈ fs.map (·.id)
    · rw [if_pos hh, List.map_cons, List.mem_cons]
      constructor
      · rintro (hx | hx)
        · exact .inl hx
        · exact .inr (.inr hx)
      · rintro (hx | rfl | hx)
        · exact .inl hx
        · exact .inl hh
        · exact .inr hx
    · rw [if_neg hh, List.map_cons, List.mem_cons, List.mem_append, List.mem_singleton]
      exact or_assoc

theorem find?_insertFirst (fs : List PoolField) (f : PoolField) (x : String) :
    (insertFirst fs f).find? (·.id == x) = if f.id = x then some f else fs.find? (·.id == x) := by
  induction fs with
  | nil => by_cases hx : f.id = x <;> simp [insertFirst, hx]
  | cons g gs ih =>
    by_cases h : g.id = f.id
    · by_cases hx : f.id = x <;> simp [insertFirst, h, hx]
    · by_cases hx : f.id = x
      · subst hx
        simp_all [insertFirst]
      · simp [insertFirst, h, hx, ih, List.find?_cons]

/-- After a run of insertions, the field found under an id is the last one inserted under it,
else the one found before. -/
theorem find?_foldl_insertFirst (fs hs : List PoolField) (x : String) :
    (hs.foldl insertFirst fs).find? (·.id == x) =
      (hs.reverse.find? (·.id == x)).or (fs.find? (·.id == x)) := by
  induction hs generalizing fs with
  | nil => simp
  | cons h hs ih =>
    rw [List.foldl_cons, ih, find?_insertFirst, List.reverse_cons, List.find?_append,
      Option.or_assoc]
    by_cases hx : h.id = x <;> simp [hx]

theorem find?_foldl_insertFirst_of_filter {x : String} (h : hs.filter (·.id == x) = [f]) :
    (hs.foldl insertFirst fs).find? (·.id == x) = some f := by
  rw [find?_foldl_insertFirst, ← List.head?_filter, List.filter_reverse, h]
  rfl

theorem getElem?_insertFirst_of_ne {i : Nat} (hi : fs[i]? = some g) (hne : g.id ≠ f.id) :
    (insertFirst fs f)[i]? = some g := by
  induction fs generalizing i with
  | nil => simp at hi
  | cons g' gs ih =>
    cases i with
    | zero =>
      simp only [List.getElem?_cons_zero, Option.some.injEq] at hi
      subst hi
      simp [insertFirst, hne]
    | succ j =>
      simp only [List.getElem?_cons_succ] at hi
      by_cases h : g'.id = f.id <;> simp [insertFirst, h, hi, ih hi]

theorem getElem?_foldl_insertFirst_of_not_mem {i : Nat} (hi : fs[i]? = some g)
    (h : g.id ∉ hs.map (·.id)) : (hs.foldl insertFirst fs)[i]? = some g := by
  induction hs generalizing fs with
  | nil => exact hi
  | cons f hs ih =>
    simp only [List.map_cons, List.mem_cons, not_or] at h
    exact ih (getElem?_insertFirst_of_ne hi h.1) h.2

theorem getElem?_id_foldl_insertFirst {i : Nat} (hi : i < fs.length) (hs : List PoolField) :
    ((hs.foldl insertFirst fs)[i]?).map (·.id) = (fs[i]?).map (·.id) := by
  obtain ⟨rest, hrest⟩ := ids_prefix_foldl_insertFirst fs hs
  rw [← List.getElem?_map, ← List.getElem?_map, ← hrest,
    List.getElem?_append_left (by simpa using hi)]

theorem filter_insertFirst (p : String → Bool) (fs : List PoolField) (f : PoolField) :
    (insertFirst fs f).filter (p ·.id) =
      if p f.id then insertFirst (fs.filter (p ·.id)) f else fs.filter (p ·.id) := by
  induction fs with
  | nil => by_cases hp : p f.id <;> simp [insertFirst, hp]
  | cons g gs ih =>
    by_cases h : g.id = f.id
    · by_cases hp : p f.id <;> simp [insertFirst, h, hp]
    · by_cases hp : p f.id <;> by_cases hg : p g.id <;> simp [insertFirst, h, hp, hg, ih]

theorem filter_foldl_insertFirst (p : String → Bool) (fs hs : List PoolField) :
    (hs.foldl insertFirst fs).filter (p ·.id) =
      (hs.filter (p ·.id)).foldl insertFirst (fs.filter (p ·.id)) := by
  induction hs generalizing fs with
  | nil => rfl
  | cons h hs ih =>
    rw [List.foldl_cons, ih, filter_insertFirst]
    by_cases hp : p h.id <;> simp [hp]

/-- Fields with ids new to the list and to each other are appended in order. -/
theorem foldl_insertFirst_of_nodup (h : (fs.map (·.id) ++ hs.map (·.id)).Nodup) :
    hs.foldl insertFirst fs = fs ++ hs := by
  induction hs generalizing fs with
  | nil => simp
  | cons f hs ih =>
    have hf : f.id ∉ fs.map (·.id) := by
      intro hm
      exact (List.nodup_append.mp h).2.2 _ hm _ List.mem_cons_self rfl
    rw [List.foldl_cons, insertFirst_of_not_mem hf, ih (by simpa using h)]
    simp

theorem filter_id_eq_singleton (h : (hs.map (·.id)).Nodup) (hf : f ∈ hs) :
    hs.filter (·.id == f.id) = [f] := by
  induction hs with
  | nil => simp at hf
  | cons g gs ih =>
    rw [List.map_cons, List.nodup_cons] at h
    rcases List.mem_cons.mp hf with rfl | hf
    · have hrest : gs.filter (·.id == f.id) = [] :=
        List.filter_eq_nil_iff.mpr fun g hg hgf => h.1 (beq_iff_eq.mp hgf ▸ List.mem_map_of_mem hg)
      simp [hrest]
    · have hg : g.id ≠ f.id := fun he => h.1 (he ▸ List.mem_map_of_mem hf)
      simp [hg, ih h.2 hf]

theorem id_not_mem_of_filter_append_cons {L R : List PoolField}
    (h : (L ++ f :: R).filter (·.id == f.id) = [f]) : f.id ∉ L.map (·.id) := by
  rw [List.filter_append, List.filter_cons_of_pos (by simp), List.append_eq_singleton_iff] at h
  have hL : L.filter (·.id == f.id) = [] := by
    rcases h with ⟨hL, -⟩ | ⟨-, hR⟩
    · exact hL
    · cases hR
  intro hmem
  obtain ⟨x, hx, hxf⟩ := List.mem_map.mp hmem
  exact List.filter_eq_nil_iff.mp hL x hx (by simp [hxf])

theorem not_mem_ids_of_field?_eq_none {c : Construction} {x : String} (h : c.field? x = none) :
    x ∉ c.fields.map (·.id) := by
  intro hmem
  obtain ⟨g, hg, hgx⟩ := List.mem_map.mp hmem
  exact List.find?_eq_none.mp h g hg (by simp [hgx])

theorem findIdx_lt_foldl_insertFirst {x y : String} (hx : x ∈ fs.map (·.id))
    (hy : y ∉ fs.map (·.id)) (hs : List PoolField) :
    (hs.foldl insertFirst fs).findIdx (·.id == x) < (hs.foldl insertFirst fs).findIdx (·.id == y) := by
  obtain ⟨rest, hrest⟩ := ids_prefix_foldl_insertFirst fs hs
  have hidx (z : String) : (hs.foldl insertFirst fs).findIdx (·.id == z) =
      (fs.map (·.id) ++ rest).findIdx (· == z) := by
    rw [hrest, List.findIdx_map]
    rfl
  have hxlt : (fs.map (·.id)).findIdx (· == x) < (fs.map (·.id)).length :=
    List.findIdx_lt_length.mpr ⟨x, hx, by simp⟩
  have hyge : ¬ (fs.map (·.id)).findIdx (· == y) < (fs.map (·.id)).length := by
    rw [List.findIdx_lt_length]
    rintro ⟨z, hz, hzy⟩
    exact hy ((beq_iff_eq.mp hzy) ▸ hz)
  rw [hidx, hidx, List.findIdx_append, List.findIdx_append, if_pos hxlt, if_neg hyge]
  omega

end Construction
end DicePools
