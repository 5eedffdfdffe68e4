import DicePools.Proofs.ConditionStore
import Mathlib.Data.String.Basic

/-! Sorting object members by key, and the class of every number of a value. -/

namespace DicePools
namespace Json

/-- The members of an object in canonical order: inserted one by one by key, the last of equal
keys kept. -/
def sortMembers (ms : List (String × Json)) : List (String × Json) :=
  ms.foldl (fun acc m => insertSorted m.1 m.2 acc) []

def KeysSorted (ms : List (String × Json)) : Prop := ms.Pairwise (·.1 < ·.1)

theorem mem_insertSorted {k : String} {v : Json} {acc : List (String × Json)}
    {m : String × Json} (hm : m ∈ insertSorted k v acc) : m = (k, v) ∨ m ∈ acc := by
  induction acc with
  | nil => simpa [insertSorted] using hm
  | cons n acc ih =>
    unfold insertSorted at hm
    split at hm
    next => exact (List.mem_cons.mp hm).imp_right (List.mem_cons_of_mem _)
    next =>
      split at hm
      next => simpa using hm
      next =>
        rcases List.mem_cons.mp hm with rfl | hm
        · exact .inr List.mem_cons_self
        · exact (ih hm).imp_right (List.mem_cons_of_mem _)

theorem insertSorted_of_lt {k : String} {v : Json} {acc : List (String × Json)}
    (h : ∀ m ∈ acc, k < m.1) : insertSorted k v acc = (k, v) :: acc := by
  cases acc with
  | nil => rfl
  | cons n acc =>
    have hlt : k < n.1 := h n List.mem_cons_self
    unfold insertSorted
    rw [if_neg (ne_of_lt hlt), if_pos hlt]

theorem KeysSorted.insertSorted {k : String} {v : Json} {acc : List (String × Json)}
    (hs : KeysSorted acc) : KeysSorted (Json.insertSorted k v acc) := by
  induction acc with
  | nil => simp [Json.insertSorted, KeysSorted]
  | cons n acc ih =>
    obtain ⟨hn, hacc⟩ := List.pairwise_cons.mp hs
    unfold Json.insertSorted
    split
    next heq =>
      subst heq
      exact List.pairwise_cons.mpr ⟨hn, hacc⟩
    next hne =>
      split
      next hlt =>
        refine List.pairwise_cons.mpr ⟨fun m hm => ?_, hs⟩
        rcases List.mem_cons.mp hm with rfl | hm
        · exact hlt
        · exact lt_trans hlt (hn m hm)
      next hnlt =>
        have hgt : n.1 < k := (lt_or_gt_of_ne (Ne.symm hne)).resolve_right hnlt
        refine List.pairwise_cons.mpr ⟨fun m hm => ?_, ih hacc⟩
        rcases mem_insertSorted hm with rfl | hm
        · exact hgt
        · exact hn m hm

/-- On sorted members, inserting and then keeping the members whose keys pass `p` is keeping
them first and inserting only when the new key passes. -/
theorem filter_insertSorted (p : String → Bool) {k : String} {v : Json}
    {acc : List (String × Json)} (hs : KeysSorted acc) :
    (insertSorted k v acc).filter (fun m => p m.1) =
      if p k then insertSorted k v (acc.filter fun m => p m.1) else acc.filter fun m => p m.1 := by
  induction acc with
  | nil => cases hp : p k <;> simp [insertSorted, hp]
  | cons n acc ih =>
    obtain ⟨hn, hacc⟩ := List.pairwise_cons.mp hs
    obtain ⟨k', v'⟩ := n
    rw [insertSorted.eq_2]
    by_cases heq : k = k'
    · subst heq
      cases hp : p k <;> simp [hp, insertSorted.eq_2]
    by_cases hlt : k < k'
    · -- every key kept from the list is above the new one
      have hgt : ∀ m ∈ ((k', v') :: acc).filter (fun m => p m.1), k < m.1 := by
        intro m hm
        rcases List.mem_cons.mp (List.mem_of_mem_filter hm) with h | hm
        · rw [h]; exact hlt
        · exact lt_trans hlt (hn m hm)
      rw [if_neg heq, if_pos hlt]
      cases hp : p k
      · simp [List.filter_cons, hp]
      · rw [if_pos rfl, insertSorted_of_lt hgt]
        exact List.filter_cons_of_pos hp
    · rw [if_neg heq, if_neg hlt, List.filter_cons, List.filter_cons, ih hacc]
      cases hp : p k <;> cases hp' : p k' <;> simp [insertSorted.eq_2, heq, hlt]

theorem KeysSorted.foldl_insertSorted {acc : List (String × Json)} (hs : KeysSorted acc)
    (ms : List (String × Json)) :
    KeysSorted (ms.foldl (fun acc m => Json.insertSorted m.1 m.2 acc) acc) := by
  induction ms generalizing acc with
  | nil => exact hs
  | cons m ms ih => exact ih hs.insertSorted

theorem keysSorted_sortMembers (ms : List (String × Json)) : KeysSorted (sortMembers ms) :=
  KeysSorted.foldl_insertSorted List.Pairwise.nil ms

theorem filter_foldl_insertSorted (p : String → Bool) (ms : List (String × Json))
    {acc : List (String × Json)} (hs : KeysSorted acc) :
    (ms.foldl (fun acc m => insertSorted m.1 m.2 acc) acc).filter (fun m => p m.1) =
      (ms.filter fun m => p m.1).foldl (fun acc m => insertSorted m.1 m.2 acc)
        (acc.filter fun m => p m.1) := by
  induction ms generalizing acc with
  | nil => rfl
  | cons m ms ih =>
    rw [List.foldl_cons, ih hs.insertSorted, filter_insertSorted p hs, List.filter_cons]
    split <;> rfl

theorem filter_sortMembers (p : String → Bool) (ms : List (String × Json)) :
    (sortMembers ms).filter (fun m => p m.1) = sortMembers (ms.filter fun m => p m.1) :=
  filter_foldl_insertSorted p ms List.Pairwise.nil

theorem find?_sortMembers (key : String) (ms : List (String × Json)) :
    (sortMembers ms).find? (fun m => m.1 == key) =
      (sortMembers (ms.filter fun m => m.1 == key)).head? := by
  rw [← List.head?_filter, filter_sortMembers (· == key)]

/-! ## Canonical values -/

@[simp] theorem canonical_null : null.canonical = null := canonical.eq_3 _ (by simp) (by simp)

@[simp] theorem canonical_bool (b : Bool) : (bool b).canonical = bool b :=
  canonical.eq_3 _ (by simp) (by simp)

@[simp] theorem canonical_num (n : Number) : (num n).canonical = num n :=
  canonical.eq_3 _ (by simp) (by simp)

@[simp] theorem canonical_str (s : String) : (str s).canonical = str s :=
  canonical.eq_3 _ (by simp) (by simp)

@[simp] theorem canonical_arr (xs : List Json) : (arr xs).canonical = arr (xs.map canonical) := by
  rw [canonical]
  exact congrArg arr List.attach_map_val

theorem canonical_obj (ms : List (String × Json)) :
    (obj ms).canonical = obj (sortMembers (ms.map fun m => (m.1, m.2.canonical))) := by
  rw [canonical]
  exact congrArg (fun l => obj (sortMembers l))
    (@List.attach_map_val _ _ ms fun m => (m.1, m.2.canonical))

theorem mem_foldl_insertSorted {m : String × Json} (ms : List (String × Json))
    {acc : List (String × Json)} (h : m ∈ ms.foldl (fun acc m => insertSorted m.1 m.2 acc) acc) :
    m ∈ ms ∨ m ∈ acc := by
  induction ms generalizing acc with
  | nil => exact .inr h
  | cons n ms ih =>
    rcases ih h with hm | hm
    · exact .inl (List.mem_cons_of_mem _ hm)
    · rcases mem_insertSorted hm with rfl | hm
      · exact .inl List.mem_cons_self
      · exact .inr hm

theorem mem_of_mem_sortMembers {m : String × Json} {ms : List (String × Json)}
    (h : m ∈ sortMembers ms) : m ∈ ms :=
  (mem_foldl_insertSorted ms h).resolve_right List.not_mem_nil

end Json

/-! ## Numbers in their class -/

/-- A number in the class its constructor documents: below `2 ^ 64`, or negative and not below
`-2 ^ 63`. -/
def Number.Classed : Number → Prop
  | .nat n => n < 18446744073709551616
  | .neg n => -9223372036854775808 ≤ n ∧ n < 0
  | .float _ => True

namespace Json

/-- Every number of the value is in its class, as in every value the parser builds. -/
inductive Classed : Json → Prop
  | null : Classed Json.null
  | bool (b : Bool) : Classed (Json.bool b)
  | num {n : Number} (h : n.Classed) : Classed (Json.num n)
  | str (s : String) : Classed (Json.str s)
  | arr {xs : List Json} (h : ∀ x ∈ xs, Classed x) : Classed (Json.arr xs)
  | obj {ms : List (String × Json)} (h : ∀ m ∈ ms, Classed m.2) : Classed (Json.obj ms)

theorem Classed.canonical {j : Json} (h : j.Classed) : j.canonical.Classed := by
  induction h with
  | null => simpa using Classed.null
  | bool b => simpa using Classed.bool b
  | num h => simpa using Classed.num h
  | str s => simpa using Classed.str s
  | arr _ ih =>
    rw [canonical_arr]
    refine .arr fun x hx => ?_
    obtain ⟨x', hx', rfl⟩ := List.mem_map.mp hx
    exact ih x' hx'
  | obj _ ih =>
    rw [canonical_obj]
    refine .obj fun m hm => ?_
    obtain ⟨m', hm', rfl⟩ := List.mem_map.mp (mem_of_mem_sortMembers hm)
    exact ih m' hm'

end Json
end DicePools
