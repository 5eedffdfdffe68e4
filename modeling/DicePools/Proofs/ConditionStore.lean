import DicePools.Actor.Read
import DicePools.Proofs.NameKey
/-! Compare-ready condition stores. Main statement: `compareReady_unless_snapshot_unkeyed`. -/

namespace DicePools

theorem mem_insertSortedSet {x y : String} {l : List String} :
    y ∈ insertSortedSet x l ↔ y = x ∨ y ∈ l := by
  induction l with
  | nil => simp [insertSortedSet]
  | cons z zs ih =>
    by_cases heq : x = z
    · subst heq
      simp [insertSortedSet]
    · by_cases hlt : x < z
      · simp [insertSortedSet, heq, hlt]
      · simp only [insertSortedSet, heq, hlt, if_false, List.mem_cons, ih]
        exact or_left_comm

theorem mem_foldl_insertSortedSet {y : String} (ks l : List String) :
    y ∈ ks.foldl (fun acc k => insertSortedSet k acc) l ↔ y ∈ ks ∨ y ∈ l := by
  induction ks generalizing l with
  | nil => simp
  | cons k ks ih =>
    simp only [List.foldl_cons, ih, mem_insertSortedSet, List.mem_cons]
    rw [or_assoc]
    exact or_left_comm

theorem Json.insertByKey_subset {α : Type} (k : String) (v : α) (l : List (String × α)) :
    Json.insertByKey k v l ⊆ (k, v) :: l := by
  induction l with
  | nil => simp [Json.insertByKey]
  | cons p ps ih =>
    obtain ⟨k', v'⟩ := p
    intro q hq
    simp only [Json.insertByKey] at hq
    simp only [List.mem_cons]
    by_cases heq : k = k'
    · rw [if_pos heq] at hq
      exact (List.mem_cons.1 hq).imp id .inr
    · by_cases hlt : k < k'
      · simpa [heq, hlt] using hq
      · rw [if_neg heq, if_neg hlt] at hq
        rcases List.mem_cons.1 hq with h | h
        · exact .inr (.inl h)
        · exact (List.mem_cons.1 (ih h)).imp id .inr

theorem lookup_cons_ite {α : Type} (k k' : String) (v : α) (l : List (String × α)) :
    ((k, v) :: l).lookup k' = if k' = k then some v else l.lookup k' := by
  by_cases h : k' = k
  · subst h
    rw [List.lookup_cons_self, if_pos rfl]
  · rw [List.lookup_cons, beq_false_of_ne h, if_neg h]

theorem Json.lookup_insertByKey {α : Type} (k k' : String) (v : α) (l : List (String × α)) :
    (Json.insertByKey k v l).lookup k' = if k' = k then some v else l.lookup k' := by
  induction l with
  | nil => simp [Json.insertByKey, lookup_cons_ite]
  | cons p ps ih =>
    obtain ⟨k'', v''⟩ := p
    by_cases heq : k = k''
    · subst heq
      by_cases hk : k' = k <;> simp [Json.insertByKey, lookup_cons_ite, hk]
    · by_cases hlt : k < k''
      · simp only [Json.insertByKey, heq, hlt, if_false, if_true, lookup_cons_ite]
      · simp only [Json.insertByKey, heq, hlt, if_false, lookup_cons_ite, ih]
        by_cases hk : k' = k''
        · subst hk
          simp [Ne.symm heq]
        · simp [hk]

namespace Conditions

/-- A store is compare-ready when its active names and quota keys are their own keys. -/
structure CompareReady (c : Conditions) : Prop where
  active : ∀ x ∈ c.active, Name.key x = x
  quotas : ∀ q ∈ c.quotas, Name.key q.1 = q.1

theorem compareReady_empty : empty.CompareReady := ⟨by simp [empty], by simp [empty]⟩

theorem compareReady_withActive (names : List String) : (withActive names).CompareReady := by
  refine ⟨fun x hx => ?_, by simp [withActive]⟩
  simp only [withActive, mem_foldl_insertSortedSet, List.mem_map, List.not_mem_nil,
    or_false] at hx
  obtain ⟨n, -, rfl⟩ := hx
  exact Name.key_key n

theorem compareReady_written_iff (written : List String) :
    (⟨written.foldl (fun acc k => insertSortedSet k acc) [], []⟩ : Conditions).CompareReady ↔
      ∀ x ∈ written, Name.key x = x := by
  constructor
  · intro h x hx
    exact h.active x ((mem_foldl_insertSortedSet written []).2 (.inl hx))
  · intro h
    refine ⟨fun x hx => ?_, by simp⟩
    simp only [mem_foldl_insertSortedSet, List.not_mem_nil, or_false] at hx
    exact h x hx

/-! Each update, as queries see it. -/

theorem has_add (c : Conditions) (names : List String) (n : String) :
    (c.add names).has n = true ↔ c.has n = true ∨ ∃ x ∈ names, Name.key x = Name.key n := by
  simp only [has, Conditions.add, List.contains_iff_mem, mem_foldl_insertSortedSet, List.mem_map]
  exact or_comm

theorem has_remove (c : Conditions) (names : List String) (n : String) :
    (c.remove names).has n = true ↔ c.has n = true ∧ ∀ x ∈ names, Name.key x ≠ Name.key n := by
  simp [has, Conditions.remove]

theorem quota_setQuota (c : Conditions) (name : String) (value : Int) (n : String) :
    (c.setQuota name value).quota n =
      if Name.key n = Name.key name then some value else c.quota n := by
  simp only [quota, Conditions.setQuota, Json.lookup_insertByKey]

section
variable {c : Conditions} (h : c.CompareReady)
include h

theorem CompareReady.add (names : List String) : (c.add names).CompareReady := by
  refine ⟨fun x hx => ?_, h.quotas⟩
  simp only [Conditions.add, mem_foldl_insertSortedSet, List.mem_map] at hx
  rcases hx with ⟨n, -, rfl⟩ | hx
  · exact Name.key_key n
  · exact h.active x hx

theorem CompareReady.remove (names : List String) : (c.remove names).CompareReady :=
  ⟨fun x hx => h.active x (List.mem_filter.1 hx).1, h.quotas⟩

theorem CompareReady.setQuota (name : String) (value : Int) :
    (c.setQuota name value).CompareReady := by
  refine ⟨h.active, fun q hq => ?_⟩
  rcases List.mem_cons.1 (Json.insertByKey_subset _ _ _ hq) with rfl | hq
  · exact Name.key_key name
  · exact h.quotas q hq

theorem CompareReady.has_iff (name : String) :
    c.has name = true ↔ ∃ x ∈ c.active, Name.key x = Name.key name := by
  simp only [has, List.contains_iff_mem]
  constructor
  · intro hk
    exact ⟨_, hk, Name.key_key name⟩
  · rintro ⟨x, hx, hkey⟩
    rwa [← hkey, h.active x hx]

end

end Conditions

/-! ## Reading a store from a snapshot -/

namespace Json

theorem run_value_bind {α β : Type} (x : Decode α) (f : α → Decode β) :
    (x >>= f).run.value = x.run.value.bind fun a => (f a).run.value := by
  show (ExceptT.bindCont f x.run.value).value = _
  cases x.run.value <;> rfl

theorem run_value_pure {α : Type} (a : α) : (pure a : Decode α).run.value = .ok a := rfl

theorem mapM_string_strs (xs : List String) (k : Nat) (here : List Nat) :
    (((xs.map str).zipIdx k).mapM fun (x, i) => string x (i :: here)).run.value = .ok xs := by
  induction xs generalizing k with
  | nil => rfl
  | cons x xs ih =>
    simp only [List.map_cons, List.zipIdx_cons, List.mapM_cons, run_value_bind, ih]
    rfl

theorem update_of {σ α : Type} (name : String) (presence : Presence) (d : Decoder α)
    (put : σ → α → σ) (j : Json) (here : List Nat) (s : σ) :
    ((Declared.of name presence d put).update j here s).run.value =
      (d j here).run.value.map (put s) := by
  simp only [Declared.of, run_value_bind, run_value_pure]
  cases (d j here).run.value <;> rfl

theorem checkRequired_of_defaulted {σ : Type} {fields : List (Declared σ)}
    (h : ∀ f ∈ fields, f.presence ≠ .required) (seen : List String) (here : List Nat) :
    (checkRequired fields seen here).run.value = .ok () := by
  have hnone : (fields.find? fun f => f.presence == .required && !seen.contains f.name) = none := by
    simp only [List.find?_eq_none, Bool.and_eq_true, beq_iff_eq, not_and]
    exact fun f hf hreq => absurd hreq (h f hf)
  simp only [checkRequired, hnone]
  rfl

/-- An object with one member, read as a record whose members all have defaults, is read by
that member's declaration alone. -/
theorem record_single {σ : Type} (expected : String) {fields : List (Declared σ)} (init : σ)
    {k : String} {f : Declared σ} (hf : fields.find? (·.name == k) = some f)
    (hdef : ∀ f ∈ fields, f.presence ≠ .required) (v : Json) (here : List Nat) :
    (record expected fields init (.obj [(k, v)]) here).run.value =
      (f.update v (0 :: here) init).run.value := by
  simp only [record, readMembers, List.zipIdx_cons, List.zipIdx_nil, List.foldlM_cons,
    List.foldlM_nil, hf, List.contains_nil, Bool.false_eq_true, if_false, run_value_bind,
    run_value_pure]
  cases (f.update v (0 :: here) init).run.value with
  | error e => rfl
  | ok s => simp only [Except.bind, checkRequired_of_defaulted hdef]

end Json

theorem Conditions.decode_active (written : List String) (here : List Nat) :
    (Conditions.decode (.obj [("active", .arr (written.map .str))]) here).run.value =
      .ok ⟨written.foldl (fun acc k => insertSortedSet k acc) [], []⟩ := by
  simp only [Conditions.decode, Json.run_value_bind]
  rw [Json.record_single _ _ rfl (by simp [Json.Declared.of]), Json.update_of]
  simp only [Json.list, Json.mapM_string_strs]
  rfl

/-- A snapshot of a sheet that writes only its active conditions. -/
def conditionsSnapshot (written : List String) : Json :=
  .obj [("conditions", .obj [("active", .arr (written.map .str))])]

theorem decode_conditionsSnapshot (fresh : Nat → ItemId) (written : List String) :
    (Actor.decode fresh (conditionsSnapshot written) []).run.value =
      .ok { Actor.empty with
        conditions := ⟨written.foldl (fun acc k => insertSortedSet k acc) [], []⟩ } := by
  rw [Actor.decode, conditionsSnapshot,
    Json.record_single _ _ rfl (by simp [Actor.fields, Json.Declared.of]), Json.update_of,
    Conditions.decode_active]
  rfl

theorem Actor.prepare_conditions {a a' : Actor} (h : a.prepare = .ok a') :
    a'.conditions = a.conditions := by
  simp only [Actor.prepare, bind, Except.bind] at h
  generalize (List.mapM _ _ : Except Fault (List Skill)) = skills at h
  cases skills with
  | error e => cases h
  | ok skills => cases h; rfl

theorem Actor.prepare_conditionsOnly (c : Conditions) :
    Actor.prepare { Actor.empty with conditions := c } = .ok { Actor.empty with conditions := c } :=
  rfl

/-- The stores the engine builds are compare-ready, but a sheet prepared from a snapshot keeps its
condition names as written. -/
theorem compareReady_unless_snapshot_unkeyed (names ks written : List String) (c : Conditions)
    (n k : String) (v : Int) (a a' : Actor) (fresh : Nat → ItemId) :
    Conditions.empty.CompareReady ∧ (Conditions.withActive names).CompareReady ∧
    (c.CompareReady → (c.add ks).CompareReady ∧ (c.remove ks).CompareReady ∧
      (c.setQuota k v).CompareReady ∧
      (c.has n = true ↔ ∃ x ∈ c.active, Name.key x = Name.key n)) ∧
    ((c.add ks).has n = true ↔ c.has n = true ∨ ∃ x ∈ ks, Name.key x = Name.key n) ∧
    ((c.remove ks).has n = true ↔ c.has n = true ∧ ∀ x ∈ ks, Name.key x ≠ Name.key n) ∧
    (c.setQuota k v).quota n = (if Name.key n = Name.key k then some v else c.quota n) ∧
    (a.prepare = .ok a' → a'.conditions = a.conditions) ∧
    ∃ read prepared, (Actor.decode fresh (conditionsSnapshot written) []).run.value = .ok read ∧
      read.prepare = .ok prepared ∧
      (prepared.conditions.CompareReady ↔ ∀ x ∈ written, Name.key x = x) := by
  refine ⟨Conditions.compareReady_empty, Conditions.compareReady_withActive names,
    fun h => ⟨h.add ks, h.remove ks, h.setQuota k v, h.has_iff n⟩, c.has_add ks n,
    c.has_remove ks n, c.quota_setQuota k v n, Actor.prepare_conditions,
    _, _, decode_conditionsSnapshot fresh written, Actor.prepare_conditionsOnly _, ?_⟩
  exact Conditions.compareReady_written_iff written

example : (Conditions.decode (.obj [("active", .arr [.str "Flying"])]) []).run.value.toOption.map
    (·.has "Flying") = some false := by decide

end DicePools
