import DicePools.Pool.Roll
import DicePools.Proofs.Book

/-! Exhausting gifts changes nothing but their exhausted state. -/

namespace DicePools

/-- A gift state changed by exhausting: it stays, or a gift that exhausts when used becomes
exhausted. -/
def GiftStep (o o' : Option Gift) : Prop :=
  o' = o ∨ ∃ g, o = some g ∧ g.exhaustWhenUsed = true ∧ o' = some { g with exhausted := true }

/-- A gift state that cannot be rolled again: no gift, a gift that never exhausts, or an
exhausted one. -/
def Spent (o : Option Gift) : Prop :=
  ∀ g, o = some g → g.exhaustWhenUsed = true → g.exhausted = true

theorem GiftStep.refl (o : Option Gift) : GiftStep o o := .inl rfl

theorem GiftStep.trans {o o' o'' : Option Gift} (h : GiftStep o o') (h' : GiftStep o' o'') :
    GiftStep o o'' := by
  rcases h with rfl | ⟨g,rfl,hw,rfl⟩
  · exact h'
  · -- exhausting an exhausted gift again changes nothing
    rcases h' with rfl | ⟨g',hg',-,rfl⟩
    · exact .inr ⟨g,rfl,hw,rfl⟩
    · cases hg'
      exact .inr ⟨g,rfl,hw,rfl⟩

theorem GiftStep.spent {o o' : Option Gift} (h : GiftStep o o') (hs : Spent o) : Spent o' := by
  rcases h with rfl | ⟨g,-,-,rfl⟩
  · exact hs
  · intro g' hg' _
    cases hg'
    rfl

theorem GiftStep.exhaustWhenUsed {o o' : Option Gift} (h : GiftStep o o') {g : Gift}
    (hg : o = some g) (hw : g.exhaustWhenUsed = true) :
    ∃ g', o' = some g' ∧ g'.exhaustWhenUsed = true := by
  rcases h with rfl | ⟨g',rfl,-,rfl⟩
  · exact ⟨g,hg,hw⟩
  · cases hg
    exact ⟨_,rfl,hw⟩

namespace Actor

def giftOf (a : Actor) (x : ItemId) : Option Gift := (a.item? x).bind Item.gift?

/-- `a'` is `a` with some gifts exhausted: the same item ids, and under each id a gift step. -/
structure Spends (a a' : Actor) : Prop where
  ids : a'.items.map (·.id) = a.items.map (·.id)
  gifts : ∀ x, GiftStep (a.giftOf x) (a'.giftOf x)

theorem Spends.refl (a : Actor) : a.Spends a := ⟨rfl,fun _ => GiftStep.refl _⟩

theorem Spends.trans {a a' a'' : Actor} (h : a.Spends a') (h' : a'.Spends a'') : a.Spends a'' :=
  ⟨h'.ids.trans h.ids,fun x => (h.gifts x).trans (h'.gifts x)⟩

theorem item?_eq_some_of_mem {a : Actor} (hids : (a.items.map (·.id)).Nodup) {i : Item}
    (hi : i ∈ a.items) : a.item? i.id = some i := by
  unfold Actor.item?
  cases h : a.items.find? (·.id == i.id) with
  | none => exact absurd (List.find?_eq_none.mp h i hi) (by simp)
  | some i' =>
    have hx : i'.id = i.id := by simpa using List.find?_some h
    rw [List.inj_on_of_nodup_map hids (List.mem_of_find?_eq_some h) hi hx]

theorem giftOf_of_mem {a : Actor} (hids : (a.items.map (·.id)).Nodup) {i : Item}
    (hi : i ∈ a.items) {g : Gift} (hg : i.kind = .gift g) : a.giftOf i.id = some g := by
  rw [giftOf,item?_eq_some_of_mem hids hi,Option.bind_some]
  simp [Item.gift?,hg]

theorem find?_set_findIdx? {l : List Item} {y : ItemId} {k : Nat}
    (hk : l.findIdx? (·.id == y) = some k) (v : Item) (hv : v.id = y) (x : ItemId) :
    (l.set k v).find? (·.id == x) = if x = y then some v else l.find? (·.id == x) := by
  induction l generalizing k with
  | nil => cases hk
  | cons z zs ih =>
    rw [List.findIdx?_cons] at hk
    by_cases hz : z.id = y
    · -- the first item is the one replaced
      obtain rfl : k = 0 := by simpa [hz] using hk.symm
      by_cases hx : x = y
      · simp [hx,hv]
      · have hzx : z.id ≠ x := fun h => hx (h.symm.trans hz)
        have hvx : v.id ≠ x := fun h => hx (h.symm.trans hv)
        simp [hx,hzx,hvx]
    · simp only [beq_iff_eq,hz,if_false,Option.map_eq_some_iff] at hk
      obtain ⟨k',hk',rfl⟩ := hk
      by_cases hx : z.id = x
      · have hxy : x ≠ y := fun h => hz (hx.trans h)
        simp [hx,hxy]
      · simp [hx,ih hk']

theorem item?_of_findIdx? {a : Actor} {y : ItemId} {k : Nat}
    (hk : a.items.findIdx? (·.id == y) = some k) {i : Item} (hi : a.items[k]? = some i) :
    a.item? y = some i := by
  unfold Actor.item?
  rw [List.find?_eq_getElem?_findIdx,(List.findIdx?_eq_some_iff_findIdx_eq.mp hk).2,hi]

/-- Exhausts the gift of the first item with an id; an actor whose item cannot be exhausted
stays as it is. -/
def exhaustGift (a : Actor) (x : ItemId) : Actor :=
  match a.setGiftExhausted x true with
  | .ok a' => a'
  | .error _ => a

theorem giftOf_of_findIdx? {a : Actor} {y : ItemId} {k : Nat}
    (hk : a.items.findIdx? (·.id == y) = some k) {i : Item} (hi : a.items[k]? = some i) :
    a.giftOf y = i.gift? := by
  rw [giftOf,item?_of_findIdx? hk hi,Option.bind_some]

theorem id_of_findIdx? {l : List Item} {y : ItemId} {k : Nat}
    (hk : l.findIdx? (·.id == y) = some k) {i : Item} (hi : l[k]? = some i) : i.id = y := by
  obtain ⟨hlt,hp,-⟩ := List.findIdx?_eq_some_iff_getElem.mp hk
  rw [List.getElem?_eq_getElem hlt,Option.some.injEq] at hi
  simpa [hi] using hp

/-- Exhausting the gift at the first position of an id changes the gift state of that id alone. -/
theorem giftOf_set_exhausted {a : Actor} {y : ItemId} {k : Nat}
    (hk : a.items.findIdx? (·.id == y) = some k) {i : Item} (hi : a.items[k]? = some i)
    (g : Gift) (x : ItemId) :
    ({ a with items := a.items.set k { i with kind := .gift { g with exhausted := true } } } :
      Actor).giftOf x = if x = y then some { g with exhausted := true } else a.giftOf x := by
  unfold giftOf
  change ((a.items.set k _).find? (·.id == x)).bind Item.gift? = _
  rw [find?_set_findIdx? hk { i with kind := .gift { g with exhausted := true } }
    (show i.id = y from id_of_findIdx? hk hi) x]
  split_ifs <;> rfl

/-- Exhausting the gift under an id leaves the actor alone or exhausts the gift at the id's first
position. -/
theorem exhaustGift_cases (a : Actor) (y : ItemId) :
    (a.exhaustGift y = a ∧ Spent (a.giftOf y)) ∨
    ∃ k i g, a.items.findIdx? (·.id == y) = some k ∧ a.items[k]? = some i ∧ i.kind = .gift g ∧
      g.exhaustWhenUsed = true ∧ a.exhaustGift y = { a with
        items := a.items.set k { i with kind := .gift { g with exhausted := true } } } := by
  unfold exhaustGift setGiftExhausted
  cases hk : a.items.findIdx? (·.id == y) with
  | none =>
    refine .inl ⟨rfl,fun g hg => ?_⟩
    have hnone : a.item? y = none := List.find?_eq_none.mpr (by simpa using hk)
    simp [giftOf,hnone] at hg
  | some k =>
    dsimp only
    cases hi : a.items[k]? with
    | none =>
      obtain ⟨hlt,-,-⟩ := List.findIdx?_eq_some_iff_getElem.mp hk
      rw [List.getElem?_eq_getElem hlt] at hi
      cases hi
    | some i =>
      dsimp only
      cases hkind : i.kind with
      | gift g =>
        dsimp only
        split_ifs with hw
        · exact .inr ⟨k,i,g,rfl,hi,hkind,hw,rfl⟩
        · refine .inl ⟨rfl,fun g' hg' hw' => ?_⟩
          simp only [giftOf_of_findIdx? hk hi,Item.gift?,hkind,Option.some.injEq] at hg'
          exact absurd (hg' ▸ hw') hw
      | _ =>
        all_goals refine .inl ⟨rfl,fun g hg => ?_⟩
        all_goals simp [giftOf_of_findIdx? hk hi,Item.gift?,hkind] at hg

theorem spends_exhaustGift (a : Actor) (y : ItemId) : a.Spends (a.exhaustGift y) := by
  rcases exhaustGift_cases a y with ⟨he,-⟩ | ⟨k,i,g,hk,hi,hg,hw,he⟩
  · rw [he]
    exact Spends.refl a
  · rw [he]
    refine ⟨?_,fun x => ?_⟩
    · -- the item keeps its id
      rw [List.map_set]
      refine List.ext_getElem? fun n => ?_
      rw [List.getElem?_set']
      split_ifs with hn
      · subst hn
        simp [hi]
      · rfl
    · rw [giftOf_set_exhausted hk hi g x]
      split_ifs with hx
      · subst hx
        have hgift : a.giftOf x = some g := by
          simp [giftOf_of_findIdx? hk hi,Item.gift?,hg]
        exact .inr ⟨g,hgift,hw,rfl⟩
      · exact GiftStep.refl _

theorem spent_exhaustGift (a : Actor) (y : ItemId) : Spent ((a.exhaustGift y).giftOf y) := by
  rcases exhaustGift_cases a y with ⟨he,hs⟩ | ⟨k,i,g,hk,hi,hg,-,he⟩
  · rwa [he]
  · rw [he,giftOf_set_exhausted hk hi g y,if_pos rfl]
    intro g' hg' _
    cases hg'
    rfl

/-- Exhausting gifts one after the other exhausts nothing else. -/
theorem spends_foldl_exhaustGift (rs : List ExhaustRecord) (a : Actor) :
    a.Spends (rs.foldl (fun a r => a.exhaustGift r.item) a) := by
  induction rs generalizing a with
  | nil => exact Spends.refl a
  | cons r rs ih => exact (spends_exhaustGift a r.item).trans (ih _)

theorem Spends.spent {a a' : Actor} (h : a.Spends a') {x : ItemId} (hs : Spent (a.giftOf x)) :
    Spent (a'.giftOf x) :=
  (h.gifts x).spent hs

theorem spent_foldl_exhaustGift {rs : List ExhaustRecord} {x : ItemId} (hx : ∃ r ∈ rs, r.item = x)
    (a : Actor) : Spent ((rs.foldl (fun a r => a.exhaustGift r.item) a).giftOf x) := by
  induction rs generalizing a with
  | nil => simp at hx
  | cons r rs ih =>
    rw [List.foldl_cons]
    by_cases hr : r.item = x
    · -- spent by this record, and kept so by the records after it
      subst hr
      exact (spends_foldl_exhaustGift rs _).spent (spent_exhaustGift a r.item)
    · obtain ⟨r',hr',rfl⟩ := hx
      have hmem : r' ∈ rs := (List.mem_cons.mp hr').resolve_left (by rintro rfl; exact hr rfl)
      exact ih ⟨r',hmem,rfl⟩ _

/-- A roll that succeeds exhausts the gifts of its pool's records, one after the other. -/
theorem performRoll_actor {a : Actor} {roller : DiceRoller} {pool : FinishedPool}
    {mode : RollMode} {report : RollReport} {a' : Actor}
    (h : (a.performRoll roller pool mode).value = .ok (report,a')) :
    a' = pool.exhaust.foldl (fun a r => a.exhaustGift r.item) a := by
  unfold performRoll at h
  split at h
  · cases h
  · simp only [Logged.value_bind,Logged.value_foldlM,Logged.value_pure,Except.ok.injEq,
      Prod.mk.injEq] at h
    rw [← h.2]
    -- the actor of the fold's accumulator is exhausted record by record
    refine (List.foldl_hom Prod.fst fun acc r => ?_).symm
    unfold exhaustGift
    cases acc.1.setGiftExhausted r.item true <;> rfl

end Actor

/-- A fold that keeps the records it has and records the source of each field it meets holds a
record of a source that a field of the list names. -/
theorem exists_record_foldl {F : List ExhaustRecord → PoolField → List ExhaustRecord}
    {x : ItemId} (hkeep : ∀ acc g, ∀ r ∈ acc, r ∈ F acc g)
    (hadd : ∀ acc g, g.source = some x → ∃ r ∈ F acc g, r.item = x) {f : PoolField}
    (hs : f.source = some x) (L : List PoolField) (acc : List ExhaustRecord)
    (h : (∃ r ∈ acc, r.item = x) ∨ f ∈ L) : ∃ r ∈ L.foldl F acc, r.item = x := by
  induction L generalizing acc with
  | nil => simpa using h
  | cons g L ih =>
    rw [List.foldl_cons]
    apply ih
    rcases h with ⟨r,hr,hx⟩ | hf
    · exact .inl ⟨r,hkeep acc g r hr,hx⟩
    · rcases List.mem_cons.mp hf with rfl | hf
      · exact .inl (hadd acc f hs)
      · exact .inr hf

theorem exists_record_finish {c : Construction} {f : PoolField} (hf : f ∈ c.checkedFields)
    (he : f.exhaustsOnUse = true) {x : ItemId} (hs : f.source = some x) (pool extra : PoolPart)
    (opts : PoolOptions) : ∃ r ∈ (c.finish pool extra opts).exhaust, r.item = x := by
  unfold Construction.finish
  refine exists_record_foldl (fun acc g r hr => ?_) (fun acc g hg => ?_) hs _ []
    (.inr (List.mem_filter.mpr ⟨hf,he⟩))
  · split
    · split_ifs
      · exact hr
      · exact List.mem_append_left _ hr
    · exact hr
  · rw [hg]
    dsimp only
    split_ifs with hany
    · obtain ⟨r,hr,hx⟩ := List.any_eq_true.mp hany
      exact ⟨r,hr,by simpa using hx⟩
    · exact ⟨_,List.mem_append_right _ (List.mem_singleton_self _),rfl⟩

end DicePools
