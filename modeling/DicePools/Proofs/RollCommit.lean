import DicePools.Proofs.Spend

/-! Committing a roll. Main statement: `Actor.performRoll_commit`. -/

namespace DicePools

namespace Item

/-- The item after its gift is exhausted: a gift that exhausts when used becomes exhausted, any
other item stays as it is. -/
def spend (i : Item) : Item :=
  match i.kind with
  | .gift g =>
    if g.exhaustWhenUsed then { i with kind := .gift { g with exhausted := true } } else i
  | _ => i

@[simp] theorem id_spend (i : Item) : i.spend.id = i.id := by
  unfold spend
  split <;> (try split) <;> rfl

@[simp] theorem name_spend (i : Item) : i.spend.name = i.name := by
  unfold spend
  split <;> (try split) <;> rfl

@[simp] theorem isSome_gift?_spend (i : Item) : i.spend.gift?.isSome = i.gift?.isSome := by
  obtain ⟨id, name, w, q, kind⟩ := i
  cases kind with
  | gift g => by_cases hw : g.exhaustWhenUsed <;> simp [spend, gift?, hw]
  | _ => rfl

theorem spend_eq_self {i : Item} (h : Spent i.gift?) : i.spend = i := by
  obtain ⟨id, name, w, q, kind⟩ := i
  cases kind with
  | gift g =>
    by_cases hw : g.exhaustWhenUsed
    · -- a spent gift that exhausts when used is exhausted already
      have he : g.exhausted = true := h g rfl hw
      obtain ⟨tags, roll, w, e, mark, rules⟩ := g
      dsimp only at hw he
      subst hw he
      rfl
    · simp [spend, hw]
  | _ => rfl

theorem spent_spend (i : Item) : Spent i.spend.gift? := by
  obtain ⟨id, name, w, q, kind⟩ := i
  cases kind with
  | gift g =>
    intro g' hg' hw'
    by_cases hw : g.exhaustWhenUsed
    · simp only [spend, gift?, hw, if_true, Option.some.injEq] at hg'
      rw [← hg']
    · simp only [spend, gift?, hw, Bool.false_eq_true, if_false, Option.some.injEq] at hg'
      exact absurd (hg' ▸ hw') hw
  | _ => intro g' hg'; cases hg'

@[simp] theorem spend_spend (i : Item) : i.spend.spend = i.spend := spend_eq_self (spent_spend i)

end Item

namespace Actor

/-- The actor with the first item of each id in `xs` spent. -/
def spendFirsts (a : Actor) (xs : List ItemId) : Actor :=
  { a with items := a.items.mapIdx fun k i =>
      if i.id ∈ xs ∧ a.items.findIdx (·.id == i.id) = k then i.spend else i }

/-- Why the gift under an id cannot be exhausted: no item has the id, or the first that has it
is no gift. -/
def exhaustFault (a : Actor) (x : ItemId) : ItemError :=
  match a.item? x with
  | none => .notFound x.short
  | some i => .notAGift i.name

theorem getElem?_spendFirsts (a : Actor) (xs : List ItemId) (k : Nat) :
    (a.spendFirsts xs).items[k]? = a.items[k]?.map fun i =>
      if i.id ∈ xs ∧ a.items.findIdx (·.id == i.id) = k then i.spend else i :=
  List.getElem?_mapIdx

theorem spendFirsts_eq_of_items {a : Actor} {xs : List ItemId} {l : List Item}
    (h : (a.spendFirsts xs).items = l) : a.spendFirsts xs = { a with items := l } := by
  rw [← h]
  rfl

theorem ids_spendFirsts (a : Actor) (xs : List ItemId) :
    (a.spendFirsts xs).items.map (·.id) = a.items.map (·.id) := by
  refine List.ext_getElem? fun k => ?_
  rw [List.getElem?_map, List.getElem?_map, getElem?_spendFirsts]
  cases a.items[k]? with
  | none => rfl
  | some i => simp only [Option.map_some]; split_ifs <;> simp

theorem findIdx_spendFirsts (a : Actor) (xs : List ItemId) (y : ItemId) :
    (a.spendFirsts xs).items.findIdx (·.id == y) = a.items.findIdx (·.id == y) := by
  have h := congrArg (List.findIdx (· == y)) (ids_spendFirsts a xs)
  simpa [List.findIdx_map, Function.comp_def] using h

theorem item?_spendFirsts (a : Actor) (xs : List ItemId) (y : ItemId) :
    (a.spendFirsts xs).item? y = (a.item? y).map fun i => if y ∈ xs then i.spend else i := by
  unfold item?
  rw [List.find?_eq_getElem?_findIdx, List.find?_eq_getElem?_findIdx, findIdx_spendFirsts,
    getElem?_spendFirsts]
  cases hi : a.items[a.items.findIdx (·.id == y)]? with
  | none => rfl
  | some i =>
    have hy : i.id = y := by simpa using List.findIdx_of_getElem?_eq_some hi
    simp [hy]

theorem isSome_giftOf_spendFirsts (a : Actor) (xs : List ItemId) (y : ItemId) :
    ((a.spendFirsts xs).giftOf y).isSome = (a.giftOf y).isSome := by
  unfold giftOf
  rw [item?_spendFirsts]
  cases a.item? y with
  | none => rfl
  | some i => simp only [Option.map_some, Option.bind_some]; split_ifs <;> simp

theorem exhaustFault_spendFirsts (a : Actor) (xs : List ItemId) (y : ItemId) :
    (a.spendFirsts xs).exhaustFault y = a.exhaustFault y := by
  unfold exhaustFault
  rw [item?_spendFirsts]
  cases a.item? y with
  | none => rfl
  | some i => simp only [Option.map_some]; split_ifs <;> simp

theorem spendFirsts_nil (a : Actor) : a.spendFirsts [] = a := by
  refine (spendFirsts_eq_of_items (List.ext_getElem? fun k => ?_)).trans rfl
  rw [getElem?_spendFirsts]
  cases a.items[k]? <;> simp

theorem spendFirsts_spendFirsts (a : Actor) (xs ys : List ItemId) :
    (a.spendFirsts xs).spendFirsts ys = a.spendFirsts (xs ++ ys) := by
  have hitems : ((a.spendFirsts xs).spendFirsts ys).items = (a.spendFirsts (xs ++ ys)).items := by
    refine List.ext_getElem? fun k => ?_
    rw [getElem?_spendFirsts, getElem?_spendFirsts, getElem?_spendFirsts]
    cases a.items[k]? with
    | none => rfl
    | some i =>
      simp only [Option.map_some, findIdx_spendFirsts, List.mem_append]
      split_ifs <;> simp_all
  rw [spendFirsts_eq_of_items hitems]
  rfl

theorem items_spendFirsts_single {a : Actor} {y : ItemId} {k : Nat}
    (hk : a.items.findIdx? (·.id == y) = some k) {i : Item} (hi : a.items[k]? = some i) :
    (a.spendFirsts [y]).items = a.items.set k i.spend := by
  have hfirst : a.items.findIdx (·.id == y) = k := (List.findIdx?_eq_some_iff_findIdx_eq.mp hk).2
  have hy : i.id = y := id_of_findIdx? hk hi
  have hlt : k < a.items.length := (List.getElem?_eq_some_iff.mp hi).1
  refine List.ext_getElem? fun n => ?_
  rw [getElem?_spendFirsts, List.getElem?_set]
  by_cases hn : k = n
  · subst hn
    rw [hi, Option.map_some, if_pos rfl, if_pos hlt,
      if_pos ⟨List.mem_singleton.mpr hy, by rw [hy, hfirst]⟩]
  · rw [if_neg hn]
    cases hj : a.items[n]? with
    | none => rfl
    | some j =>
      have hnot : ¬(j.id ∈ [y] ∧ a.items.findIdx (·.id == j.id) = n) := by
        rintro ⟨hjy, hjn⟩
        rw [List.mem_singleton.mp hjy, hfirst] at hjn
        exact hn hjn
      rw [Option.map_some, if_neg hnot]

/-- Exhausting the gift under an id: the first item with the id is spent when it is a gift, and
otherwise the item error says why not. -/
theorem setGiftExhausted_true (a : Actor) (y : ItemId) :
    a.setGiftExhausted y true =
      if (a.giftOf y).isSome then .ok (a.spendFirsts [y]) else .error (a.exhaustFault y) := by
  unfold setGiftExhausted
  cases hk : a.items.findIdx? (·.id == y) with
  | none =>
    have hnone : a.item? y = none := List.find?_eq_none.mpr (by simpa using hk)
    simp [giftOf, exhaustFault, hnone]
  | some k =>
    dsimp only
    cases hi : a.items[k]? with
    | none =>
      obtain ⟨hlt, -, -⟩ := List.findIdx?_eq_some_iff_getElem.mp hk
      rw [List.getElem?_eq_getElem hlt] at hi
      cases hi
    | some i =>
      have hgift : a.giftOf y = i.gift? := giftOf_of_findIdx? hk hi
      have hsingle := items_spendFirsts_single hk hi
      dsimp only
      cases hkind : i.kind with
      | gift g =>
        have hlt : k < a.items.length := (List.getElem?_eq_some_iff.mp hi).1
        simp only [hgift, Item.gift?, hkind, Option.isSome_some, if_true]
        split_ifs with hw
        · -- the gift exhausts when used: it is exhausted in place
          have hspend : i.spend = { i with kind := .gift { g with exhausted := true } } := by
            simp [Item.spend, hkind, hw]
          rw [spendFirsts_eq_of_items hsingle, hspend]
        · -- a gift that never exhausts stays, and so does the actor
          have hspend : i.spend = i := by simp [Item.spend, hkind, hw]
          have hget : a.items[k] = i := by simpa [hlt] using hi
          rw [spendFirsts_eq_of_items hsingle, hspend, ← hget, List.set_getElem_self hlt]
      | _ =>
        all_goals simp [hgift, Item.gift?, hkind, exhaustFault, item?_of_findIdx? hk hi]

/-- Exhausting the gift under an id, in an actor with some firsts spent. -/
theorem setGiftExhausted_spendFirsts (a : Actor) (xs : List ItemId) (y : ItemId) :
    (a.spendFirsts xs).setGiftExhausted y true =
      if (a.giftOf y).isSome then .ok (a.spendFirsts (xs ++ [y]))
      else .error (a.exhaustFault y) := by
  rw [setGiftExhausted_true, isSome_giftOf_spendFirsts, spendFirsts_spendFirsts,
    exhaustFault_spendFirsts]

theorem spendFirsts_congr (a : Actor) {xs ys : List ItemId}
    (h : ∀ y, (a.giftOf y).isSome → (y ∈ xs ↔ y ∈ ys)) :
    a.spendFirsts xs = a.spendFirsts ys := by
  have hitems : (a.spendFirsts xs).items = (a.spendFirsts ys).items := by
    refine List.ext_getElem? fun k => ?_
    rw [getElem?_spendFirsts, getElem?_spendFirsts]
    cases hi : a.items[k]? with
    | none => rfl
    | some i =>
      simp only [Option.map_some, Option.some.injEq]
      by_cases hfirst : a.items.findIdx (·.id == i.id) = k
      · -- the item is the first of its id, so its gift is the gift state of the id
        have hitem : a.item? i.id = some i := by
          rw [item?, List.find?_eq_getElem?_findIdx, hfirst, hi]
        cases hg : i.gift? with
        | none =>
          have hspend : i.spend = i := Item.spend_eq_self (by rw [hg]; intro g hg'; cases hg')
          simp [hspend]
        | some g =>
          have hmem := h i.id (by simp [giftOf, hitem, hg])
          simp [hfirst, hmem]
      · simp [hfirst]
  rw [spendFirsts_eq_of_items hitems]
  rfl

theorem spendFirsts_filter_giftOf (a : Actor) (rs : List ExhaustRecord) :
    a.spendFirsts ((rs.filter fun r => (a.giftOf r.item).isSome).map (·.item)) =
      a.spendFirsts (rs.map (·.item)) := by
  refine spendFirsts_congr a fun y hy => ?_
  simp only [List.mem_map, List.mem_filter]
  constructor
  · rintro ⟨r, ⟨hr, -⟩, rfl⟩
    exact ⟨r, hr, rfl⟩
  · rintro ⟨r, hr, rfl⟩
    exact ⟨r, ⟨hr, hy⟩, rfl⟩

section Commit

variable {F : Actor × List ExhaustRecord × List RollError → ExhaustRecord →
  Actor × List ExhaustRecord × List RollError}

/-- Committing records one after the other, from an actor with some firsts spent. -/
theorem foldl_exhaustRecords
    (hok : ∀ acc r b, acc.1.setGiftExhausted r.item true = .ok b →
      F acc r = (b, acc.2.1 ++ [r], acc.2.2))
    (herr : ∀ acc r e, acc.1.setGiftExhausted r.item true = .error e →
      F acc r = (acc.1, acc.2.1, acc.2.2 ++ [.persist r.item e.message]))
    (a : Actor) (rs : List ExhaustRecord) (xs : List ItemId) (done : List ExhaustRecord)
    (failed : List RollError) :
    rs.foldl F (a.spendFirsts xs, done, failed) =
      (a.spendFirsts (xs ++ (rs.filter fun r => (a.giftOf r.item).isSome).map (·.item)),
        done ++ rs.filter (fun r => (a.giftOf r.item).isSome),
        failed ++ (rs.filter fun r => (a.giftOf r.item).isNone).map fun r =>
          .persist r.item (a.exhaustFault r.item).message) := by
  induction rs generalizing xs done failed with
  | nil => simp
  | cons r rs ih =>
    have hstep := setGiftExhausted_spendFirsts a xs r.item
    have hnone : (a.giftOf r.item).isNone = !(a.giftOf r.item).isSome := by
      cases a.giftOf r.item <;> rfl
    rw [List.foldl_cons]
    cases hg : (a.giftOf r.item).isSome
    · -- the record fails and the actor stays
      rw [hg, if_neg Bool.false_ne_true] at hstep
      rw [herr _ _ _ hstep, ih]
      simp [hg, hnone]
    · rw [hg, if_pos rfl] at hstep
      rw [hok _ _ _ hstep, ih]
      simp [hg, hnone]

theorem foldl_exhaustRecords_start
    (hok : ∀ acc r b, acc.1.setGiftExhausted r.item true = .ok b →
      F acc r = (b, acc.2.1 ++ [r], acc.2.2))
    (herr : ∀ acc r e, acc.1.setGiftExhausted r.item true = .error e →
      F acc r = (acc.1, acc.2.1, acc.2.2 ++ [.persist r.item e.message]))
    (a : Actor) (rs : List ExhaustRecord) :
    rs.foldl F (a, [], []) =
      (a.spendFirsts ((rs.filter fun r => (a.giftOf r.item).isSome).map (·.item)),
        rs.filter (fun r => (a.giftOf r.item).isSome),
        (rs.filter fun r => (a.giftOf r.item).isNone).map fun r =>
          .persist r.item (a.exhaustFault r.item).message) := by
  have h := foldl_exhaustRecords hok herr a rs [] [] []
  rwa [spendFirsts_nil, List.nil_append, List.nil_append, List.nil_append] at h

end Commit

/-- What a roll commits: the roller's outcome, the gifts it exhausts and the records it fails. -/
theorem performRoll_commit (a : Actor) (roller : DiceRoller) (pool : FinishedPool)
    (mode : RollMode) :
    (∀ e, roller mode pool.pools pool.label = .error e →
      (a.performRoll roller pool mode).value = .error e) ∧
    ∀ outcome, roller mode pool.pools pool.label = .ok outcome →
      (a.performRoll roller pool mode).value = .ok (⟨outcome,
        pool.exhaust.filter (fun r => (a.giftOf r.item).isSome),
        (pool.exhaust.filter fun r => (a.giftOf r.item).isNone).map fun r =>
          .persist r.item (a.exhaustFault r.item).message⟩,
        a.spendFirsts (pool.exhaust.map (·.item))) := by
  refine ⟨fun e he => ?_, fun outcome ho => ?_⟩
  · simp only [performRoll, he]
    rfl
  · unfold performRoll
    rw [ho]
    simp only [Logged.value_bind, Logged.value_foldlM, Logged.value_pure]
    rw [foldl_exhaustRecords_start (fun acc r b h => ?_) (fun acc r e h => ?_)]
    · rw [spendFirsts_filter_giftOf]
    · simp only [h]
      rfl
    · simp only [h]
      rfl

end Actor

def hardyGiftId : ItemId := .ofSerial 11

def ropeId : ItemId := .ofSerial 12

def strayId : ItemId := .ofSerial 13

/-- A sheet with a rope and `Hardy`, a gift that exhausts when used. -/
def hardyRopeSheet : Actor :=
  ⟨"Vera",[],[],[⟨ropeId,"Rope",0,1,.gear default⟩,
    ⟨hardyGiftId,"Hardy",0,1,.gift ⟨.empty,⟨[],Dice.empty⟩,true,false,none,[]⟩⟩],
    default,[]⟩

/-- A d8 and a d6 whose records name the rope, the stray id and `Hardy`. -/
def hardyRopePool : FinishedPool :=
  ⟨[⟨0,0,1,1,0⟩],"Test",[⟨ropeId,"gift"⟩,⟨strayId,"gift"⟩,⟨hardyGiftId,"gift"⟩]⟩

/-- At a closed table the roll fails with the table's error; at an open one it exhausts `Hardy`
and reports the rope and the stray id as failures. -/
theorem hardyRope_roll_commits :
    (hardyRopeSheet.performRoll (.largestFaces true) hardyRopePool (.targetNumber 7)).value =
      .error (.roller "table is closed") ∧
    ∃ report a', (hardyRopeSheet.performRoll (.largestFaces false) hardyRopePool
        (.targetNumber 7)).value = .ok (report, a') ∧
      report.exhausted.map (·.item) = [hardyGiftId] ∧
      report.failures.map RollError.message =
        ["failed to update item 0000000c: item 'Rope' is not a gift",
          "failed to update item 0000000d: item 0000000d not found"] ∧
      (a'.giftOf hardyGiftId).map (·.exhausted) = some true :=
  ⟨(Actor.performRoll_commit hardyRopeSheet _ hardyRopePool _).1 _ rfl, _, _,
    (Actor.performRoll_commit hardyRopeSheet _ hardyRopePool _).2 _ rfl, by decide, by decide,
    by decide⟩

end DicePools
