import DicePools.Proofs.ExtraDice

/-! Finishing a pool. Main statement: `finish_pools_label_exhaust`. -/

namespace DicePools

namespace Dice

theorem limitTo_eq_zero {x : Dice} {l : Die} (h : x.limitTo l = 0) : x = 0 := by
  refine ext_count fun d => ?_
  have hd := congrArg (·.count d) h
  have hl := congrArg (·.count l) h
  simp only [count_limitTo, count_zero, Nat.lt_irrefl, if_false, if_true] at hd hl
  rw [count_zero]
  rcases Nat.lt_or_ge l.index d.index with hlt | hle
  · -- a die below the cap keeps its bucket
    have hne : d ≠ l := fun h => Nat.lt_irrefl _ (h ▸ hlt)
    simpa [Nat.not_lt.mpr hlt.le, hne] using hd
  · -- a die at or above the cap is summed, without loss below the largest count, into its bucket
    have hmem : (x.count d).toNat ∈
        ((Die.all.filter (·.index ≤ l.index)).map x.count).map UInt32.toNat :=
      List.mem_map_of_mem
        (List.mem_map_of_mem (List.mem_filter.mpr ⟨Die.mem_all d, by simpa using hle⟩))
    have hsum := congrArg UInt32.toNat hl
    rw [toNat_satSum, UInt32.toNat_zero] at hsum
    have hzero :
        ((Die.all.filter (·.index ≤ l.index)).map x.count |>.map UInt32.toNat).sum = 0 := by
      unfold countMax at hsum
      omega
    apply UInt32.toNat_inj.mp
    rw [UInt32.toNat_zero]
    exact List.sum_eq_zero_iff.mp hzero _ hmem

theorem add_eq_zero {x y : Dice} (h : x + y = 0) : x = 0 ∧ y = 0 := by
  have hsum := (sum_eq_zero_iff [x, y]).mp (by simpa using h)
  exact ⟨hsum x (by simp), hsum y (by simp)⟩

end Dice

theorem PoolOptions.adjust_eq_zero {o : PoolOptions} {x : Dice} (h : o.adjust x = 0) : x = 0 := by
  have hdouble : (if o.double then x + x else x) = 0 := by
    cases hl : o.limit with
    | none => simpa [PoolOptions.adjust, hl] using h
    | some l => exact Dice.limitTo_eq_zero (by simpa [PoolOptions.adjust, hl] using h)
  by_cases hd : o.double = true
  · rw [if_pos hd] at hdouble
    exact (Dice.add_eq_zero hdouble).1
  · rwa [if_neg hd] at hdouble

theorem PoolOptions.isEmpty_adjust {o : PoolOptions} {x : Dice} (h : x.isEmpty = false) :
    (o.adjust x).isEmpty = false := by
  cases hempty : (o.adjust x).isEmpty
  · rfl
  · have hzero := (Dice.isEmpty_iff x).mpr (o.adjust_eq_zero ((Dice.isEmpty_iff _).mp hempty))
    rw [hzero] at h
    cases h

/-! ## The gifts to exhaust -/

theorem map_eraseDupsBy {α β : Type} [BEq β] [LawfulBEq β] (f : α → β) :
    ∀ l : List α, (l.eraseDupsBy fun a b => f a == f b).map f = (l.map f).eraseDups
  | [] => rfl
  | a :: l => by
    have hfilter : (l.filter fun b => (f b == f a) = false).map f =
        (l.map f).filter fun y => !y == f a := by
      rw [List.filter_map]
      congr 1
      apply List.filter_congr
      intro b _
      simp
    rw [List.eraseDupsBy_cons, List.map_cons, List.map_cons, List.eraseDups_cons,
      map_eraseDupsBy f, hfilter]
termination_by l => l.length
decreasing_by exact Nat.lt_succ_of_le (List.length_filter_le _ _)

/-- Keeping a record only when no kept record names its item keeps, after what is kept already,
the first record of each new item, in order. -/
theorem foldl_keepFirst (L acc : List ExhaustRecord) :
    L.foldl (fun acc r => if acc.any (·.item == r.item) then acc else acc ++ [r]) acc =
      acc ++ (L.filter fun r => !acc.any (·.item == r.item)).eraseDupsBy
        fun r r' => r.item == r'.item := by
  induction L generalizing acc with
  | nil => simp
  | cons r L ih =>
    by_cases hr : acc.any (·.item == r.item) = true
    · -- an item kept already: the record is dropped
      rw [List.foldl_cons, if_pos hr, ih, List.filter_cons, hr]
      rfl
    · -- a new item: the record is kept, and later records of its item are dropped
      rw [List.foldl_cons, if_neg hr, ih, List.filter_cons_of_pos (by simpa using hr),
        List.eraseDupsBy_cons, List.append_assoc, List.singleton_append, List.filter_filter]
      congr 3
      apply List.filter_congr
      intro x _
      by_cases hx : x.item = r.item
      · simp [hx]
      · simp [List.any_append, hx, Ne.symm hx, Bool.and_comm]

/-- Finishing folds over the checked fields that exhaust their source, and what it keeps is
decided by the record of each field: its source, named after the field. -/
theorem foldl_records {F : List ExhaustRecord → PoolField → List ExhaustRecord}
    (hnone : ∀ acc g, g.source = none → F acc g = acc)
    (hsome : ∀ acc g i, g.source = some i →
      F acc g = if acc.any (·.item == i) then acc else acc ++ [⟨i, g.name⟩])
    (fs : List PoolField) (acc : List ExhaustRecord) :
    fs.foldl F acc =
      (fs.filterMap fun g => g.source.map fun i => (⟨i, g.name⟩ : ExhaustRecord)).foldl
        (fun acc r => if acc.any (·.item == r.item) then acc else acc ++ [r]) acc := by
  induction fs generalizing acc with
  | nil => rfl
  | cons g fs ih =>
    cases hs : g.source with
    | none => simp [hnone acc g hs, hs, ih]
    | some i => simp [hsome acc g i hs, hs, ih]

/-- The gifts to exhaust: the records of the checked fields that exhaust their source, the first
for each item. -/
theorem finish_exhaust (c : Construction) (p e : PoolPart) (o : PoolOptions) :
    (c.finish p e o).exhaust =
      ((c.checkedFields.filter (·.exhaustsOnUse)).filterMap fun g =>
        g.source.map fun i => (⟨i, g.name⟩ : ExhaustRecord)).eraseDupsBy
          fun r r' => r.item == r'.item := by
  simp only [Construction.finish]
  rw [foldl_records, foldl_keepFirst]
  · simp
  · intro acc g hg
    simp [hg]
  · intro acc g i hg
    simp [hg]

/-- The roll's label: the construction's label, then `: ` when both it and the part labels are
there, then the part labels joined with ` + `. -/
theorem finish_label (c : Construction) (p e : PoolPart) (o : PoolOptions) :
    (c.finish p e o).label =
      c.label ++ (if c.label ≠ "" ∧ p.labels ++ e.labels ≠ [] then ": " else "") ++
        " + ".intercalate (p.labels ++ e.labels) := by
  simp only [Construction.finish]
  by_cases hparts : p.labels ++ e.labels = []
  · rw [hparts]
    simp
  · by_cases hlabel : c.label = ""
    · simp [hparts, hlabel]
    · simp [hparts, hlabel, String.append_assoc]

/-- What finishing a pool keeps of its arrays, how it labels them and which gifts it exhausts. -/
theorem finish_pools_label_exhaust (c : Construction) (p e : PoolPart) (o : PoolOptions) :
    let f := c.finish p e o
    let records := (c.checkedFields.filter (·.exhaustsOnUse)).filterMap fun g =>
      g.source.map fun i => (⟨i, g.name⟩ : ExhaustRecord)
    f.pools = ((p.arrays ++ e.arrays).filter (!·.isEmpty)).map o.adjust ∧
    (∀ d ∈ f.pools, d.isEmpty = false) ∧
    f.total = o.adjust (Dice.sum (p.arrays ++ e.arrays)) ∧
    f.label = c.label ++ (if c.label ≠ "" ∧ p.labels ++ e.labels ≠ [] then ": " else "") ++
      " + ".intercalate (p.labels ++ e.labels) ∧
    f.exhaust = records.eraseDupsBy (fun r r' => r.item == r'.item) ∧
    f.exhaust.map (·.item) = (records.map (·.item)).eraseDups := by
  intro f records
  have hpools : f.pools = ((p.arrays ++ e.arrays).filter (!·.isEmpty)).map o.adjust := rfl
  refine ⟨hpools, fun d hd => ?_, ?_, finish_label c p e o, finish_exhaust c p e o, ?_⟩
  · -- every pooled array is an adjusted array with dice
    rw [hpools] at hd
    obtain ⟨a, ha, rfl⟩ := List.mem_map.mp hd
    exact PoolOptions.isEmpty_adjust (by simpa using (List.mem_filter.mp ha).2)
  · rw [total_finish, Dice.sum_eq_sum]
  · rw [finish_exhaust, map_eraseDupsBy]

def hardyId : ItemId := .ofSerial 4

/-- A soak roll with two fields of one gift, a d10 and a d6, each exhausting the gift. -/
def hardySoak : Construction :=
  ⟨[], [⟨"g", "Hardy", ⟨0, 1, 0, 0, 0⟩, true, some hardyId, true⟩,
    ⟨"h", "Hardy", ⟨0, 0, 0, 1, 0⟩, true, some hardyId, true⟩], "Soak"⟩

def bodyPart : PoolPart := ⟨[⟨0, 0, 1, 0, 0⟩, Dice.empty], ["Body"]⟩

def hardyPart : PoolPart := ⟨[⟨0, 1, 0, 0, 0⟩, ⟨0, 0, 0, 1, 0⟩], ["Hardy", "Hardy"]⟩

example : (hardySoak.finish bodyPart hardyPart ⟨some .d8, true⟩).pools =
      [⟨0, 0, 2, 0, 0⟩, ⟨0, 0, 2, 0, 0⟩, ⟨0, 0, 0, 2, 0⟩] ∧
    (hardySoak.finish bodyPart hardyPart ⟨some .d8, true⟩).total = ⟨0, 0, 4, 2, 0⟩ ∧
    (hardySoak.finish bodyPart hardyPart ⟨some .d8, true⟩).label =
      "Soak: Body + Hardy + Hardy" ∧
    (hardySoak.finish bodyPart hardyPart ⟨some .d8, true⟩).exhaust.map (·.item) =
      [hardyId] := by
  decide

/-- Doubled and capped at d8, the body die of the soak roll is two d8. -/
theorem hardySoak_pools_nonempty :
    (⟨0, 0, 2, 0, 0⟩ : Dice) ∈
        (hardySoak.finish bodyPart hardyPart ⟨some .d8, true⟩).pools ∧
      (⟨0, 0, 2, 0, 0⟩ : Dice).isEmpty = false :=
  ⟨by decide, (finish_pools_label_exhaust hardySoak bodyPart hardyPart ⟨some .d8, true⟩).2.1 _
    (by decide)⟩

end DicePools
