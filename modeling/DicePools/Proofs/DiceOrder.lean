import DicePools.Proofs.BucketMoves

/-! The order of pools and where saturation turns it. Main statements:
`dice_order_monotone_below_saturation` and `saturation_turns_order`. -/

namespace DicePools
namespace Dice

/-- `d` is the first bucket, from the d12 down, where `x` and `y` hold different counts. -/
def FirstDiff (x y : Dice) (d : Die) : Prop :=
  x.count d ≠ y.count d ∧ ∀ e : Die, e.index < d.index → x.count e = y.count e

instance (x y : Dice) (d : Die) : Decidable (FirstDiff x y d) :=
  inferInstanceAs (Decidable (_ ∧ _))

theorem forall_die {P : Die → Prop} : (∀ e, P e) ↔ P .d12 ∧ P .d10 ∧ P .d8 ∧ P .d6 ∧ P .d4 :=
  ⟨fun h => ⟨h _, h _, h _, h _, h _⟩, fun h e => by cases e <;> simp only [h]⟩

theorem then_of_ne_eq {o : Ordering} (h : o ≠ .eq) (p : Ordering) : o.then p = o := by
  cases o <;> simp_all

/-- Two pools compare as the counts of the first bucket where they differ. -/
theorem compare_of_firstDiff {x y : Dice} {d : Die} (h : FirstDiff x y d) :
    Dice.compare x y = Ord.compare (x.count d) (y.count d) := by
  obtain ⟨hne, hbefore⟩ := h
  have hd : Ord.compare (x.count d) (y.count d) ≠ .eq := fun h => hne (Std.compare_eq_eq_iff_eq.mp h)
  -- the buckets above `d` compare equal, and the first unequal comparison decides
  cases d <;>
    simp only [count, forall_die, Die.index, Nat.reduceLT, true_implies, false_implies, and_true]
      at hne hbefore hd ⊢ <;>
    simp only [Dice.compare, hbefore, Std.ReflCmp.compare_self, Ordering.eq_then, then_of_ne_eq hd]

theorem exists_firstDiff {x y : Dice} (h : x ≠ y) : ∃ d, FirstDiff x y d := by
  have hex : ∃ i, ∃ d : Die, d.index = i ∧ x.count d ≠ y.count d := by
    by_contra hall
    simp only [not_exists, not_and, ne_eq, not_not] at hall
    exact h (ext_count fun d => hall d.index d rfl)
  classical
  obtain ⟨d, hd, hne⟩ := Nat.find_spec hex
  refine ⟨d, hne, fun e he => ?_⟩
  by_contra hee
  exact Nat.find_min hex (hd ▸ he) ⟨e, rfl, hee⟩

theorem compare_self_ne_gt (x : Dice) : Dice.compare x x ≠ .gt := by
  have hself : Dice.compare x x = .eq := Std.ReflCmp.compare_self
  rw [hself]
  decide

theorem compare_eq_lt_of_firstDiff {x y : Dice} {d : Die} (hd : FirstDiff x y d)
    (h : (x.count d).toNat < (y.count d).toNat) : Dice.compare x y = .lt := by
  rw [compare_of_firstDiff hd, Std.compare_eq_lt]
  exact UInt32.lt_iff_toNat_lt.mpr h

theorem count_lt_of_firstDiff {x y : Dice} {d : Die} (hd : FirstDiff x y d)
    (h : Dice.compare x y ≠ .gt) : (x.count d).toNat < (y.count d).toNat := by
  rw [compare_of_firstDiff hd, Ne, Std.compare_eq_gt, UInt32.lt_iff_toNat_lt] at h
  have hne : (x.count d).toNat ≠ (y.count d).toNat := fun he => hd.1 (UInt32.toNat_inj.mp he)
  omega

theorem compare_ne_gt_of_firstDiff {x y : Dice}
    (h : ∀ d, FirstDiff x y d → (x.count d).toNat < (y.count d).toNat) :
    Dice.compare x y ≠ .gt := by
  by_cases heq : x = y
  · rw [heq]
    exact compare_self_ne_gt y
  obtain ⟨d, hd⟩ := exists_firstDiff heq
  rw [compare_eq_lt_of_firstDiff hd (h d hd)]
  decide

theorem compare_ne_gt_of_count_le {x y : Dice} (h : ∀ d, (x.count d).toNat ≤ (y.count d).toNat) :
    Dice.compare x y ≠ .gt :=
  compare_ne_gt_of_firstDiff fun d hd => by
    have hne : (x.count d).toNat ≠ (y.count d).toNat := fun he => hd.1 (UInt32.toNat_inj.mp he)
    have := h d
    omega

theorem compare_add_ne_gt (a c : Dice) : Dice.compare a (a + c) ≠ .gt :=
  compare_ne_gt_of_count_le fun d => by
    have := toNat_le_countMax (a.count d)
    rw [toNat_count_add]
    omega

/-- Adding the same dice to two pools in order keeps them in order, as long as the first bucket
where they differ does not fill up in the weaker sum. -/
theorem compare_add_add_ne_gt {a b : Dice} (c : Dice) (hab : Dice.compare a b ≠ .gt)
    (hroom : ∀ d, FirstDiff a b d → (a.count d).toNat + (c.count d).toNat < countMax) :
    Dice.compare (a + c) (b + c) ≠ .gt := by
  by_cases heq : a = b
  · rw [heq]
    exact compare_self_ne_gt (b + c)
  obtain ⟨d, hd⟩ := exists_firstDiff heq
  have hlt := count_lt_of_firstDiff hd hab
  have hroom := hroom d hd
  -- the sums agree above `d`, and at `d` the weaker sum stays below the largest count
  have hsum : FirstDiff (a + c) (b + c) d := by
    refine ⟨fun h => ?_, fun e he => by rw [count_add, count_add, hd.2 e he]⟩
    have := congrArg UInt32.toNat h
    rw [toNat_count_add, toNat_count_add] at this
    omega
  rw [compare_eq_lt_of_firstDiff hsum (by rw [toNat_count_add, toNat_count_add]; omega)]
  decide

theorem upgrade_one (x : Dice) : x.upgrade 1 = ⟨satAdd x.d12 x.d10, x.d8, x.d6, x.d4, 0⟩ := by
  refine ext_count fun d => ?_
  rw [count_upgrade]
  cases d <;> simp [satSum, Die.all, Die.index, count, satAdd_comm 0, satAdd_zero]

theorem compare_upgrade_one_ne_gt {x : Dice} (hx : (x.count .d12).toNat < countMax) :
    Dice.compare x (x.upgrade 1) ≠ .gt := by
  refine compare_ne_gt_of_firstDiff fun d hd => ?_
  obtain ⟨hne, hbefore⟩ := hd
  rw [upgrade_one] at hne hbefore ⊢
  have h12 := toNat_satAdd x.d12 x.d10
  -- above `d` the pool equals its upgrade: the d12 bucket has room, so there are no d10s, and
  -- then each bucket is as empty as the one below it
  cases d <;>
    simp only [count, forall_die, Die.index, Nat.reduceLT, true_implies, false_implies, and_true,
      ne_eq, ← UInt32.toNat_inj, UInt32.toNat_zero] at hne hbefore hx ⊢ <;>
    omega

/-- Upgrading never weakens a pool whose d12 bucket has room. -/
theorem compare_upgrade_ne_gt {x : Dice} (hx : (x.count .d12).toNat < countMax) (steps : Nat) :
    Dice.compare x (x.upgrade steps) ≠ .gt := by
  induction steps with
  | zero =>
    rw [upgrade_zero_steps]
    exact compare_self_ne_gt x
  | succ n ih =>
    have hstep : x.upgrade (n + 1) = (x.upgrade n).upgrade 1 := by
      rw [upgrade_upgrade, upgrade_min_four]
    by_cases hroom : ((x.upgrade n).count .d12).toNat < countMax
    · -- one more step from a pool that is no weaker and still has room
      rw [hstep]
      exact Std.TransCmp.le_trans ih (compare_upgrade_one_ne_gt hroom)
    · -- the d12 bucket filled up, and `x` has fewer d12s than that
      have hfull : ((x.upgrade (n + 1)).count .d12).toNat = countMax := by
        have := toNat_satAdd (x.upgrade n).d12 (x.upgrade n).d10
        have := toNat_le_countMax ((x.upgrade n).count .d12)
        rw [hstep, upgrade_one]
        simp only [count] at hroom this ⊢
        omega
      have hd : FirstDiff x (x.upgrade (n + 1)) .d12 :=
        ⟨fun h => by rw [h] at hx; omega, fun e he => absurd he (Nat.not_lt_zero _)⟩
      rw [compare_eq_lt_of_firstDiff hd (by omega)]
      decide

end Dice

/-- The comparison of pools is a total order that adding dice respects until a bucket saturates. -/
theorem dice_order_monotone_below_saturation :
    (Std.TransCmp Dice.compare ∧ Std.LawfulEqCmp Dice.compare) ∧
    (∀ a c : Dice, Dice.compare a (a + c) ≠ .gt) ∧
    (∀ a b c : Dice, Dice.compare a b ≠ .gt →
      (∀ d, Dice.FirstDiff a b d → (a.count d).toNat + (c.count d).toNat < countMax) →
      Dice.compare (a + c) (b + c) ≠ .gt) ∧
    ∀ (x : Dice) (steps : Nat), (x.count .d12).toNat < countMax →
      Dice.compare x (x.upgrade steps) ≠ .gt :=
  ⟨⟨inferInstance, inferInstance⟩, Dice.compare_add_ne_gt,
    fun _ _ c hab hroom => Dice.compare_add_add_ne_gt c hab hroom,
    fun _ steps hx => Dice.compare_upgrade_ne_gt hx steps⟩

/-- Five d10s against one d12, with room in the d12 bucket: the order holds after adding d12s,
and a pool one d12 short of full is not weakened by an upgrade. -/
theorem roomyPools_keep_order :
    Dice.compare ⟨0, 5, 0, 0, 0⟩ ⟨1, 0, 0, 0, 0⟩ ≠ .gt ∧
      Dice.compare (⟨0, 5, 0, 0, 0⟩ + ⟨7, 0, 0, 0, 0⟩) (⟨1, 0, 0, 0, 0⟩ + ⟨7, 0, 0, 0, 0⟩) ≠ .gt ∧
      Dice.compare ⟨4294967294, 5, 0, 0, 0⟩ (Dice.upgrade ⟨4294967294, 5, 0, 0, 0⟩ 1) ≠ .gt :=
  ⟨by decide, dice_order_monotone_below_saturation.2.2.1 _ _ _ (by decide) (by decide),
    dice_order_monotone_below_saturation.2.2.2 _ 1 (by decide)⟩

/-- Where both sums fill the first bucket where two pools differ, the buckets below decide. -/
theorem saturation_turns_order :
    Dice.compare ⟨0, 5, 0, 0, 0⟩ ⟨1, 0, 0, 0, 0⟩ = .lt ∧
      Dice.compare (⟨0, 5, 0, 0, 0⟩ + ⟨4294967295, 0, 0, 0, 0⟩)
        (⟨1, 0, 0, 0, 0⟩ + ⟨4294967295, 0, 0, 0, 0⟩) = .gt ∧
      Dice.compare ⟨4294967295, 5, 0, 0, 0⟩ (Dice.upgrade ⟨4294967295, 5, 0, 0, 0⟩ 1) = .gt := by
  decide

end DicePools
