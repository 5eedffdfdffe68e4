import DicePools.Proofs.ExtraDice
import DicePools.Proofs.Die
import DicePools.Rules.Transform

/-! Capping and upgrading as moves of dice between buckets. Main statement: `bucket_moves_laws`. -/

namespace DicePools
namespace Dice

/-- Moves the dice of every bucket `e` into the bucket `f e`, adding what lands in one bucket
with saturation. -/
def move (f : Die → Die) (x : Dice) : Dice :=
  ofFn fun d => satSum ((Die.all.filter (f · = d)).map x.count)

/-- A moved bucket holds the true sum of the buckets sent to it, cut at the largest count. -/
theorem toNat_count_move (f : Die → Die) (x : Dice) (d : Die) :
    ((x.move f).count d).toNat = min (∑ e with f e = d, (x.count e).toNat) countMax := by
  rw [move, count_ofFn, toNat_satSum, List.map_map, Function.comp_def, Die.sum_filter_all]

theorem toNat_count_add (x y : Dice) (d : Die) :
    ((x + y).count d).toNat = min ((x.count d).toNat + (y.count d).toNat) countMax := by
  rw [count_add, toNat_satAdd]

theorem toNat_total (x : Dice) : x.total.toNat = min (∑ e, (x.count e).toNat) countMax := by
  rw [total, toNat_satSum, ← Die.sum_all]
  rfl

theorem ext_toNat {x y : Dice} (h : ∀ d, (x.count d).toNat = (y.count d).toNat) : x = y :=
  ext_count fun d => UInt32.toNat_inj.mp (h d)

theorem min_sum_min {s : Finset Die} (g : Die → Nat) :
    min (∑ e ∈ s, min (g e) countMax) countMax = min (∑ e ∈ s, g e) countMax := by
  induction s using Finset.induction_on with
  | empty => simp
  | insert a s ha ih =>
    rw [Finset.sum_insert ha, Finset.sum_insert ha]
    omega

theorem move_add (f : Die → Die) (x y : Dice) : (x + y).move f = x.move f + y.move f := by
  refine ext_toNat fun d => ?_
  simp only [toNat_count_move, toNat_count_add]
  rw [min_sum_min fun e => (x.count e).toNat + (y.count e).toNat, Finset.sum_add_distrib]
  omega

theorem move_zero (f : Die → Die) : (0 : Dice).move f = 0 :=
  ext_toNat fun d => by simp [toNat_count_move]

theorem total_move (f : Die → Die) (x : Dice) : (x.move f).total = x.total := by
  apply UInt32.toNat_inj.mp
  simp only [toNat_total, toNat_count_move]
  rw [min_sum_min fun d => ∑ e with f e = d, (x.count e).toNat, Finset.sum_fiberwise]

/-- Two moves are the move along the composite map: the buckets sent to `d` by the second move
gather exactly the buckets whose image under `g ∘ f` is `d`. -/
theorem move_move (f g : Die → Die) (x : Dice) : (x.move f).move g = x.move (g ∘ f) := by
  refine ext_toNat fun d => ?_
  simp only [toNat_count_move, Function.comp_apply]
  rw [min_sum_min fun e => ∑ e' with f e' = e, (x.count e').toNat]
  have hmaps : ∀ e ∈ Finset.univ.filter (fun e => g (f e) = d),
      f e ∈ Finset.univ.filter (fun e => g e = d) := by simp
  have hfibre : ∀ e ∈ Finset.univ.filter (fun e => g e = d),
      ((Finset.univ.filter fun e => g (f e) = d).filter fun e' => f e' = e) =
        Finset.univ.filter fun e' => f e' = e := by
    intro e he
    ext e'
    simp only [Finset.mem_filter, Finset.mem_univ, true_and] at he ⊢
    constructor
    · exact And.right
    · intro h
      exact ⟨h ▸ he, h⟩
  rw [← Finset.sum_fiberwise_of_maps_to hmaps fun e => (x.count e).toNat]
  congr 1
  refine Finset.sum_congr rfl fun e he => ?_
  rw [hfibre e he]

theorem count_move_of_fibre {f : Die → Die} {d : Die} (h : ∀ e, f e = d ↔ e = d) (x : Dice) :
    (x.move f).count d = x.count d := by
  apply UInt32.toNat_inj.mp
  have hle := toNat_le_countMax (x.count d)
  rw [toNat_count_move]
  simp only [h, Finset.filter_eq', Finset.mem_univ, if_true, Finset.sum_singleton]
  omega

theorem move_id (x : Dice) : x.move id = x :=
  ext_count fun _ => count_move_of_fibre (fun _ => Iff.rfl) x

theorem upgrade_eq_move (x : Dice) (steps : Nat) : x.upgrade steps = x.move (·.raise steps) := by
  unfold upgrade move
  simp only [Die.raise_eq_iff]

/-- Capping at `l` sends every die to the smaller of itself and `l`. -/
theorem limitTo_eq_move (x : Dice) (l : Die) : x.limitTo l = x.move (·.smaller l) := by
  refine ext_toNat fun d => ?_
  rw [toNat_count_move, count_limitTo]
  split_ifs with hlt heq
  · -- nothing lands above the cap
    have hnone : ∀ e : Die, e.smaller l ≠ d := fun e he => by
      have := congrArg Die.index he
      rw [Die.index_smaller] at this
      omega
    simp [hnone]
  · subst heq
    have hcap : ∀ e : Die, e.smaller d = d ↔ e.index ≤ d.index := fun e => by
      rw [← Die.index_injective_iff, Die.index_smaller]
      omega
    simp only [hcap, toNat_satSum, List.map_map, Function.comp_def, Die.sum_filter_all]
  · -- below the cap every die stays where it is
    have hstay : ∀ e : Die, e.smaller l = d ↔ e = d := fun e => by
      rw [← Die.index_injective_iff, ← Die.index_injective_iff, Die.index_smaller]
      have := Die.index_injective_iff.not.mpr heq
      omega
    rw [← toNat_count_move, count_move_of_fibre hstay]

/-! ## Capping and upgrading -/

theorem upgrade_add (x y : Dice) (steps : Nat) :
    (x + y).upgrade steps = x.upgrade steps + y.upgrade steps := by
  simp only [upgrade_eq_move, move_add]

theorem upgrade_zero (steps : Nat) : (0 : Dice).upgrade steps = 0 := by
  rw [upgrade_eq_move, move_zero]

theorem total_limitTo (x : Dice) (l : Die) : (x.limitTo l).total = x.total := by
  rw [limitTo_eq_move, total_move]

theorem total_upgrade (x : Dice) (steps : Nat) : (x.upgrade steps).total = x.total := by
  rw [upgrade_eq_move, total_move]

theorem limitTo_limitTo (x : Dice) (l l' : Die) :
    (x.limitTo l).limitTo l' = x.limitTo (l.smaller l') := by
  simp only [limitTo_eq_move, move_move]
  congr 1
  funext e
  exact Die.smaller_assoc e l l'

theorem upgrade_min_four (x : Dice) (steps : Nat) : x.upgrade (min steps 4) = x.upgrade steps := by
  simp only [upgrade_eq_move, Die.raise_min_four]

theorem upgrade_upgrade (x : Dice) (a b : Nat) :
    (x.upgrade a).upgrade b = x.upgrade (min (a + b) 4) := by
  simp only [upgrade_eq_move, move_move]
  congr 1
  funext e
  rw [Function.comp_apply, Die.raise_raise, Die.raise_min_four]

example : ((⟨4294967295, 0, 3, 0, 0⟩ : Dice).upgrade 1).upgrade 5 = ⟨4294967295, 0, 0, 0, 0⟩ := by
  decide

theorem upgrade_zero_steps (x : Dice) : x.upgrade 0 = x := by
  have hid : (fun e : Die => e.raise 0) = id := funext fun e => Die.index_injective (by simp [Die.index_raise])
  rw [upgrade_eq_move, hid, move_id]

theorem foldl_upgrade (steps : List Nat) (x : Dice) : steps.foldl upgrade x = x.upgrade steps.sum := by
  induction steps generalizing x with
  | nil => rw [List.foldl_nil, List.sum_nil, upgrade_zero_steps]
  | cons s steps ih => rw [List.foldl_cons, ih, upgrade_upgrade, upgrade_min_four, List.sum_cons]

end Dice

/-- The steps a rule in use upgrades dice by: its upgrade steps, none for a rule of another kind. -/
def Effect.upgradeSteps : Effect → Nat
  | .diceUpgrade g => g.steps
  | _ => 0

namespace RuleBook

theorem upgradeDice_fst (b : RuleBook) (ctx : Context) (dice : Dice) :
    (b.upgradeDice ctx dice).value.1 =
      dice.upgrade (((b.usedRules .diceUpgrade ctx).value.map (·.2.setting.effect.upgradeSteps)).sum) := by
  unfold upgradeDice
  rw [Logged.value_bind, Logged.value_pure, ← Dice.foldl_upgrade]
  generalize (b.usedRules .diceUpgrade ctx).value = used
  suffices h : ∀ (x : Dice) (adds : List String), (used.foldl _ (x, adds)).1 =
      (used.map (·.2.setting.effect.upgradeSteps)).foldl Dice.upgrade x from h dice []
  induction used with
  | nil => intro x adds; rfl
  | cons p used ih =>
    intro x adds
    obtain ⟨r, u⟩ := p
    rw [List.foldl_cons, List.map_cons, List.foldl_cons]
    cases h : u.setting.effect <;>
      simp only [h, Effect.upgradeSteps, Dice.upgrade_zero_steps] <;> exact ih _ _

end RuleBook

open Dice in
/-- Capping and upgrading are maps of the monoid of pools under saturating addition; caps compose
to the smaller cap and upgrades add their steps, up to four. -/
theorem bucket_moves_laws :
    ((∀ x y z : Dice, x + y + z = x + (y + z)) ∧ (∀ x y : Dice, x + y = y + x) ∧
      (∀ x : Dice, Dice.empty + x = x) ∧
      ∀ xs ys : List Dice, xs.Perm ys → Dice.sum xs = Dice.sum ys) ∧
    (∀ (x y : Dice) (l : Die), (x + y).limitTo l = x.limitTo l + y.limitTo l) ∧
    (∀ (x y : Dice) (steps : Nat), (x + y).upgrade steps = x.upgrade steps + y.upgrade steps) ∧
    (∀ l : Die, Dice.empty.limitTo l = Dice.empty) ∧
    (∀ steps : Nat, Dice.empty.upgrade steps = Dice.empty) ∧
    (∀ (x : Dice) (l : Die), (x.limitTo l).total = x.total) ∧
    (∀ (x : Dice) (steps : Nat), (x.upgrade steps).total = x.total) ∧
    (∀ x : Dice, x.total.toNat = min (x.toList.map UInt32.toNat).sum countMax) ∧
    (∀ (x : Dice) (l l' : Die), (x.limitTo l).limitTo l' = x.limitTo (l.smaller l')) ∧
    (∀ (x : Dice) (l : Die), (x.limitTo l).limitTo l = x.limitTo l) ∧
    (∀ (x : Dice) (a b : Nat), (x.upgrade a).upgrade b = x.upgrade (min (a + b) 4)) ∧
    ∀ (b : RuleBook) (ctx : Context) (dice : Dice),
      (b.upgradeDice ctx dice).value.1 =
        dice.upgrade (((b.usedRules .diceUpgrade ctx).value.map
          (·.2.setting.effect.upgradeSteps)).sum) := by
  refine ⟨⟨add_assoc, add_comm, zero_add, fun xs ys h => ?_⟩, limitTo_add, upgrade_add,
    limitTo_zero, upgrade_zero, total_limitTo, total_upgrade, fun x => toNat_satSum x.toList,
    limitTo_limitTo, fun x l => ?_, upgrade_upgrade, RuleBook.upgradeDice_fst⟩
  · rw [sum_eq_sum, sum_eq_sum, h.sum_eq]
  · rw [limitTo_limitTo, Die.smaller_self]

/-- Pools summed in any order, one bucket full: the sum does not depend on the order. -/
theorem fullBucket_sum_any_order :
    [(⟨4294967295, 0, 0, 0, 0⟩ : Dice), ⟨1, 2, 0, 0, 0⟩, ⟨0, 0, 2, 1, 0⟩].Perm
        [⟨0, 0, 2, 1, 0⟩, ⟨1, 2, 0, 0, 0⟩, ⟨4294967295, 0, 0, 0, 0⟩] ∧
      Dice.sum [⟨4294967295, 0, 0, 0, 0⟩, ⟨1, 2, 0, 0, 0⟩, ⟨0, 0, 2, 1, 0⟩] =
        Dice.sum [⟨0, 0, 2, 1, 0⟩, ⟨1, 2, 0, 0, 0⟩, ⟨4294967295, 0, 0, 0, 0⟩] :=
  ⟨by decide, bucket_moves_laws.1.2.2.2 _ _ (by decide)⟩

end DicePools
