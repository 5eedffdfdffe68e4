import DicePools.Proofs.Overflow
import DicePools.Proofs.ConditionStore
import Mathlib

/-! Encumbrance conditions follow the load. Main statement: `encumbrance_conditions_follow_load`. -/

namespace DicePools

open Float.Model (UnpackedFloat)

/-! ## Comparing floats -/

/-- Where an unpacked float stands in the order that IEEE comparison follows; NaN has no place. -/
def floatRank? : UnpackedFloat → Option (ℤ ×ₗ ℤ ×ₗ ℤ)
  | .notANumber => none
  | .infinity .negative => some (toLex (-2, toLex (0, 0)))
  | .finite .negative m e _ => some (toLex (-1, toLex (-e, -(m : ℤ))))
  | .zero _ => some (toLex (0, toLex (0, 0)))
  | .finite .positive m e _ => some (toLex (1, toLex (e, (m : ℤ))))
  | .infinity .positive => some (toLex (2, toLex (0, 0)))

theorem compare_eq_lt_iff (a b : UnpackedFloat) :
    a.compare b = some .lt ↔
      ∃ x y, floatRank? a = some x ∧ floatRank? b = some y ∧ x < y := by
  rcases a with ⟨_ | _⟩ | _ | ⟨_ | _⟩ | ⟨_ | _, m, e, hm⟩ <;>
  rcases b with ⟨_ | _⟩ | _ | ⟨_ | _⟩ | ⟨_ | _, m', e', hm'⟩ <;>
  simp +decide [UnpackedFloat.compare, floatRank?, Prod.Lex.toLex_lt_toLex, Ordering.then_eq_lt,
    Ordering.then_eq_gt, compare_gt_iff_gt, compare_lt_iff_lt]

theorem compare_isLE_iff (a b : UnpackedFloat) :
    (a.compare b).any (·.isLE) = true ↔
      ∃ x y, floatRank? a = some x ∧ floatRank? b = some y ∧ x ≤ y := by
  rcases a with ⟨_ | _⟩ | _ | ⟨_ | _⟩ | ⟨_ | _, m, e, hm⟩ <;>
  rcases b with ⟨_ | _⟩ | _ | ⟨_ | _⟩ | ⟨_ | _, m', e', hm'⟩ <;>
  simp +decide [UnpackedFloat.compare, floatRank?, Prod.Lex.toLex_le_toLex, Ordering.then_eq_lt,
    Ordering.isGE_iff_eq_gt_or_eq_eq, Ordering.then_eq_gt, Ordering.then_eq_eq,
    Ordering.isLE_iff_eq_lt_or_eq_eq, compare_gt_iff_gt, compare_lt_iff_lt] <;>
  omega

theorem float_lt_iff (a b : Float) :
    a < b ↔ a.toModel.unpack.compare b.toModel.unpack = some .lt := by
  show a.lt b = true ↔ _
  simp [Float.lt, LT.lt, Float.Model.lt, UnpackedFloat.lt]

theorem float_le_iff (a b : Float) :
    a ≤ b ↔ (a.toModel.unpack.compare b.toModel.unpack).any (·.isLE) = true := by
  show decide (a.toModel ≤ b.toModel) = true ↔ _
  rw [decide_eq_true_iff]
  rfl

theorem float_lt_of_lt_of_le {a b c : Float} (hab : a < b) (hbc : b ≤ c) : a < c := by
  rw [float_lt_iff, compare_eq_lt_iff] at hab ⊢
  rw [float_le_iff, compare_isLE_iff] at hbc
  obtain ⟨x, y, hx, hy, hxy⟩ := hab
  obtain ⟨y', z, hy', hz, hyz⟩ := hbc
  obtain rfl : y = y' := Option.some.inj (hy.symm.trans hy')
  exact ⟨x, z, hx, hz, hxy.trans_le hyz⟩

/-! ## The status grows with the load -/

namespace Encumbrance

/-- How severe a status is: unencumbered 0, burdened 1, over-burdened 2, cannot move 3. -/
def severity : Encumbrance → Nat
  | unencumbered => 0
  | burdened => 1
  | overBurdened => 2
  | cannotMove => 3

/-- The status the weight alone implies: the highest limit it exceeds. -/
def weightLevel (l : Limits) (w : Float) : Nat :=
  if w > Float.ofInt l.overBurdened then 3
  else if w > Float.ofInt l.burdened then 2
  else if w > Float.ofInt l.none then 1
  else 0

/-- The status the worn armor alone implies: two pieces burden, three over-burden, more stop. -/
def armorLevel (n : Nat) : Nat :=
  if n > 3 then 3 else if n = 3 then 2 else if n = 2 then 1 else 0

/-- A load is as encumbered as the worse of what its weight and its armor imply. -/
theorem severity_classify (l : Limits) (ld : Load) :
    (classify l ld).severity = max (weightLevel l ld.weight) (armorLevel ld.wornArmor) := by
  dsimp only [classify, weightLevel, armorLevel]
  split_ifs <;> simp_all [severity]

theorem weightLevel_mono {l : Limits} {w w' : Float}
    (hw : ∀ L : Int, w > Float.ofInt L → w' > Float.ofInt L) :
    weightLevel l w ≤ weightLevel l w' := by
  have hover := hw l.overBurdened
  have hburdened := hw l.burdened
  have hnone := hw l.none
  unfold weightLevel
  split_ifs <;> simp_all

theorem armorLevel_mono {n n' : Nat} (h : n ≤ n') : armorLevel n ≤ armorLevel n' := by
  unfold armorLevel
  split_ifs <;> omega

/-- A load that exceeds every limit the first one exceeds and wears at least as much armor is at
least as encumbered, whatever the order of the limits. -/
theorem severity_classify_mono {l : Limits} {ld ld' : Load}
    (hw : ∀ L : Int, ld.weight > Float.ofInt L → ld'.weight > Float.ofInt L)
    (ha : ld.wornArmor ≤ ld'.wornArmor) :
    (classify l ld).severity ≤ (classify l ld').severity := by
  have hweight : weightLevel l ld.weight ≤ weightLevel l ld'.weight := weightLevel_mono hw
  have harmor : armorLevel ld.wornArmor ≤ armorLevel ld'.wornArmor := armorLevel_mono ha
  rw [severity_classify, severity_classify]
  omega

theorem severity_classify_le {l : Limits} {ld ld' : Load} (hw : ld.weight ≤ ld'.weight)
    (ha : ld.wornArmor ≤ ld'.wornArmor) :
    (classify l ld).severity ≤ (classify l ld').severity :=
  severity_classify_mono (fun _ hL => float_lt_of_lt_of_le hL hw) ha

end Encumbrance

/-! ## Inserting into a sorted set

These hold of every list, sorted or not. -/

section InsertSortedSet

variable {x y : String} {l : List String}

theorem insertSortedSet_idem (x : String) (l : List String) :
    insertSortedSet x (insertSortedSet x l) = insertSortedSet x l := by
  induction l with
  | nil => simp [insertSortedSet]
  | cons z zs ih =>
    by_cases hxz : x = z
    · simp [insertSortedSet, hxz]
    · by_cases hlt : x < z
      · simp [insertSortedSet, hxz, hlt]
      · simp [insertSortedSet, hxz, hlt, ih]

theorem insertSortedSet_insertSortedSet_of_fixed (h : insertSortedSet x l = l) (y : String) :
    insertSortedSet x (insertSortedSet y l) = insertSortedSet y l := by
  induction l with
  | nil => simp [insertSortedSet] at h
  | cons z zs ih =>
    by_cases hxz : x = z
    · subst hxz
      by_cases hyx : y = x
      · simp [insertSortedSet, hyx]
      · by_cases hlt : y < x
        · have hnlt : ¬ x < y := by grind
          simp [insertSortedSet, hyx, hlt, hnlt, Ne.symm hyx]
        · simp [insertSortedSet, hyx, hlt]
    · -- the walk for `x` passes `z`, so `z` is below `x` and `x` is found in the rest
      have hlt : ¬ x < z := fun hlt => by simp [insertSortedSet, hxz, hlt] at h
      have hzx : z < x := by grind
      have hzs : insertSortedSet x zs = zs := by simpa [insertSortedSet, hxz, hlt] using h
      by_cases hyz : y = z
      · simpa [insertSortedSet, hyz] using h
      · by_cases hylt : y < z
        · have hxy : x ≠ y := by grind
          have hnlt : ¬ x < y := by grind
          simp [insertSortedSet, hyz, hylt, hxy, hnlt, hxz, hlt, hzs]
        · simp [insertSortedSet, hyz, hylt, hxz, hlt, ih hzs]

theorem filter_insertSortedSet {p : String → Bool} (hp : p x = false) (l : List String) :
    (insertSortedSet x l).filter p = l.filter p := by
  induction l with
  | nil => simp [insertSortedSet, hp]
  | cons z zs ih =>
    by_cases hxz : x = z
    · simp [insertSortedSet, hxz]
    · by_cases hlt : x < z
      · simp [insertSortedSet, hxz, hlt, hp]
      · by_cases hpz : p z = true <;> simp [insertSortedSet, hxz, hlt, hpz, ih]

theorem filter_foldl_insertSortedSet {p : String → Bool} {ks : List String}
    (hp : ∀ k ∈ ks, p k = false) (l : List String) :
    (ks.foldl (fun acc k => insertSortedSet k acc) l).filter p = l.filter p := by
  induction ks generalizing l with
  | nil => rfl
  | cons k ks ih =>
    rw [List.foldl_cons, ih (fun j hj => hp j (List.mem_cons_of_mem k hj)),
      filter_insertSortedSet (hp k List.mem_cons_self)]

theorem foldl_insertSortedSet_of_fixed {ks : List String}
    (h : ∀ k ∈ ks, insertSortedSet k l = l) :
    ks.foldl (fun acc k => insertSortedSet k acc) l = l := by
  induction ks with
  | nil => rfl
  | cons k ks ih =>
    rw [List.foldl_cons, h k List.mem_cons_self, ih (fun j hj => h j (List.mem_cons_of_mem k hj))]

theorem insertSortedSet_foldl_of_fixed (h : insertSortedSet x l = l) (ks : List String) :
    insertSortedSet x (ks.foldl (fun acc k => insertSortedSet k acc) l) =
      ks.foldl (fun acc k => insertSortedSet k acc) l := by
  induction ks generalizing l with
  | nil => exact h
  | cons k ks ih => exact ih (insertSortedSet_insertSortedSet_of_fixed h k)

theorem insertSortedSet_foldl {ks : List String} (hx : x ∈ ks) (l : List String) :
    insertSortedSet x (ks.foldl (fun acc k => insertSortedSet k acc) l) =
      ks.foldl (fun acc k => insertSortedSet k acc) l := by
  induction ks generalizing l with
  | nil => simp at hx
  | cons k ks ih =>
    rw [List.foldl_cons]
    rcases List.mem_cons.mp hx with rfl | hx
    · exact insertSortedSet_foldl_of_fixed (insertSortedSet_idem x l) ks
    · exact ih hx _

end InsertSortedSet

/-! ## Setting the encumbrance conditions -/

/-- The three encumbrance conditions. -/
def encumbranceConditions : List String :=
  [ConditionName.burdened, ConditionName.overBurdened, ConditionName.cannotMove]

namespace Encumbrance

/-- The encumbrance conditions active at a status. -/
def conditions : Encumbrance → List String
  | unencumbered => []
  | burdened => [ConditionName.burdened]
  | overBurdened => [ConditionName.burdened, ConditionName.overBurdened]
  | cannotMove => encumbranceConditions

/-- The encumbrance conditions a status clears. -/
def cleared : Encumbrance → List String
  | unencumbered => encumbranceConditions
  | burdened => [ConditionName.overBurdened, ConditionName.cannotMove]
  | overBurdened => [ConditionName.cannotMove]
  | cannotMove => []

theorem mem_cleared_iff (s : Encumbrance) :
    ∀ n ∈ encumbranceConditions, n ∈ s.cleared ↔ n ∉ s.conditions := by
  cases s <;> decide

theorem cleared_subset (s : Encumbrance) : ∀ n ∈ s.cleared, n ∈ encumbranceConditions := by
  cases s <;> decide

theorem key_conditions (s : Encumbrance) : s.conditions.map Name.key = s.conditions := by
  cases s <;> decide

theorem key_cleared (s : Encumbrance) : s.cleared.map Name.key = s.cleared := by
  cases s <;> decide

theorem conditions_subset (s : Encumbrance) :
    ∀ n ∈ s.conditions, n ∈ encumbranceConditions := by
  cases s <;> decide

end Encumbrance

namespace Conditions

variable {c : Conditions} {names : List String}

theorem mem_add {n : String} :
    n ∈ (c.add names).active ↔ n ∈ names.map Name.key ∨ n ∈ c.active :=
  mem_foldl_insertSortedSet _ _

theorem mem_remove {n : String} :
    n ∈ (c.remove names).active ↔ n ∈ c.active ∧ n ∉ names.map Name.key := by
  simp [Conditions.remove]

theorem filter_add {p : String → Bool} (hp : ∀ k ∈ names.map Name.key, p k = false) :
    (c.add names).active.filter p = c.active.filter p :=
  filter_foldl_insertSortedSet hp c.active

theorem insertSortedSet_add {k : String} (hk : k ∈ names.map Name.key) :
    insertSortedSet k (c.add names).active = (c.add names).active :=
  insertSortedSet_foldl hk c.active

theorem add_of_fixed (h : ∀ k ∈ names.map Name.key, insertSortedSet k c.active = c.active) :
    c.add names = c := by
  simp only [Conditions.add, foldl_insertSortedSet_of_fixed h]

theorem remove_of_not_mem (h : ∀ x ∈ c.active, x ∉ names.map Name.key) :
    c.remove names = c := by
  simp only [Conditions.remove]
  rw [List.filter_eq_self.mpr (fun x hx => by simpa using h x hx)]

/-- `c'` is `c` with the encumbrance conditions of `s`: of the three, exactly those of `s` are
active; every other active condition stays, in order and number; the quotas stay. -/
structure Encumbered (c c' : Conditions) (s : Encumbrance) : Prop where
  encumbrance : ∀ n ∈ encumbranceConditions, n ∈ c'.active ↔ n ∈ s.conditions
  others : c'.active.filter (· ∉ encumbranceConditions) =
    c.active.filter (· ∉ encumbranceConditions)
  quotas : c'.quotas = c.quotas

theorem setEncumbrance_eq (c : Conditions) (s : Encumbrance) :
    c.setEncumbrance s = (c.remove s.cleared).add s.conditions := by
  cases s with
  | cannotMove =>
    rw [remove_of_not_mem (fun x _ => by simp [Encumbrance.cleared])]
    rfl
  | _ => rfl

theorem encumbered_setEncumbrance (c : Conditions) (s : Encumbrance) :
    c.Encumbered (c.setEncumbrance s) s where
  encumbrance n hn := by
    rw [setEncumbrance_eq, mem_add, mem_remove, s.key_conditions, s.key_cleared,
      s.mem_cleared_iff n hn]
    tauto
  others := by
    rw [setEncumbrance_eq, filter_add (fun k hk => ?_)]
    · -- what is cleared is an encumbrance condition, which the filter drops anyway
      simp only [Conditions.remove, List.filter_filter, s.key_cleared]
      congr 1
      funext x
      by_cases hx : x ∈ s.cleared
      · simp [hx, s.cleared_subset x hx]
      · simp [hx]
    · rw [s.key_conditions] at hk
      simp [s.conditions_subset k hk]
  quotas := by
    rw [setEncumbrance_eq]
    rfl

theorem setEncumbrance_setEncumbrance (c : Conditions) (s : Encumbrance) :
    (c.setEncumbrance s).setEncumbrance s = c.setEncumbrance s := by
  have hset := encumbered_setEncumbrance c s
  rw [setEncumbrance_eq (c.setEncumbrance s), remove_of_not_mem (fun x hx hcl => ?_),
    add_of_fixed (fun k hk => ?_)]
  · -- each implied condition is where its walk finds it
    rw [setEncumbrance_eq]
    exact insertSortedSet_add hk
  · -- no cleared condition is left active
    rw [s.key_cleared] at hcl
    have hconds := (hset.encumbrance x (s.cleared_subset x hcl)).mp hx
    exact (s.mem_cleared_iff x (s.cleared_subset x hcl)).mp hcl hconds

end Conditions

/-! ## Managing encumbrance and deriving stats -/

theorem Conditions.manage_value (c : Conditions) (l : Limits) (load : Load) :
    (c.manage l load).value =
      (Encumbrance.classify l load, c.setEncumbrance (Encumbrance.classify l load)) := rfl

/-- Managing encumbrance twice under the same limits and load manages it once. -/
theorem Conditions.manage_manage (c : Conditions) (l : Limits) (load : Load) :
    ((c.manage l load).value.2.manage l load).value = (c.manage l load).value := by
  rw [manage_value, manage_value, setEncumbrance_setEncumbrance]

example :
    ((Conditions.withActive [ConditionName.cannotMove]).manage ⟨9, 21, 33⟩
      ⟨22.0, 0⟩).value =
      (.overBurdened, ⟨[ConditionName.burdened, ConditionName.overBurdened], []⟩) := by
  decide +kernel

/-- What deriving stats computes when it succeeds. -/
theorem RuleBook.derive_eq_ok_iff (b : RuleBook) (cfg : Config) (c : Conditions)
    (d : DerivedStats) (c' : Conditions) :
    (b.derive cfg c).run.value = .ok (d, c') ↔
      (b.coinage cfg c).run.value = .ok d.coinage ∧ d.load = b.load cfg d.coinage ∧
      (b.limits c).run.value = .ok d.limits ∧
      d.status = Encumbrance.classify d.limits d.load ∧
      c' = (if cfg.manageEncumbranceAuto then (c.manage d.limits d.load).value.2 else c) ∧
      (b.movement cfg c').run.value = .ok d.movement := by
  obtain ⟨mv, lim, ld, coins, st⟩ := d
  cases hauto : cfg.manageEncumbranceAuto <;>
  simp only [RuleBook.derive, hauto, Guarded.bind_eq_ok, Guarded.run_liftLogged, Guarded.run_pure,
    Except.ok.injEq, Prod.mk.injEq, DerivedStats.mk.injEq, if_true, if_false, Bool.false_eq_true]
  all_goals
    constructor
    · rintro ⟨coins, hcoins, lim, hlim, _, rfl, mv, hmv, ⟨rfl, rfl, rfl, rfl, rfl⟩, rfl⟩
      exact ⟨hcoins, rfl, hlim, rfl, rfl, hmv⟩
    · rintro ⟨hcoins, rfl, hlim, rfl, rfl, hmv⟩
      exact ⟨coins, hcoins, lim, hlim, _, rfl, mv, hmv, ⟨rfl, rfl, rfl, rfl, rfl⟩, rfl⟩

/-- Managing encumbrance sets exactly the encumbrance conditions of the load's status and leaves
everything else, and the status grows with the load. -/
theorem encumbrance_conditions_follow_load (l : Limits) (load : Load) (c : Conditions)
    (b : RuleBook) (cfg : Config) (d : DerivedStats) (c' : Conditions) :
    (c.manage l load).value.1 = Encumbrance.classify l load ∧
    c.Encumbered (c.manage l load).value.2 (Encumbrance.classify l load) ∧
    ((c.manage l load).value.2.manage l load).value = (c.manage l load).value ∧
    (∀ load' : Load, load.weight ≤ load'.weight → load.wornArmor ≤ load'.wornArmor →
      (Encumbrance.classify l load).severity ≤ (Encumbrance.classify l load').severity) ∧
    ((b.derive cfg c).run.value = .ok (d, c') ↔
      (b.coinage cfg c).run.value = .ok d.coinage ∧ d.load = b.load cfg d.coinage ∧
      (b.limits c).run.value = .ok d.limits ∧
      d.status = Encumbrance.classify d.limits d.load ∧
      c' = (if cfg.manageEncumbranceAuto then (c.manage d.limits d.load).value.2 else c) ∧
      (b.movement cfg c').run.value = .ok d.movement) :=
  ⟨rfl, c.encumbered_setEncumbrance _, c.manage_manage l load,
    fun _ hw ha => Encumbrance.severity_classify_le hw ha, b.derive_eq_ok_iff cfg c d c'⟩

/-- Five stones and no armor against twenty-two stones in two pieces of armor, under the limits
of three d8 of body. -/
theorem heavierLoad_more_encumbered :
    (5.0 : Float) ≤ 22.0 ∧ 0 ≤ 2 ∧
      (Encumbrance.classify ⟨9, 21, 33⟩ ⟨5.0, 0⟩).severity ≤
        (Encumbrance.classify ⟨9, 21, 33⟩ ⟨22.0, 2⟩).severity :=
  ⟨by decide +kernel, by decide,
    (encumbrance_conditions_follow_load ⟨9, 21, 33⟩ ⟨5.0, 0⟩ Conditions.empty default
      default default default).2.2.2.1 ⟨22.0, 2⟩ (by decide +kernel) (by decide)⟩

end DicePools
