import DicePools.Proofs.DiceOrder
import DicePools.Proofs.Overflow
import DicePools.Proofs.NameKey

/-! The dice of a skill. Main statements: `ofMarks_strictly_monotone` and
`prepare_derives_skill_dice`. -/

namespace DicePools
namespace Dice

/-- A pool of `q` d12s and the one die that a remainder of `r` marks adds. -/
def withRemainder (q : UInt32) (r : Nat) : Dice :=
  ⟨q, if r = 4 then 1 else 0, if r = 3 then 1 else 0, if r = 2 then 1 else 0, if r = 1 then 1 else 0⟩

theorem ofMarks_eq_withRemainder (m : UInt32) : ofMarks m = withRemainder (m / 5) (m.toNat % 5) := by
  have hr : m.toNat % 5 < 5 := Nat.mod_lt _ (by decide)
  have h10 : (m.toNat % 5 ≠ 0 ∧ 1 = 5 - m.toNat % 5) ↔ m.toNat % 5 = 4 := by omega
  have h8 : (m.toNat % 5 ≠ 0 ∧ 2 = 5 - m.toNat % 5) ↔ m.toNat % 5 = 3 := by omega
  have h6 : (m.toNat % 5 ≠ 0 ∧ 3 = 5 - m.toNat % 5) ↔ m.toNat % 5 = 2 := by omega
  have h4 : (m.toNat % 5 ≠ 0 ∧ 4 = 5 - m.toNat % 5) ↔ m.toNat % 5 = 1 := by omega
  simp only [ofMarks, ofFn, withRemainder, Die.index, reduceCtorEq, if_false, if_true, h10, h8, h6, h4]

theorem compare_withRemainder {r r' : Nat} (h : r < r') (h' : r' < 5) (q : UInt32) :
    Dice.compare (withRemainder q r) (withRemainder q r') = .lt := by
  unfold Dice.compare withRemainder
  simp only [Std.ReflCmp.compare_self, Ordering.eq_then]
  interval_cases r' <;> interval_cases r <;> decide

theorem compare_withRemainder_of_lt {q q' : UInt32} (h : q < q') (r r' : Nat) :
    Dice.compare (withRemainder q r) (withRemainder q' r') = .lt := by
  have hd : FirstDiff (withRemainder q r) (withRemainder q' r') .d12 :=
    ⟨fun he => absurd he (UInt32.ne_of_lt h), fun e he => absurd he (Nat.not_lt_zero _)⟩
  exact compare_eq_lt_of_firstDiff hd (UInt32.lt_iff_toNat_lt.mp h)

/-- More marks give a strictly stronger pool. -/
theorem compare_ofMarks_lt {m m' : UInt32} (h : m < m') :
    Dice.compare (ofMarks m) (ofMarks m') = .lt := by
  rw [ofMarks_eq_withRemainder, ofMarks_eq_withRemainder]
  have hlt := UInt32.lt_iff_toNat_lt.mp h
  rcases Nat.lt_or_ge (m.toNat / 5) (m'.toNat / 5) with hq | hq
  · -- the fifth mark past a multiple of five trades the remainder die for a d12
    refine compare_withRemainder_of_lt (UInt32.lt_iff_toNat_lt.mpr ?_) _ _
    simpa only [UInt32.toNat_div, UInt32.reduceToNat] using hq
  · -- as many d12s, so the remainder grew
    have hq' : m / 5 = m' / 5 :=
      UInt32.toNat_inj.mp (by simp only [UInt32.toNat_div, UInt32.reduceToNat]; omega)
    rw [hq']
    exact compare_withRemainder (by omega) (Nat.mod_lt _ (by decide)) _

theorem ofMarks_ne_of_lt {m m' : UInt32} (h : m < m') : ofMarks m ≠ ofMarks m' := by
  intro he
  have hc := compare_ofMarks_lt h
  have hself : Dice.compare (ofMarks m') (ofMarks m') = .eq := Std.ReflCmp.compare_self
  rw [he, hself] at hc
  cases hc

theorem ofMarks_injective : Function.Injective ofMarks := by
  intro m m' h
  by_contra hne
  have hne' : m.toNat ≠ m'.toNat := fun he => hne (UInt32.toNat_inj.mp he)
  rcases Nat.lt_or_gt_of_ne hne' with hlt | hlt
  · exact ofMarks_ne_of_lt (UInt32.lt_iff_toNat_lt.mpr hlt) h
  · exact ofMarks_ne_of_lt (UInt32.lt_iff_toNat_lt.mpr hlt) h.symm

theorem toNat_total_ofMarks (m : UInt32) :
    (ofMarks m).total.toNat = m.toNat / 5 + if m.toNat % 5 = 0 then 0 else 1 := by
  have hq : m.toNat / 5 < countMax := by have := m.toNat_lt; unfold countMax; omega
  have hr : m.toNat % 5 < 5 := Nat.mod_lt _ (by decide)
  rw [ofMarks_eq_withRemainder, total, toNat_satSum]
  simp only [withRemainder, toList, List.map_cons, List.map_nil, List.sum_cons, List.sum_nil,
    UInt32.toNat_div, UInt32.reduceToNat]
  generalize m.toNat % 5 = r at hr ⊢
  interval_cases r <;> simp <;> omega

end Dice

/-- Skill marks turn into dice strictly monotonically. -/
theorem ofMarks_strictly_monotone :
    (∀ m m' : UInt32, m < m' → Dice.compare (Dice.ofMarks m) (Dice.ofMarks m') = .lt) ∧
    Function.Injective Dice.ofMarks ∧
    ∀ m : UInt32, (Dice.ofMarks m).total.toNat = m.toNat / 5 + if m.toNat % 5 = 0 then 0 else 1 :=
  ⟨fun _ _ h => Dice.compare_ofMarks_lt h, Dice.ofMarks_injective, Dice.toNat_total_ofMarks⟩

/-- Four marks, a d10, lose against five, a d12; nine marks are two dice. -/
theorem fourMarks_below_five :
    Dice.compare (Dice.ofMarks 4) (Dice.ofMarks 5) = .lt ∧ (Dice.ofMarks 9).total.toNat = 2 :=
  ⟨ofMarks_strictly_monotone.1 4 5 (by decide), ofMarks_strictly_monotone.2.2 9⟩

/-! ## Preparing a sheet -/

theorem Except.bind_eq_ok_iff {ε α β : Type} {x : Except ε α} {f : α → Except ε β} {b : β} :
    (x >>= f) = .ok b ↔ ∃ a, x = .ok a ∧ f a = .ok b := by
  cases x <;> simp [bind, Except.bind]

theorem Except.mapM_eq_ok_iff {ε α β : Type} {f : α → Except ε β} {l : List α} {ys : List β} :
    l.mapM f = .ok ys ↔ List.Forall₂ (fun x y => f x = .ok y) l ys := by
  induction l generalizing ys with
  | nil => cases ys <;> simp [pure, Except.pure]
  | cons x l ih =>
    rw [List.mapM_cons]
    cases hx : f x with
    | error e => cases ys <;> simp [bind, Except.bind, hx]
    | ok y =>
      cases hl : l.mapM f with
      | error e => cases ys <;> simp [bind, Except.bind, ← ih, hl]
      | ok zs => cases ys <;> simp [bind, Except.bind, pure, Except.pure, ← ih, hl, hx]

theorem Dice.toNat_count_sum (xs : List Dice) (d : Die) :
    ((Dice.sum xs).count d).toNat = min ((xs.map fun x => (x.count d).toNat).sum) countMax := by
  rw [Dice.sum_eq_sum]
  induction xs with
  | nil => simp [countMax]
  | cons x xs ih =>
    rw [List.sum_cons, Dice.toNat_count_add, ih]
    simp only [List.map_cons, List.sum_cons]
    omega

/-- `s'` is the skill `s` of the sheet `a` prepared. -/
structure Skill.PreparedFrom (a : Actor) (s s' : Skill) : Prop where
  key : s'.key = Name.key s.key
  name : s'.name = s.name
  marks : s'.marks = s.marks
  fits : s.marks + a.giftMarks s'.key ≤ u32Top
  own : s'.own = Dice.ofMarks (UInt32.ofNat (s.marks + a.giftMarks s'.key))
  total : ∀ d, (s'.total.count d).toNat =
    min ((s'.own.count d).toNat +
      ((a.traits.filter (·.skills.contains s'.key)).map fun t => (t.dice.count d).toNat).sum +
      ((a.extraCareers.filter (·.2.skills.contains s'.key)).map fun c => (c.2.dice.count d).toNat).sum)
      countMax

namespace Actor

/-- The dice a sheet derives for a skill: its own dice from its marks and gift marks, and its
total, the true sum bucket by bucket of those and of every feeding trait and extra career. -/
theorem skillDice_eq_ok {k : Actor} {s : Skill} {own total : Dice}
    (h : k.skillDice s = .ok (own, total)) :
    s.marks + k.giftMarks s.key ≤ u32Top ∧
      own = Dice.ofMarks (UInt32.ofNat (s.marks + k.giftMarks s.key)) ∧
      ∀ d, (total.count d).toNat =
        min ((own.count d).toNat +
          ((k.traits.filter (·.skills.contains s.key)).map fun t => (t.dice.count d).toNat).sum +
          ((k.extraCareers.filter (·.2.skills.contains s.key)).map
            fun c => (c.2.dice.count d).toNat).sum) countMax := by
  unfold skillDice at h
  unfold giftMarks
  obtain ⟨marks, hmarks, hpure⟩ := Except.bind_eq_ok_iff.mp h
  unfold addU32 at hmarks
  split at hmarks
  next hfits =>
    cases hmarks
    simp only [pure, Except.pure, Except.ok.injEq, Prod.mk.injEq] at hpure
    obtain ⟨rfl, rfl⟩ := hpure
    refine ⟨hfits, rfl, fun d => ?_⟩
    have hown := toNat_le_countMax ((Dice.ofMarks (UInt32.ofNat (s.marks +
      ((k.items.filterMap Item.gift?).filter fun g => g.grantsMark.any (Name.key · == s.key)).length))).count d)
    rw [Dice.toNat_count_add, Dice.toNat_count_add, Dice.toNat_count_sum, Dice.toNat_count_sum]
    simp only [List.map_map, Function.comp_def]
    omega
  next => cases hmarks

end Actor

/-- Preparing a sheet keys its traits and skills and derives each skill's dice from the keyed
sheet. -/
theorem prepare_derives_skill_dice {a a' : Actor} (h : a.prepare = .ok a') :
    a'.traits = a.traits.map (fun t => { t with key := Name.key t.key }) ∧
    a'.items = a.items ∧ a'.conditions = a.conditions ∧
    List.Forall₂ (Skill.PreparedFrom a) a.skills a'.skills ∧
    (∀ t ∈ a'.traits, Name.key t.key = t.key) ∧ ∀ s ∈ a'.skills, Name.key s.key = s.key := by
  unfold Actor.prepare at h
  obtain ⟨skills, hskills, hpure⟩ := Except.bind_eq_ok_iff.mp h
  cases hpure
  have hprep : List.Forall₂ (Skill.PreparedFrom a) a.skills skills := by
    rw [Except.mapM_eq_ok_iff, List.forall₂_map_left_iff] at hskills
    refine hskills.imp fun s s' hs => ?_
    obtain ⟨⟨own, total⟩, hdice, hpure⟩ := Except.bind_eq_ok_iff.mp hs
    simp only [pure, Except.pure, Except.ok.injEq] at hpure
    subst hpure
    obtain ⟨hfits, hown, htotal⟩ := Actor.skillDice_eq_ok hdice
    simp only [Actor.giftMarks, Actor.extraCareers, List.filter_map, List.map_map,
      Function.comp_def] at hfits hown htotal
    exact ⟨rfl, rfl, rfl, hfits, hown, htotal⟩
  refine ⟨rfl, rfl, rfl, hprep, ?_, ?_⟩
  · simp
  · clear hskills h
    generalize a.skills = l at hprep
    induction hprep with
    | nil => simp
    | cons hps _ ih =>
      rw [List.forall_mem_cons, hps.key, Name.key_key]
      exact ⟨rfl, ih⟩

/-- A nimble sailor: Dodge with two marks, a gift granting it one more, and both Body and the
Sailor career feeding it. -/
def nimbleSheet : Actor :=
  ⟨"", [⟨"Body", none, ⟨0, 0, 1, 0, 0⟩, ⟨["dodge"]⟩⟩], [⟨"Dodge", "", 2, .empty, .empty⟩],
    [⟨.ofSerial 1, "Nimble", 0, 1,
      .gift ⟨.empty, ⟨[], .empty⟩, false, false, some "Dodge", []⟩⟩,
     ⟨.ofSerial 2, "Sailor", 0, 1, .extraCareer ⟨⟨0, 0, 0, 1, 0⟩, ⟨["dodge"]⟩⟩⟩],
    default, []⟩

theorem nimbleSheet_skills_prepared :
    ∃ a', nimbleSheet.prepare = .ok a' ∧
      List.Forall₂ (Skill.PreparedFrom nimbleSheet) nimbleSheet.skills a'.skills :=
  ⟨_, rfl, (prepare_derives_skill_dice rfl).2.2.2.1⟩

example : (nimbleSheet.prepare.toOption.map fun a => a.skills.map fun s => (s.key, s.own, s.total)) =
    some [("dodge", ⟨0, 0, 1, 0, 0⟩, ⟨0, 0, 2, 1, 0⟩)] := by
  decide

end DicePools
