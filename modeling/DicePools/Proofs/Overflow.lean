import DicePools.Derived.Stats
import DicePools.Proofs.Chain

/-! Exactly where the engine's fixed-width sums stop it. Main statement:
`sums_stop_exactly_out_of_range`. -/

namespace DicePools

def InI32 (x : Int) : Prop := -2147483648 ≤ x ∧ x ≤ 2147483647

instance : DecidablePred InI32 := fun x =>
  inferInstanceAs (Decidable (-2147483648 ≤ x ∧ x ≤ 2147483647))

theorem addI32_eq (a b : Int) :
    addI32 a b = if InI32 (a + b) then .ok (a + b) else .error .addOverflow := rfl

theorem addI32_eq_ok_iff {a b c : Int} : addI32 a b = .ok c ↔ InI32 (a + b) ∧ a + b = c := by
  rw [addI32_eq]
  by_cases h : InI32 (a + b) <;> simp [h]

theorem addU32_isOk_iff {a b : Nat} : (∃ c, addU32 a b = .ok c) ↔ a + b ≤ u32Top := by
  unfold addU32
  split
  · rename_i h
    simp [h]
  · rename_i h
    simp [h]

theorem Except.mapM_isOk_iff {ε α β : Type} {f : α → Except ε β} {l : List α} :
    (∃ ys, l.mapM f = .ok ys) ↔ ∀ x ∈ l, ∃ y, f x = .ok y := by
  induction l with
  | nil => exact iff_of_true ⟨[], rfl⟩ (by simp)
  | cons x l ih =>
    rw [List.mapM_cons, List.forall_mem_cons, ← ih]
    cases hx : f x with
    | error e => simp [bind, Except.bind]
    | ok y =>
      cases hl : l.mapM f with
      | error e => simp [bind, Except.bind]
      | ok ys => simp [bind, Except.bind, pure, Except.pure]

theorem Except.bind_isOk_iff {ε α β : Type} {x : Except ε α} {g : α → Except ε β}
    (hg : ∀ a, ∃ b, g a = .ok b) : (∃ y, (x >>= g) = .ok y) ↔ ∃ a, x = .ok a := by
  cases x with
  | error e => simp [bind, Except.bind]
  | ok a =>
    obtain ⟨b, hb⟩ := hg a
    exact iff_of_true ⟨b, hb⟩ ⟨a, rfl⟩

/-! ## Guarded computations -/

namespace Guarded

variable {α β : Type}

theorem run_bind (x : Guarded α) (f : α → Guarded β) :
    (x >>= f).run.value = match x.run.value with
      | .ok a => (f a).run.value
      | .error e => .error e := by
  rw [ExceptT.run_bind, Logged.value_bind]
  cases x.run.value <;> rfl

theorem bind_eq_ok {x : Guarded α} {f : α → Guarded β} {c : β} :
    (x >>= f).run.value = .ok c ↔ ∃ a, x.run.value = .ok a ∧ (f a).run.value = .ok c := by
  rw [run_bind]
  cases x.run.value with
  | error e => simp
  | ok a => simp

theorem isOk_bind_iff {x : Guarded α} {f : α → Guarded β} :
    (∃ c, (x >>= f).run.value = .ok c) ↔ ∃ a, x.run.value = .ok a ∧ ∃ c, (f a).run.value = .ok c := by
  simp only [bind_eq_ok]
  constructor
  · rintro ⟨c, a, ha, hc⟩
    exact ⟨a, ha, c, hc⟩
  · rintro ⟨a, ha, c, hc⟩
    exact ⟨c, a, ha, hc⟩

theorem run_pure (a : α) : (pure a : Guarded α).run.value = .ok a := rfl

theorem run_liftLogged (l : Logged α) : (liftM l : Guarded α).run.value = .ok l.value := rfl

theorem run_liftExcept (e : Except Fault α) : (liftM e : Guarded α).run.value = e := by
  cases e <;> rfl

end Guarded

/-! ## Preparing a sheet -/

/-- The marks the gifts of a sheet grant a skill key. -/
def Actor.giftMarks (a : Actor) (key : String) : Nat :=
  ((a.items.filterMap Item.gift?).filter fun g => g.grantsMark.any fun m => Name.key m == key).length

theorem Actor.skillDice_isOk_iff (a : Actor) (s : Skill) :
    (∃ d, a.skillDice s = .ok d) ↔ s.marks + a.giftMarks s.key ≤ u32Top := by
  rw [← addU32_isOk_iff]
  unfold Actor.skillDice
  cases h : addU32 s.marks (a.giftMarks s.key) with
  | error e => simp [giftMarks] at h; simp [h, bind, Except.bind]
  | ok n => simp [giftMarks] at h; simp [h, bind, Except.bind, pure, Except.pure]

/-- Preparing a sheet succeeds just when, for every skill, its marks and the marks its gifts
grant fit in 32 bits. -/
theorem Actor.prepare_isOk_iff (a : Actor) :
    (∃ a', a.prepare = .ok a') ↔ ∀ s ∈ a.skills, s.marks + a.giftMarks (Name.key s.key) ≤ u32Top := by
  unfold Actor.prepare
  dsimp only
  rw [Except.bind_isOk_iff, Except.mapM_isOk_iff]
  · simp only [List.forall_mem_map]
    refine forall₂_congr fun s _ => ?_
    rw [Except.bind_isOk_iff, Actor.skillDice_isOk_iff]
    · rfl
    · intro ⟨_, _⟩
      exact ⟨_, rfl⟩
  · intro _
    exact ⟨_, rfl⟩

/-! ## Totals -/

/-- The bonus of an effect of a movement mode. -/
def Effect.move? : Effect → Option MoveBonus
  | .moveBonus m | .flyingBonus m => some m
  | _ => none

/-- A movement total plus a bonus, without bound. -/
def MoveTotals.plus (t : MoveTotals) (m : MoveBonus) : MoveTotals :=
  ⟨t.stride + m.stride, t.dash + m.dash, t.run + m.run, t.ignoreBadFooting || m.ignoreBadFooting⟩

def MoveTotals.Fits (t : MoveTotals) : Prop := InI32 t.stride ∧ InI32 t.dash ∧ InI32 t.run

instance : DecidablePred MoveTotals.Fits := fun t =>
  inferInstanceAs (Decidable (InI32 t.stride ∧ InI32 t.dash ∧ InI32 t.run))

theorem MoveTotals.add_eq (t : MoveTotals) (m : MoveBonus) :
    t.add m = if (t.plus m).Fits then .ok (t.plus m) else .error .addOverflow := by
  unfold MoveTotals.add MoveTotals.plus MoveTotals.Fits
  simp only [addI32_eq]
  by_cases hs : InI32 (t.stride + m.stride) <;> by_cases hd : InI32 (t.dash + m.dash) <;>
    by_cases hr : InI32 (t.run + m.run) <;>
    simp [hs, hd, hr, bind, Except.bind, pure, Except.pure]

theorem MoveTotals.foldlM_add_isOk_iff (ms : List MoveBonus) (t : MoveTotals) :
    (∃ t', ms.foldlM MoveTotals.add t = .ok t') ↔
      ∀ n < ms.length, ((ms.take (n + 1)).foldl MoveTotals.plus t).Fits := by
  induction ms generalizing t with
  | nil => exact iff_of_true ⟨t, rfl⟩ (by simp)
  | cons m ms ih =>
    rw [List.foldlM_cons, MoveTotals.add_eq]
    by_cases hf : (t.plus m).Fits
    · rw [if_pos hf]
      change (∃ t', ms.foldlM MoveTotals.add (t.plus m) = .ok t') ↔ _
      rw [ih]
      constructor
      · intro h n hn
        cases n with
        | zero => simpa using hf
        | succ n => simpa using h n (by simpa using hn)
      · intro h n hn
        simpa using h (n + 1) (by simpa using hn)
    · rw [if_neg hf]
      simp only [bind, Except.bind, reduceCtorEq, exists_false, false_iff, not_forall]
      exact ⟨0, by simp, by simpa using hf⟩

theorem MoveTotals.foldl_plus_of_foldlM_add {ms : List MoveBonus} {t t' : MoveTotals}
    (h : ms.foldlM MoveTotals.add t = .ok t') : ms.foldl MoveTotals.plus t = t' := by
  induction ms generalizing t with
  | nil => exact Except.ok.inj h
  | cons m ms ih =>
    rw [List.foldlM_cons, MoveTotals.add_eq] at h
    by_cases hf : (t.plus m).Fits
    · rw [if_pos hf] at h
      exact ih h
    · rw [if_neg hf] at h
      cases h

/-- Adding a used rule to totals moves the movement sums by its movement bonus, if any. -/
theorem Totals.add_movement (t : Totals) (u : Rule) :
    ((t.add u).run.value).map (·.movement) = match u.setting.effect.move? with
      | some m => t.movement.add m
      | none => .ok t.movement := by
  unfold Totals.add
  cases u.setting.effect with
  | moveBonus m | flyingBonus m =>
    cases h : t.movement.add m <;> simp only [Effect.move?, h, Totals.add.liftExcept] <;> rfl
  | _ => rfl

theorem Totals.foldlM_add_movement (l : List Rule) (t : Totals) :
    ((l.foldlM Totals.add t).run.value).map (·.movement) =
      (l.filterMap (·.setting.effect.move?)).foldlM MoveTotals.add t.movement := by
  induction l generalizing t with
  | nil => rfl
  | cons u l ih =>
    have hu := t.add_movement u
    rw [List.foldlM_cons, ExceptT.run_bind, Logged.value_bind, List.filterMap_cons]
    cases ht : (t.add u).run.value with
    | ok t₁ =>
      rw [ht] at hu
      dsimp only
      rw [ih t₁]
      cases hm : u.setting.effect.move? with
      | none =>
        simp only [hm, Except.map, Except.ok.injEq] at hu
        rw [hu]
      | some m =>
        simp only [hm, Except.map] at hu
        rw [List.foldlM_cons, ← hu]
        rfl
    | error e =>
      rw [ht] at hu
      cases hm : u.setting.effect.move? with
      | none =>
        simp only [hm, Except.map, reduceCtorEq] at hu
      | some m =>
        simp only [hm, Except.map] at hu
        rw [List.foldlM_cons, ← hu]
        rfl

theorem Except.isOk_iff_map {ε α β : Type} (x : Except ε α) (f : α → β) :
    (∃ a, x = .ok a) ↔ ∃ b, x.map f = .ok b := by
  cases x <;> simp [Except.map]

theorem Except.exists_ok_of_isOk {ε α : Type} {x : Except ε α} (h : x.isOk = true) :
    ∃ a, x = .ok a := by
  cases x <;> simp_all [Except.isOk, Except.toBool]

/-- The movement bonuses of the rules a mode uses, in item order. -/
def RuleBook.moveBonuses (b : RuleBook) (m : Mode) (ctx : Context) : List MoveBonus :=
  ((b.usedRules m ctx).value.map Prod.snd).filterMap (·.setting.effect.move?)

theorem RuleBook.totals_run (b : RuleBook) (m : Mode) (ctx : Context) :
    (b.totals m ctx).run.value =
      (((b.usedRules m ctx).value.map Prod.snd).foldlM Totals.add Totals.zero).run.value := by
  simp only [RuleBook.totals, ExceptT.run_bind, Logged.value_bind, List.foldlM_map]
  rfl

/-- Every running sum of a list of movement bonuses fits in 32 bits. -/
def RunningFits (ms : List MoveBonus) : Prop :=
  ∀ n < ms.length, ((ms.take (n + 1)).foldl MoveTotals.plus .zero).Fits

/-- The movement sums of a mode, without bound. -/
def RuleBook.moveSum (b : RuleBook) (m : Mode) (ctx : Context) : MoveTotals :=
  (b.moveBonuses m ctx).foldl MoveTotals.plus .zero

theorem RuleBook.totals_isOk_iff (b : RuleBook) (m : Mode) (ctx : Context) :
    (∃ t, (b.totals m ctx).run.value = .ok t) ↔ RunningFits (b.moveBonuses m ctx) := by
  have hmove := Totals.foldlM_add_movement ((b.usedRules m ctx).value.map Prod.snd) Totals.zero
  rw [RunningFits, ← MoveTotals.foldlM_add_isOk_iff, RuleBook.moveBonuses, show MoveTotals.zero =
    Totals.zero.movement from rfl, ← hmove, totals_run]
  exact Except.isOk_iff_map _ _

theorem RuleBook.not_runningFits_of_totals {b : RuleBook} {m : Mode} {ctx : Context} {e : Fault}
    (h : (b.totals m ctx).run.value = .error e) : ¬ RunningFits (b.moveBonuses m ctx) := by
  intro hfits
  obtain ⟨t, ht⟩ := (b.totals_isOk_iff m ctx).mpr hfits
  rw [h] at ht
  cases ht

theorem RuleBook.totals_movement {b : RuleBook} {m : Mode} {ctx : Context} {t : Totals}
    (h : (b.totals m ctx).run.value = .ok t) : t.movement = b.moveSum m ctx := by
  have hmove := Totals.foldlM_add_movement ((b.usedRules m ctx).value.map Prod.snd) Totals.zero
  rw [← totals_run, h] at hmove
  exact (MoveTotals.foldl_plus_of_foldlM_add hmove.symm).symm

/-! ## Movement -/

/-- Two movement totals summed, without bound. -/
def MoveTotals.combine (t u : MoveTotals) : MoveTotals :=
  ⟨t.stride + u.stride, t.dash + u.dash, t.run + u.run, t.ignoreBadFooting || u.ignoreBadFooting⟩

namespace RuleBook

/-- The move bonuses in effect, without bound: those of the move bonus rules, and while flying
those of the flying bonus rules added to them. -/
def bonusSum (b : RuleBook) (ctx : Context) (flying : Bool) : MoveTotals :=
  if flying then (b.moveSum .moveBonus ctx).combine (b.moveSum .flyingBonus ctx)
  else b.moveSum .moveBonus ctx

/-- The sums behind the move bonuses in effect fit in 32 bits. -/
def BonusFits (b : RuleBook) (ctx : Context) (flying : Bool) : Prop :=
  RunningFits (b.moveBonuses .moveBonus ctx) ∧
    (flying = true → RunningFits (b.moveBonuses .flyingBonus ctx) ∧ (b.bonusSum ctx flying).Fits)

theorem bonusMovement_eq_ok_iff {b : RuleBook} {ctx : Context} {flying : Bool} {t : MoveTotals} :
    (b.bonusMovement ctx flying).run.value = .ok t ↔
      b.BonusFits ctx flying ∧ b.bonusSum ctx flying = t := by
  unfold bonusMovement
  rw [Guarded.run_bind]
  cases hw : (b.totals .moveBonus ctx).run.value with
  | error e => simp [BonusFits, not_runningFits_of_totals hw]
  | ok w =>
    have hw' := (b.totals_isOk_iff .moveBonus ctx).mp ⟨w, hw⟩
    dsimp only
    rw [totals_movement hw]
    cases flying with
    | false => simp [BonusFits, bonusSum, hw']
    | true =>
      rw [if_pos rfl, Guarded.run_bind]
      cases hf : (b.totals .flyingBonus ctx).run.value with
      | error e => simp [BonusFits, not_runningFits_of_totals hf]
      | ok f =>
        have hf' := (b.totals_isOk_iff .flyingBonus ctx).mp ⟨f, hf⟩
        dsimp only
        rw [totals_movement hf]
        simp only [Guarded.bind_eq_ok, Guarded.run_liftExcept, addI32_eq_ok_iff, Guarded.run_pure,
          Except.ok.injEq]
        simp [BonusFits, bonusSum, MoveTotals.combine, MoveTotals.Fits, hw', hf', and_assoc]

/-- The sums movement takes fit in 32 bits: those of the move bonuses in effect, and those of each
distance no condition blocks. Without speed or body dice nothing is summed. -/
def MovementFits (b : RuleBook) (cfg : Config) (conditions : Conditions) : Prop :=
  let speed := b.largestFace "speed"
  let body := b.largestFace "body"
  (speed ≤ 0 ∨ body ≤ 0) ∨
    let burdened := conditions.hasAny [ConditionName.burdened]
    let flying := conditions.hasAny [ConditionName.flying]
    let speed := if burdened then min speed 8 else speed
    let ctx := Context.ofConditions conditions
    let bonus := b.bonusSum ctx flying
    let dash := if conditions.hasAny dashBlockers then 0
      else (speed + 1) / 2 + (if body > speed then 1 else 0) + bonus.dash
    let pace := (b.runPace cfg ctx burdened flying speed).value
    b.BonusFits ctx flying ∧
      (conditions.hasAny strideBlockers = false → InI32 (1 + bonus.stride)) ∧
      (conditions.hasAny dashBlockers = false → InI32 dash) ∧
      (conditions.hasAny runBlockers = false →
        InI32 (body + pace) ∧ InI32 (body + pace + dash) ∧ InI32 (body + pace + dash + bonus.run))

/-- Movement fails just when one of the sums it takes leaves 32 bits. -/
theorem movement_isOk_iff (b : RuleBook) (cfg : Config) (conditions : Conditions) :
    (∃ mv, (b.movement cfg conditions).run.value = .ok mv) ↔ b.MovementFits cfg conditions := by
  unfold movement MovementFits
  by_cases hsb : b.largestFace "speed" ≤ 0 ∨ b.largestFace "body" ≤ 0
  · have hc : (decide (b.largestFace "speed" ≤ 0) || decide (b.largestFace "body" ≤ 0)) = true := by
      simpa using hsb
    simp only [hc, if_true]
    exact iff_of_true ⟨_, rfl⟩ (.inl hsb)
  · have hc : (decide (b.largestFace "speed" ≤ 0) || decide (b.largestFace "body" ≤ 0)) = false := by
      simpa using hsb
    simp only [hc, Bool.false_eq_true, if_false, hsb, false_or]
    rw [Guarded.isOk_bind_iff]
    simp only [bonusMovement_eq_ok_iff, and_assoc, exists_and_left, exists_eq_left']
    refine and_congr_right fun _ => ?_
    -- what is left reads the bonus, the speed, the pace, the body and the blocking conditions only
    generalize b.bonusSum _ _ = bonus
    generalize (if conditions.hasAny [ConditionName.burdened] = true then min (b.largestFace "speed") 8
      else b.largestFace "speed") = speed
    generalize b.runPace _ _ _ _ _ = pace
    generalize b.largestFace "body" = body
    generalize conditions.hasAny strideBlockers = sb
    generalize conditions.hasAny dashBlockers = db
    generalize conditions.hasAny runBlockers = rb
    generalize ((speed + 1) / 2 + if body > speed then 1 else 0) = dashBase
    cases sb <;> cases db <;> cases rb <;>
      simp only [Guarded.isOk_bind_iff, Guarded.run_liftExcept, Guarded.run_liftLogged, Guarded.run_pure,
        blockedOr, addI32_eq_ok_iff, if_true, if_false, Bool.false_eq_true] <;>
      simp

end RuleBook

/-- Where the engine's fixed-width sums stop it: exactly where a 32-bit sum overflows. -/
theorem sums_stop_exactly_out_of_range (a : Actor) (b : RuleBook) (m : Mode) (ctx : Context)
    (cfg : Config) (conditions : Conditions) :
    ((∃ a', a.prepare = .ok a') ↔
      ∀ s ∈ a.skills, s.marks + a.giftMarks (Name.key s.key) ≤ u32Top) ∧
    ((∃ t, (b.totals m ctx).run.value = .ok t) ↔ RunningFits (b.moveBonuses m ctx)) ∧
    ((∃ mv, (b.movement cfg conditions).run.value = .ok mv) ↔ b.MovementFits cfg conditions) :=
  ⟨Actor.prepare_isOk_iff a, RuleBook.totals_isOk_iff b m ctx,
    RuleBook.movement_isOk_iff b cfg conditions⟩

/-- A movement rule of a stride bonus. -/
def strideRule (stride : Int) : Setting :=
  { Setting.prototype .moveBonus with effect := .moveBonus ⟨stride, 0, 0, false⟩ }

/-- Wings of the largest stride bonus and boots of one more pace. -/
def wingsSheet : Actor :=
  ⟨"",[],[],[RuleBook.plainGift (.ofSerial 14) "Wings" [strideRule 2147483647],
    RuleBook.plainGift (.ofSerial 15) "Boots" [strideRule 1]],default,[]⟩

example : ((RuleBook.build wingsSheet).value.totals .moveBonus
    (Context.ofConditions default)).run.value.toBool = false := by
  decide +kernel

end DicePools
