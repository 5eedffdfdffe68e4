import DicePools.Proofs.Overflow
import DicePools.Proofs.ExtraDice

/-! The speed face of movement while burdened. Main statement:
`movement_speed_face_default_burden`. -/

namespace DicePools

theorem satSum_eq_zero_iff (xs : List UInt32) : satSum xs = 0 ↔ ∀ x ∈ xs, x = 0 := by
  rw [← UInt32.toNat_inj, toNat_satSum, UInt32.toNat_zero]
  simp [countMax, ← UInt32.toNat_inj, List.sum_eq_zero_iff]

namespace Dice

/-- The largest face of a pool is that of its first occupied bucket from the d12 down. -/
theorem maxValue_mk (a b c d e : UInt32) :
    maxValue ⟨a, b, c, d, e⟩ =
      if a ≠ 0 then 12 else if b ≠ 0 then 10 else if c ≠ 0 then 8 else if d ≠ 0 then 6
      else if e ≠ 0 then 4 else -1 := by
  simp only [maxValue, maxDie?, leading?, Die.all, count]
  by_cases ha : a = 0 <;> by_cases hb : b = 0 <;> by_cases hc : c = 0 <;> by_cases hd : d = 0 <;>
    by_cases he : e = 0 <;>
    simp [List.find?_cons_of_pos, List.find?_cons_of_neg, ha, hb, hc, hd, he, Die.sides]

theorem maxValue_limitTo (x : Dice) (l : Die) : (x.limitTo l).maxValue = min x.maxValue l.sides := by
  obtain ⟨a, b, c, d, e⟩ := x
  cases l <;>
    simp [limitTo, ofFn, count, Die.all, Die.index, maxValue_mk, Die.sides, satSum_eq_zero_iff] <;>
    split_ifs <;> simp_all

end Dice

theorem eq_of_blockedOr_addI32 {blocked : Bool} {a c v : Int}
    (h : blockedOr blocked (addI32 a c) = .ok v) : v = if blocked then 0 else a + c := by
  cases blocked with
  | true => exact (Except.ok.inj h).symm
  | false => exact (addI32_eq_ok_iff.mp h).2.symm

namespace RuleBook

/-- What movement computes when it succeeds: with the speed face capped at 8 while burdened, the
stride, dash and run of its conditions and bonuses. -/
theorem movement_eq_ok {b : RuleBook} {cfg : Config} {conditions : Conditions} {mv : Movement}
    (hspeed : 0 < b.largestFace "speed") (hbody : 0 < b.largestFace "body")
    (hmv : (b.movement cfg conditions).run.value = .ok mv) :
    let burdened := conditions.hasAny [ConditionName.burdened]
    let flying := conditions.hasAny [ConditionName.flying]
    let ctx := Context.ofConditions conditions
    let speed := if burdened then min (b.largestFace "speed") 8 else b.largestFace "speed"
    let body := b.largestFace "body"
    let bonus := b.bonusSum ctx flying
    mv.stride = (if conditions.hasAny strideBlockers then 0 else 1 + bonus.stride) ∧
    mv.dash = (if conditions.hasAny dashBlockers then 0
      else (speed + 1) / 2 + (if body > speed then 1 else 0) + bonus.dash) ∧
    mv.run = (if conditions.hasAny runBlockers then 0
      else body + (b.runPace cfg ctx burdened flying speed).value + mv.dash + bonus.run) ∧
    mv.ignoreBadFooting = bonus.ignoreBadFooting := by
  unfold movement at hmv
  have hc : (decide (b.largestFace "speed" ≤ 0) || decide (b.largestFace "body" ≤ 0)) = false := by
    simp only [Bool.or_eq_false_iff, decide_eq_false_iff_not, not_le]
    exact ⟨hspeed, hbody⟩
  simp only [hc, Bool.false_eq_true, if_false] at hmv
  obtain ⟨bonus, hbonus, hmv⟩ := Guarded.bind_eq_ok.mp hmv
  obtain ⟨-, rfl⟩ := bonusMovement_eq_ok_iff.mp hbonus
  obtain ⟨stride, hstride, hmv⟩ := Guarded.bind_eq_ok.mp hmv
  obtain ⟨dash, hdash, hmv⟩ := Guarded.bind_eq_ok.mp hmv
  rw [Guarded.run_liftExcept] at hstride hdash
  have hstride := eq_of_blockedOr_addI32 hstride
  have hdash := eq_of_blockedOr_addI32 hdash
  -- the run's sums stand inside the branch on its blocking conditions
  cases hrb : conditions.hasAny runBlockers with
  | true =>
    simp only [hrb, if_true] at hmv
    cases hmv
    exact ⟨hstride, hdash, rfl, rfl⟩
  | false =>
    simp only [hrb, Bool.false_eq_true, if_false] at hmv
    obtain ⟨pace, hpace, hmv⟩ := Guarded.bind_eq_ok.mp hmv
    obtain ⟨walk, hwalk, hmv⟩ := Guarded.bind_eq_ok.mp hmv
    obtain ⟨far, hfar, hmv⟩ := Guarded.bind_eq_ok.mp hmv
    obtain ⟨run, hrun, hmv⟩ := Guarded.bind_eq_ok.mp hmv
    rw [Guarded.run_liftLogged, Except.ok.injEq] at hpace
    rw [Guarded.run_liftExcept, addI32_eq_ok_iff] at hwalk hfar hrun
    cases hmv
    refine ⟨hstride, hdash, ?_, rfl⟩
    simp only [if_false, Bool.false_eq_true]
    rw [← hrun.2, ← hfar.2, ← hwalk.2, hpace]

/-- Movement's speed face is the largest face of the speed dice under the default burden rule. -/
theorem speedFace_eq_default {b : RuleBook} {t : Trait} (ht : b.actor.findTrait? "speed" = some t)
    (burdened : Bool) :
    (if burdened then min (b.largestFace "speed") 8 else b.largestFace "speed") =
      (Config.default.burdenLimited t.dice "speed" burdened).maxValue := by
  have hface : b.largestFace "speed" = t.dice.maxValue := by simp [largestFace, ht]
  have hlimited : Config.default.isBurdenLimited "speed" = true := by decide
  have hd8 : Config.default.burdenedLimit = .d8 := rfl
  cases burdened <;> simp [Config.burdenLimited, hlimited, hd8, hface, Dice.maxValue_limitTo, Die.sides]

end RuleBook

theorem Config.burdenLimited_speed_eq_default {cfg : Config} (hlimit : cfg.burdenedLimit = .d8)
    (hlisted : cfg.isBurdenLimited "speed" = true) (dice : Dice) (burdened : Bool) :
    cfg.burdenLimited dice "speed" burdened = Config.default.burdenLimited dice "speed" burdened := by
  have hdefault : Config.default.isBurdenLimited "speed" = true := by decide
  have hd8 : Config.default.burdenedLimit = .d8 := rfl
  simp [Config.burdenLimited, hlimit, hlisted, hdefault, hd8]

/-- Whatever settings it is given, movement takes its speed face from the default burden rule,
which caps speed at the d8 while burdened. -/
theorem movement_speed_face_default_burden {b : RuleBook} {cfg : Config} {conditions : Conditions}
    {t : Trait} {mv : Movement} (ht : b.actor.findTrait? "speed" = some t)
    (hspeed : 0 < t.dice.maxValue) (hbody : 0 < b.largestFace "body")
    (hmv : (b.movement cfg conditions).run.value = .ok mv) :
    let burdened := conditions.hasAny [ConditionName.burdened]
    let flying := conditions.hasAny [ConditionName.flying]
    let ctx := Context.ofConditions conditions
    let face := (Config.default.burdenLimited t.dice "speed" burdened).maxValue
    let body := b.largestFace "body"
    let bonus := b.bonusSum ctx flying
    mv.dash = (if conditions.hasAny dashBlockers then 0
      else (face + 1) / 2 + (if body > face then 1 else 0) + bonus.dash) ∧
    mv.run = (if conditions.hasAny runBlockers then 0
      else body + (if flying then (b.sprintMax cfg ctx burdened).value else face) + mv.dash + bonus.run) ∧
    (cfg.burdenedLimit = .d8 → cfg.isBurdenLimited "speed" = true →
      face = (cfg.burdenLimited t.dice "speed" burdened).maxValue) := by
  have hface : b.largestFace "speed" = t.dice.maxValue := by simp [RuleBook.largestFace, ht]
  obtain ⟨-, hdash, hrun, -⟩ := RuleBook.movement_eq_ok (hface ▸ hspeed) hbody hmv
  rw [RuleBook.speedFace_eq_default ht] at hdash hrun
  refine ⟨hdash, ?_, fun hlimit hlisted => by rw [Config.burdenLimited_speed_eq_default hlimit hlisted]⟩
  rw [hrun]
  cases conditions.hasAny [ConditionName.flying] <;> rfl

/-- Fast legs, a d10 of speed over a d6 of body. -/
def swiftSheet : Actor :=
  ⟨"", [⟨"speed", none, ⟨0, 1, 0, 0, 0⟩, .empty⟩, ⟨"body", none, ⟨0, 0, 0, 1, 0⟩, .empty⟩], [], [],
    default, []⟩

def sixCapConfig : Config := { Config.default with burdenedLimit := .d6 }

/-- With the d6 as burdened limit, the pool builder rolls burdened speed as a d6, but movement
still runs at the speed face 8: the run is body 6 plus 8. -/
theorem sixCap_not_applied_to_speed :
    (sixCapConfig.burdenLimited ⟨0, 1, 0, 0, 0⟩ "speed" true).maxValue = 6 ∧
      ((RuleBook.build swiftSheet).value.movement sixCapConfig
        (Conditions.withActive [ConditionName.burdened])).run.value.toOption.map (·.run) = some (6 + 8) := by
  decide +kernel

/-- The swift sheet runs at the d10's face unburdened, and burdened under the d6 cap at the face 8
rather than 6. -/
theorem swiftSheet_speed_face :
    ∃ t, (RuleBook.build swiftSheet).value.actor.findTrait? "speed" = some t ∧
      0 < t.dice.maxValue ∧ 0 < (RuleBook.build swiftSheet).value.largestFace "body" ∧
      (∃ mv, ((RuleBook.build swiftSheet).value.movement Config.default Conditions.empty).run.value =
          .ok mv ∧ mv.run = 6 + (Config.default.burdenLimited t.dice "speed" false).maxValue + mv.dash) ∧
      sixCapConfig.burdenedLimit ≠ .d8 ∧
      ∃ mv, ((RuleBook.build swiftSheet).value.movement sixCapConfig
          (Conditions.withActive [ConditionName.burdened])).run.value = .ok mv ∧
        mv.dash = 0 ∧ mv.run = 6 + (Config.default.burdenLimited t.dice "speed" true).maxValue := by
  have ht : (RuleBook.build swiftSheet).value.actor.findTrait? "speed" =
      some ⟨"speed", none, ⟨0, 1, 0, 0, 0⟩, .empty⟩ := rfl
  have hspeed : 0 < (⟨0, 1, 0, 0, 0⟩ : Dice).maxValue := by decide
  have hbody : (RuleBook.build swiftSheet).value.largestFace "body" = 6 := by decide +kernel
  have hbody0 : 0 < (RuleBook.build swiftSheet).value.largestFace "body" := by rw [hbody]; decide
  have hnone : ((RuleBook.build swiftSheet).value.bonusSum
      (Context.ofConditions Conditions.empty) false).run = 0 := by decide +kernel
  obtain ⟨mv₀, hfree⟩ := Except.exists_ok_of_isOk (show ((RuleBook.build swiftSheet).value.movement
    Config.default Conditions.empty).run.value.isOk = true by decide +kernel)
  have hrun := (movement_speed_face_default_burden ht hspeed hbody0 hfree).2.1
  have hflying : Conditions.empty.hasAny [ConditionName.flying] = false := by decide
  have hopen : Conditions.empty.hasAny runBlockers = false := by decide
  simp only [hflying, hopen, hnone, hbody, Bool.false_eq_true, if_false, add_zero] at hrun
  obtain ⟨mv, hburdened⟩ := Except.exists_ok_of_isOk (show ((RuleBook.build swiftSheet).value.movement
    sixCapConfig (Conditions.withActive [ConditionName.burdened])).run.value.isOk = true by
      decide +kernel)
  obtain ⟨hdash', hrun', -⟩ := movement_speed_face_default_burden ht hspeed hbody0 hburdened
  have hwith : ((RuleBook.build swiftSheet).value.bonusSum
      (Context.ofConditions (Conditions.withActive [ConditionName.burdened])) false).run = 0 := by
    decide +kernel
  have hburden : (Conditions.withActive [ConditionName.burdened]).hasAny
      [ConditionName.burdened] = true := by decide
  have hblocked : (Conditions.withActive [ConditionName.burdened]).hasAny dashBlockers = true := by
    decide
  have hgrounded : (Conditions.withActive [ConditionName.burdened]).hasAny
      [ConditionName.flying] = false := by decide
  have hopen' : (Conditions.withActive [ConditionName.burdened]).hasAny runBlockers = false := by
    decide
  simp only [hburden, hblocked, hgrounded, hopen', hwith, hbody, Bool.false_eq_true, if_true, if_false,
    add_zero] at hdash' hrun'
  exact ⟨_, ht, hspeed, hbody0, ⟨mv₀, hfree, hrun⟩, by decide, mv, hburdened, hdash',
    by rw [hrun', hdash', add_zero]⟩

end DicePools
