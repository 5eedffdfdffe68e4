import DicePools.Pool.Build

/-! Which stats a pool selects. Main statement: `buildPool_selects_by_key`. -/

namespace DicePools

theorem claim_any (wanted : List String) (matched : List Bool) (hit : String → Bool) :
    (claim wanted matched hit).2 = wanted.any hit := rfl

/-- Folding the selection step over candidates pushes, in order, the dice and label of each
candidate some wanted key hits, whatever names were marked before. -/
theorem foldl_claim_push {α : Type} (wanted : List String) (hit : α → String → Bool)
    (dice : α → Dice) (label : α → String) (xs : List α) (acc : PoolPart × List Bool) :
    (xs.foldl (fun acc x => if (claim wanted acc.2 (hit x)).2 = true then
        (acc.1.push (dice x) (label x), (claim wanted acc.2 (hit x)).1)
      else (acc.1, (claim wanted acc.2 (hit x)).1)) acc).1 =
      ⟨acc.1.arrays ++ (xs.filter fun x => wanted.any (hit x)).map dice,
        acc.1.labels ++ (xs.filter fun x => wanted.any (hit x)).map label⟩ := by
  induction xs generalizing acc with
  | nil => simp
  | cons x xs ih =>
    rw [List.foldl_cons, ih]
    by_cases hx : wanted.any (hit x) = true
    · simp [claim_any, hx, PoolPart.push]
    · simp [claim_any, hx]

namespace Actor

/-- The traits, extra careers and skills that some wanted key selects, in sheet order, each once,
with its dice, capped while burdened when the stat is limited. -/
theorem select_part (a : Actor) (names : List String) (burdened : Bool) (cfg : Config) :
    let wanted := names.map Name.key
    let traits := a.traits.filter fun t => wanted.any t.selectedBy
    let careers := a.extraCareers.filter fun ic => wanted.any (· == ic.1.key)
    let skills := a.skills.filter fun s => wanted.any (· == s.key)
    (a.select names burdened cfg).1 =
      ⟨traits.map (fun t => cfg.burdenLimited t.dice t.key burdened) ++
          careers.map (fun ic => cfg.burdenLimited ic.2.dice ic.1.key burdened) ++
          skills.map (fun s => cfg.burdenLimited s.total s.key burdened),
        traits.map (·.poolLabel !a.extraCareers.isEmpty) ++ careers.map (·.1.name) ++
          skills.map (·.poolLabel)⟩ := by
  simp only [Actor.select, foldl_claim_push, List.nil_append]

theorem buildPool_value (a : Actor) (names : List String) (burdened : Bool) (cfg : Config) :
    (a.buildPool names burdened cfg).value =
      if a.hasNoStats then .error .noSelectableFields else .ok (a.select names burdened cfg).1 := by
  unfold Actor.buildPool
  split <;> simp

/-- Two lists of names with the same keys select the same stats. -/
theorem select_part_of_keys {names names' : List String}
    (h : ∀ k, k ∈ names.map Name.key ↔ k ∈ names'.map Name.key) (a : Actor)
    (burdened : Bool) (cfg : Config) :
    (a.select names burdened cfg).1 = (a.select names' burdened cfg).1 := by
  have hany : ∀ hit : String → Bool,
      (names.map Name.key).any hit = (names'.map Name.key).any hit := by
    intro hit
    apply Bool.eq_iff_iff.mpr
    simp only [List.any_eq_true]
    constructor
    · rintro ⟨k, hk, hhit⟩
      exact ⟨k, (h k).mp hk, hhit⟩
    · rintro ⟨k, hk, hhit⟩
      exact ⟨k, (h k).mpr hk, hhit⟩
  simp only [select_part, hany]

end Actor

/-- Building a pool selects stats by key, each once in sheet order, so it depends only on the keys
of the names. -/
theorem buildPool_selects_by_key (a : Actor) (names : List String) (burdened : Bool)
    (cfg : Config) :
    let traits := a.traits.filter fun t => names.any fun n => t.selectedBy (Name.key n)
    let careers := a.extraCareers.filter fun ic => names.any fun n => Name.key n == ic.1.key
    let skills := a.skills.filter fun s => names.any fun n => Name.key n == s.key
    let dice (d : Dice) (key : String) : Dice :=
      if burdened && cfg.isBurdenLimited key then d.limitTo cfg.burdenedLimit else d
    (a.buildPool names burdened cfg).value =
      (if a.traits.isEmpty && a.skills.isEmpty then .error .noSelectableFields
      else .ok ⟨traits.map (fun t => dice t.dice t.key) ++
          careers.map (fun ic => dice ic.2.dice ic.1.key) ++
          skills.map (fun s => dice s.total s.key),
        traits.map (·.poolLabel !a.extraCareers.isEmpty) ++ careers.map (·.1.name) ++
          skills.map (·.poolLabel)⟩) ∧
    ∀ names' : List String, (∀ k ∈ names.map Name.key, k ∈ names'.map Name.key) →
      (∀ k ∈ names'.map Name.key, k ∈ names.map Name.key) →
      (a.buildPool names' burdened cfg).value = (a.buildPool names burdened cfg).value := by
  intro traits careers skills dice
  refine ⟨?_, fun names' hsub hsub' => ?_⟩
  · rw [Actor.buildPool_value, Actor.select_part]
    simp only [Actor.hasNoStats, List.any_map, Function.comp_def, Config.burdenLimited]
    rfl
  · -- the same keys select the same stats
    rw [Actor.buildPool_value, Actor.buildPool_value,
      Actor.select_part_of_keys (fun k => ⟨hsub' k, hsub k⟩)]

/-- Body, a thief's career and speed, a stealth skill fed by the career, and a sailor's extra
career. -/
def sailorSheet : Actor :=
  ⟨"Vera", [⟨"body", none, ⟨0, 0, 1, 0, 0⟩, .empty⟩,
      ⟨"career", some "Thief", ⟨0, 0, 0, 1, 0⟩, ⟨["stealth"]⟩⟩,
      ⟨"speed", none, ⟨1, 0, 0, 0, 0⟩, .empty⟩],
    [⟨"stealth", "Stealth", 1, ⟨0, 0, 0, 0, 1⟩, ⟨0, 0, 0, 1, 1⟩⟩],
    [⟨.ofSerial 3, "Sailor", 0, 1,
      .extraCareer ⟨⟨0, 1, 0, 0, 0⟩, .empty⟩⟩],
    default, []⟩

example : (sailorSheet.buildPool ["stealth", "sailor", "speed", "thief", "body"] false
    .default).value.toOption.map PoolPart.label =
      some "Body + Thief + Speed + Sailor + Stealth" := by
  decide +kernel

/-- The names in sheet order and again shuffled, respelled and repeated select the same pool. -/
theorem sailorSheet_pool_keys :
    let names := ["stealth", "sailor", "speed", "thief", "body"]
    let names' := ["Body", "THIEF", "speed", "Sailor", "stealth", "body", "Speed"]
    (∀ k ∈ names.map Name.key, k ∈ names'.map Name.key) ∧
      (∀ k ∈ names'.map Name.key, k ∈ names.map Name.key) ∧
      (sailorSheet.buildPool names' true .default).value =
        (sailorSheet.buildPool names true .default).value :=
  ⟨by decide +kernel, by decide +kernel,
    (buildPool_selects_by_key sailorSheet _ true .default).2 _ (by decide +kernel)
      (by decide +kernel)⟩

end DicePools
