import DicePools.Rules.Aggregate
import DicePools.Proofs.Chain
import DicePools.Proofs.Fields

/-! Folding the pool bonuses of a mode into a construction. Main statement:
`build_aggregateSound`. -/

namespace DicePools

open Construction

/-! ## What a bonus source inserts -/

/-- A field for each worn piece of armor with dice. -/
def armorList (a : Actor) (checked : Bool) : List PoolField :=
  a.wornArmor.filterMap fun (i, r) =>
    if r.dice.isEmpty then none
    else some ⟨"armor-" ++ i.id.text, i.name, r.dice, checked, none, false⟩

/-- The field of the held shield, when it has dice. -/
def shieldList (a : Actor) : List PoolField :=
  match a.heldShield? with
  | some (i, s) => if s.dice.isEmpty then [] else [.plain "shield" i.name s.dice]
  | none => []

/-- The guard or aim field, when the bonus adds it. -/
def statusList (b : RuleBook) (kind : StatusKind) (ctx : Context) (force : Bool) : List PoolField :=
  (statusBonus b kind ctx force .empty).value.fields

/-- The fields a bonus source inserts. -/
def sourceFields (b : RuleBook) (ctx : Context) : BonusSource → List PoolField
  | .armor => armorList b.actor true
  | .shield => shieldList b.actor
  | .guard => statusList b .guard ctx false
  | .guardAlways => statusList b .guard ctx true
  | .aim => statusList b .aim ctx false
  | .aimAlways => statusList b .aim ctx true

theorem armorList_id {a : Actor} {checked : Bool} {g : PoolField} (hg : g ∈ armorList a checked) :
    ∃ i : Item, g.id = "armor-" ++ i.id.text := by
  obtain ⟨⟨i, r⟩, -, hir⟩ := List.mem_filterMap.mp hg
  by_cases hd : r.dice.isEmpty
  · simp [hd] at hir
  · simp only [hd, Bool.false_eq_true, if_false, Option.some.injEq] at hir
    exact ⟨i, by rw [← hir]⟩

theorem shieldList_id {a : Actor} {g : PoolField} (hg : g ∈ shieldList a) : g.id = "shield" := by
  unfold shieldList at hg
  split at hg
  · split_ifs at hg
    · cases hg
    · rw [List.mem_singleton.mp hg]
      rfl
  · cases hg

theorem armorFields_fields (a : Actor) (checked : Bool) (c : Construction) :
    (armorFields a checked c).fields = (armorList a checked).foldl insertFirst c.fields := by
  rw [armorList, List.foldl_filterMap, armorFields]
  refine (List.foldl_hom Construction.fields fun c p => ?_).symm
  obtain ⟨i, r⟩ := p
  by_cases h : r.dice.isEmpty <;> simp [h]

theorem shieldField_fields (a : Actor) (c : Construction) :
    (shieldField a c).fields = (shieldList a).foldl insertFirst c.fields := by
  unfold shieldField shieldList
  cases h : a.heldShield? with
  | none => rfl
  | some p =>
    obtain ⟨i, s⟩ := p
    by_cases hd : s.dice.isEmpty <;> simp [hd]

theorem statusBonus_fields (b : RuleBook) (kind : StatusKind) (ctx : Context) (force : Bool)
    (c : Construction) :
    (statusBonus b kind ctx force c).value.fields =
      (statusList b kind ctx force).foldl insertFirst c.fields := by
  unfold statusList statusBonus
  by_cases h : (!force && !ctx.conditions.hasAny [kind.condition]) = true <;>
    simp [h, Construction.empty, insertFirst]

theorem addSource_fields (b : RuleBook) (ctx : Context) (c : Construction) (s : BonusSource) :
    (addSource b ctx c s).value.fields = (sourceFields b ctx s).foldl insertFirst c.fields := by
  cases s <;>
    simp [addSource, sourceFields, armorFields_fields, shieldField_fields, statusBonus_fields]

/-! ## The field of a base rule -/

/-- The id of the field a rule's dice fill: its item's id and its position in the gift. -/
def Rule.fieldId (u : Rule) : String := u.item.id.text ++ "-" ++ toString u.index

namespace RuleBook

/-- The field a base rule's bonus inserts, as the rule at the end of its chain describes it. -/
def bonusField (b : RuleBook) (ctx : Context) (r : Rule) : Option PoolField :=
  let u := (b.resolveChain r ctx).value.used
  match u.setting.effect.diceBonus? with
  | none => none
  | some bonus =>
    let dice := bonus.dice.getD u.gift.useDice.dice
    if dice.isEmpty then none
    else some ⟨u.fieldId, u.giftName, dice,
      bonus.autoUsed == .always || bonus.autoUsed == .applied && b.applies r ctx.autochecking,
      some u.item.id, bonus.exhaustsOnUse⟩

/-- The fields of the applicable base rules of a mode whose dice are not empty, in item order. -/
def bonusFields (b : RuleBook) (m : Mode) (ctx : Context) : List PoolField :=
  ((b.baseRules m).filter (b.applies · ctx)).filterMap (b.bonusField ctx)

/-- What an applicable base rule inserts: the fields of the bonus sources of the rule at the end
of its chain, then its own field. -/
def rulePlan (b : RuleBook) (ctx : Context) (r : Rule) : List PoolField :=
  match (b.resolveChain r ctx).value.used.setting.effect.diceBonus? with
  | none => []
  | some bonus => bonus.parsedSources.flatMap (sourceFields b ctx) ++ (b.bonusField ctx r).toList

/-- Everything aggregating a pool mode inserts, in order. -/
def aggregatePlan (b : RuleBook) (m : Mode) (ctx : Context) : List PoolField :=
  ((b.baseRules m).filter (b.applies · ctx)).flatMap (b.rulePlan ctx)

end RuleBook

theorem addBonus_fields (b : RuleBook) (ctx : Context) (c : Construction) (r : Rule) :
    (addBonus b ctx c r (b.resolveChain r ctx).value.used).value.fields =
      (b.rulePlan ctx r).foldl insertFirst c.fields := by
  unfold addBonus RuleBook.rulePlan RuleBook.bonusField
  cases hb : (b.resolveChain r ctx).value.used.setting.effect.diceBonus? with
  | none => rfl
  | some bonus =>
    have hsrc : (bonus.parsedSources.foldl (fun c s => (addSource b ctx c s).value) c).fields =
        (bonus.parsedSources.flatMap (sourceFields b ctx)).foldl insertFirst c.fields := by
      rw [List.foldl_flatMap]
      exact (List.foldl_hom Construction.fields fun c s => (addSource_fields b ctx c s).symm).symm
    by_cases hd : (bonus.dice.getD (b.resolveChain r ctx).value.used.gift.useDice.dice).isEmpty
    · simp [hb, hd, hsrc, foldl_precheck_fields]
    · simp only [Logged.value_bind, Logged.value_foldlM, Logged.value_pure, hd, Bool.false_eq_true,
        if_false, insertField_fields, foldl_precheck_fields, hsrc, hb, Option.toList_some,
        List.foldl_append, List.foldl_cons, List.foldl_nil, Rule.fieldId]
      -- the code reads the autocheck setting by cases; the field states it as a formula
      cases bonus.autoUsed <;> rfl

/-- Aggregating a pool mode folds in the bonus of each applicable base rule, as the rule at the
end of its chain gives it. -/
theorem aggregate_value (b : RuleBook) {m : Mode} (hm : m.isPoolKind = true) (ctx : Context)
    (c : Construction) :
    (aggregate b m ctx c).value = ((b.baseRules m).filter (b.applies · ctx)).foldl
      (fun c r => (addBonus b ctx c r (b.resolveChain r ctx).value.used).value) c := by
  cases m <;> simp_all [aggregate, RuleBook.usedRules, Mode.isPoolKind, List.foldl_map]

theorem aggregate_fields (b : RuleBook) {m : Mode} (hm : m.isPoolKind = true) (ctx : Context)
    (c : Construction) :
    (aggregate b m ctx c).value.fields = (b.aggregatePlan m ctx).foldl insertFirst c.fields := by
  rw [aggregate_value b hm, RuleBook.aggregatePlan, List.foldl_flatMap]
  exact (List.foldl_hom Construction.fields fun c r => (addBonus_fields b ctx c r).symm).symm

/-! ## Field ids

Field ids are hexadecimal text, which no source field id is, and name one rule. -/

theorem not_hexText {s : String} (ch : Char) (hch : ch ∈ s.toList) (hne : ch ≠ '-')
    (hx : ItemId.isHexDigit ch = false) : ¬ HexText s := by
  intro h
  rcases h ch hch with h | h
  · exact hne h
  · rw [hx] at h
    cases h

theorem hyphen_not_mem_digits (n : Nat) : '-' ∉ (toString n).toList := by
  intro h
  rw [Nat.toString_eq_repr, Nat.toList_repr] at h
  have hd := Nat.isDigit_of_mem_toDigits (by decide) (by decide) h
  revert hd
  decide

theorem hexText_fieldId (u : Rule) : HexText u.fieldId := by
  intro ch hch
  simp only [Rule.fieldId, String.toList_append, List.mem_append] at hch
  rcases hch with (hch | hch) | hch
  · exact u.item.id.hex ch hch
  · left
    simpa using hch
  · right
    rw [Nat.toString_eq_repr, Nat.toList_repr] at hch
    have hd := Nat.isDigit_of_mem_toDigits (by decide) (by decide) hch
    simp only [Char.isDigit, Bool.and_eq_true, decide_eq_true_eq] at hd
    simp only [ItemId.isHexDigit, Char.le_def] at hd ⊢
    simp at hd ⊢
    exact .inl (.inl hd)

theorem append_hyphen_inj {s t d e : List Char} (hd : '-' ∉ d) (he : '-' ∉ e)
    (h : s ++ '-' :: d = t ++ '-' :: e) : s = t ∧ d = e := by
  induction s generalizing t with
  | nil =>
    cases t with
    | nil => simpa using h
    | cons y t =>
      simp only [List.nil_append, List.cons_append, List.cons.injEq] at h
      exact absurd (h.2 ▸ List.mem_append_right t List.mem_cons_self) hd
  | cons x s ih =>
    cases t with
    | nil =>
      simp only [List.nil_append, List.cons_append, List.cons.injEq] at h
      exact absurd (h.2 ▸ List.mem_append_right s List.mem_cons_self) he
    | cons y t =>
      simp only [List.cons_append, List.cons.injEq] at h
      obtain ⟨rfl, h⟩ := h
      obtain ⟨rfl, rfl⟩ := ih h
      exact ⟨rfl, rfl⟩

/-- A field id names one rule. -/
theorem key_eq_of_fieldId_eq {u v : Rule} (h : u.fieldId = v.fieldId) : u.key = v.key := by
  have hl := congrArg String.toList h
  simp only [Rule.fieldId, String.toList_append, List.append_assoc] at hl
  obtain ⟨htext, hdigits⟩ := append_hyphen_inj (hyphen_not_mem_digits _) (hyphen_not_mem_digits _)
    (by simpa using hl)
  have hindex : u.index = v.index := by
    rw [Nat.toString_eq_repr, Nat.toList_repr, Nat.toString_eq_repr, Nat.toList_repr] at hdigits
    rw [← Nat.ofDigitChars_ten_toDigits (n := u.index), hdigits, Nat.ofDigitChars_ten_toDigits]
  have hid : u.item.id = v.item.id := by
    have htext' : u.item.id.text = v.item.id.text := String.toList_inj.mp htext
    cases hu : u.item.id
    cases hv : v.item.id
    simp_all
  simp [Rule.key, hid, hindex]

theorem statusList_id {b : RuleBook} {kind : StatusKind} {ctx : Context} {force : Bool}
    {g : PoolField} (hg : g ∈ statusList b kind ctx force) : g.id = kind.fieldId := by
  unfold statusList statusBonus at hg
  by_cases h : (!force && !ctx.conditions.hasAny [kind.condition]) = true
  · simp [h, Construction.empty] at hg
  · simp [h, Construction.empty, insertFirst] at hg
    rw [hg]
    rfl

theorem not_hexText_of_mem_sourceFields {b : RuleBook} {ctx : Context} {s : BonusSource}
    {g : PoolField} (hg : g ∈ sourceFields b ctx s) : ¬ HexText g.id := by
  have hguard : ¬ HexText StatusKind.guard.fieldId := not_hexText 'g' (by decide) (by decide) (by decide)
  have haim : ¬ HexText StatusKind.aim.fieldId := not_hexText 'i' (by decide) (by decide) (by decide)
  cases s with
  | armor =>
    obtain ⟨i, hi⟩ := armorList_id hg
    rw [hi]
    refine not_hexText 'r' ?_ (by decide) (by decide)
    rw [String.toList_append]
    exact List.mem_append_left _ (by decide)
  | shield =>
    rw [shieldList_id hg]
    exact not_hexText 's' (show 's' ∈ "shield".toList by decide) (by decide) (by decide)
  | guard | guardAlways => rw [statusList_id hg]; exact hguard
  | aim | aimAlways => rw [statusList_id hg]; exact haim

/-! ## The fields of a sheet's pool rules -/

theorem Effect.diceBonus?_isSome {e : Effect} {m : Mode} (he : e.mode? = some m)
    (hm : m.isPoolKind = true) : e.diceBonus?.isSome = true := by
  cases e <;> simp only [Effect.mode?, Option.some.injEq, reduceCtorEq] at he <;> subst he <;>
    first | rfl | cases hm

namespace RuleBook

theorem bonusField_id {b : RuleBook} {ctx : Context} {r : Rule} {f : PoolField}
    (h : b.bonusField ctx r = some f) : f.id = (b.resolveChain r ctx).value.used.fieldId := by
  unfold bonusField at h
  simp only at h
  split at h
  · cases h
  · split at h
    · cases h
    · cases h
      rfl

theorem bonusField_eq_none {b : RuleBook} {ctx : Context} {r : Rule}
    (h : (b.resolveChain r ctx).value.used.setting.effect.diceBonus? = none) :
    b.bonusField ctx r = none := by
  simp [bonusField, h]

theorem filter_rulePlan {b : RuleBook} {ctx : Context} {r : Rule} {p : String → Bool}
    (hp : ∀ x, p x = true → HexText x) (hr : ∀ f, b.bonusField ctx r = some f → p f.id = true) :
    (b.rulePlan ctx r).filter (p ·.id) = (b.bonusField ctx r).toList := by
  unfold rulePlan
  split
  · rename_i hb
    simp [bonusField_eq_none hb]
  · rename_i bonus hb
    have hsrc : (bonus.parsedSources.flatMap (sourceFields b ctx)).filter (p ·.id) = [] := by
      refine List.filter_eq_nil_iff.mpr fun g hg hpg => ?_
      obtain ⟨s, -, hgs⟩ := List.mem_flatMap.mp hg
      exact not_hexText_of_mem_sourceFields hgs (hp _ hpg)
    rw [List.filter_append, hsrc, List.nil_append]
    cases hf : b.bonusField ctx r with
    | none => rfl
    | some f => simp [hr f hf]

theorem mem_bonusFields {b : RuleBook} {m : Mode} {ctx : Context} {f : PoolField} :
    f ∈ b.bonusFields m ctx ↔
      ∃ r ∈ b.baseRules m, b.applies r ctx = true ∧ b.bonusField ctx r = some f := by
  simp [bonusFields, and_assoc]

theorem WellLinked.used_diceBonus_isSome {b : RuleBook} (hb : b.WellLinked) {m : Mode}
    (hm : m.isPoolKind = true) {r : Rule} (hr : r ∈ b.baseRules m) (ctx : Context) :
    ((b.resolveChain r ctx).value.used.setting.effect.diceBonus?).isSome = true := by
  obtain ⟨-, hu, hmode, -⟩ := resolveChain_from_base hb hr ctx
  exact Effect.diceBonus?_isSome (hmode ▸ hb.modes _ hu) hm

end RuleBook

/-! ## On a sheet whose items have distinct ids -/

section Sheet

open RuleBook

variable {a : Actor} {m : Mode} {ctx : Context}

theorem hexText_of_mem_bonusFields {b : RuleBook} {f : PoolField}
    (hf : f ∈ b.bonusFields m ctx) : HexText f.id := by
  obtain ⟨r, -, -, hrf⟩ := RuleBook.mem_bonusFields.mp hf
  rw [RuleBook.bonusField_id hrf]
  exact hexText_fieldId _

/-- Distinct base rules end their chains at distinct rules, so their fields have distinct ids. -/
theorem bonusFields_ids_nodup (hids : (a.items.map (·.id)).Nodup) :
    (((build a).value.bonusFields m ctx).map (·.id)).Nodup := by
  have hb := build_wellLinked hids
  have hL : (((build a).value.baseRules m).filter ((build a).value.applies · ctx)).Nodup :=
    ((hb.keys_nodup.of_map _).filter _).filter _
  unfold RuleBook.bonusFields
  rw [List.Nodup, List.pairwise_map, List.pairwise_filterMap]
  refine List.Pairwise.imp_of_mem (fun {r₁ r₂} h₁ h₂ hne f₁ hf₁ f₂ hf₂ heq => hne ?_) hL
  apply hb.replacementSound.chain_injective m ctx r₁ (List.mem_filter.mp h₁).1 r₂
    (List.mem_filter.mp h₂).1
  apply key_eq_of_fieldId_eq
  rw [← RuleBook.bonusField_id hf₁, ← RuleBook.bonusField_id hf₂, heq]

theorem filter_aggregatePlan (b : RuleBook) :
    (b.aggregatePlan m ctx).filter (fun g => (b.bonusFields m ctx).any (·.id == g.id)) =
      b.bonusFields m ctx := by
  unfold RuleBook.aggregatePlan
  rw [List.filter_flatMap]
  conv => rhs; rw [RuleBook.bonusFields, List.filterMap_eq_flatMap_toList]
  refine List.flatMap_congr fun r hr => RuleBook.filter_rulePlan
    (p := fun x => (b.bonusFields m ctx).any (·.id == x)) (fun x hx => ?_) (fun f hf => ?_)
  · obtain ⟨f, hf, hfx⟩ := List.any_eq_true.mp hx
    rw [← beq_iff_eq.mp hfx]
    exact hexText_of_mem_bonusFields hf
  · exact List.any_eq_true.mpr ⟨f, List.mem_filterMap.mpr ⟨r, hr, hf⟩, beq_self_eq_true _⟩

theorem filter_id_aggregatePlan (hids : (a.items.map (·.id)).Nodup)
    {f : PoolField}
    (hf : f ∈ (build a).value.bonusFields m ctx) :
    ((build a).value.aggregatePlan m ctx).filter (·.id == f.id) = [f] := by
  have hsub : ((build a).value.aggregatePlan m ctx).filter (·.id == f.id) =
      (((build a).value.aggregatePlan m ctx).filter
        (fun g => ((build a).value.bonusFields m ctx).any (·.id == g.id))).filter (·.id == f.id) := by
    rw [List.filter_filter]
    refine List.filter_congr fun g _ => ?_
    by_cases hg : g.id = f.id
    · have hany : ((build a).value.bonusFields m ctx).any (·.id == g.id) = true :=
        List.any_eq_true.mpr ⟨f, hf, by simp [hg]⟩
      rw [hany, Bool.and_true]
    · simp [hg]
  rw [hsub, filter_aggregatePlan]
  exact filter_id_eq_singleton (bonusFields_ids_nodup hids) hf

/-- Each rule's field is the field found under its id. -/
theorem field?_aggregate (hids : (a.items.map (·.id)).Nodup)
    (hm : m.isPoolKind = true) (c : Construction)
    {f : PoolField} (hf : f ∈ (build a).value.bonusFields m ctx) :
    (aggregate (build a).value m ctx c).value.field? f.id = some f := by
  rw [Construction.field?, aggregate_fields _ hm]
  exact find?_foldl_insertFirst_of_filter (filter_id_aggregatePlan hids hf)

/-- Into a construction that holds none of their ids, the rules' fields land once each, in item
order. -/
theorem filter_aggregate (hids : (a.items.map (·.id)).Nodup)
    (hm : m.isPoolKind = true) {c : Construction}
    (hnone : ∀ f ∈ (build a).value.bonusFields m ctx, c.field? f.id = none) :
    (aggregate (build a).value m ctx c).value.fields.filter
      (fun g => ((build a).value.bonusFields m ctx).any (·.id == g.id)) =
      (build a).value.bonusFields m ctx := by
  have hc : c.fields.filter (fun g => ((build a).value.bonusFields m ctx).any (·.id == g.id)) = [] := by
    refine List.filter_eq_nil_iff.mpr fun g hg hany => ?_
    obtain ⟨f, hf, hfg⟩ := List.any_eq_true.mp hany
    exact not_mem_ids_of_field?_eq_none (hnone f hf)
      (List.mem_map.mpr ⟨g, hg, (beq_iff_eq.mp hfg).symm⟩)
  rw [aggregate_fields _ hm,
    filter_foldl_insertFirst (fun x => ((build a).value.bonusFields m ctx).any (·.id == x)),
    filter_aggregatePlan, hc]
  exact foldl_insertFirst_of_nodup (by simpa using bonusFields_ids_nodup hids)

/-- A rule's field new to the construction comes after the fields of its bonus sources. -/
theorem findIdx_source_lt_findIdx_bonusField (hids : (a.items.map (·.id)).Nodup)
    (hm : m.isPoolKind = true) {c : Construction}
    {r : Rule} (hr : r ∈ (build a).value.baseRules m) (happ : (build a).value.applies r ctx = true)
    {f : PoolField} (hf : (build a).value.bonusField ctx r = some f) (hnone : c.field? f.id = none)
    {bonus : DiceBonus}
    (hb : ((build a).value.resolveChain r ctx).value.used.setting.effect.diceBonus? = some bonus)
    {s : BonusSource} (hs : s ∈ bonus.parsedSources) {g : PoolField}
    (hg : g ∈ sourceFields (build a).value ctx s) :
    (aggregate (build a).value m ctx c).value.fields.findIdx (·.id == g.id) <
      (aggregate (build a).value m ctx c).value.fields.findIdx (·.id == f.id) := by
  have hrL : r ∈ ((build a).value.baseRules m).filter ((build a).value.applies · ctx) :=
    List.mem_filter.mpr ⟨hr, happ⟩
  obtain ⟨L₁, L₂, hL⟩ := List.append_of_mem hrL
  have hplan : (build a).value.rulePlan ctx r =
      bonus.parsedSources.flatMap (sourceFields (build a).value ctx) ++ [f] := by
    simp [RuleBook.rulePlan, hb, hf]
  have hsplit : (build a).value.aggregatePlan m ctx =
      (L₁.flatMap ((build a).value.rulePlan ctx) ++
        bonus.parsedSources.flatMap (sourceFields (build a).value ctx)) ++
      f :: L₂.flatMap ((build a).value.rulePlan ctx) := by
    simp [RuleBook.aggregatePlan, hL, hplan]
  have hfmem : f ∈ (build a).value.bonusFields m ctx := List.mem_filterMap.mpr ⟨r, hrL, hf⟩
  -- the rule's own field is the only one with its id, so nothing before it has that id
  have hbefore := id_not_mem_of_filter_append_cons (hsplit ▸ filter_id_aggregatePlan hids hfmem)
  have hc := not_mem_ids_of_field?_eq_none hnone
  rw [aggregate_fields _ hm, hsplit, List.foldl_append]
  apply findIdx_lt_foldl_insertFirst
  · exact mem_ids_foldl_insertFirst.mpr (.inr (List.mem_map_of_mem
      (List.mem_append_right _ (List.mem_flatMap.mpr ⟨s, hs, hg⟩))))
  · intro hmem
    rcases mem_ids_foldl_insertFirst.mp hmem with h | h
    · exact hc h
    · exact hbefore h

end Sheet

theorem ids_aggregate_getElem? (b : RuleBook) {m : Mode} (hm : m.isPoolKind = true)
    (ctx : Context) (c : Construction) {i : Nat} (hi : i < c.fields.length) :
    ((aggregate b m ctx c).value.fields[i]?).map (·.id) = (c.fields[i]?).map (·.id) := by
  rw [aggregate_fields _ hm]
  exact getElem?_id_foldl_insertFirst hi _

/-- A field whose id aggregating does not insert stays as it was. -/
theorem aggregate_getElem?_of_not_mem (b : RuleBook) {m : Mode} (hm : m.isPoolKind = true)
    (ctx : Context) {c : Construction} {i : Nat} {g : PoolField} (hg : c.fields[i]? = some g)
    (hnot : g.id ∉ (b.aggregatePlan m ctx).map (·.id)) :
    (aggregate b m ctx c).value.fields[i]? = some g := by
  rw [aggregate_fields _ hm]
  exact getElem?_foldl_insertFirst_of_not_mem hg hnot

/-- What aggregating the pool bonuses of a mode into a construction `c` guarantees. -/
structure AggregateSound (b : RuleBook) (m : Mode) (ctx : Context) (c : Construction) : Prop where
  used_bonus : ∀ r ∈ b.baseRules m, b.applies r ctx = true →
    ((b.resolveChain r ctx).value.used.setting.effect.diceBonus?).isSome = true
  ids_nodup : ((b.bonusFields m ctx).map (·.id)).Nodup
  found : ∀ f ∈ b.bonusFields m ctx, (aggregate b m ctx c).value.field? f.id = some f
  in_order : (∀ f ∈ b.bonusFields m ctx, c.field? f.id = none) →
    (aggregate b m ctx c).value.fields.filter (fun g => (b.bonusFields m ctx).any (·.id == g.id)) =
      b.bonusFields m ctx
  after_sources : ∀ r ∈ b.baseRules m, b.applies r ctx = true → ∀ f, b.bonusField ctx r = some f →
    c.field? f.id = none → ∀ bonus,
    (b.resolveChain r ctx).value.used.setting.effect.diceBonus? = some bonus →
    ∀ s ∈ bonus.parsedSources, ∀ g ∈ sourceFields b ctx s,
      (aggregate b m ctx c).value.fields.findIdx (·.id == g.id) <
        (aggregate b m ctx c).value.fields.findIdx (·.id == f.id)
  ids_kept : ∀ i < c.fields.length,
    ((aggregate b m ctx c).value.fields[i]?).map (·.id) = (c.fields[i]?).map (·.id)
  kept : ∀ (i : Nat) (g : PoolField), c.fields[i]? = some g → g.id ∉ (b.aggregatePlan m ctx).map (·.id) →
    (aggregate b m ctx c).value.fields[i]? = some g

/-- On a sheet whose items have distinct ids, aggregating a pool mode inserts each qualifying
rule's field once, in item order and after its sources, and leaves the other fields in place. -/
theorem build_aggregateSound (a : Actor) (hids : (a.items.map (·.id)).Nodup)
    {m : Mode} (hm : m.isPoolKind = true)
    (ctx : Context) (c : Construction) : AggregateSound (RuleBook.build a).value m ctx c where
  used_bonus _ hr _ := (RuleBook.build_wellLinked hids).used_diceBonus_isSome hm hr ctx
  ids_nodup := bonusFields_ids_nodup hids
  found _ hf := field?_aggregate hids hm c hf
  in_order hnone := filter_aggregate hids hm hnone
  after_sources _ hr happ _ hf hnone _ hb _ hs _ hg :=
    findIdx_source_lt_findIdx_bonusField hids hm hr happ hf hnone hb hs hg
  ids_kept _ hi := ids_aggregate_getElem? _ hm ctx c hi
  kept _ _ hg hnot := aggregate_getElem?_of_not_mem _ hm ctx hg hnot

/-- A soak rule matching everything, with bonus dice and an autocheck setting. -/
def soakRule (dice : Dice) (autoUsed : AutoUse) : Setting :=
  { Setting.prototype .soakBonus with
    effect := .soakBonus { DiceBonus.none with dice := some dice, autoUsed := autoUsed } }

/-- Two soak gifts with bonus dice, one always used and one used when applied. -/
def toughSheet : Actor :=
  ⟨"",[],[],[RuleBook.plainGift (.ofSerial 10) "Tough"
      [soakRule (Dice.single 1 .d6) .always],
    RuleBook.plainGift (.ofSerial 11) "Hardy"
      [soakRule (Dice.single 1 .d8) .applied]],default,[]⟩

theorem toughSheet_aggregateSound :
    (toughSheet.items.map (·.id)).Nodup ∧ Mode.soakBonus.isPoolKind = true ∧
      AggregateSound (RuleBook.build toughSheet).value .soakBonus (Context.ofConditions default)
        .empty :=
  ⟨by decide,rfl,build_aggregateSound toughSheet (by decide) rfl _ _⟩

/-- The two soak gifts under one item id. -/
def sharedToughSheet : Actor :=
  ⟨"",[],[],[RuleBook.plainGift (.ofSerial 10) "Tough"
      [soakRule (Dice.single 1 .d6) .always],
    RuleBook.plainGift (.ofSerial 10) "Hardy"
      [soakRule (Dice.single 1 .d8) .applied]],default,[]⟩

/-- With a shared item id both rules fill the field of one id: the second overwrites the first,
and one field stands for two bonuses. -/
theorem sharedToughSheet_not_aggregateSound :
    ¬ AggregateSound (RuleBook.build sharedToughSheet).value .soakBonus
      (Context.ofConditions default) .empty := by
  intro h
  have hlen := congrArg List.length (h.in_order fun _ _ => rfl)
  revert hlen
  decide +kernel

/-- A soak rule of a d8, used when applied, whose bonus brings the guard bonus first. -/
def bracedSoakRule : Setting :=
  { Setting.prototype .soakBonus with
    effect := .soakBonus
      { DiceBonus.none with dice := some (Dice.single 1 .d8), sources := ⟨["guard-always"]⟩ } }

/-- `Tough`, and `Hardy` whose soak bonus brings the guard bonus. -/
def braceSheet : Actor :=
  ⟨"",[],[],[RuleBook.plainGift (.ofSerial 10) "Tough" [soakRule (Dice.single 1 .d6) .always],
    RuleBook.plainGift (.ofSerial 11) "Hardy" [bracedSoakRule]],default,[]⟩

/-- A construction already holding a field under the id of `Hardy`'s rule. -/
def braceStart : Construction :=
  { Construction.empty with
    fields := [⟨(ItemId.ofSerial 11).text ++ "-0", "Stale", Dice.empty, false, none, false⟩] }

/-- Into a construction already holding a rule's field, aggregating replaces it where it stands,
out of item order and before its sources. -/
theorem braceStart_aggregate_out_of_order :
    let b := (RuleBook.build braceSheet).value
    let ctx := Context.ofConditions default
    let out := (aggregate b .soakBonus ctx braceStart).value
    (braceSheet.items.map (·.id)).Nodup ∧
    (∃ f ∈ b.bonusFields .soakBonus ctx, (braceStart.field? f.id).isSome) ∧
    out.fields.filter (fun g => (b.bonusFields .soakBonus ctx).any (·.id == g.id)) ≠
      b.bonusFields .soakBonus ctx ∧
    ¬ ∀ r ∈ b.baseRules .soakBonus, b.applies r ctx = true → ∀ f, b.bonusField ctx r = some f →
      ∀ bonus, (b.resolveChain r ctx).value.used.setting.effect.diceBonus? = some bonus →
      ∀ s ∈ bonus.parsedSources, ∀ g ∈ sourceFields b ctx s,
        out.fields.findIdx (·.id == g.id) < out.fields.findIdx (·.id == f.id) := by
  intro b ctx out
  refine ⟨by decide, by decide +kernel, fun h => ?_, fun h => ?_⟩
  · have hids := congrArg (List.map (·.id)) h
    revert hids
    decide +kernel
  · -- the same statement with the option values as bounded quantifiers, which is decidable
    have hbounded : ∀ r ∈ b.baseRules .soakBonus, b.applies r ctx = true →
        ∀ bonus ∈ (b.resolveChain r ctx).value.used.setting.effect.diceBonus?,
        ∀ s ∈ bonus.parsedSources, ∀ g ∈ sourceFields b ctx s, ∀ f ∈ b.bonusField ctx r,
          out.fields.findIdx (·.id == g.id) < out.fields.findIdx (·.id == f.id) :=
      fun r hr happ bonus hb s hs g hg f hf => h r hr happ f hf bonus hb s hs g hg
    revert hbounded
    decide +kernel

end DicePools
