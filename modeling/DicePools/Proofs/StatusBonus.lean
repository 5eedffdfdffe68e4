import DicePools.Rules.Aggregate
import DicePools.Proofs.Chain
import DicePools.Proofs.Fields
import DicePools.Proofs.DiceOrder

/-! The guard and aim bonuses. Main statement: `build_statusBonusSound`. -/

namespace DicePools

/-! ## The first maximum of a list of candidates -/

/-- `p` is the first maximum of `cands` under the comparison of dice: it beats every candidate
before it, and none after it beats it. -/
def IsFirstMax (cands : List (Dice × String)) (p : Dice × String) : Prop :=
  ∃ before after, cands = before ++ p :: after ∧ (∀ q ∈ before, Dice.compare p.1 q.1 = .gt) ∧
    ∀ q ∈ after, Dice.compare q.1 p.1 ≠ .gt

namespace IsFirstMax

variable {cands : List (Dice × String)} {p : Dice × String}

theorem singleton (p : Dice × String) : IsFirstMax [p] p :=
  ⟨[],[],rfl,by simp,by simp⟩

theorem not_gt (h : IsFirstMax cands p) {q : Dice × String} (hq : q ∈ cands) :
    Dice.compare q.1 p.1 ≠ .gt := by
  obtain ⟨before,after,rfl,hb,ha⟩ := h
  rcases List.mem_append.mp hq with hq | hq
  · intro hgt
    have hlt := Std.OrientedCmp.gt_iff_lt.mp hgt
    rw [hb q hq] at hlt
    cases hlt
  · rcases List.mem_cons.mp hq with rfl | hq
    · simp [Std.ReflCmp.compare_self]
    · exact ha q hq

theorem append_of_gt (h : IsFirstMax cands p) (d : Dice × String)
    (hd : Dice.compare d.1 p.1 = .gt) :
    IsFirstMax (cands ++ [d]) d := by
  refine ⟨cands,[],rfl,fun q hq => ?_,by simp⟩
  have hle : (Dice.compare p.1 q.1).isGE = true := by
    have := h.not_gt hq
    rw [Ordering.isGE_iff_ne_lt,← Std.OrientedCmp.gt_iff_lt]
    exact this
  exact Std.TransCmp.gt_of_gt_of_isGE hd hle

theorem append_of_not_gt (h : IsFirstMax cands p) (d : Dice × String)
    (hd : Dice.compare d.1 p.1 ≠ .gt) :
    IsFirstMax (cands ++ [d]) p := by
  obtain ⟨before,after,rfl,hb,ha⟩ := h
  refine ⟨before,after ++ [d],by simp,hb,fun q hq => ?_⟩
  rcases List.mem_append.mp hq with hq | hq
  · exact ha q hq
  · rw [List.mem_singleton.mp hq]
    exact hd

end IsFirstMax

/-! ## Insertion by id -/

namespace Construction

/-- `c'` is `c` with `f` inserted by id: the field replaces the first field with its id in place,
or goes last when there is none; the selected stats and the label stay. -/
def Inserted (c : Construction) (f : PoolField) (c' : Construction) : Prop :=
  c'.prechecked = c.prechecked ∧ c'.label = c.label ∧
    ((∃ pre g post, c.fields = pre ++ g :: post ∧ (∀ h ∈ pre, h.id ≠ f.id) ∧ g.id = f.id ∧
        c'.fields = pre ++ f :: post) ∨
      ((∀ h ∈ c.fields, h.id ≠ f.id) ∧ c'.fields = c.fields ++ [f]))

theorem insertFirst_cases (fs : List PoolField) (f : PoolField) :
    (∃ pre g post, fs = pre ++ g :: post ∧ (∀ h ∈ pre, h.id ≠ f.id) ∧ g.id = f.id ∧
        insertFirst fs f = pre ++ f :: post) ∨
      ((∀ h ∈ fs, h.id ≠ f.id) ∧ insertFirst fs f = fs ++ [f]) := by
  induction fs with
  | nil => exact .inr ⟨by simp,rfl⟩
  | cons g gs ih =>
    by_cases hg : g.id = f.id
    · exact .inl ⟨[],g,gs,rfl,by simp,hg,by simp [insertFirst,hg]⟩
    · rcases ih with ⟨pre,g',post,hgs,hpre,hg',hins⟩ | ⟨hall,hins⟩
      · refine .inl ⟨g :: pre,g',post,by simp [hgs],?_,hg',by simp [insertFirst,hg,hins]⟩
        intro h hh
        rcases List.mem_cons.mp hh with rfl | hh
        · exact hg
        · exact hpre h hh
      · refine .inr ⟨?_,by simp [insertFirst,hg,hins]⟩
        intro h hh
        rcases List.mem_cons.mp hh with rfl | hh
        · exact hg
        · exact hall h hh

theorem insertFirst_insertFirst (fs : List PoolField) (f : PoolField) :
    insertFirst (insertFirst fs f) f = insertFirst fs f := by
  induction fs with
  | nil => simp [insertFirst]
  | cons g gs ih =>
    by_cases hg : g.id = f.id
    · simp [insertFirst,hg]
    · simp [insertFirst,hg,ih]

theorem insertField_eq (c : Construction) (f : PoolField) :
    c.insertField f = { c with fields := insertFirst c.fields f } := by
  rw [insertFirst_eq_match,insertField]
  cases c.fields.findIdx? (·.id == f.id) <;> rfl

theorem inserted_insertField (c : Construction) (f : PoolField) :
    c.Inserted f (c.insertField f) := by
  rw [insertField_eq]
  exact ⟨rfl,rfl,insertFirst_cases c.fields f⟩

theorem insertField_insertField (c : Construction) (f : PoolField) :
    (c.insertField f).insertField f = c.insertField f := by
  simp only [insertField_eq,insertFirst_insertFirst]

end Construction

/-! ## What the rules of a status bonus contribute -/

namespace Effect

/-- The dice an effect names under `bonusDice`: the pool bonuses and the status bonuses have the
field. -/
def bonusDice? : Effect → Option Dice
  | attackBonus b | defenseBonus b | counterBonus b | resistBonus b | soakBonus b
  | sprintBonus b | initiativeBonus b => b.dice
  | guardBonus s | aimBonus s => s.dice
  | _ => none

/-- Whether an effect replaces the base die of a status bonus; only a status effect can. -/
def replacesBaseBonus : Effect → Bool
  | guardBonus s | aimBonus s => s.replacesBase
  | _ => false

theorem statusDice?_eq_some {e : Effect} {s : StatusDice} (h : e.statusDice? = some s) :
    e.bonusDice? = s.dice ∧ e.replacesBaseBonus = s.replacesBase := by
  cases e <;> simp_all [statusDice?,bonusDice?,replacesBaseBonus]

theorem statusDice?_isSome {e : Effect} {k : StatusKind} (he : e.mode? = some k.mode) :
    e.statusDice?.isSome = true := by
  cases k <;> cases e <;> simp_all [mode?,StatusKind.mode,statusDice?]

end Effect

def Rule.effectiveDice (u : Rule) : Dice := u.setting.effect.bonusDice?.getD u.gift.useDice.dice

namespace RuleBook

/-- The rules whose dice a status bonus gathers: for each applicable base rule of the bonus's
mode, in item order, the rule at the end of its chain, when that rule has dice. -/
def statusRules (b : RuleBook) (k : StatusKind) (ctx : Context) : List Rule :=
  (((b.baseRules k.mode).filter (b.applies · ctx)).map
    fun r => (b.resolveChain r ctx).value.used).filter fun u => !u.effectiveDice.isEmpty

/-- The candidates for a status bonus's main dice: one d8 under the plain label, then the dice of
each rule that replaces the base bonus, under its gift's name. -/
def statusCandidates (b : RuleBook) (k : StatusKind) (ctx : Context) : List (Dice × String) :=
  (Dice.single 1 .d8, k.label) ::
    ((b.statusRules k ctx).filter (·.setting.effect.replacesBaseBonus)).map
      fun u => (u.effectiveDice, u.giftName ++ " " ++ k.label)

/-- The dice a status bonus adds on top: the sum of the other rules' dice. -/
def statusAdditive (b : RuleBook) (k : StatusKind) (ctx : Context) : Dice :=
  Dice.sum (((b.statusRules k ctx).filter (!·.setting.effect.replacesBaseBonus)).map
    Rule.effectiveDice)

/-- The guard and aim bonuses as the rules of a book describe them. -/
structure StatusBonusSound (b : RuleBook) : Prop where
  inactive : ∀ k ctx (c : Construction), ctx.conditions.hasAny [k.condition] = false →
    (statusBonus b k ctx false c).value = c
  active : ∀ k ctx force (c : Construction),
    (force = true ∨ ctx.conditions.hasAny [k.condition] = true) →
    ∃ best label, IsFirstMax (b.statusCandidates k ctx) (best,label) ∧
      c.Inserted (.plain k.fieldId label (best + b.statusAdditive k ctx))
        (statusBonus b k ctx force c).value
  idempotent : ∀ k ctx force c,
    (statusBonus b k ctx force (statusBonus b k ctx force c).value).value =
      (statusBonus b k ctx force c).value

/-! ## What `statusBonus` computes -/

/-- What the rule at the end of a chain does to the running main dice, label and additive dice. -/
def statusStep (k : StatusKind) (acc : Dice × String × Dice) (u : Rule) : Dice × String × Dice :=
  match u.setting.effect.statusDice? with
  | none => acc
  | some st =>
    let dice := st.dice.getD u.gift.useDice.dice
    if dice.isEmpty then acc
    else if st.replacesBase then
      if Dice.compare dice acc.1 == .gt then (dice, u.giftName ++ " " ++ k.label, acc.2.2) else acc
    else (acc.1, acc.2.1, acc.2.2 + dice)

/-- The main dice, label and additive dice of a status bonus. -/
def statusTally (b : RuleBook) (k : StatusKind) (ctx : Context) : Dice × String × Dice :=
  (((b.baseRules k.mode).filter (b.applies · ctx)).map
    fun r => (b.resolveChain r ctx).value.used).foldl (statusStep k)
      (Dice.single 1 .d8, k.label, .empty)

theorem statusBonus_value (b : RuleBook) (k : StatusKind) (ctx : Context) (force : Bool)
    (c : Construction) :
    (statusBonus b k ctx force c).value =
      if (!force && !ctx.conditions.hasAny [k.condition]) = true then c
      else c.insertField (.plain k.fieldId (b.statusTally k ctx).2.1
        ((b.statusTally k ctx).1 + (b.statusTally k ctx).2.2)) := by
  unfold statusBonus statusTally
  by_cases h : (!force && !ctx.conditions.hasAny [k.condition]) = true
  · simp [h]
  · simp only [h,if_false,Bool.false_eq_true]
    rw [List.foldl_map,List.foldl_filter]
    simp only [Logged.value_bind,Logged.value_foldlM,Logged.value_pure]
    rw [List.foldl_ext _ (fun acc r => if b.applies r ctx = true then
      statusStep k acc (b.resolveChain r ctx).value.used else acc) _ fun acc r _ => ?_]
    by_cases happ : b.applies r ctx = true
    · cases hs : (b.resolveChain r ctx).value.used.setting.effect.statusDice? with
      | none => simp [happ,hs,statusStep]
      | some st =>
        simp only [happ,hs,statusStep,Bool.not_true,Bool.false_eq_true,if_false,Logged.value_bind]
        split_ifs <;> rfl
    · simp [happ]

/-- On a rule with a status effect, a step acts on the rule's dice. -/
theorem statusStep_of_isSome (k : StatusKind) (acc : Dice × String × Dice) {u : Rule}
    (hu : u.setting.effect.statusDice?.isSome = true) :
    statusStep k acc u =
      if u.effectiveDice.isEmpty = true then acc
      else if u.setting.effect.replacesBaseBonus = true then
        if Dice.compare u.effectiveDice acc.1 = .gt then
          (u.effectiveDice, u.giftName ++ " " ++ k.label, acc.2.2)
        else acc
      else (acc.1, acc.2.1, acc.2.2 + u.effectiveDice) := by
  obtain ⟨st,hst⟩ := Option.isSome_iff_exists.mp hu
  obtain ⟨hd,hr⟩ := Effect.statusDice?_eq_some hst
  simp [statusStep,hst,Rule.effectiveDice,hd,hr]

section Fold

variable (k : StatusKind)

/-- Folding steps over rules with status effects keeps the main dice and label the first maximum
of the candidates seen so far: a new candidate wins only when strictly larger. -/
theorem foldl_statusStep_best {us : List Rule}
    (hus : ∀ u ∈ us, u.setting.effect.statusDice?.isSome = true) {P : List (Dice × String)}
    (acc : Dice × String × Dice) (h : IsFirstMax P (acc.1, acc.2.1)) :
    IsFirstMax (P ++ ((us.filter fun u => !u.effectiveDice.isEmpty).filter
        (·.setting.effect.replacesBaseBonus)).map
          fun u => (u.effectiveDice, u.giftName ++ " " ++ k.label))
      ((us.foldl (statusStep k) acc).1, (us.foldl (statusStep k) acc).2.1) := by
  induction us generalizing P acc with
  | nil => simpa using h
  | cons u us ih =>
    have hrest : ∀ v ∈ us, v.setting.effect.statusDice?.isSome = true :=
      fun v hv => hus v (List.mem_cons_of_mem u hv)
    rw [List.foldl_cons,statusStep_of_isSome k acc (hus u List.mem_cons_self)]
    by_cases he : u.effectiveDice.isEmpty = true
    · simpa [he] using ih hrest acc h
    · by_cases hr : u.setting.effect.replacesBaseBonus = true
      · by_cases hg : Dice.compare u.effectiveDice acc.1 = .gt
        · -- the rule's dice beat the main dice: they become the first maximum
          have hnext := h.append_of_gt (u.effectiveDice, u.giftName ++ " " ++ k.label) hg
          simpa [he,hr,hg] using
            ih hrest (u.effectiveDice, u.giftName ++ " " ++ k.label, acc.2.2) hnext
        · have hnext := h.append_of_not_gt (u.effectiveDice, u.giftName ++ " " ++ k.label) hg
          simpa [he,hr,hg] using ih hrest acc hnext
      · simpa [he,hr] using ih hrest (acc.1, acc.2.1, acc.2.2 + u.effectiveDice) h

/-- Folding steps over rules with status effects adds the dice of the non-replacing rules, in
order, to the additive dice. -/
theorem foldl_statusStep_additive {us : List Rule}
    (hus : ∀ u ∈ us, u.setting.effect.statusDice?.isSome = true) (acc : Dice × String × Dice) :
    (us.foldl (statusStep k) acc).2.2 =
      (((us.filter fun u => !u.effectiveDice.isEmpty).filter
        (!·.setting.effect.replacesBaseBonus)).map Rule.effectiveDice).foldl (· + ·) acc.2.2 := by
  induction us generalizing acc with
  | nil => rfl
  | cons u us ih =>
    have hrest : ∀ v ∈ us, v.setting.effect.statusDice?.isSome = true :=
      fun v hv => hus v (List.mem_cons_of_mem u hv)
    rw [List.foldl_cons,statusStep_of_isSome k acc (hus u List.mem_cons_self)]
    by_cases he : u.effectiveDice.isEmpty = true
    · simpa [he] using ih hrest acc
    · by_cases hr : u.setting.effect.replacesBaseBonus = true
      · by_cases hg : Dice.compare u.effectiveDice acc.1 = .gt
        · simpa [he,hr,hg] using ih hrest _
        · simpa [he,hr,hg] using ih hrest acc
      · simpa [he,hr] using ih hrest _

end Fold

/-- A second application of a status bonus changes nothing: the field it inserts does not depend
on the construction. -/
theorem statusBonus_idempotent (b : RuleBook) (k : StatusKind) (ctx : Context) (force : Bool)
    (c : Construction) :
    (statusBonus b k ctx force (statusBonus b k ctx force c).value).value =
      (statusBonus b k ctx force c).value := by
  rw [statusBonus_value b k ctx force (statusBonus b k ctx force c).value,
    statusBonus_value b k ctx force c]
  by_cases h : (!force && !ctx.conditions.hasAny [k.condition]) = true
  · simp only [h,if_true]
  · simp only [h,if_false,Bool.false_eq_true,Construction.insertField_insertField]

/-- On a well-linked book the chain of a base rule of a status mode ends at a status rule. -/
theorem WellLinked.used_statusDice?_isSome {b : RuleBook} (hb : b.WellLinked) {k : StatusKind}
    {r : Rule} (hr : r ∈ b.baseRules k.mode) (ctx : Context) :
    (b.resolveChain r ctx).value.used.setting.effect.statusDice?.isSome = true := by
  obtain ⟨-,hu,hmode,-⟩ := resolveChain_from_base hb hr ctx
  exact Effect.statusDice?_isSome (hmode ▸ hb.modes _ hu)

theorem WellLinked.statusBonusSound {b : RuleBook} (hb : b.WellLinked) : b.StatusBonusSound where
  inactive k ctx c h := by
    rw [statusBonus_value]
    simp [h]
  active k ctx force c hact := by
    have hus : ∀ u ∈ ((b.baseRules k.mode).filter (b.applies · ctx)).map
        (fun r => (b.resolveChain r ctx).value.used),
        u.setting.effect.statusDice?.isSome = true := by
      intro u hu
      obtain ⟨r,hr,rfl⟩ := List.mem_map.mp hu
      exact hb.used_statusDice?_isSome (List.mem_filter.mp hr).1 ctx
    have hbest := foldl_statusStep_best k hus (Dice.single 1 .d8, k.label, .empty)
      (IsFirstMax.singleton (Dice.single 1 .d8, k.label))
    have hadd : (b.statusTally k ctx).2.2 = b.statusAdditive k ctx :=
      foldl_statusStep_additive k hus _
    have hon : (!force && !ctx.conditions.hasAny [k.condition]) = false := by
      rcases hact with rfl | hc <;> simp [*]
    refine ⟨(b.statusTally k ctx).1,(b.statusTally k ctx).2.1,hbest,?_⟩
    rw [statusBonus_value,hon,if_neg Bool.false_ne_true,← hadd]
    exact c.inserted_insertField _
  idempotent := statusBonus_idempotent b

/-- On a sheet whose items have distinct ids, the guard and aim bonuses are what the rules
describe. -/
theorem build_statusBonusSound (a : Actor) (hids : (a.items.map (·.id)).Nodup) :
    (build a).value.StatusBonusSound :=
  (build_wellLinked hids).statusBonusSound

/-- A gift whose rules name the given dice, in a mode of status bonus or not. -/
def diceGift (id : ItemId) (name : String) (useDice : Dice) (rules : List Setting) : Item :=
  ⟨id,name,0,1,.gift ⟨.empty,⟨[],useDice⟩,false,false,none,rules⟩⟩

/-- An aim rule with the given dice, replacing the base die or added on top. -/
def aimRule (dice : Option Dice) (replacesBase : Bool) : Setting :=
  { Setting.prototype .aimBonus with effect := .aimBonus ⟨dice,replacesBase⟩ }

/-- Two aim gifts of a d10 each, and one adding its gift's d4 on top. -/
def steadyAimSheet : Actor :=
  ⟨"",[],[],[diceGift (.ofSerial 1) "First" .empty
      [aimRule (some (Dice.single 1 .d10)) true],
    diceGift (.ofSerial 2) "Second" .empty
      [aimRule (some (Dice.single 1 .d10)) true],
    diceGift (.ofSerial 3) "Extra" (Dice.single 1 .d4)
      [aimRule none false]],default,[]⟩

theorem steadyAimSheet_statusBonusSound :
    (steadyAimSheet.items.map (·.id)).Nodup ∧ (build steadyAimSheet).value.StatusBonusSound :=
  ⟨by decide,build_statusBonusSound steadyAimSheet (by decide)⟩

example : ((statusBonus (build steadyAimSheet).value .aim
    (.ofConditions (Conditions.withActive ["Aiming"])) false .empty).value.fields.map
      fun f => (f.name, f.dice)) = [("First Aiming", Dice.single 1 .d10 + Dice.single 1 .d4)] := by
  decide +kernel

/-- A guard gift, a gift of the same id replacing it, and a soak gift under that id too: the
replacement link leads to the key the soak rule has last. -/
def sharedGuardSheet : Actor :=
  ⟨"",[],[],[diceGift (.ofSerial 10) "Shield Wall" .empty
      [{ Setting.prototype .guardBonus with
        effect := .guardBonus ⟨some (Dice.single 1 .d6),true⟩ }],
    diceGift (.ofSerial 11) "Bulwark" .empty
      [{ Setting.prototype .guardBonus with
        effect := .guardBonus ⟨some (Dice.single 1 .d10),true⟩
        replaceName := some "Shield Wall" }],
    diceGift (.ofSerial 11) "Tough" .empty
      [{ Setting.prototype .soakBonus with
        effect := .soakBonus { DiceBonus.none with dice := some (Dice.single 1 .d12) } }]],
    default,[]⟩

theorem IsFirstMax.eq_of_singleton {q p : Dice × String} (h : IsFirstMax [q] p) : p = q := by
  obtain ⟨before,after,hl,-,-⟩ := h
  rcases before with _ | ⟨x,_ | ⟨y,rest⟩⟩ <;> simp_all

/-- The chain of the guard rule ends at the soak rule under the shared key: its d12 counts as a
rule's dice, but the bonus leaves it out and gives a plain d8. -/
theorem sharedGuardSheet_not_statusBonusSound :
    ¬ (build sharedGuardSheet).value.StatusBonusSound := by
  intro h
  obtain ⟨best,label,hmax,-,-,hins⟩ :=
    h.active .guard (.ofConditions default) true .empty (.inl rfl)
  have hcands : (build sharedGuardSheet).value.statusCandidates .guard (.ofConditions default) =
      [(Dice.single 1 .d8, "Guarding")] := by decide +kernel
  have hadd : (build sharedGuardSheet).value.statusAdditive .guard (.ofConditions default) =
      Dice.single 1 .d12 := by decide +kernel
  have hdice : (statusBonus (build sharedGuardSheet).value .guard (.ofConditions default) true
      .empty).value.fields.map (·.dice) = [Dice.single 1 .d8] := by decide +kernel
  rw [hcands] at hmax
  obtain ⟨rfl,-⟩ := Prod.mk.inj (IsFirstMax.eq_of_singleton hmax)
  rw [hadd] at hins
  rcases hins with ⟨pre,g,post,hfields,-⟩ | ⟨-,hfields⟩
  · simp [Construction.empty] at hfields
  · rw [hfields] at hdice
    have hne : Dice.single 1 .d8 + Dice.single 1 .d12 ≠ Dice.single 1 .d8 := by decide
    exact hne (by simpa [Construction.empty,PoolField.plain] using hdice)

end RuleBook

end DicePools
