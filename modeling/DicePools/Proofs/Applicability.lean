import DicePools.Rules.Applies
import Mathlib.Data.List.Basic

/-! A rule that applies keeps applying in every context that asks no more of it. Main statement:
`applies_antitone_in_context`. -/

namespace DicePools

/-- `ctx'` asks no more of a rule than `ctx`. -/
structure Context.Relaxes (ctx ctx' : Context) : Prop where
  autocheck : ctx'.autocheck = true → ctx.autocheck = true
  conditions : ∀ names, ctx.conditions.hasAny names = true → ctx'.conditions.hasAny names = true
  oneInRoll : ctx.oneInRoll = true → ctx'.oneInRoll = true
  item : ctx'.item = none ∨ ctx'.item = ctx.item
  defense : ctx'.defense = none ∨ ctx'.defense = ctx.defense
  other : ctx'.other = ctx.other
  stats : ctx'.stats = ctx.stats

namespace Rule

/-- Whether a field of a rule is checked in a context: always in an autocheck evaluation, and
otherwise unless the rule defers it to autocheck. -/
def checkedIn (r : Rule) (ctx : Context) (field : MatchField) : Bool :=
  ctx.autocheck || !(FieldSet.ofKeys r.setting.filter.autocheckOnly.keys).mem field

end Rule

/-- A rule applies when it is well formed and works, the acting item meets its item fields, and
every other field is unchecked, empty or met. -/
theorem applies_eq_true (b : RuleBook) (r : Rule) (ctx : Context) :
    b.applies r ctx = true ↔
      b.isMalformed r.key = false ∧ r.works = true ∧
      (∀ i, ctx.item = some i → r.fitsItem (r.checkedIn ctx) i = true) ∧
      (r.checkedIn ctx .stat = false ∨ r.fitsStats ctx = true) ∧
      (r.checkedIn ctx .condition = false ∨ r.setting.filter.condition.isEmpty = true ∨
        ctx.conditions.hasAny r.setting.filter.condition.keys = true) ∧
      (r.checkedIn ctx .otherItem = false ∨ r.setting.filter.otherItem.isEmpty = true ∨
        (ctx.other.any fun o => r.setting.filter.otherItem.intersects o.descriptors.keys) = true) ∧
      (r.checkedIn ctx .secondReadied = false ∨ r.setting.filter.needsSecondReadied = false ∨
        b.actor.otherReadiedWeapons (ctx.item.map (·.id)) ≠ 0) ∧
      (r.checkedIn ctx .defense = false ∨ r.fitsDefense ctx.defense = true) ∧
      (r.checkedIn ctx .oneInRoll = false ∨ r.setting.filter.requiresOneInRoll = false ∨
        ctx.oneInRoll = true) := by
  have hfold : b.applies r ctx = (!b.isMalformed r.key && r.works &&
      ctx.item.all (r.fitsItem (r.checkedIn ctx) ·) &&
      (!r.checkedIn ctx .stat || r.fitsStats ctx) &&
      (!r.checkedIn ctx .condition || r.setting.filter.condition.isEmpty ||
        ctx.conditions.hasAny r.setting.filter.condition.keys) &&
      (!r.checkedIn ctx .otherItem || r.setting.filter.otherItem.isEmpty ||
        ctx.other.any fun o => r.setting.filter.otherItem.intersects o.descriptors.keys) &&
      (!r.checkedIn ctx .secondReadied || !r.setting.filter.needsSecondReadied ||
        b.actor.otherReadiedWeapons (ctx.item.map (·.id)) != 0) &&
      (!r.checkedIn ctx .defense || r.fitsDefense ctx.defense) &&
      (!r.checkedIn ctx .oneInRoll || !r.setting.filter.requiresOneInRoll || ctx.oneInRoll)) := rfl
  rw [hfold]
  simp only [Bool.and_eq_true, Bool.or_eq_true, Bool.not_eq_eq_eq_not, Bool.not_true,
    Option.all_eq_true, bne_iff_ne, and_assoc, or_assoc]

section Relaxes

variable {ctx ctx' : Context} (h : ctx.Relaxes ctx')
include h

theorem Rule.checkedIn_eq_false (r : Rule) {field : MatchField}
    (hf : r.checkedIn ctx field = false) : r.checkedIn ctx' field = false := by
  simp only [Rule.checkedIn, Bool.or_eq_false_iff] at hf ⊢
  refine ⟨?_,hf.2⟩
  cases hc : ctx'.autocheck
  · rfl
  · simpa [hf.1] using h.autocheck hc

theorem Rule.checkedIn_of_relaxes (r : Rule) {field : MatchField}
    (hf : r.checkedIn ctx' field = true) : r.checkedIn ctx field = true := by
  cases hc : r.checkedIn ctx field
  · simp [r.checkedIn_eq_false h hc] at hf
  · rfl

theorem Rule.fitsStats_of_relaxes (r : Rule) (hs : r.fitsStats ctx = true) :
    r.fitsStats ctx' = true := by
  rcases h.item with hnone | hsame
  · by_cases hempty : ctx.stats.isEmpty
    · simp [Rule.fitsStats,hnone,h.stats,hempty]
    · simpa [Rule.fitsStats,hnone,h.stats,hempty] using hs
  · simpa [Rule.fitsStats,hsame,h.stats] using hs

theorem Rule.fitsDefense_of_relaxes (r : Rule) (hd : r.fitsDefense ctx.defense = true) :
    r.fitsDefense ctx'.defense = true := by
  rcases h.defense with hnone | hsame
  · simp [Rule.fitsDefense,hnone]
  · rwa [hsame]

end Relaxes

theorem Rule.fitsItem_mono (r : Rule) {c c' : MatchField → Bool}
    (hc : ∀ f, c' f = true → c f = true) {i : Item} (hi : r.fitsItem c i = true) :
    r.fitsItem c' i = true := by
  unfold Rule.fitsItem at hi ⊢
  simp only [List.all_eq_true] at hi ⊢
  intro x hx
  have hold := hi x hx
  cases hx' : c' x.2.1
  · rfl
  · simpa [hc _ hx'] using hold

theorem Actor.otherReadiedWeapons_le_none (a : Actor) (except : Option ItemId) :
    a.otherReadiedWeapons except ≤ a.otherReadiedWeapons none := by
  apply List.Sublist.length_le
  apply List.monotone_filter_right
  intro i hi
  simp only [Bool.and_eq_true] at hi
  simp [hi.2]

theorem applies_of_relaxes (b : RuleBook) (r : Rule) {ctx ctx' : Context} (h : ctx.Relaxes ctx')
    (happ : b.applies r ctx = true) : b.applies r ctx' = true := by
  obtain ⟨hwell,hworks,hitem,hstat,hcond,hother,hsecond,hdef,hone⟩ :=
    (applies_eq_true b r ctx).mp happ
  have off : ∀ {field : MatchField}, r.checkedIn ctx field = false →
      r.checkedIn ctx' field = false := r.checkedIn_eq_false h
  refine (applies_eq_true b r ctx').mpr ⟨hwell,hworks,?_,?_,?_,?_,?_,?_,?_⟩
  · -- the item fields: no item, or the same item with fewer fields checked
    intro i hi
    rcases h.item with hnone | hsame
    · simp [hnone] at hi
    · exact r.fitsItem_mono (fun _ => r.checkedIn_of_relaxes h) (hitem i (hsame ▸ hi))
  · exact hstat.imp off (r.fitsStats_of_relaxes h)
  · exact hcond.imp off (Or.imp_right (h.conditions _))
  · exact hother.imp off (Or.imp_right (h.other ▸ id))
  · -- a second readied weapon: dropping the item only adds candidates
    refine hsecond.imp off (Or.imp_right fun hn => ?_)
    rcases h.item with hnone | hsame
    · have := b.actor.otherReadiedWeapons_le_none (ctx.item.map (·.id))
      rw [hnone,Option.map_none]
      omega
    · rwa [hsame]
  · exact hdef.imp off (r.fitsDefense_of_relaxes h)
  · exact hone.imp off (Or.imp_right h.oneInRoll)

theorem Conditions.hasAny_of_subset {c c' : Conditions} (hsub : ∀ x ∈ c.active, x ∈ c'.active)
    {names : List String} (h : c.hasAny names = true) : c'.hasAny names = true := by
  simp only [Conditions.hasAny,Conditions.has,List.any_eq_true,List.contains_iff_mem] at h ⊢
  obtain ⟨n,hn,hact⟩ := h
  exact ⟨n,hn,hsub _ hact⟩

theorem Context.relaxes_autochecking (ctx : Context) : ctx.autochecking.Relaxes ctx :=
  ⟨fun _ => rfl,fun _ => id,id,.inr rfl,.inr rfl,rfl,rfl⟩

theorem applies_of_applies_autochecking (b : RuleBook) (r : Rule) (ctx : Context)
    (h : b.applies r ctx.autochecking = true) : b.applies r ctx = true :=
  applies_of_relaxes b r ctx.relaxes_autochecking h

theorem applies_with_more_conditions (b : RuleBook) (r : Rule) (ctx : Context) {c : Conditions}
    (hsub : ∀ x ∈ ctx.conditions.active, x ∈ c.active) (h : b.applies r ctx = true) :
    b.applies r { ctx with conditions := c } = true :=
  have hrel : ctx.Relaxes { ctx with conditions := c } :=
    ⟨id,fun _ => Conditions.hasAny_of_subset hsub,id,.inr rfl,.inr rfl,rfl,rfl⟩
  applies_of_relaxes b r hrel h

theorem applies_without_item (b : RuleBook) (r : Rule) (ctx : Context)
    (h : b.applies r ctx = true) : b.applies r { ctx with item := none } = true :=
  have hrel : ctx.Relaxes { ctx with item := none } := ⟨id,fun _ => id,id,.inl rfl,.inr rfl,rfl,rfl⟩
  applies_of_relaxes b r hrel h

/-- Applicability is antitone in the context: a rule that applies keeps applying in every context
that asks no more of it. -/
theorem applies_antitone_in_context (b : RuleBook) (r : Rule) :
    (∀ {ctx ctx' : Context}, ctx.Relaxes ctx' → b.applies r ctx = true →
      b.applies r ctx' = true) ∧
    (∀ ctx : Context, b.applies r ctx.autochecking = true → b.applies r ctx = true) ∧
    (∀ (ctx : Context) (c : Conditions), (∀ x ∈ ctx.conditions.active, x ∈ c.active) →
      b.applies r ctx = true → b.applies r { ctx with conditions := c } = true) ∧
    (∀ ctx : Context, b.applies r ctx = true → b.applies r { ctx with item := none } = true) :=
  ⟨applies_of_relaxes b r, applies_of_applies_autochecking b r,
    fun ctx _ hsub => applies_with_more_conditions b r ctx hsub, applies_without_item b r⟩

/-- A readied longsword. -/
def longsword : Item :=
  ⟨.ofSerial 2,"Longsword",0,1,
    .weapon ⟨true,.empty,.empty,none,none,.empty,.empty,.empty⟩⟩

/-- A defense rule that needs the guarding condition, and a readied longsword. -/
def watchfulSheet : Actor :=
  ⟨"",[],[],[⟨.ofSerial 1,"Watchful",0,1,
    .gift ⟨.empty,⟨[],Dice.empty⟩,false,false,none,
      [{ Setting.prototype .defenseBonus with
        filter := { Filter.any with condition := KeyList.ofNames ["Guarding"] } }]⟩⟩,longsword],
    default,[]⟩

/-- Parrying with the longsword while guarding, in the autocheck evaluation. -/
def guardedParry : Context :=
  ⟨some longsword,none,Conditions.withActive ["Guarding"],some .parry,[],true,false⟩

/-- The same rule asked with no item and no defense, while guarding and flying, a one rolled. -/
def guardedFlight : Context :=
  ⟨none,none,Conditions.withActive ["guarding","Flying"],none,[],false,true⟩

def watchfulRule : Rule := (RuleBook.build watchfulSheet).value.rules.get ⟨0,by decide +kernel⟩

theorem watchfulSheet_applies_relaxed :
    guardedParry.Relaxes guardedFlight ∧
      (RuleBook.build watchfulSheet).value.applies watchfulRule guardedParry = true ∧
      (RuleBook.build watchfulSheet).value.applies watchfulRule guardedFlight = true :=
  have hrel : guardedParry.Relaxes guardedFlight :=
    ⟨fun _ => rfl,fun _ => Conditions.hasAny_of_subset (by decide),fun _ => rfl,.inl rfl,.inl rfl,
      rfl,rfl⟩
  have happ : (RuleBook.build watchfulSheet).value.applies watchfulRule guardedParry = true := by
    decide +kernel
  ⟨hrel,happ,(applies_antitone_in_context _ _).1 hrel happ⟩

end DicePools
