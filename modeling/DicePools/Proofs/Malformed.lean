import DicePools.Rules.Totals
import DicePools.Rules.Transform
import DicePools.Proofs.Chain
import Mathlib.Data.List.Forall2

/-! Malformed rules never apply and change no result. Main statement: `malformed_rule_inert`. -/

namespace DicePools

theorem Setting.problems_ne_nil_of_unreadable {s : Setting} {m : Mode} (hm : s.mode? = some m)
    (hu : s.unreadable.isSome = true) : s.problems ≠ [] := by
  obtain ⟨reason, hr⟩ := Option.isSome_iff_exists.mp hu
  unfold Setting.problems
  split
  · simp
  · rw [Setting.mode?] at hm
    simp [hm, hr]

namespace RuleBook

variable {b : RuleBook}

theorem isMalformed_of_problems {a : Actor} {r : Rule} (hr : r ∈ (build a).value.rules)
    (hp : r.setting.problems ≠ []) : (build a).value.isMalformed r.key = true := by
  simp [isMalformed, mem_malformed_of_problems hr hp]

theorem walk_applies {ctx : Context} {used : Rule} {steps : Nat} {unvisited : List RuleKey}
    (h : b.applies used ctx = true) :
    b.applies (b.walk ctx used steps unvisited).value.used ctx = true := by
  induction used, steps, unvisited using RuleBook.walk.induct b ctx with
  | case1 used steps unvisited hnext =>
    rw [RuleBook.walk]
    simp only [hnext, Logged.value_pure]
    exact h
  | case2 used steps unvisited n hnext hmem happ ih =>
    rw [RuleBook.walk]
    simp only [hnext, hmem, happ, dif_pos, if_true]
    exact ih happ
  | case3 used steps unvisited n hnext hmem happ =>
    rw [RuleBook.walk]
    simp only [hnext, hmem, happ, dif_pos, Bool.false_eq_true, if_false, Logged.value_pure]
    exact h
  | case4 used steps unvisited n hnext hmem =>
    rw [RuleBook.walk]
    simp only [hnext, hmem, dif_neg, not_false_eq_true, Logged.value_bind, Logged.value_pure]
    exact h

theorem resolveChain_applies {r : Rule} {ctx : Context} (h : b.applies r ctx = true) :
    b.applies (b.resolveChain r ctx).value.used ctx = true :=
  walk_applies h

/-! ## Books alike but for one key -/

/-- Books alike but for their rules with key `k`, which may differ in all but their key. -/
structure AlikeBut (k : RuleKey) (b b' : RuleBook) : Prop where
  actor : b'.actor = b.actor
  links : b'.links = b.links
  malformed : b'.malformed = b.malformed
  rules : List.Forall₂ (fun q q' => q' = q ∨ q.key = k ∧ q'.key = k) b.rules b'.rules

section Alike

variable {k : RuleKey}

theorem map_key_eq_of_forall₂ {l l' : List Rule}
    (h : List.Forall₂ (fun q q' => q' = q ∨ q.key = k ∧ q'.key = k) l l') :
    l'.map Rule.key = l.map Rule.key := by
  induction h with
  | nil => rfl
  | cons hq _ ih =>
    rcases hq with rfl | ⟨hq, hq'⟩
    · simp [ih]
    · simp [ih, hq, hq']

theorem find?_key_rel {l l' : List Rule} (x : RuleKey)
    (h : List.Forall₂ (fun q q' => q' = q ∨ q.key = k ∧ q'.key = k) l l') :
    Option.Rel (fun q q' => q' = q ∨ q.key = k ∧ q'.key = k)
      (l.find? (·.key == x)) (l'.find? (·.key == x)) := by
  induction h with
  | nil => exact .none
  | @cons q q' _ _ hq _ ih =>
    have hkey : q'.key = q.key := by
      rcases hq with rfl | ⟨hq, hq'⟩
      · rfl
      · rw [hq, hq']
    by_cases hx : q.key = x
    · simp only [List.find?_cons, hx, hkey, beq_self_eq_true]
      exact .some hq
    · simp [hx, hkey, ih]

theorem filter_eq_of_forall₂ {l l' : List Rule} {p : Rule → Bool}
    (hp : ∀ q, q.key = k → p q = false)
    (h : List.Forall₂ (fun q q' => q' = q ∨ q.key = k ∧ q'.key = k) l l') :
    l'.filter p = l.filter p := by
  induction h with
  | nil => rfl
  | cons hq _ ih =>
    rcases hq with rfl | ⟨hq, hq'⟩
    · simp [List.filter_cons, ih]
    · simp [hp _ hq, hp _ hq', ih]

theorem rel_key_applies (hk : b.isMalformed k = true) {n n' : Rule}
    (hR : n' = n ∨ n.key = k ∧ n'.key = k) (ctx : Context) :
    n'.key = n.key ∧ (b.applies n ctx = true → n' = n) ∧ b.applies n' ctx = b.applies n ctx := by
  rcases hR with rfl | ⟨hn, hn'⟩
  · exact ⟨rfl, fun _ => rfl, rfl⟩
  · have hfalse (q : Rule) (hq : q.key = k) : b.applies q ctx = false :=
      applies_malformed b q ctx (hq ▸ hk)
    refine ⟨hn'.trans hn.symm, fun happ => ?_, by rw [hfalse n hn, hfalse n' hn']⟩
    rw [hfalse n hn] at happ
    cases happ

variable {b' : RuleBook} (h : AlikeBut k b b')
include h

theorem AlikeBut.applies_eq (r : Rule) (ctx : Context) : b'.applies r ctx = b.applies r ctx := by
  simp only [applies, isMalformed, h.actor, h.malformed]

theorem AlikeBut.next?_rel (U : Rule) :
    Option.Rel (fun q q' => q' = q ∨ q.key = k ∧ q'.key = k) (b.next? U) (b'.next? U) := by
  unfold next? replacementOf?
  rw [h.links]
  cases b.links.lookup U.key with
  | none => exact .none
  | some x => exact find?_key_rel x (List.forall₂_reverse_iff.mpr h.rules)

theorem AlikeBut.next?_eq_none {U : Rule} (hn : b.next? U = none) : b'.next? U = none := by
  have hrel := h.next?_rel U
  rw [hn] at hrel
  cases hn' : b'.next? U with
  | none => rfl
  | some n' =>
    rw [hn'] at hrel
    cases hrel

theorem AlikeBut.next?_eq_some {U n : Rule} (hn : b.next? U = some n) :
    ∃ n', b'.next? U = some n' ∧ (n' = n ∨ n.key = k ∧ n'.key = k) := by
  have hrel := h.next?_rel U
  rw [hn] at hrel
  cases hn' : b'.next? U with
  | none =>
    rw [hn'] at hrel
    cases hrel
  | some n' =>
    rw [hn'] at hrel
    cases hrel with
    | some hR => exact ⟨n', rfl, hR⟩

variable (hk : b.isMalformed k = true)
include hk

/-- Chains walk the same way in both books: rules with key `k` never apply, so no chain steps
onto one. -/
theorem AlikeBut.walk_eq (ctx : Context) (used : Rule) (steps : Nat) (unvisited : List RuleKey) :
    b'.walk ctx used steps unvisited = b.walk ctx used steps unvisited := by
  -- each case of the walk in `b` meets the next rule in `b'` that the relation pairs with it
  induction used, steps, unvisited using RuleBook.walk.induct b ctx with
  | case1 used steps unvisited hnext =>
    rw [RuleBook.walk.eq_1 b', RuleBook.walk.eq_1 b, hnext, h.next?_eq_none hnext]
  | case2 used steps unvisited n hnext hmem happ ih =>
    obtain ⟨n', hn', hR⟩ := h.next?_eq_some hnext
    obtain rfl := (rel_key_applies hk hR ctx).2.1 happ
    rw [RuleBook.walk.eq_1 b', RuleBook.walk.eq_1 b, hnext, hn']
    simp only [hmem, dif_pos, h.applies_eq, happ, if_true]
    exact ih
  | case3 used steps unvisited n hnext hmem happ =>
    obtain ⟨n', hn', hR⟩ := h.next?_eq_some hnext
    obtain ⟨hkey, -, happ'⟩ := rel_key_applies hk hR ctx
    rw [RuleBook.walk.eq_1 b', RuleBook.walk.eq_1 b, hnext, hn']
    simp only [hkey, hmem, dif_pos, h.applies_eq, happ', happ, Bool.false_eq_true, if_false]
  | case4 used steps unvisited n hnext hmem =>
    obtain ⟨n', hn', hR⟩ := h.next?_eq_some hnext
    obtain ⟨hkey, -, -⟩ := rel_key_applies hk hR ctx
    rw [RuleBook.walk.eq_1 b', RuleBook.walk.eq_1 b, hnext, hn']
    simp only [hkey, hmem, dif_neg, not_false_eq_true]

theorem AlikeBut.resolveChain_eq (r : Rule) (ctx : Context) :
    b'.resolveChain r ctx = b.resolveChain r ctx := by
  unfold resolveChain
  rw [map_key_eq_of_forall₂ h.rules, h.walk_eq hk]

/-- Both books have the same applicable base rules: the rules they differ in never apply. -/
theorem AlikeBut.filter_baseRules_eq (m : Mode) (ctx : Context) :
    (b'.baseRules m).filter (b.applies · ctx) = (b.baseRules m).filter (b.applies · ctx) := by
  simp only [baseRules, List.filter_filter]
  exact filter_eq_of_forall₂ (fun q hq => by simp [applies_malformed b q ctx (hq ▸ hk)]) h.rules

theorem AlikeBut.usedRules_eq (m : Mode) (ctx : Context) :
    b'.usedRules m ctx = b.usedRules m ctx := by
  unfold usedRules
  simp only [h.applies_eq, h.resolveChain_eq hk]
  rw [h.filter_baseRules_eq hk]

end Alike

end RuleBook

theorem Logged.foldlM_filter {α β : Type} {f : β → α → Logged β} {p : α → Bool}
    (hf : ∀ acc x, p x = false → f acc x = pure acc) (l : List α) (init : β) :
    l.foldlM f init = (l.filter p).foldlM f init := by
  induction l generalizing init with
  | nil => rfl
  | cons x l ih =>
    by_cases hx : p x = true
    · simp only [List.foldlM_cons, List.filter_cons, hx, if_true]
      exact congrArg _ (funext ih)
    · rw [Bool.not_eq_true] at hx
      simp only [List.foldlM_cons, List.filter_cons, hx, Bool.false_eq_true, if_false, hf _ _ hx]
      exact ih init

namespace RuleBook

section Alike

variable {k : RuleKey} {b b' : RuleBook} (h : AlikeBut k b b') (hk : b.isMalformed k = true)
include h hk

theorem AlikeBut.statusBonus_eq (kind : StatusKind) (ctx : Context) (force : Bool)
    (c : Construction) : statusBonus b' kind ctx force c = statusBonus b kind ctx force c := by
  unfold statusBonus
  simp only [h.applies_eq, h.resolveChain_eq hk]
  rw [Logged.foldlM_filter (p := (b.applies · ctx)) ?skip (b'.baseRules kind.mode),
    h.filter_baseRules_eq hk, ← Logged.foldlM_filter ?skip (b.baseRules kind.mode)]
  intro acc x hx
  obtain ⟨best, label, additive⟩ := acc
  simp [hx]

theorem AlikeBut.aggregate_eq (m : Mode) (ctx : Context) (c : Construction) :
    aggregate b' m ctx c = aggregate b m ctx c := by
  have hsource : addSource b' ctx = addSource b ctx := by
    funext c s
    cases s <;> simp only [addSource, h.actor, h.statusBonus_eq hk]
  have hbonus (c : Construction) (base used : Rule) :
      addBonus b' ctx c base used = addBonus b ctx c base used := by
    simp only [addBonus, hsource, h.applies_eq]
  cases m <;> simp only [aggregate, h.statusBonus_eq hk, h.usedRules_eq hk, hbonus]

theorem AlikeBut.totals_eq (m : Mode) (ctx : Context) : b'.totals m ctx = b.totals m ctx := by
  unfold totals
  rw [h.usedRules_eq hk]

/-- What a book gives in a context: pool and status fields, totals, reroll types, the range
penalty reduction, stat changes and dice upgrades. -/
structure SameResults (b b' : RuleBook) (ctx : Context) : Prop where
  aggregate : ∀ m c, aggregate b' m ctx c = aggregate b m ctx c
  statusBonus : ∀ kind force c, statusBonus b' kind ctx force c = statusBonus b kind ctx force c
  totals : ∀ m, b'.totals m ctx = b.totals m ctx
  rerollTypes : ∀ addBasic, b'.rerollTypes ctx addBasic = b.rerollTypes ctx addBasic
  rangeReduction : b'.rangeReduction ctx = b.rangeReduction ctx
  changeStats : ∀ stats, b'.changeStats ctx stats = b.changeStats ctx stats
  upgradeDice : ∀ dice, b'.upgradeDice ctx dice = b.upgradeDice ctx dice

theorem AlikeBut.sameResults (ctx : Context) : SameResults b b' ctx where
  aggregate m c := h.aggregate_eq hk m ctx c
  statusBonus kind := h.statusBonus_eq hk kind ctx
  totals m := h.totals_eq hk m ctx
  rerollTypes addBasic := by
    unfold rerollTypes
    rw [h.totals_eq hk]
  rangeReduction := by
    unfold rangeReduction
    rw [h.totals_eq hk, h.actor]
  changeStats stats := by
    unfold changeStats
    rw [h.usedRules_eq hk]
  upgradeDice dice := by
    unfold upgradeDice
    rw [h.usedRules_eq hk]

end Alike

/-- The book with the setting of the rules of key `k` replaced. -/
def withSetting (b : RuleBook) (k : RuleKey) (s : Setting) : RuleBook :=
  { b with rules := b.rules.map fun q => if q.key = k then { q with setting := s } else q }

theorem alikeBut_withSetting (b : RuleBook) (k : RuleKey) (s : Setting) :
    AlikeBut k b (b.withSetting k s) := by
  refine ⟨rfl, rfl, rfl, List.forall₂_map_right_iff.mpr (List.forall₂_same.mpr fun q _ => ?_)⟩
  by_cases hq : q.key = k
  · exact .inr ⟨hq, by rw [if_pos hq]; exact hq⟩
  · exact .inl (by simp [hq])

/-- A rule of a sheet's book that has problems never applies, is never used, and changes no
result. -/
theorem malformed_rule_inert (a : Actor) {r : Rule} (hr : r ∈ (build a).value.rules)
    (hp : r.setting.problems ≠ [] ∨ r.setting.unreadable.isSome = true) (ctx : Context) :
    (build a).value.applies r ctx = false ∧
    (∀ m, ∀ base ∈ (build a).value.baseRules m, (build a).value.applies base ctx = true →
      ((build a).value.resolveChain base ctx).value.used.key ≠ r.key) ∧
    ∀ b', AlikeBut r.key (build a).value b' → SameResults (build a).value b' ctx := by
  have hprob : r.setting.problems ≠ [] :=
    hp.elim id (Setting.problems_ne_nil_of_unreadable (mode?_of_mem_build hr))
  have hk := isMalformed_of_problems hr hprob
  refine ⟨applies_malformed _ r ctx hk, fun m base _ happ hused => ?_,
    fun b' h => h.sameResults hk ctx⟩
  have hu := resolveChain_applies happ
  rw [applies_malformed _ _ ctx (hused ▸ hk)] at hu
  cases hu

/-- A soak rule that could not be read. -/
def brokenSetting : Setting :=
  { Setting.prototype .soakBonus with unreadable := some "bonusDice: not dice" }

def brokenGift : Gift := ⟨.empty,⟨[],Dice.empty⟩,false,false,none,[brokenSetting]⟩

def brokenItem : Item := ⟨.ofSerial 13,"Broken",0,1,.gift brokenGift⟩

def brokenRule : Rule := ⟨brokenItem,brokenGift,0,brokenSetting,.soakBonus⟩

def brokenSheet : Actor := ⟨"",[],[],[brokenItem],default,[]⟩

/-- Whether the unreadable rule holds its own payload or a working soak bonus of d6, the book
gives the same results. -/
theorem brokenSheet_inert :
    brokenRule ∈ (build brokenSheet).value.rules ∧ brokenRule.setting.unreadable.isSome = true ∧
      SameResults (build brokenSheet).value
        ((build brokenSheet).value.withSetting brokenRule.key
          { Setting.prototype .soakBonus with
            effect := .soakBonus { DiceBonus.none with dice := some (Dice.single 1 .d6) } })
        (Context.ofConditions default) := by
  have hr : brokenRule ∈ (build brokenSheet).value.rules := by
    rw [show (build brokenSheet).value.rules = [brokenRule] from rfl]
    exact List.mem_singleton_self _
  exact ⟨hr, rfl, (malformed_rule_inert brokenSheet hr (.inr rfl) (Context.ofConditions default)).2.2
    _ (alikeBut_withSetting _ _ _)⟩

end RuleBook

end DicePools
