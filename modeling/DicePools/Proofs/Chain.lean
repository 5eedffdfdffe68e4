import DicePools.Rules.Chain
import DicePools.Proofs.Book
import Mathlib.Logic.Relation

/-! Replacement chains of a well-linked book end without a cycle at a rule of their mode. -/

namespace DicePools
namespace RuleBook

variable {b : RuleBook}

theorem rule?_mem {k : RuleKey} {R : Rule} (h : b.rule? k = some R) : R ∈ b.rules ∧ R.key = k := by
  unfold rule? at h
  refine ⟨List.mem_reverse.mp (List.mem_of_find?_eq_some h),?_⟩
  simpa using List.find?_some h

theorem rule?_eq_some (hk : (b.rules.map Rule.key).Nodup) {k : RuleKey} {R : Rule} :
    b.rule? k = some R ↔ R ∈ b.rules ∧ R.key = k := by
  refine ⟨rule?_mem,fun ⟨hR,hRk⟩ => ?_⟩
  obtain ⟨R',hR'⟩ : ∃ R', b.rule? k = some R' := Option.isSome_iff_exists.mp
    (List.find?_isSome.mpr ⟨R,List.mem_reverse.mpr hR,by simp [hRk]⟩)
  obtain ⟨hmem,hk'⟩ := rule?_mem hR'
  rw [hR',List.inj_on_of_nodup_map hk hmem hR (hk'.trans hRk.symm)]

theorem next?_eq_some {U N : Rule} :
    b.next? U = some N ↔ ∃ s, b.replacementOf? U.key = some s ∧ b.rule? s = some N := by
  simp [next?,Option.bind_eq_some_iff]

/-- The key `k'` is reached from `k` by following replacement links. -/
def Reaches (b : RuleBook) : RuleKey → RuleKey → Prop :=
  Relation.ReflTransGen fun k k' => b.replacementOf? k = some k'

section WellLinked

variable (hb : b.WellLinked)
include hb

theorem replacementOf?_eq_some {k s : RuleKey} : b.replacementOf? k = some s ↔ (k,s) ∈ b.links :=
  Links.lookup_eq_some_iff hb.links.targets_nodup

theorem replacementOf?_injective {k₁ k₂ s : RuleKey} (h₁ : b.replacementOf? k₁ = some s)
    (h₂ : b.replacementOf? k₂ = some s) : k₁ = k₂ := by
  rw [replacementOf?_eq_some hb] at h₁ h₂
  have he := List.inj_on_of_nodup_map hb.links.replacers_nodup h₁ h₂ rfl
  exact (Prod.mk.inj he).1

theorem replacementOf?_ne_base {r : Rule} {m : Mode} (hr : r ∈ b.baseRules m) (k : RuleKey) :
    b.replacementOf? k ≠ some r.key := by
  intro h
  rw [replacementOf?_eq_some hb] at h
  obtain ⟨-,-,S,hS,-,hSk,-,-,hrep⟩ := hb.links.sound _ _ h
  simp only [baseRules,List.mem_filter,Bool.and_eq_true] at hr
  obtain rfl : S = r := List.inj_on_of_nodup_map hb.keys_nodup hS hr.1 hSk
  simp_all

theorem next?_mem {U N : Rule} (hU : U ∈ b.rules) (h : b.next? U = some N) :
    N ∈ b.rules ∧ N.mode = U.mode ∧ b.replacementOf? U.key = some N.key := by
  obtain ⟨s,hs,hN⟩ := next?_eq_some.mp h
  obtain ⟨hNm,rfl⟩ := rule?_mem hN
  obtain ⟨T,hT,S,hS,hTk,hSk,hmode,-⟩ := hb.links.sound _ _ ((replacementOf?_eq_some hb).mp hs)
  obtain rfl : T = U := List.inj_on_of_nodup_map hb.keys_nodup hT hU hTk
  obtain rfl : S = N := List.inj_on_of_nodup_map hb.keys_nodup hS hNm hSk
  exact ⟨hNm,hmode.symm,hs⟩

theorem mode_eq_of_reaches {k k' : RuleKey} (h : b.Reaches k k') {U V : Rule} (hU : U ∈ b.rules)
    (hUk : U.key = k) (hV : V ∈ b.rules) (hVk : V.key = k') : V.mode = U.mode := by
  induction h generalizing V with
  | refl => rw [List.inj_on_of_nodup_map hb.keys_nodup hV hU (hVk.trans hUk.symm)]
  | tail _ hlink ih =>
    obtain ⟨T,hT,S,hS,hTk,hSk,hmode,-⟩ := hb.links.sound _ _ ((replacementOf?_eq_some hb).mp hlink)
    obtain rfl : S = V := List.inj_on_of_nodup_map hb.keys_nodup hS hV (hSk.trans hVk.symm)
    exact hmode.symm.trans (ih hT hTk)

/-- Two base rules reaching one key are the same rule: following links back from a key is
determined, and it stops at a base rule. -/
theorem reaches_base_unique {r₁ r₂ : Rule} {m₁ m₂ : Mode} (hr₁ : r₁ ∈ b.baseRules m₁)
    (hr₂ : r₂ ∈ b.baseRules m₂) {k : RuleKey} (h₁ : b.Reaches r₁.key k) (h₂ : b.Reaches r₂.key k) :
    r₁.key = r₂.key := by
  induction h₁ with
  | refl =>
    rcases Relation.ReflTransGen.cases_tail h₂ with he | ⟨c,-,hc⟩
    · exact he
    · exact absurd hc (replacementOf?_ne_base hb hr₁ c)
  | tail _ hlink ih =>
    rcases Relation.ReflTransGen.cases_tail h₂ with he | ⟨c,hc,hck⟩
    · exact absurd (he ▸ hlink) (replacementOf?_ne_base hb hr₂ _)
    · exact ih (replacementOf?_injective hb hck hlink ▸ hc)

/-- No key reached from a base rule lies on a cycle of links. -/
theorem not_cycle_of_reaches_base {r : Rule} {m : Mode} (hr : r ∈ b.baseRules m) {k : RuleKey}
    (h : b.Reaches r.key k) (hc : Relation.TransGen (fun k k' => b.replacementOf? k = some k') k k) :
    False := by
  induction h with
  | refl =>
    obtain ⟨c,-,hlink⟩ := Relation.TransGen.tail'_iff.mp hc
    exact replacementOf?_ne_base hb hr c hlink
  | tail _ hlink ih =>
    -- the link closing the cycle at `k` must come from the key before `k` on the way in
    obtain ⟨c,hback,hlast⟩ := Relation.TransGen.tail'_iff.mp hc
    obtain rfl := replacementOf?_injective hb hlast hlink
    exact ih (Relation.TransGen.head' hlink hback)

end WellLinked

/-- What holds at every step of a walk from the key `start`. -/
structure WalkInv (b : RuleBook) (start : RuleKey) (used : Rule) (unvisited : List RuleKey) :
    Prop where
  mem : used ∈ b.rules
  reaches : b.Reaches start used.key
  visited : ∀ k ∈ b.rules.map Rule.key, k ∉ unvisited → b.Reaches start k ∧ b.Reaches k used.key

theorem walkInv_start {r : Rule} (hr : r ∈ b.rules) :
    WalkInv b r.key r ((b.rules.map Rule.key).eraseDups.erase r.key) := by
  refine ⟨hr,Relation.ReflTransGen.refl,fun k hk hnot => ?_⟩
  obtain rfl : k = r.key := by
    by_contra hne
    exact hnot ((List.mem_erase_of_ne hne).mpr (List.mem_eraseDups.mpr hk))
  exact ⟨Relation.ReflTransGen.refl,Relation.ReflTransGen.refl⟩

theorem WalkInv.step (hb : b.WellLinked) {start : RuleKey} {used n : Rule}
    {unvisited : List RuleKey} (h : WalkInv b start used unvisited) (hn : b.next? used = some n) :
    WalkInv b start n (unvisited.erase n.key) := by
  obtain ⟨hnm,-,hlink⟩ := next?_mem hb h.mem hn
  refine ⟨hnm,h.reaches.tail hlink,fun k hk hnot => ?_⟩
  by_cases hkn : k = n.key
  · exact ⟨hkn ▸ h.reaches.tail hlink,hkn ▸ Relation.ReflTransGen.refl⟩
  · have hold := h.visited k hk fun hmem => hnot ((List.mem_erase_of_ne hkn).mpr hmem)
    exact ⟨hold.1,hold.2.tail hlink⟩

/-- A walk from a base rule of a well-linked book never meets a cycle, and ends at a rule of the
book reached from the base rule. -/
theorem walk_from_base (hb : b.WellLinked) {r : Rule} {m : Mode} (hr : r ∈ b.baseRules m)
    (ctx : Context) (used : Rule) (steps : Nat) (unvisited : List RuleKey)
    (h : WalkInv b r.key used unvisited) :
    (b.walk ctx used steps unvisited).value.cycle = false ∧
      (b.walk ctx used steps unvisited).value.used ∈ b.rules ∧
      b.Reaches r.key (b.walk ctx used steps unvisited).value.used.key := by
  induction used, steps, unvisited using RuleBook.walk.induct b ctx with
  | case1 used steps unvisited hnext =>
    rw [RuleBook.walk]
    simp only [hnext]
    exact ⟨rfl,h.mem,h.reaches⟩
  | case2 used steps unvisited n hnext hmem happ ih =>
    rw [RuleBook.walk]
    simp only [hnext,hmem,happ,dif_pos,if_true]
    exact ih (h.step hb hnext)
  | case3 used steps unvisited n hnext hmem happ =>
    rw [RuleBook.walk]
    simp only [hnext,hmem,happ,dif_pos]
    exact ⟨rfl,h.mem,h.reaches⟩
  | case4 used steps unvisited n hnext hmem =>
    -- the next key was visited, so it lies between the base rule and the rule in use
    exfalso
    obtain ⟨hnm,-,hlink⟩ := next?_mem hb h.mem hnext
    have hvis := h.visited n.key (List.mem_map.mpr ⟨n,hnm,rfl⟩) hmem
    exact not_cycle_of_reaches_base hb hr hvis.1 (Relation.TransGen.tail' hvis.2 hlink)

theorem baseRules_mem {r : Rule} {m : Mode} (hr : r ∈ b.baseRules m) :
    r ∈ b.rules ∧ r.replaceTarget? = none ∧ r.mode = m := by
  simpa [baseRules] using hr

/-- The chain from a base rule ends without a cycle, at a rule of the book of the same mode
reached from it. -/
theorem resolveChain_from_base (hb : b.WellLinked) {r : Rule} {m : Mode} (hr : r ∈ b.baseRules m)
    (ctx : Context) :
    (b.resolveChain r ctx).value.cycle = false ∧ (b.resolveChain r ctx).value.used ∈ b.rules ∧
      (b.resolveChain r ctx).value.used.mode = m ∧
      b.Reaches r.key (b.resolveChain r ctx).value.used.key := by
  obtain ⟨hrm,-,rfl⟩ := baseRules_mem hr
  obtain ⟨hc,hu,hreach⟩ := walk_from_base hb hr ctx r 0 _ (walkInv_start hrm)
  exact ⟨hc,hu,mode_eq_of_reaches hb hreach hrm rfl hu rfl,hreach⟩

/-- The guarantees of replacement links, and of the chains they make from base rules. -/
structure ReplacementSound (b : RuleBook) : Prop where
  targets_nodup : (b.links.map Prod.fst).Nodup
  links_join : ∀ t s, (t,s) ∈ b.links → ∃ T ∈ b.rules, ∃ S ∈ b.rules, T.key = t ∧ S.key = s ∧
    T.mode = S.mode ∧ T.item.id ≠ S.item.id
  replacers_nodup : (b.links.map Prod.snd).Nodup
  base_not_replacing : ∀ m, ∀ r ∈ b.baseRules m, r.key ∉ b.links.map Prod.snd
  chain_ends : ∀ m ctx, ∀ r ∈ b.baseRules m,
    (b.resolveChain r ctx).value.cycle = false ∧ (b.resolveChain r ctx).value.used.mode = m
  chain_injective : ∀ m ctx, ∀ r₁ ∈ b.baseRules m, ∀ r₂ ∈ b.baseRules m,
    (b.resolveChain r₁ ctx).value.used.key = (b.resolveChain r₂ ctx).value.used.key → r₁ = r₂

theorem WellLinked.replacementSound (hb : b.WellLinked) : b.ReplacementSound := by
  refine ⟨hb.links.targets_nodup,?_,hb.links.replacers_nodup,?_,?_,?_⟩
  · intro t s hts
    obtain ⟨T,hT,S,hS,hTk,hSk,hmode,hid,-⟩ := hb.links.sound t s hts
    exact ⟨T,hT,S,hS,hTk,hSk,hmode,hid⟩
  · intro m r hr hmem
    obtain ⟨⟨t,s⟩,hts,hs⟩ := List.mem_map.mp hmem
    apply replacementOf?_ne_base hb hr t
    rw [replacementOf?_eq_some hb,← hs]
    exact hts
  · intro m ctx r hr
    obtain ⟨hc,-,hmode,-⟩ := resolveChain_from_base hb hr ctx
    exact ⟨hc,hmode⟩
  · intro m ctx r₁ hr₁ r₂ hr₂ hused
    have h₁ := (resolveChain_from_base hb hr₁ ctx).2.2.2
    have h₂ := (resolveChain_from_base hb hr₂ ctx).2.2.2
    rw [hused] at h₁
    have hk := reaches_base_unique hb hr₁ hr₂ h₁ h₂
    exact List.inj_on_of_nodup_map hb.keys_nodup (baseRules_mem hr₁).1 (baseRules_mem hr₂).1 hk

/-- On a sheet whose items have distinct ids, replacement links and chains are sound. -/
theorem build_replacementSound (a : Actor) (hids : (a.items.map (·.id)).Nodup) :
    (build a).value.ReplacementSound :=
  (build_wellLinked hids).replacementSound

/-- A gift with no tags, no use dice and the given rules. -/
def plainGift (id : ItemId) (name : String) (rules : List Setting) : Item :=
  ⟨id,name,0,1,.gift ⟨.empty,⟨[],Dice.empty⟩,false,false,none,rules⟩⟩

/-- A rule of a mode matching everything, replacing the named gift's rule. -/
def replacing (m : Mode) (target : Option String) : Setting :=
  { Setting.prototype m with replaceName := target }

/-- Three movement gifts, each replacing the one before. -/
def fleetSheet : Actor :=
  ⟨"",[],[],[plainGift (.ofSerial 1) "Base" [replacing .moveBonus none],
    plainGift (.ofSerial 2) "Better" [replacing .moveBonus (some "Base")],
    plainGift (.ofSerial 3) "Best" [replacing .moveBonus (some "Better")]],
    default,[]⟩

theorem fleetSheet_replacementSound :
    (fleetSheet.items.map (·.id)).Nodup ∧ (build fleetSheet).value.ReplacementSound :=
  ⟨by decide,build_replacementSound fleetSheet (by decide)⟩

/-- Two gifts sharing an id: `B` replaces `C` and `C` replaces `A`, whose rule has the key of
`B`'s rule. -/
def sharedIdSheet : Actor :=
  ⟨"",[],[],[plainGift (.ofSerial 10) "A" [replacing .soakBonus none],
    plainGift (.ofSerial 10) "B" [replacing .soakBonus (some "C")],
    plainGift (.ofSerial 12) "C" [replacing .soakBonus (some "A")]],
    default,[]⟩

/-- With a shared item id the chain from the base rule of `A` comes back to its own key. -/
theorem sharedIdSheet_not_replacementSound : ¬ (build sharedIdSheet).value.ReplacementSound := by
  intro h
  let b := (build sharedIdSheet).value
  let ctx := Context.ofConditions default
  have hcycle : (b.baseRules .soakBonus).map (fun r => (b.resolveChain r ctx).value.cycle) = [true] := by
    decide +kernel
  have hmem : true ∈ (b.baseRules .soakBonus).map fun r => (b.resolveChain r ctx).value.cycle := by
    rw [hcycle]
    exact List.mem_singleton_self true
  obtain ⟨r,hr,hc⟩ := List.mem_map.mp hmem
  have hnc : (b.resolveChain r ctx).value.cycle = false := (h.chain_ends .soakBonus ctx r hr).1
  rw [hc] at hnc
  cases hnc

end RuleBook
end DicePools
