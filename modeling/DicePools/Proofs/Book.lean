import DicePools.Rules.Book
import Mathlib.Data.List.Basic
import Mathlib.Data.List.Nodup
import Mathlib.Data.List.Sigma

/-! What building a rule book yields: its rules, malformed keys and links, sound when item ids
are distinct. -/

namespace DicePools

namespace Logged

@[simp] theorem value_foldlM {α β : Type} (f : β → α → Logged β) (init : β) (xs : List α) :
    (xs.foldlM f init).value = xs.foldl (fun acc x => (f acc x).value) init := by
  induction xs generalizing init with
  | nil => rfl
  | cons x xs ih => exact ih (f init x).value

theorem value_mapM_loop {α β : Type} (f : α → Logged β) (xs : List α) (acc : List β) :
    (List.mapM.loop f xs acc).value = acc.reverse ++ xs.map fun x => (f x).value := by
  induction xs generalizing acc with
  | nil => simp [List.mapM.loop]
  | cons x xs ih => simp [List.mapM.loop, ih]

@[simp] theorem value_mapM {α β : Type} (f : α → Logged β) (xs : List α) :
    (xs.mapM f).value = xs.map fun x => (f x).value := by
  simp [List.mapM, value_mapM_loop]

end Logged

theorem foldl_proj_append {α β γ : Type} (p : α → List γ) (h : β → List γ) {F : α → β → α}
    (hF : ∀ acc y, p (F acc y) = p acc ++ h y) (acc : α) (l : List β) :
    p (l.foldl F acc) = p acc ++ l.flatMap h := by
  induction l generalizing acc with
  | nil => simp
  | cons y l ih => simp [ih,hF]

namespace Links

variable {links : Links} {t s : RuleKey}

theorem insert_map_eq (links : Links) (t s : RuleKey) (h : links.any (·.1 == t) = true) :
    links.insert t s = links.map fun p => if p.1 = t then (t,s) else p := by
  simp only [Links.insert,h,if_true]
  congr 1
  funext p
  obtain ⟨k,v⟩ := p
  by_cases hk : k = t <;> simp [hk]

theorem targets_insert (links : Links) (t s : RuleKey) :
    (links.insert t s).map Prod.fst =
      if t ∈ links.map Prod.fst then links.map Prod.fst else links.map Prod.fst ++ [t] := by
  by_cases h : links.any (·.1 == t) = true
  · have hm : t ∈ links.map Prod.fst := by simpa [List.any_eq_true] using h
    rw [insert_map_eq links t s h,if_pos hm,List.map_map]
    congr 1
    funext p
    by_cases hp : p.1 = t <;> simp [hp]
  · have hm : t ∉ links.map Prod.fst := by simpa [List.any_eq_true] using h
    simp [Links.insert,h,hm]

theorem mem_insert {p : RuleKey × RuleKey} (h : p ∈ links.insert t s) : p = (t,s) ∨ p ∈ links := by
  by_cases ha : links.any (·.1 == t) = true
  · rw [insert_map_eq links t s ha,List.mem_map] at h
    obtain ⟨q,hq,rfl⟩ := h
    by_cases hqt : q.1 = t <;> simp [hqt,hq]
  · simp only [Links.insert,ha,Bool.false_eq_true,if_false,List.mem_append,
      List.mem_singleton] at h
    exact h.symm

theorem targets_nodup_insert (h : (links.map Prod.fst).Nodup) :
    ((links.insert t s).map Prod.fst).Nodup := by
  rw [targets_insert]
  split
  · exact h
  · rename_i ht
    exact h.append (List.nodup_singleton t) (by simpa using ht)

theorem replacers_nodup_insert (hk : (links.map Prod.fst).Nodup) (hv : (links.map Prod.snd).Nodup)
    (hs : s ∉ links.map Prod.snd) : ((links.insert t s).map Prod.snd).Nodup := by
  by_cases ha : links.any (·.1 == t) = true
  · rw [insert_map_eq links t s ha,List.map_map]
    refine hk.of_map.map_on ?_
    intro p hp q hq he
    by_cases hpt : p.1 = t <;> by_cases hqt : q.1 = t <;>
      simp only [Function.comp,hpt,hqt,if_true,if_false] at he
    · exact List.inj_on_of_nodup_map hk hp hq (hpt.trans hqt.symm)
    · exact absurd (List.mem_map.mpr ⟨q,hq,he.symm⟩) hs
    · exact absurd (List.mem_map.mpr ⟨p,hp,he⟩) hs
    · exact List.inj_on_of_nodup_map hv hp hq he
  · simp only [Links.insert,ha,Bool.false_eq_true,if_false,List.map_append,List.map_cons,
      List.map_nil]
    exact hv.append (List.nodup_singleton s) (by simpa using hs)

theorem lookup_eq_some_iff (hk : (links.map Prod.fst).Nodup) {k k' : RuleKey} :
    links.lookup k = some k' ↔ (k,k') ∈ links := by
  constructor
  · intro h
    obtain ⟨l₁,l₂,rfl,-⟩ := List.lookup_eq_some_iff.mp h
    simp
  · intro h
    obtain ⟨v,hv⟩ : ∃ v, links.lookup k = some v := Option.isSome_iff_exists.mp
      (List.lookup_isSome_iff.mpr ⟨(k,k'),h,by simp⟩)
    have hmem : (k,v) ∈ links := by
      obtain ⟨l₁,l₂,rfl,-⟩ := List.lookup_eq_some_iff.mp hv
      simp
    have he : (k,k') = (k,v) := List.inj_on_of_nodup_map hk h hmem rfl
    simp_all

end Links

namespace RuleBook

/-! ### The rules and the malformed keys -/

/-- The rules one item contributes: a gift's rules of known modes, in order. -/
def itemRules (item : Item) : List Rule :=
  match item.kind with
  | .gift g => g.rules.zipIdx.filterMap fun (st,index) => st.mode?.map fun m => ⟨item,g,index,st,m⟩
  | _ => []

/-- The keys of an item's rules that have problems, whatever their mode. -/
def itemMalformed (item : Item) : List RuleKey :=
  match item.kind with
  | .gift g => g.rules.zipIdx.filterMap fun (st,index) =>
      if st.problems.isEmpty then none else some ⟨item.id,index⟩
  | _ => []

theorem collect_rules (a : Actor) : (collect a).value.1 = a.items.flatMap itemRules := by
  unfold collect
  simp only [Logged.value_foldlM]
  rw [foldl_proj_append Prod.fst itemRules]
  · rfl
  intro acc item
  cases hk : item.kind with
  | gift g =>
    simp only [itemRules,hk,Logged.value_foldlM,List.filterMap_eq_flatMap_toList]
    refine foldl_proj_append Prod.fst _ ?_ _ _
    rintro acc ⟨st,i⟩
    split <;> cases st.mode? <;> simp
  | _ => simp [itemRules,hk]

theorem collect_malformed (a : Actor) : (collect a).value.2.1 = a.items.flatMap itemMalformed := by
  unfold collect
  simp only [Logged.value_foldlM]
  refine (foldl_proj_append (fun acc : List Rule × List RuleKey × List Issue => acc.2.1)
    itemMalformed ?_ _ _).trans (by simp)
  intro acc item
  cases hk : item.kind with
  | gift g =>
    simp only [itemMalformed,hk,Logged.value_foldlM,List.filterMap_eq_flatMap_toList]
    refine foldl_proj_append (fun acc : List Rule × List RuleKey × List Issue => acc.2.1) _ ?_ _ _
    rintro acc ⟨st,i⟩
    split <;> cases st.mode? <;> simp_all
  | _ => simp [itemMalformed,hk]

@[simp] theorem build_actor (a : Actor) : (build a).value.actor = a := rfl

theorem build_rules (a : Actor) : (build a).value.rules = a.items.flatMap itemRules := by
  simp [build,← collect_rules]

theorem build_malformed (a : Actor) : (build a).value.malformed = a.items.flatMap itemMalformed := by
  simp [build,← collect_malformed]

theorem build_links (a : Actor) : (build a).value.links = (link (build a).value.rules).value.1 := by
  simp [build]

theorem mem_itemRules {item : Item} {r : Rule} :
    r ∈ itemRules item ↔ ∃ g, item.kind = .gift g ∧ r.item = item ∧ r.gift = g ∧
      g.rules[r.index]? = some r.setting ∧ r.setting.mode? = some r.mode := by
  unfold itemRules
  split
  · rename_i g hk
    simp only [List.mem_filterMap,List.mem_zipIdx_iff_getElem?,Option.map_eq_some_iff]
    constructor
    · rintro ⟨⟨st,i⟩,hi,m,hm,rfl⟩
      exact ⟨g,hk,rfl,rfl,hi,hm⟩
    · obtain ⟨ri,rg,i,st,m⟩ := r
      rintro ⟨g',hk',hi,hg,hst,hm⟩
      obtain rfl : g = g' := by simpa [hk] using hk'
      subst hi hg
      exact ⟨(st,i),hst,m,hm,rfl⟩
  · rename_i hk
    simp only [List.not_mem_nil,false_iff,not_exists,not_and]
    intro g hg
    exact absurd hg (hk g)

theorem mem_build_rules {a : Actor} {r : Rule} :
    r ∈ (build a).value.rules ↔ ∃ item ∈ a.items, r ∈ itemRules item := by
  simp [build_rules]

theorem mode?_of_mem_build {a : Actor} {r : Rule} (h : r ∈ (build a).value.rules) :
    r.setting.mode? = some r.mode := by
  obtain ⟨item,-,hr⟩ := mem_build_rules.mp h
  obtain ⟨g,-,-,-,-,hm⟩ := mem_itemRules.mp hr
  exact hm

theorem mem_malformed_of_problems {a : Actor} {r : Rule} (h : r ∈ (build a).value.rules)
    (hp : r.setting.problems ≠ []) : r.key ∈ (build a).value.malformed := by
  obtain ⟨item,hitem,hr⟩ := mem_build_rules.mp h
  obtain ⟨g,hg,hi,-,hs,-⟩ := mem_itemRules.mp hr
  rw [build_malformed,List.mem_flatMap]
  refine ⟨item,hitem,?_⟩
  simp only [itemMalformed,hg,List.mem_filterMap,List.mem_zipIdx_iff_getElem?]
  refine ⟨(r.setting,r.index),hs,?_⟩
  simp [List.isEmpty_iff,hp,Rule.key,hi]

theorem itemRules_nodup (item : Item) : (itemRules item).Nodup := by
  unfold itemRules
  split
  · refine List.Nodup.filterMap ?_ (List.nodup_zipIdx_map_snd _).of_map
    rintro ⟨st,i⟩ ⟨st',i'⟩ r hr hr'
    simp only [Option.mem_def,Option.map_eq_some_iff] at hr hr'
    obtain ⟨m,-,rfl⟩ := hr
    obtain ⟨m',-,he⟩ := hr'
    cases he
    rfl
  · exact List.nodup_nil

theorem key_item_of_mem_itemRules {item : Item} {r : Rule} (h : r ∈ itemRules item) :
    r.key.item = item.id := by
  obtain ⟨g,-,rfl,-⟩ := mem_itemRules.mp h
  rfl

theorem itemRules_keys_nodup (item : Item) : ((itemRules item).map Rule.key).Nodup := by
  refine (itemRules_nodup item).map_on ?_
  intro r hr r' hr' hk
  obtain ⟨g,hg,hi,hgr,hs,hm⟩ := mem_itemRules.mp hr
  obtain ⟨g',hg',hi',hgr',hs',hm'⟩ := mem_itemRules.mp hr'
  obtain rfl : g = g' := by simpa [hg] using hg'
  have hidx : r.index = r'.index := congrArg RuleKey.index hk
  obtain ⟨ri,rg,i,st,m⟩ := r
  obtain ⟨ri',rg',i',st',m'⟩ := r'
  simp only at hi hgr hs hm hi' hgr' hs' hm' hidx
  subst hi hgr hi' hgr' hidx
  obtain rfl : st = st' := by simpa [hs] using hs'
  obtain rfl : m = m' := by simpa [hm] using hm'
  rfl

/-- Distinct item ids give every rule of the book its own key. -/
theorem build_keys_nodup {a : Actor} (hids : (a.items.map (·.id)).Nodup) :
    ((build a).value.rules.map Rule.key).Nodup := by
  rw [build_rules,List.map_flatMap,List.nodup_flatMap]
  refine ⟨fun item _ => itemRules_keys_nodup item,?_⟩
  refine (List.pairwise_map.mp hids).imp fun hne => ?_
  intro k hk hk'
  obtain ⟨r,hr,rfl⟩ := List.mem_map.mp hk
  obtain ⟨r',hr',he⟩ := List.mem_map.mp hk'
  apply hne
  rw [← key_item_of_mem_itemRules hr,← key_item_of_mem_itemRules hr',he]

/-! ### The links -/

theorem targetOf?_mem {rules : List Rule} {r t : Rule} {target : String}
    (h : targetOf? rules r target = some t) : t ∈ rules ∧ t.mode = r.mode := by
  unfold targetOf? at h
  refine ⟨List.mem_of_find?_eq_some h,?_⟩
  have hp := List.find?_some h
  simp only [Bool.and_eq_true,beq_iff_eq] at hp
  exact hp.2

/-- What linking one rule does to the links. -/
def linkStep (rules : List Rule) (links : Links) (r : Rule) : Links :=
  match r.replaceTarget? with
  | none => links
  | some target =>
    match targetOf? rules r target with
    | none => links
    | some t => if t.item.id = r.item.id then links else links.insert t.key r.key

theorem link_links (rules : List Rule) : (link rules).value.1 = rules.foldl (linkStep rules) [] := by
  unfold link
  rw [Logged.value_foldlM]
  refine (List.foldl_hom Prod.fst fun acc r => ?_).symm
  cases htarget : r.replaceTarget? with
  | none => simp [linkStep,htarget]
  | some target =>
    cases ht : targetOf? rules r target with
    | none => simp [linkStep,htarget,ht]
    | some t =>
      by_cases hid : t.item.id = r.item.id
      · simp [linkStep,htarget,ht,hid]
      · simp only [linkStep,htarget,ht,hid,beq_iff_eq,if_false]
        split <;> rfl

/-- What the links made so far satisfy, `done` being the rules already linked. -/
structure LinksSound (rules done : List Rule) (links : Links) : Prop where
  targets_nodup : (links.map Prod.fst).Nodup
  replacers_nodup : (links.map Prod.snd).Nodup
  sound : ∀ t s, (t,s) ∈ links → ∃ T ∈ rules, ∃ S ∈ done, T.key = t ∧ S.key = s ∧
    T.mode = S.mode ∧ T.item.id ≠ S.item.id ∧ S.replaceTarget?.isSome

theorem linksSound_nil (rules : List Rule) : LinksSound rules [] [] :=
  ⟨List.nodup_nil,List.nodup_nil,by simp⟩

theorem LinksSound.mono {rules done : List Rule} {links : Links} (h : LinksSound rules done links)
    (r : Rule) : LinksSound rules (done ++ [r]) links := by
  refine ⟨h.targets_nodup,h.replacers_nodup,fun t s hts => ?_⟩
  obtain ⟨T,hT,S,hS,h'⟩ := h.sound t s hts
  exact ⟨T,hT,S,List.mem_append_left _ hS,h'⟩

theorem linkStep_sound {rules done : List Rule} {links : Links} (h : LinksSound rules done links)
    (r : Rule) (hr : r.key ∉ done.map Rule.key) :
    LinksSound rules (done ++ [r]) (linkStep rules links r) := by
  unfold linkStep
  split
  · exact h.mono r
  · rename_i target htarget
    split
    · exact h.mono r
    · rename_i t ht
      split
      · exact h.mono r
      · rename_i hid
        obtain ⟨htm,hmode⟩ := targetOf?_mem ht
        -- the new replacing rule is linked for the first time: earlier links name earlier rules
        have hfresh : r.key ∉ links.map Prod.snd := by
          intro hmem
          obtain ⟨⟨t',s'⟩,hp,hs⟩ := List.mem_map.mp hmem
          obtain ⟨-,-,S,hS,-,hSk,-⟩ := h.sound t' s' hp
          rw [← hs] at hr
          exact hr (List.mem_map.mpr ⟨S,hS,hSk⟩)
        refine ⟨Links.targets_nodup_insert h.targets_nodup,
          Links.replacers_nodup_insert h.targets_nodup h.replacers_nodup hfresh,?_⟩
        intro t' s' hts
        rcases Links.mem_insert hts with he | hts
        · obtain ⟨rfl,rfl⟩ := Prod.mk.inj he
          exact ⟨t,htm,r,by simp,rfl,rfl,hmode,hid,by simp [htarget]⟩
        · obtain ⟨T,hT,S,hS,h'⟩ := h.sound t' s' hts
          exact ⟨T,hT,S,List.mem_append_left _ hS,h'⟩

theorem foldl_linkStep_sound (rules : List Rule) :
    ∀ (rest done : List Rule) (links : Links), LinksSound rules done links →
      ((done ++ rest).map Rule.key).Nodup →
      LinksSound rules (done ++ rest) (rest.foldl (linkStep rules) links)
  | [], done, links, h, _ => by simpa using h
  | r :: rest, done, links, h, hk => by
    have hr : r.key ∉ done.map Rule.key := by
      intro hmem
      rw [List.map_append,List.map_cons,List.nodup_append] at hk
      exact hk.2.2 _ hmem _ List.mem_cons_self rfl
    have hstep := linkStep_sound h r hr
    have hrest := foldl_linkStep_sound rules rest (done ++ [r]) _ hstep (by simpa using hk)
    simpa using hrest

theorem link_sound {rules : List Rule} (hk : (rules.map Rule.key).Nodup) :
    LinksSound rules rules (link rules).value.1 := by
  rw [link_links]
  simpa using foldl_linkStep_sound rules rules [] [] (linksSound_nil rules) (by simpa using hk)

/-- A book whose rules have distinct keys, carry their setting's mode, and whose links are
sound. Every book built from a sheet with distinct item ids is one. -/
structure WellLinked (b : RuleBook) : Prop where
  keys_nodup : (b.rules.map Rule.key).Nodup
  modes : ∀ r ∈ b.rules, r.setting.mode? = some r.mode
  links : LinksSound b.rules b.rules b.links

theorem build_wellLinked {a : Actor} (hids : (a.items.map (·.id)).Nodup) :
    (build a).value.WellLinked := by
  have hk := build_keys_nodup hids
  refine ⟨hk,fun r hr => mode?_of_mem_build hr,?_⟩
  rw [build_links]
  exact link_sound hk

end RuleBook

end DicePools
