import DicePools.Proofs.Chain

/-! Where a replacement chain ends. Main statement: `resolveChain_ends_at_first_stop`. -/

namespace DicePools

theorem nodup_eraseDups {α : Type} [BEq α] [LawfulBEq α] : ∀ l : List α, l.eraseDups.Nodup
  | [] => by simp
  | a :: as => by
    rw [List.eraseDups_cons]
    refine List.nodup_cons.mpr ⟨fun h => ?_,nodup_eraseDups _⟩
    simpa using List.mem_eraseDups.mp h
termination_by l => l.length
decreasing_by
  have := List.length_filter_le (fun b => !b == a) as
  simp only [List.length_cons]
  omega

namespace RuleBook

/-- The `i`-th rule of the replacement chain from `r`: `r` itself, then the direct replacement of
each rule, while there is one. -/
def chainAt (b : RuleBook) (r : Rule) : Nat → Option Rule
  | 0 => some r
  | i + 1 => (b.chainAt r i).bind b.next?

/-- The key `x` is the key of one of the first `j + 1` rules of the chain from `r`. -/
def KeySeen (b : RuleBook) (r : Rule) (j : Nat) (x : RuleKey) : Prop :=
  ∃ i ≤ j, (b.chainAt r i).map Rule.key = some x

/-- The chain from `r` goes on past its `j`-th rule: the next rule exists, its key is new, and it
applies. -/
def Advances (b : RuleBook) (r : Rule) (ctx : Context) (j : Nat) : Prop :=
  ∃ n, b.chainAt r (j + 1) = some n ∧ ¬ b.KeySeen r j n.key ∧ b.applies n ctx = true

variable {b : RuleBook} {r : Rule} {ctx : Context}

theorem chainAt_succ {j : Nat} {used : Rule} (h : b.chainAt r j = some used) :
    b.chainAt r (j + 1) = b.next? used := by
  simp [chainAt,h]

theorem keySeen_zero {x : RuleKey} : b.KeySeen r 0 x ↔ x = r.key := by
  constructor
  · rintro ⟨i,hi,hx⟩
    obtain rfl : i = 0 := Nat.le_zero.mp hi
    simpa [chainAt,eq_comm] using hx
  · rintro rfl
    exact ⟨0,le_rfl,rfl⟩

theorem keySeen_succ {j : Nat} {x : RuleKey} :
    b.KeySeen r (j + 1) x ↔ b.KeySeen r j x ∨ (b.chainAt r (j + 1)).map Rule.key = some x := by
  constructor
  · rintro ⟨i,hi,hx⟩
    rcases Nat.le_succ_iff.mp hi with hi | rfl
    · exact .inl ⟨i,hi,hx⟩
    · exact .inr hx
  · rintro (⟨i,hi,hx⟩ | hx)
    · exact ⟨i,Nat.le_succ_of_le hi,hx⟩
    · exact ⟨j + 1,le_rfl,hx⟩

/-- The state of a walk from `r` after `j` substitutions. -/
structure WalkAt (b : RuleBook) (r : Rule) (ctx : Context) (j : Nat) (used : Rule)
    (unvisited : List RuleKey) : Prop where
  at_used : b.chainAt r j = some used
  advanced : ∀ i < j, b.Advances r ctx i
  mem_unvisited : ∀ x, x ∈ unvisited ↔ x ∈ b.rules.map Rule.key ∧ ¬ b.KeySeen r j x
  nodup : unvisited.Nodup
  count : j + unvisited.length + 1 ≤ b.rules.length

theorem walkAt_start (hr : r ∈ b.rules) :
    WalkAt b r ctx 0 r ((b.rules.map Rule.key).eraseDups.erase r.key) := by
  have hnd := nodup_eraseDups (b.rules.map Rule.key)
  have hkey : r.key ∈ (b.rules.map Rule.key).eraseDups :=
    List.mem_eraseDups.mpr (List.mem_map_of_mem hr)
  have hlen : (b.rules.map Rule.key).eraseDups.length ≤ b.rules.length := by
    simpa using hnd.length_le_of_subset fun x hx => List.mem_eraseDups.mp hx
  refine ⟨rfl,fun i hi => absurd hi (Nat.not_lt_zero i),fun x => ?_,hnd.erase _,?_⟩
  · rw [hnd.mem_erase_iff,List.mem_eraseDups,keySeen_zero]
    exact and_comm
  · rw [List.length_erase_of_mem hkey]
    have := List.length_pos_of_mem hkey
    omega

theorem WalkAt.step {j : Nat} {used n : Rule} {unvisited : List RuleKey}
    (h : WalkAt b r ctx j used unvisited) (hn : b.next? used = some n) (hmem : n.key ∈ unvisited)
    (happ : b.applies n ctx = true) : WalkAt b r ctx (j + 1) n (unvisited.erase n.key) := by
  have hat : b.chainAt r (j + 1) = some n := (chainAt_succ h.at_used).trans hn
  have hnew : ¬ b.KeySeen r j n.key := ((h.mem_unvisited n.key).mp hmem).2
  refine ⟨hat,fun i hi => ?_,fun x => ?_,h.nodup.erase _,?_⟩
  · rcases Nat.lt_succ_iff_lt_or_eq.mp hi with hi | rfl
    · exact h.advanced i hi
    · exact ⟨n,hat,hnew,happ⟩
  · rw [h.nodup.mem_erase_iff,h.mem_unvisited,keySeen_succ,hat]
    simp only [Option.map_some,Option.some.injEq]
    constructor
    · rintro ⟨hne,hx,hseen⟩
      exact ⟨hx,fun hs => hs.elim hseen fun he => hne he.symm⟩
    · rintro ⟨hx,hseen⟩
      exact ⟨fun he => hseen (.inr he.symm),hx,fun hs => hseen (.inl hs)⟩
  · have := h.count
    have := List.length_pos_of_mem hmem
    rw [List.length_erase_of_mem hmem]
    omega

/-- How a walk ended, as the chain from `r` decides at its `k`-th rule. -/
structure EndsAt (b : RuleBook) (r : Rule) (ctx : Context) (k : Nat) (e : Logged ChainEnd) :
    Prop where
  advanced : ∀ i < k, b.Advances r ctx i
  stopped : ¬ b.Advances r ctx k
  used : b.chainAt r k = some e.value.used
  steps : e.value.steps = k
  bound : k + 1 ≤ b.rules.length
  cycle : e.value.cycle = true ↔ ∃ n, b.chainAt r (k + 1) = some n ∧ b.KeySeen r k n.key
  events : e.events = if e.value.cycle then [⟨.warn, "replacement cycle detected"⟩] else []

/-- A walk standing at the `j`-th rule of the chain that stops there ends at `j`. -/
theorem WalkAt.endsAt {j : Nat} {used : Rule} {unvisited : List RuleKey} {e : Logged ChainEnd}
    (h : WalkAt b r ctx j used unvisited) (hused : e.value.used = used)
    (hsteps : e.value.steps = j) (hstop : ¬ b.Advances r ctx j)
    (hcycle : e.value.cycle = true ↔ ∃ n, b.chainAt r (j + 1) = some n ∧ b.KeySeen r j n.key)
    (hevents : e.events = if e.value.cycle then [⟨.warn, "replacement cycle detected"⟩] else []) :
    EndsAt b r ctx j e :=
  ⟨h.advanced,hstop,hused ▸ h.at_used,hsteps,by have := h.count; omega,hcycle,hevents⟩

/-- A walk ends where the chain stops advancing. -/
theorem walk_endsAt (j : Nat) (used : Rule) (steps : Nat) (unvisited : List RuleKey)
    (h : WalkAt b r ctx j used unvisited) (hsteps : steps = j) :
    ∃ k, EndsAt b r ctx k (b.walk ctx used steps unvisited) := by
  induction used, steps, unvisited using RuleBook.walk.induct b ctx generalizing j with
  | case1 used steps unvisited hnext =>
    have hat : b.chainAt r (j + 1) = none := (chainAt_succ h.at_used).trans hnext
    have hw : b.walk ctx used steps unvisited = pure ⟨used,steps,false⟩ := by
      rw [RuleBook.walk]
      simp only [hnext]
    have hstop : ¬ b.Advances r ctx j := fun hadv => by
      obtain ⟨n,hn,-⟩ := hadv
      simp [hat] at hn
    rw [hw]
    exact ⟨j,h.endsAt rfl hsteps hstop (by simp [hat]) rfl⟩
  | case2 used steps unvisited n hnext hmem happ ih =>
    rw [RuleBook.walk]
    simp only [hnext,hmem,happ,dif_pos,if_true]
    exact ih (j + 1) (h.step hnext hmem happ) (by rw [hsteps])
  | case3 used steps unvisited n hnext hmem happ =>
    have hat : b.chainAt r (j + 1) = some n := (chainAt_succ h.at_used).trans hnext
    have hnew : ¬ b.KeySeen r j n.key := ((h.mem_unvisited n.key).mp hmem).2
    have hw : b.walk ctx used steps unvisited = pure ⟨used,steps,false⟩ := by
      rw [RuleBook.walk]
      simp [hnext,hmem,happ]
    have hstop : ¬ b.Advances r ctx j := fun hadv => by
      obtain ⟨n',hn',-,happ'⟩ := hadv
      obtain rfl : n' = n := Option.some.inj (hn'.symm.trans hat)
      exact happ happ'
    have hcycle : ¬ ∃ n', b.chainAt r (j + 1) = some n' ∧ b.KeySeen r j n'.key := fun hc => by
      obtain ⟨n',hn',hseen⟩ := hc
      obtain rfl : n' = n := Option.some.inj (hn'.symm.trans hat)
      exact hnew hseen
    rw [hw]
    exact ⟨j,h.endsAt rfl hsteps hstop (iff_of_false Bool.false_ne_true hcycle) rfl⟩
  | case4 used steps unvisited n hnext hmem =>
    -- the next rule is a rule of the book, so a key missing from the walk was seen
    have hat : b.chainAt r (j + 1) = some n := (chainAt_succ h.at_used).trans hnext
    obtain ⟨s,-,hs⟩ := next?_eq_some.mp hnext
    have hbook : n.key ∈ b.rules.map Rule.key := List.mem_map_of_mem (rule?_mem hs).1
    have hseen : b.KeySeen r j n.key := by
      by_contra hnot
      exact hmem ((h.mem_unvisited n.key).mpr ⟨hbook,hnot⟩)
    have hw : b.walk ctx used steps unvisited =
        (do Logged.warn "replacement cycle detected"; pure ⟨used,steps,true⟩) := by
      rw [RuleBook.walk]
      simp [hnext,hmem]
    have hstop : ¬ b.Advances r ctx j := fun hadv => by
      obtain ⟨n',hn',hnew,-⟩ := hadv
      obtain rfl : n' = n := Option.some.inj (hn'.symm.trans hat)
      exact hnew hseen
    rw [hw]
    exact ⟨j,h.endsAt rfl hsteps hstop (iff_of_true rfl ⟨n,hat,hseen⟩) rfl⟩

/-- From a rule of any book, the chain walk ends at the first index where the chain does not
advance, reporting a cycle exactly when the next rule was seen. -/
theorem resolveChain_ends_at_first_stop (b : RuleBook) {r : Rule} (hr : r ∈ b.rules)
    (ctx : Context) : ∃ k, EndsAt b r ctx k (b.resolveChain r ctx) :=
  walk_endsAt 0 r 0 _ (walkAt_start hr) rfl

/-- Four movement gifts in a ring, each replacing the next. -/
def ringSheet : Actor :=
  ⟨"",[],[],[
    plainGift (.ofSerial 1) "Gift 0"
      [replacing .moveBonus (some "Gift 1")],
    plainGift (.ofSerial 2) "Gift 1"
      [replacing .moveBonus (some "Gift 2")],
    plainGift (.ofSerial 3) "Gift 2"
      [replacing .moveBonus (some "Gift 3")],
    plainGift (.ofSerial 4) "Gift 3"
      [replacing .moveBonus (some "Gift 0")]],
    default,[]⟩

def ringStart : Rule := (build ringSheet).value.rules.get ⟨0,by decide +kernel⟩

theorem ringSheet_chain_ends :
    ringStart ∈ (build ringSheet).value.rules ∧
      ∃ k, EndsAt (build ringSheet).value ringStart (.ofConditions default) k
        ((build ringSheet).value.resolveChain ringStart (.ofConditions default)) :=
  ⟨List.get_mem _ _,
    resolveChain_ends_at_first_stop _ (List.get_mem _ _) (.ofConditions default)⟩

example :
    ((build ringSheet).value.resolveChain ringStart (.ofConditions default)).value.steps = 3 ∧
    ((build ringSheet).value.resolveChain ringStart (.ofConditions default)).value.cycle = true ∧
    ((build ringSheet).value.resolveChain ringStart (.ofConditions default)).events.length = 1 := by
  decide +kernel

end RuleBook
end DicePools
