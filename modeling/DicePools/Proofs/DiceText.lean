import DicePools.Proofs.BucketMoves
import DicePools.Proofs.NameKey

/-! Reading back written dice. Main statement: `dice_text_round_trip`. -/

namespace DicePools

namespace Text

theorem toNat_of_isDigit {c : Char} (h : c.isDigit = true) : 48 ≤ c.toNat ∧ c.toNat ≤ 57 := by
  simp only [Char.isDigit, Bool.and_eq_true, decide_eq_true_eq, ge_iff_le,
    UInt32.le_iff_toNat_le] at h
  exact h

theorem isBlank_of_isDigit {c : Char} (h : c.isDigit = true) : isBlank c = false := by
  have := toNat_of_isDigit h
  simp only [isBlank, Bool.or_eq_false_iff, Bool.and_eq_false_iff, decide_eq_false_iff_not,
    beq_eq_false_iff_ne]
  omega

theorem trimChars_eq_self {cs : List Char} (h : ∀ c ∈ cs, isBlank c = false) : trimChars cs = cs := by
  have hdrop : ∀ l : List Char, (∀ c ∈ l, isBlank c = false) → l.dropWhile isBlank = l :=
    fun l hl => List.dropWhile_eq_self_iff.mpr fun hl0 => by simp [hl _ (List.getElem_mem hl0)]
  rw [trimChars, hdrop cs h, hdrop cs.reverse (fun c hc => h c (List.mem_reverse.mp hc)),
    List.reverse_reverse]

theorem trim_eq_self {s : String} (h : ∀ c ∈ s.toList, isBlank c = false) : trim s = s := by
  rw [trim, trimChars_eq_self h, String.ofList_toList]

theorem trimChars_cons_of_isBlank {c : Char} (h : isBlank c = true) (cs : List Char) :
    trimChars (c :: cs) = trimChars cs := by
  rw [trimChars, trimChars, List.dropWhile_cons_of_pos h]

theorem trim_blank_append (s : String) : trim (" " ++ s) = trim s := by
  have h : (" " ++ s).toList = ' ' :: s.toList := by simp
  rw [trim, h, trimChars_cons_of_isBlank (by decide), trim]

theorem lowerRuns_from_A : lowerRuns.all (fun r => 0x41 ≤ r.1 && 0x41 ≤ r.1 + r.2.2.1) = true := by
  decide +kernel

theorem lowerChar_of_toNat_lt {c : Char} (h : c.toNat < 0x41) : lowerChar c = [c] := by
  refine lowerChar_eq_self (by omega) (runShift_eq_none fun r hr hin => ?_)
  have := List.all_eq_true.mp lowerRuns_from_A r hr
  simp only [Bool.and_eq_true, decide_eq_true_eq] at this
  omega

theorem eq_of_mem_lowerChar {c d : Char} (hd : d ∈ lowerChar c) (h : d.toNat < 0x41) : d = c := by
  unfold lowerChar at hd
  by_cases hdot : c.toNat = 0x130
  · simp only [hdot, beq_self_eq_true, if_true, List.mem_cons, List.not_mem_nil, or_false] at hd
    rcases hd with rfl | rfl <;> simp at h
  · cases hrun : runShift lowerRuns c.toNat with
    | none =>
      simpa [hdot, hrun] using hd
    | some s =>
      simp only [hdot, hrun, beq_iff_eq, if_false, List.mem_singleton] at hd
      subst hd
      obtain ⟨lo, hi, step, hmem, hlo, -, -⟩ := exists_run_of_runShift hrun
      have hfrom := List.all_eq_true.mp lowerRuns_from_A _ hmem
      simp only [Bool.and_eq_true, decide_eq_true_eq] at hfrom
      rw [toNat_shiftChar (lowerTarget_of_runShift hrun).valid] at h
      omega

theorem lower_eq_self {s : String} (h : ∀ c ∈ s.toList, lowerChar c = [c]) : lower s = s := by
  have hmap : s.toList.flatMap lowerChar = s.toList := calc
    s.toList.flatMap lowerChar = s.toList.flatMap fun c => [c] := by
      simp only [List.flatMap_def, List.map_congr_left h]
    _ = s.toList := List.flatMap_singleton' _
  rw [lower, hmap, String.ofList_toList]

theorem splitChars_append_sep (sep : Char) (l₁ l₂ : List Char) :
    splitChars sep (l₁ ++ sep :: l₂) = splitChars sep l₁ ++ splitChars sep l₂ := by
  induction l₁ with
  | nil => simp [splitChars]
  | cons c l₁ ih =>
    rw [List.cons_append]
    by_cases hc : c = sep
    · simp [splitChars, hc, ih]
    · -- the first piece of `l₁` grows by `c` on both sides
      obtain ⟨p, ps, hps⟩ := List.exists_cons_of_ne_nil (splitChars_ne_nil sep l₁)
      simp [splitChars, hc, ih, hps]

theorem splitAll_append_comma (s t : String) :
    splitAll (s ++ "," ++ t) ',' = splitAll s ',' ++ splitAll t ',' := by
  have h : (s ++ "," ++ t).toList = s.toList ++ ',' :: t.toList := by simp
  rw [splitAll, h, splitChars_append_sep, List.map_append, splitAll, splitAll]

theorem splitAll_cons {c : Char} {sep : Char} (hc : c ≠ sep) {s p : String} {ps : List String}
    (h : splitAll s sep = p :: ps) :
    splitAll (String.singleton c ++ s) sep = (String.singleton c ++ p) :: ps := by
  have hcs : (String.singleton c ++ s).toList = c :: s.toList := by simp
  obtain ⟨q, qs, hq⟩ := List.exists_cons_of_ne_nil (splitChars_ne_nil sep s.toList)
  rw [splitAll, hq, List.map_cons, List.cons.injEq] at h
  obtain ⟨rfl, rfl⟩ := h
  rw [splitAll, hcs, splitChars, if_neg hc, hq]
  simp

theorem splitAll_intercalate {w : String} {ws : List String}
    (h : ∀ v ∈ w :: ws, ',' ∉ v.toList) :
    splitAll (", ".intercalate (w :: ws)) ',' = w :: ws.map (" " ++ ·) := by
  induction ws generalizing w with
  | nil => simpa using splitAll_of_not_mem (h w List.mem_cons_self)
  | cons u ws ih =>
    have hsep : ", ".intercalate (w :: u :: ws) = w ++ "," ++ (" " ++ ", ".intercalate (u :: ws)) := by
      have hcomma : (", " : String) = "," ++ " " := by decide
      rw [String.intercalate_cons_cons, hcomma, String.append_assoc, String.append_assoc,
        String.append_assoc]
    have hrest := ih fun v hv => h v (List.mem_cons_of_mem w hv)
    rw [hsep, splitAll_append_comma, splitAll_of_not_mem (h w List.mem_cons_self),
      show (" " : String) = String.singleton ' ' from rfl, splitAll_cons (by decide) hrest]
    rfl

theorem filter_map_splitAll_intercalate {f : String → String} {ws : List String} (h0 : f "" = "")
    (h : ∀ w ∈ ws, ',' ∉ w.toList ∧ f w = w ∧ f (" " ++ w) = w ∧ w ≠ "") :
    ((splitAll (", ".intercalate ws) ',').map f).filter (· ≠ "") = ws := by
  cases ws with
  | nil =>
    have hnil : splitAll "" ',' = [""] := rfl
    simp [hnil, h0]
  | cons w ws =>
    rw [splitAll_intercalate fun v hv => (h v hv).1, List.map_cons, List.map_map,
      (h w List.mem_cons_self).2.1, Function.comp_def,
      List.map_congr_left fun v hv => (h v (List.mem_cons_of_mem w hv)).2.2.1, List.map_id']
    exact List.filter_eq_self.mpr fun v hv => by simpa using (h v hv).2.2.2

theorem digitsValue?_toDigits (n : Nat) : digitsValue? (Nat.toDigits 10 n) = some n := by
  have hdigits : (Nat.toDigits 10 n).all Char.isDigit = true :=
    List.all_eq_true.mpr fun c hc => Nat.isDigit_of_mem_toDigits (by decide) (by decide) hc
  rw [digitsValue?, if_neg (by simp [Nat.toDigits_ne_nil, hdigits])]
  exact congrArg some Nat.ofDigitChars_ten_toDigits

theorem u32?_repr {n : Nat} (h : n ≤ u32Max) : u32? n.repr = some n := by
  obtain ⟨c, cs, hcs⟩ := List.exists_cons_of_ne_nil (Nat.toDigits_ne_nil (n := n) (b := 10))
  -- the numeral starts with a digit, not a sign
  have hc : c ≠ '+' := fun hc => by
    have := Nat.isDigit_of_mem_toDigits (by decide) (by decide) (hcs ▸ List.mem_cons_self (l := cs))
    rw [hc] at this
    exact absurd this (by decide)
  have hlist : n.repr.toList = c :: cs := by
    rw [Nat.toList_repr, hcs]
  unfold u32? natBelow?
  rw [hlist]
  split
  · rename_i rest heq
    exact absurd (List.cons.inj heq).1 hc
  · rw [← hcs]
    simp only [digitsValue?_toDigits, if_pos h]

end Text

namespace Dice

theorem terms_append_comma (s t : String) : terms (s ++ "," ++ t) = terms s ++ terms t := by
  simp only [terms, Text.splitAll_append_comma, List.map_append, List.filter_append]

theorem isDigit_or_d_of_mem {c s : String} (hc : ∀ ch ∈ c.toList, ch.isDigit = true)
    (hs : ∀ ch ∈ s.toList, ch.isDigit = true) :
    ∀ ch ∈ (c ++ "d" ++ s).toList, ch.isDigit = true ∨ ch = 'd' := by
  intro ch hch
  simp only [String.toList_append, List.mem_append] at hch
  rcases hch with (hch | hch) | hch
  · exact .inl (hc ch hch)
  · exact .inr (by simpa using hch)
  · exact .inl (hs ch hch)

theorem isBlank_of_isDigit_or_d {ch : Char} (h : ch.isDigit = true ∨ ch = 'd') :
    Text.isBlank ch = false := by
  rcases h with h | rfl
  · exact Text.isBlank_of_isDigit h
  · decide

theorem splitOnce_term {c s : String} (hc : ∀ ch ∈ c.toList, ch.isDigit = true)
    (hs : ∀ ch ∈ s.toList, ch.isDigit = true) :
    Text.splitOnce (Text.lower (Text.trim (c ++ "d" ++ s))) 'd' = some (c, s) := by
  have hlist : (c ++ "d" ++ s).toList = c.toList ++ 'd' :: s.toList := by simp
  have hchars := isDigit_or_d_of_mem hc hs
  have hblank : ∀ ch ∈ (c ++ "d" ++ s).toList, Text.isBlank ch = false := fun ch hch =>
    isBlank_of_isDigit_or_d (hchars ch hch)
  have hlower : ∀ ch ∈ (c ++ "d" ++ s).toList, Text.lowerChar ch = [ch] := fun ch hch => by
    rcases hchars ch hch with h | rfl
    · exact Text.lowerChar_of_toNat_lt (by have := Text.toNat_of_isDigit h; omega)
    · decide
  have hnotd : ∀ ch ∈ c.toList, (ch != 'd') = true := fun ch hch => by
    have := Text.toNat_of_isDigit (hc ch hch)
    simp only [bne_iff_ne, ne_eq]
    rintro rfl
    simp at this
  rw [Text.trim_eq_self hblank, Text.lower_eq_self hlower, Text.splitOnce, hlist,
    if_pos (by simp), List.takeWhile_append_of_pos hnotd, List.dropWhile_append_of_pos hnotd]
  simp

/-- Reading a term in digits around a `d`: the count before it (one when left out) and the die
whose sides follow it. -/
theorem parseTerm?_digits {c s : String} (hc : ∀ ch ∈ c.toList, ch.isDigit = true)
    (hs : ∀ ch ∈ s.toList, ch.isDigit = true) :
    parseTerm? (c ++ "d" ++ s) =
      ((if c = "" then some 1 else Text.u32? c).bind fun n =>
        ((Text.u32? s).bind Die.ofSides?).bind fun d => some (UInt32.ofNat n, d)) := by
  have hcb : ∀ ch ∈ c.toList, Text.isBlank ch = false := fun ch h => Text.isBlank_of_isDigit (hc ch h)
  have hsb : ∀ ch ∈ s.toList, Text.isBlank ch = false := fun ch h => Text.isBlank_of_isDigit (hs ch h)
  unfold parseTerm?
  rw [splitOnce_term hc hs]
  simp only [Option.bind_eq_bind, Option.bind_some]
  rw [Text.trim_eq_self hcb, Text.trim_eq_self hsb]
  split
  · rfl
  · rename_i hne
    rw [if_neg hne]
    rfl

theorem isDigit_of_mem_repr {n : Nat} {ch : Char} (h : ch ∈ n.repr.toList) : ch.isDigit = true := by
  rw [Nat.toList_repr] at h
  exact Nat.isDigit_of_mem_toDigits (by decide) (by decide) h

theorem u32?_sides (d : Die) : Text.u32? d.sides.repr = some d.sides :=
  Text.u32?_repr (by cases d <;> decide)

theorem termText_eq_some {short : Bool} {n : UInt32} {d : Die} {t : String}
    (h : termText short n d = some t) :
    n ≠ 0 ∧ ((n = 1 ∧ t = "" ++ "d" ++ d.sides.repr) ∨ t = n.toNat.repr ++ "d" ++ d.sides.repr) := by
  unfold termText at h
  split_ifs at h with h0 h1
  · cases h
    exact ⟨h0, .inl ⟨h1.1, by simp [Die.tag]⟩⟩
  · cases h
    exact ⟨h0, .inr (by simp [Die.tag, String.append_assoc])⟩

theorem isDigit_or_d_of_termText {short : Bool} {n : UInt32} {d : Die} {t : String}
    (h : termText short n d = some t) : ∀ ch ∈ t.toList, ch.isDigit = true ∨ ch = 'd' := by
  rcases (termText_eq_some h).2 with ⟨-, rfl⟩ | rfl
  · exact isDigit_or_d_of_mem (by simp) fun _ => isDigit_of_mem_repr
  · exact isDigit_or_d_of_mem (fun _ => isDigit_of_mem_repr) fun _ => isDigit_of_mem_repr

theorem not_mem_termText {short : Bool} {n : UInt32} {d : Die} {t : String} {c : Char}
    (h : termText short n d = some t) (hdigit : c.isDigit = false) (hd : c ≠ 'd') :
    c ∉ t.toList := fun hc =>
  (isDigit_or_d_of_termText h c hc).elim (fun h' => absurd h' (by simp [hdigit])) hd

theorem parseTerm?_termText {short : Bool} {n : UInt32} {d : Die} {t : String}
    (h : termText short n d = some t) : parseTerm? t = some (n, d) := by
  have hsides : ∀ ch ∈ d.sides.repr.toList, ch.isDigit = true := fun _ => isDigit_of_mem_repr
  rcases (termText_eq_some h).2 with ⟨rfl, rfl⟩ | rfl
  · rw [parseTerm?_digits (by simp) hsides]
    simp [u32?_sides]
  · have hcount : n.toNat ≤ Text.u32Max := by have := n.toNat_lt; unfold Text.u32Max; omega
    rw [parseTerm?_digits (fun _ => isDigit_of_mem_repr) hsides]
    simp [Text.u32?_repr hcount, u32?_sides]

theorem terms_intercalate {ws : List String}
    (h : ∀ w ∈ ws, ',' ∉ w.toList ∧ Text.trim w = w ∧ w ≠ "") :
    terms (", ".intercalate ws) = ws :=
  Text.filter_map_splitAll_intercalate (by decide) fun w hw =>
    ⟨(h w hw).1, (h w hw).2.1, by rw [Text.trim_blank_append, (h w hw).2.1], (h w hw).2.2⟩

theorem terms_format (x : Dice) (short : Bool) :
    terms (x.format short) = Die.all.filterMap fun d => termText short (x.count d) d := by
  refine terms_intercalate fun t ht => ?_
  obtain ⟨d, -, hd⟩ := List.mem_filterMap.mp ht
  refine ⟨not_mem_termText hd (by decide) (by decide),
    Text.trim_eq_self fun ch hch => isBlank_of_isDigit_or_d (isDigit_or_d_of_termText hd ch hch),
    fun he => ?_⟩
  rcases (termText_eq_some hd).2 with ⟨-, rfl⟩ | rfl <;> simp at he

theorem single_zero (d : Die) : single 0 d = 0 :=
  ext_count fun e => by simp [single]

theorem sum_single_count (x : Dice) : (Die.all.map fun d => single (x.count d) d).sum = x := by
  refine ext_count fun e => ?_
  cases e <;> simp [Die.all, single, satAdd_zero, satAdd_comm 0]

theorem sum_filterMap {M : Type} [AddMonoid M] {α : Type} (f : α → Option M) (l : List α) :
    (l.filterMap f).sum = (l.map fun a => (f a).getD 0).sum := by
  induction l with
  | nil => rfl
  | cons a l ih => cases h : f a <;> simp [h, ih]

/-- Reading a written pool gives the pool back, in both forms. -/
theorem parse_format (x : Dice) (short : Bool) : (parse (x.format short)).value = x := by
  rw [parse_value, terms_format, List.map_filterMap, sum_filterMap]
  have hterm : ∀ d, ((termText short (x.count d) d).map termDice).getD 0 = single (x.count d) d := by
    intro d
    cases ht : termText short (x.count d) d with
    | none =>
      have h0 : x.count d = 0 := by
        unfold termText at ht
        split_ifs at ht with h0
        exact h0
      rw [h0, single_zero]
      rfl
    | some t =>
      rw [Option.map_some, Option.getD_some]
      unfold termDice
      rw [parseTerm?_termText ht]
  simp only [hterm, sum_single_count]

/-- Reading is additive over a comma: what two texts read, their join reads, with saturation. -/
theorem parse_append_comma (s t : String) :
    (parse (s ++ "," ++ t)).value = (parse s).value + (parse t).value := by
  simp only [parse_value, terms_append_comma, List.map_append, List.sum_append]

end Dice

open Dice in
/-- Reading what was written gives the pool back, and reading is additive over a comma. -/
theorem dice_text_round_trip :
    (∀ (x : Dice) (short : Bool), (parse (x.format short)).value = x) ∧
    (∀ s t : String, (parse (s ++ "," ++ t)).value = (parse s).value + (parse t).value) ∧
    (∀ (s : String) (short : Bool),
      (parse ((parse s).value.format short)).value = (parse s).value) ∧
    ∀ x : Dice, (parse (x.format true)).value = x :=
  ⟨parse_format, parse_append_comma, fun _ short => parse_format _ short,
    fun x => parse_format x true⟩

end DicePools
