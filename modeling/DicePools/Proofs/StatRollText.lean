import DicePools.Proofs.DiceText
import DicePools.Item.StatRoll

/-! Reading back written rolls. Main statement: `statRoll_text_rereads_iff`. -/

namespace DicePools

namespace Text

theorem mem_of_mem_splitChars {sep c : Char} {cs p : List Char} (hp : p ∈ splitChars sep cs)
    (hc : c ∈ p) : c ∈ cs := by
  induction cs generalizing p with
  | nil =>
    obtain rfl : p = [] := by simpa [splitChars] using hp
    exact absurd hc List.not_mem_nil
  | cons d cs ih =>
    unfold splitChars at hp
    split at hp
    · rcases List.mem_cons.mp hp with rfl | hp
      · exact absurd hc List.not_mem_nil
      · exact List.mem_cons_of_mem d (ih hp hc)
    · obtain ⟨q, qs, hq⟩ := List.exists_cons_of_ne_nil (splitChars_ne_nil sep cs)
      rw [hq] at hp
      rcases List.mem_cons.mp hp with rfl | hp
      · rcases List.mem_cons.mp hc with rfl | hc
        · exact List.mem_cons_self
        · exact List.mem_cons_of_mem d (ih (by rw [hq]; exact List.mem_cons_self) hc)
      · exact List.mem_cons_of_mem d (ih (by rw [hq]; exact List.mem_cons_of_mem q hp) hc)

theorem mem_of_mem_splitAll {s p : String} {sep c : Char} (hp : p ∈ splitAll s sep)
    (hc : c ∈ p.toList) : c ∈ s.toList := by
  obtain ⟨cs, hcs, rfl⟩ := List.mem_map.mp hp
  rw [String.toList_ofList] at hc
  exact mem_of_mem_splitChars hcs hc

theorem splitOnce_eq_none {s : String} {sep : Char} (h : sep ∉ s.toList) : splitOnce s sep = none := by
  simp [splitOnce, h]

theorem splitOnce_append {a b : String} {sep : Char} (h : sep ∉ a.toList) :
    splitOnce (a ++ String.singleton sep ++ b) sep = some (a, b) := by
  have hlist : (a ++ String.singleton sep ++ b).toList = a.toList ++ sep :: b.toList := by simp
  have hne : ∀ c ∈ a.toList, (c != sep) = true := fun c hc => by
    simp only [bne_iff_ne, ne_eq]
    rintro rfl
    exact h hc
  rw [splitOnce, hlist, if_pos (by simp), List.takeWhile_append_of_pos hne,
    List.dropWhile_append_of_pos hne]
  simp

theorem not_mem_of_splitOnce {s a b : String} {sep : Char} (h : splitOnce s sep = some (a, b)) :
    sep ∉ a.toList := by
  unfold splitOnce at h
  dsimp only at h
  split at h
  · obtain ⟨rfl, -⟩ := Prod.mk.inj (Option.some.inj h)
    rw [String.toList_ofList]
    intro hmem
    simpa using List.mem_takeWhile_imp hmem
  · cases h

theorem not_mem_intercalate {c : Char} {sep : String} (hsep : c ∉ sep.toList) :
    ∀ (ws : List String), (∀ w ∈ ws, c ∉ w.toList) → c ∉ (sep.intercalate ws).toList
  | [], _ => by simp
  | [w], h => by simpa using h w List.mem_cons_self
  | w :: u :: ws, h => by
    rw [String.intercalate_cons_cons]
    have hrest := not_mem_intercalate hsep (u :: ws) fun v hv => h v (List.mem_cons_of_mem w hv)
    simp only [String.toList_append, List.mem_append, not_or]
    exact ⟨⟨h w List.mem_cons_self, hsep⟩, hrest⟩

end Text

namespace Name

theorem key_blank_append (s : String) : key (" " ++ s) = key s := by
  have h : (" " ++ s).toList = ' ' :: s.toList := by simp
  rw [key, h, List.filter_cons_of_neg (by decide), key]

theorem mem_of_mem_key {s : String} {c : Char} (h : c ∈ (key s).toList) (hc : c.toNat < 0x41) :
    c ∈ s.toList := by
  simp only [key, String.toList_ofList, List.mem_flatMap, List.mem_filter] at h
  obtain ⟨d, ⟨hd, -⟩, hcd⟩ := h
  rw [Text.eq_of_mem_lowerChar hcd hc]
  exact hd

theorem splitKeys_intercalate {ks : List String}
    (h : ∀ k ∈ ks, k ≠ "" ∧ key k = k ∧ ',' ∉ k.toList) :
    splitKeys (", ".intercalate ks) = ks :=
  Text.filter_map_splitAll_intercalate (by decide) fun k hk =>
    ⟨(h k hk).2.2, (h k hk).2.1, by rw [key_blank_append, (h k hk).2.1], (h k hk).1⟩

end Name

namespace Dice

theorem parse_blank_append (s : String) : (parse (" " ++ s)).value = (parse s).value := by
  obtain ⟨p, ps, hps⟩ := List.exists_cons_of_ne_nil
    (show Text.splitAll s ',' ≠ [] by simp [Text.splitAll, Text.splitChars_ne_nil])
  have hsplit := Text.splitAll_cons (show ' ' ≠ ',' by decide) hps
  simp only [parse_value, terms, show (" " : String) = String.singleton ' ' from rfl, hsplit, hps,
    List.map_cons]
  rw [show String.singleton ' ' = " " from rfl, Text.trim_blank_append]

theorem semicolon_not_mem_format (x : Dice) (short : Bool) : ';' ∉ (x.format short).toList := by
  refine Text.not_mem_intercalate (by decide) _ fun t ht hc => ?_
  obtain ⟨d, -, hd⟩ := List.mem_filterMap.mp ht
  exact not_mem_termText hd (by decide) (by decide) hc

theorem head_splitAll_format {x : Dice} (hx : x ≠ 0) :
    (parseTerm? (((Text.splitAll (x.format true) ',').head?).getD "")).isSome = true := by
  cases hws : Die.all.filterMap fun d => termText true (x.count d) d with
  | nil =>
    have hback := parse_format x true
    rw [format, hws, String.intercalate_nil, parse_empty] at hback
    exact absurd hback.symm hx
  | cons w ws =>
    have hcomma : ∀ v ∈ w :: ws, ',' ∉ v.toList := fun v hv => by
      obtain ⟨e, -, he⟩ := List.mem_filterMap.mp (hws ▸ hv)
      exact not_mem_termText he (by decide) (by decide)
    obtain ⟨d, -, hd⟩ := List.mem_filterMap.mp (hws ▸ List.mem_cons_self : w ∈ _)
    rw [format, hws, Text.splitAll_intercalate hcomma]
    simp [parseTerm?_termText hd]

end Dice

namespace StatRoll

theorem parse_of_splitOnce {text a b : String} (h : Text.splitOnce text ';' = some (a, b)) :
    (parse text).value = ⟨Name.splitKeys a, (Dice.parse b).value⟩ := by
  simp [parse, h]

/-- Without a semicolon, the text is dice when its first comma-separated piece names a die, and
stats otherwise. -/
theorem parse_of_no_semicolon {text : String} (h : ';' ∉ text.toList) :
    (parse text).value =
      if (Dice.parseTerm? (((Text.splitAll text ',').head?).getD "")).isSome then
        ⟨[], (Dice.parse text).value⟩
      else ⟨Name.splitKeys text, Dice.empty⟩ := by
  simp only [parse, Text.splitOnce_eq_none h]
  split <;> simp

/-- The stats of a roll as reading leaves them: non-empty keys holding no comma and no
semicolon. -/
def KeyedStats (r : StatRoll) : Prop :=
  ∀ s ∈ r.stats, s ≠ "" ∧ Name.key s = s ∧ ',' ∉ s.toList ∧ ';' ∉ s.toList

theorem keyed_splitKeys {text : String} (h : ';' ∉ text.toList) :
    ∀ s ∈ Name.splitKeys text, s ≠ "" ∧ Name.key s = s ∧ ',' ∉ s.toList ∧ ';' ∉ s.toList := by
  intro s hs
  obtain ⟨hmem, hne⟩ := List.mem_filter.mp hs
  obtain ⟨p, hp, rfl⟩ := List.mem_map.mp hmem
  refine ⟨by simpa using hne, Name.key_key p, fun hc => ?_, fun hc => ?_⟩
  · exact Text.not_mem_of_mem_splitAll hp (Name.mem_of_mem_key hc (by decide))
  · exact h (Text.mem_of_mem_splitAll hp (Name.mem_of_mem_key hc (by decide)))

theorem keyedStats_parse (t : String) : (parse t).value.KeyedStats := by
  cases hs : Text.splitOnce t ';' with
  | some p =>
    obtain ⟨a, b⟩ := p
    rw [parse_of_splitOnce hs]
    exact keyed_splitKeys (Text.not_mem_of_splitOnce hs)
  | none =>
    have ht : ';' ∉ t.toList := fun h => by simp [Text.splitOnce, h] at hs
    rw [parse_of_no_semicolon ht]
    split
    · intro s hs
      cases hs
    · exact keyed_splitKeys ht

theorem text_of_dice_empty (ss : List String) :
    (⟨ss, Dice.empty⟩ : StatRoll).text = ", ".intercalate ss := by
  simp [text, Dice.isEmpty_iff]

theorem text_of_stats_nil {x : Dice} (hx : x ≠ Dice.empty) :
    (⟨[], x⟩ : StatRoll).text = x.format true := by
  have hx0 : x ≠ 0 := hx
  simp [text, Dice.isEmpty_iff, hx0]

theorem text_of_cons {s : String} {ss : List String} {x : Dice} (hs : s ≠ "")
    (hx : x ≠ Dice.empty) :
    (⟨s :: ss, x⟩ : StatRoll).text = ", ".intercalate (s :: ss) ++ ";" ++ (" " ++ x.format true) := by
  have hjoin : ", ".intercalate (s :: ss) ≠ "" := by
    cases ss <;> simp [String.intercalate_cons_cons, hs]
  have hsep : ("; " : String) = ";" ++ " " := by decide
  have hx0 : x ≠ 0 := hx
  simp only [text, Dice.isEmpty_iff, hx0, hjoin, String.isEmpty_iff, if_false, String.append_assoc]
  rw [hsep, String.append_assoc]

/-- A roll with keyed stats reads back from its written form exactly when it has dice or its
first stat does not name a die. -/
theorem parse_text_iff {r : StatRoll} (h : r.KeyedStats) :
    (parse r.text).value = r ↔
      (r.dice ≠ Dice.empty ∨ ∀ s ∈ r.stats.head?, Dice.parseTerm? s = none) := by
  obtain ⟨ss, x⟩ := r
  have hsemi : ';' ∉ (", ".intercalate ss).toList :=
    Text.not_mem_intercalate (by decide) ss fun s hs => (h s hs).2.2.2
  have hkeys : Name.splitKeys (", ".intercalate ss) = ss :=
    Name.splitKeys_intercalate fun s hs => ⟨(h s hs).1, (h s hs).2.1, (h s hs).2.2.1⟩
  by_cases hx : x = Dice.empty
  · -- the stats alone, read back unless the first one names a die
    subst hx
    rw [text_of_dice_empty, parse_of_no_semicolon hsemi]
    cases ss with
    | nil =>
      have hpieces : Text.splitAll "" ',' = [""] := rfl
      have hterm : Dice.parseTerm? "" = none := by decide
      rw [String.intercalate_nil] at hkeys
      simp [hpieces, hterm, hkeys]
    | cons s ss =>
      have hfirst : ((Text.splitAll (", ".intercalate (s :: ss)) ',').head?).getD "" = s := by
        rw [Text.splitAll_intercalate fun v hv => (h v hv).2.2.1]
        rfl
      rw [hfirst]
      cases hs : Dice.parseTerm? s <;> simp [hs, hkeys]
  · have hx0 : x ≠ 0 := hx
    cases ss with
    | nil =>
      rw [text_of_stats_nil hx, parse_of_no_semicolon (Dice.semicolon_not_mem_format x true),
        if_pos (Dice.head_splitAll_format hx0), Dice.parse_format]
      simp [hx0]
    | cons s ss =>
      rw [text_of_cons (h s List.mem_cons_self).1 hx,
        show (";" : String) = String.singleton ';' from rfl, parse_of_splitOnce (Text.splitOnce_append hsemi), hkeys, Dice.parse_blank_append,
        Dice.parse_format]
      simp [hx0]

end StatRoll

/-- A roll read from any text reads back from its written form exactly when it has dice or its
first stat does not name a die. -/
theorem statRoll_text_rereads_iff (t : String) :
    (StatRoll.parse (StatRoll.parse t).value.text).value = (StatRoll.parse t).value ↔
      ((StatRoll.parse t).value.dice ≠ Dice.empty ∨
        ∀ s ∈ (StatRoll.parse t).value.stats.head?, Dice.parseTerm? s = none) :=
  StatRoll.parse_text_iff (StatRoll.keyedStats_parse t)

example : (StatRoll.parse "d8;").value = ⟨["d8"], Dice.empty⟩ ∧
    (StatRoll.parse (StatRoll.parse "d8;").value.text).value = ⟨[], ⟨0, 0, 1, 0, 0⟩⟩ := by
  decide

end DicePools
