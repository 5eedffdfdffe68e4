import DicePools.Text.Split

/-! Item ids, kept as canonical hexadecimal text that carries the proof of its form, and read in
four spellings. -/

namespace DicePools

def ItemId.isHexDigit (c : Char) : Bool :=
  ('0' ≤ c && c ≤ '9') || ('a' ≤ c && c ≤ 'f') || ('A' ≤ c && c ≤ 'F')

def HexText (s : String) : Prop := ∀ ch ∈ s.toList, ch = '-' ∨ ItemId.isHexDigit ch = true

-- decided by going through the characters of the text, never by enumerating every character
instance : DecidablePred HexText := fun s => List.decidableBAll _ s.toList

theorem hexText_ofList {cs : List Char} (h : ∀ ch ∈ cs, ch = '-' ∨ ItemId.isHexDigit ch = true) :
    HexText (String.ofList cs) := by
  simpa [HexText] using h

/-- An item's identifier, as its canonical text. -/
@[ext] structure ItemId where
  text : String
  hex : HexText text
  deriving DecidableEq, Repr

namespace ItemId

instance : Inhabited ItemId := ⟨⟨"", by decide⟩⟩

/-- The first eight digits, naming the item in messages. -/
def short (i : ItemId) : String := String.ofList (i.text.toList.take 8)

theorem isHexDigit_toNat_lt {c : Char} (h : isHexDigit c = true) : c.toNat < 128 := by
  simp [isHexDigit, Char.le_def, UInt32.le_iff_toNat_le] at h
  omega

theorem isHexDigit_toLower {c : Char} (h : isHexDigit c = true) : isHexDigit c.toLower = true := by
  -- every digit is below 128, where the claim is checked character by character
  have hascii : ∀ n < 128, isHexDigit (Char.ofNat n) = true →
      isHexDigit (Char.ofNat n).toLower = true := by decide
  simpa using hascii c.toNat (isHexDigit_toNat_lt h) (by simpa using h)

theorem isHexDigit_digitChar {d : Nat} (h : d < 16) : isHexDigit d.digitChar = true := by
  revert d
  decide

theorem isHexDigit_of_mem_toDigits {n : Nat} {c : Char} (h : c ∈ Nat.toDigits 16 n) :
    isHexDigit c = true := by
  induction n using Nat.strongRecOn with
  | ind n ih =>
    rw [Nat.toDigits_eq_if (by decide)] at h
    split at h
    · next hn =>
      rw [List.mem_singleton.mp h]
      exact isHexDigit_digitChar hn
    · next hn =>
      rcases List.mem_append.mp h with h | h
      · exact ih (n / 16) (by omega) h
      · rw [List.mem_singleton.mp h]
        exact isHexDigit_digitChar (Nat.mod_lt _ (by decide))

/-- Digits in groups of 8, 4, 4, 4 and 12, joined by hyphens. -/
def groups (ds : List Char) : List Char :=
  ds.take 8 ++ '-' :: (ds.drop 8).take 4 ++ '-' :: (ds.drop 12).take 4 ++
    '-' :: (ds.drop 16).take 4 ++ '-' :: ds.drop 20

theorem mem_groups {ds : List Char} {ch : Char} (h : ch ∈ groups ds) : ch = '-' ∨ ch ∈ ds := by
  simp only [groups, List.mem_append, List.mem_cons] at h
  rcases h with ((((h | h | h) | h | h) | h | h) | h | h)
  · exact .inr (List.mem_of_mem_take h)
  · exact .inl h
  · exact .inr (List.mem_of_mem_drop (List.mem_of_mem_take h))
  · exact .inl h
  · exact .inr (List.mem_of_mem_drop (List.mem_of_mem_take h))
  · exact .inl h
  · exact .inr (List.mem_of_mem_drop (List.mem_of_mem_take h))
  · exact .inl h
  · exact .inr (List.mem_of_mem_drop h)

/-- The id of 32 hexadecimal digits, lowercased and grouped. -/
def ofDigits (ds : List Char) (h : ds.all isHexDigit = true) : ItemId :=
  ⟨String.ofList (groups (ds.map Char.toLower)), hexText_ofList fun _ hch =>
    (mem_groups hch).imp_right fun hmem => by
      obtain ⟨c, hc, rfl⟩ := List.mem_map.mp hmem
      exact isHexDigit_toLower (List.all_eq_true.mp h c hc)⟩

/-- `n` in lowercase hexadecimal, padded with zeros to `width` digits. -/
def hexPadded (width n : Nat) : List Char :=
  let ds := Nat.toDigits 16 n
  List.replicate (width - ds.length) '0' ++ ds

theorem isHexDigit_of_mem_hexPadded {width n : Nat} {c : Char} (h : c ∈ hexPadded width n) :
    isHexDigit c = true := by
  rcases List.mem_append.mp h with h | h
  · rw [List.eq_of_mem_replicate h]
    rfl
  · exact isHexDigit_of_mem_toDigits h

/-- The id `n`-0000-0000-0000-`n`: the first group and the last group both hold `n`. -/
def ofSerial (n : Nat) : ItemId :=
  ⟨String.ofList (hexPadded 8 n ++ "-0000-0000-0000-".toList ++ hexPadded 12 n),
    hexText_ofList fun ch hch => by
      rcases List.mem_append.mp hch with hch | hch
      · rcases List.mem_append.mp hch with hch | hch
        · exact .inr (isHexDigit_of_mem_hexPadded hch)
        · have hsep : ∀ ch ∈ "-0000-0000-0000-".toList, ch = '-' ∨ ch = '0' := by simp
          rcases hsep ch hch with h | rfl
          · exact .inl h
          · exact .inr rfl
      · exact .inr (isHexDigit_of_mem_hexPadded hch)⟩

/-- Reads 36 characters with hyphens after the 8th, 12th, 16th and 20th digit. -/
def hyphenated? (cs : List Char) : Option ItemId :=
  if cs.length = 36 ∧ cs[8]? = some '-' ∧ cs[13]? = some '-' ∧ cs[18]? = some '-' ∧
      cs[23]? = some '-' then
    let ds := (cs.zipIdx.filter fun (_, i) => i ≠ 8 ∧ i ≠ 13 ∧ i ≠ 18 ∧ i ≠ 23).map (·.1)
    if h : ds.all isHexDigit then some (ofDigits ds h) else none
  else none

/-- Reads an id in one of its four spellings; lengths are counted in bytes. -/
def parse? (s : String) : Option ItemId :=
  let cs := s.toList
  match s.utf8ByteSize with
  | 32 => if h : cs.length = 32 ∧ cs.all isHexDigit then some (ofDigits cs h.2) else none
  | 36 => hyphenated? cs
  | 38 =>
    if cs.head? = some '{' ∧ cs.getLast? = some '}' then hyphenated? (cs.drop 1).dropLast
    else none
  | 45 =>
    if "urn:uuid:".toList.isPrefixOf cs then hyphenated? (cs.drop 9) else none
  | _ => none

/-- The byte offset of each character of a list. -/
def byteOffsets (cs : List Char) (start : Nat) : List (Char × Nat) :=
  match cs with
  | [] => []
  | c :: rest => (c, start) :: byteOffsets rest (start + c.utf8Size)

/-- Why a text is no id: its first bad character, else the first length or group count that is
wrong. -/
def complaint (s : String) : String :=
  let cs := s.toList
  let (body, offset, simple) :=
    if cs.length ≥ 2 ∧ cs.head? = some '{' ∧ cs.getLast? = some '}' then ((cs.drop 1).dropLast, 1, false)
    else if "urn:uuid:".toList.isPrefixOf cs then (cs.drop 9, 9, false)
    else (cs, 0, true)
  let placed := byteOffsets body 0
  match placed.find? fun (c, _) => c ≠ '-' ∧ !isHexDigit c with
  | some (c, i) =>
    "invalid character: expected an optional prefix of " ++ "`urn:uuid:`" ++
      " followed by [0-9a-fA-F-], found " ++ "`" ++ c.toString ++ "`" ++ " at " ++
      toString (i + offset + 1)
  | none =>
    let hyphens := (placed.filter (·.1 = '-')).map (·.2)
    if hyphens.isEmpty ∧ simple then
      "invalid length: expected length 32 for simple format, found " ++ toString s.utf8ByteSize
    else if hyphens.length ≠ 4 then
      "invalid group count: expected 5, found " ++ toString (hyphens.length + 1)
    else
      let starts := [0, 9, 14, 19, 24]
      let expected := [8, 4, 4, 4, 12]
      let groups := (hyphens.zip (starts.zip expected)).zipIdx
      match groups.find? fun ((h, _, _), i) => h + 1 ≠ starts.getD (i + 1) 0 with
      | some ((h, st, e), i) =>
        "invalid group length in group " ++ toString i ++ ": expected " ++ toString e ++
          ", found " ++ toString (h - st)
      | none =>
        "invalid group length in group 4: expected 12, found " ++ toString (s.utf8ByteSize - 24)

/-- Reads an id, or says why the text is none. -/
def parse (s : String) : Except String ItemId :=
  match parse? s with
  | some i => .ok i
  | none => .error (complaint s)

example : (parse? "936DA01F-9abd-4d9d-80c7-02af85c822a8").map (·.text) =
    some "936da01f-9abd-4d9d-80c7-02af85c822a8" := by decide +kernel

example : (ofSerial 1).text = "00000001-0000-0000-0000-000000000001" := by decide +kernel

end ItemId

end DicePools
