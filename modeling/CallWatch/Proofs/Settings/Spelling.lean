import CallWatch.Proofs.Settings.Joined

/-! Spellings of texts in an entry. A text is spelled with escapes so that no character of it parts
the key from the value, begins a comment, is trimmed away or ends the line, and each pass over the
lines of a file leaves such a spelling whole until its escapes are replaced. -/

namespace CallWatch

namespace Properties

variable {c : Char} {text spelled key keySpelled : List Char}

/-- The characters that are written behind a backslash. -/
def marks : List Char :=
  ['\\', '=', ':', '#', '!']

/-- A plain character stands for itself wherever it is. -/
def isPlain (c : Char) : Bool :=
  !Text.isBlank c && c ∉ marks

theorem isPlain_iff : isPlain c ↔ ¬Text.isBlank c ∧ c ∉ marks := by
  simp [isPlain]

theorem ne_of_isPlain {d : Char} (h : isPlain c) (hd : d ∈ marks) : c ≠ d :=
  fun heq => (isPlain_iff.mp h).2 (heq ▸ hd)

theorem isPlain_of_isAlphanum (h : c.isAlphanum) : isPlain c := by
  delta Char.isAlphanum Char.isAlpha Char.isUpper Char.isLower Char.isDigit at h
  simp only [Bool.or_eq_true, Bool.and_eq_true, decide_eq_true_eq, UInt32.le_iff_toNat_le,
    ge_iff_le] at h
  change ((65 ≤ c.toNat ∧ c.toNat ≤ 90) ∨ (97 ≤ c.toNat ∧ c.toNat ≤ 122)) ∨
    (48 ≤ c.toNat ∧ c.toNat ≤ 57) at h
  refine isPlain_iff.mpr ⟨?_, fun hc => ?_⟩
  · rw [Text.isBlank_iff]
    simp only [Text.blankRanges, List.exists_mem_cons_iff, List.not_mem_nil, false_and, exists_false,
      or_false]
    omega
  · simp only [marks, List.mem_cons, List.not_mem_nil, or_false] at hc
    obtain rfl | rfl | rfl | rfl | rfl := hc <;> revert h <;> decide

theorem splitKey_cons_of_isPlain (h : isPlain c) (rest : List Char) :
    splitKey (c :: rest) = (c :: (splitKey rest).1, (splitKey rest).2) := by
  have hends : ¬(c = '=' ∨ c = ':' ∨ Text.isBlank c) := by
    rintro (heq | heq | hblank)
    · exact ne_of_isPlain h (by decide) heq
    · exact ne_of_isPlain h (by decide) heq
    · exact (isPlain_iff.mp h).1 hblank
  rw [splitKey, if_neg hends]
  all_goals simp [ne_of_isPlain h (d := '\\') (by decide)]

theorem unescape_cons_of_ne (h : c ≠ '\\') (rest : List Char) :
    unescape (c :: rest) = c :: unescape rest := by
  rw [unescape]
  all_goals simp [h]

theorem unescape_backslash (h : c ≠ 'u') (rest : List Char) :
    unescape ('\\' :: c :: rest) = escaped c :: unescape rest := by
  rw [unescape]
  all_goals simp [h]

/-- A spelling of a text: plain characters, characters behind a backslash, and codes. A backslash
before `u` begins a code, and before a blank it is not safe, as the blank may be trimmed away. -/
inductive Spells : List Char → List Char → Prop
  | nil : Spells [] []
  | plain {c : Char} {text spelled : List Char} (plain : isPlain c) (rest : Spells text spelled) :
      Spells (c :: text) (c :: spelled)
  | paired {c d : Char} {text spelled : List Char} (meaning : escaped d = c) (kind : d ≠ 'u')
      (shown : ¬Text.isBlank d) (rest : Spells text spelled) :
      Spells (c :: text) ('\\' :: d :: spelled)
  | coded {c w x y z : Char} {text spelled : List Char} (meaning : character? w x y z = some c)
      (digits : ∀ d ∈ [w, x, y, z], isPlain d) (rest : Spells text spelled) :
      Spells (c :: text) ('\\' :: 'u' :: w :: x :: y :: z :: spelled)

namespace Spells

theorem self (h : ∀ c ∈ text, isPlain c) : Spells text text := by
  induction text with
  | nil => exact .nil
  | cons c text ih =>
    exact .plain (h c List.mem_cons_self) (ih fun d hd => h d (List.mem_cons_of_mem c hd))

/-- A spelling has no blank, so that trimming leaves it and a line holds it. -/
theorem not_isBlank (h : Spells text spelled) : ∀ c ∈ spelled, ¬Text.isBlank c := by
  induction h with
  | nil => exact List.forall_mem_nil _
  | plain hplain _ ih => exact List.forall_mem_cons.mpr ⟨(isPlain_iff.mp hplain).1, ih⟩
  | paired _ _ shown _ ih =>
    exact List.forall_mem_cons.mpr ⟨by decide, List.forall_mem_cons.mpr ⟨shown, ih⟩⟩
  | coded _ digits _ ih =>
    refine List.forall_mem_cons.mpr ⟨by decide, List.forall_mem_cons.mpr ⟨by decide, ?_⟩⟩
    exact List.forall_mem_append.mpr ⟨fun d hd => (isPlain_iff.mp (digits d hd)).1, ih⟩

/-- A spelling begins no comment. -/
theorem not_isPassedOver (h : Spells text spelled) (hne : text ≠ []) (rest : List Char) :
    ¬isPassedOver (spelled ++ rest) := by
  cases h with
  | nil => exact absurd rfl hne
  | plain hplain =>
    simp [isPassedOver, ne_of_isPlain hplain (d := '#') (by decide),
      ne_of_isPlain hplain (d := '!') (by decide)]
  | paired => exact of_decide_eq_false rfl
  | coded => exact of_decide_eq_false rfl

/-- A line that is a spelling does not go on, as its backslashes stand in pairs or before something
else. -/
theorem continues_eq_false (h : Spells text spelled) : continues spelled = false := by
  induction h with
  | nil => rfl
  | @plain c text spelled hplain _ ih =>
    have hend : continues [c] = false := continues_concat_of_ne (ne_of_isPlain hplain (by decide)) []
    exact (continues_append hend spelled).trans ih
  | @paired c d text spelled _ _ _ _ ih =>
    -- two backslashes are a pair, and any other character ends the row of backslashes
    have hend : continues ['\\', d] = false := by
      by_cases hd : d = '\\'
      · rw [hd]
        rfl
      · exact continues_concat_of_ne hd ['\\']
    exact (continues_append hend spelled).trans ih
  | @coded c w x y z text spelled _ digits _ ih =>
    -- the last digit of the code stands behind its backslash
    have hend : continues ['\\', 'u', w, x, y, z] = false :=
      continues_concat_of_ne (ne_of_isPlain (digits z (by simp)) (by decide)) ['\\', 'u', w, x, y]
    exact (continues_append hend spelled).trans ih

/-- The search for the end of a key passes over a spelling. -/
theorem splitKey_append (h : Spells text spelled) (rest : List Char) :
    splitKey (spelled ++ rest) = (spelled ++ (splitKey rest).1, (splitKey rest).2) := by
  induction h with
  | nil => rfl
  | plain hplain _ ih => rw [List.cons_append, splitKey_cons_of_isPlain hplain, ih]; rfl
  | paired _ _ _ _ ih => rw [List.cons_append, List.cons_append, splitKey, ih]; rfl
  | coded _ digits _ ih =>
    simp only [List.forall_mem_cons] at digits
    obtain ⟨hw, hx, hy, hz, -⟩ := digits
    simp only [List.cons_append, splitKey, splitKey_cons_of_isPlain, hw, hx, hy, hz, ih]

/-- Replacing its escapes turns a spelling into the text. -/
theorem unescape_append (h : Spells text spelled) (rest : List Char) :
    unescape (spelled ++ rest) = text ++ unescape rest := by
  induction h with
  | nil => rfl
  | plain hplain _ ih =>
    rw [List.cons_append, unescape_cons_of_ne (ne_of_isPlain hplain (by decide)), ih]
    rfl
  | paired meaning kind _ _ ih =>
    rw [List.cons_append, List.cons_append, unescape_backslash kind, meaning, ih]
    rfl
  | coded meaning _ _ ih =>
    simp only [List.cons_append]
    rw [unescape, meaning]
    simp only [ih]

theorem unescape_eq (h : Spells text spelled) : unescape spelled = text := by
  have happend := h.unescape_append []
  rwa [List.append_nil, unescape, List.append_nil] at happend

end Spells

theorem valueText_equals {rest : List Char} (h : ∀ c ∈ rest, ¬Text.isBlank c) :
    valueText ('=' :: rest) = rest := by
  rw [valueText, Text.trimStart, List.dropWhile_cons_of_neg (by decide)]
  exact Text.trimStart_append (List.forall_mem_nil _) fun c hc => h c (List.mem_of_mem_head? hc)

/-- An entry of a spelled key gives the key, and the rest behind the equals sign if no blank stands
in it. -/
theorem splitEntry_of_spells (hkey : Spells key keySpelled) {rest : List Char}
    (hrest : ∀ c ∈ rest, ¬Text.isBlank c) :
    splitEntry (keySpelled ++ '=' :: rest) = (key, unescape rest) := by
  have hsplit : splitKey (keySpelled ++ '=' :: rest) = (keySpelled, '=' :: rest) := by
    rw [hkey.splitKey_append, splitKey, if_pos (.inl rfl), List.append_nil]
    all_goals simp
  simp only [splitEntry, hsplit, valueText_equals hrest, hkey.unescape_eq]

/-- A spelling of an entry: one of its key, an equals sign, and one of its value. -/
inductive SpellsEntry (entry : List Char × List Char) : List Char → Prop
  | mk {keySpelled valueSpelled : List Char} (key : Spells entry.1 keySpelled)
      (value : Spells entry.2 valueSpelled) : SpellsEntry entry (keySpelled ++ '=' :: valueSpelled)

namespace SpellsEntry

variable {entry : List Char × List Char} {line : List Char}

theorem not_isBlank (h : SpellsEntry entry line) : ∀ c ∈ line, ¬Text.isBlank c := by
  obtain ⟨hkey, hvalue⟩ := h
  refine List.forall_mem_append.mpr ⟨hkey.not_isBlank, ?_⟩
  exact List.forall_mem_cons.mpr ⟨by decide, hvalue.not_isBlank⟩

theorem newline_not_mem (h : SpellsEntry entry line) : '\n' ∉ line :=
  fun hmem => h.not_isBlank _ hmem (by decide)

theorem trim_eq (h : SpellsEntry entry line) : Text.trim line = line :=
  Text.trim_eq_self h.not_isBlank

theorem not_isPassedOver (h : SpellsEntry entry line) (named : entry.1 ≠ []) (rest : List Char) :
    ¬isPassedOver (line ++ rest) := by
  obtain ⟨hkey, -⟩ := h
  rw [List.append_assoc]
  exact hkey.not_isPassedOver named _

theorem continues_eq_false (h : SpellsEntry entry line) : continues line = false := by
  obtain ⟨-, hvalue⟩ := h
  rw [List.append_cons, continues_append (continues_concat_of_ne (by decide) _)]
  exact hvalue.continues_eq_false

theorem splitEntry_append (h : SpellsEntry entry line) {rest : List Char}
    (hrest : ∀ c ∈ rest, ¬Text.isBlank c) :
    splitEntry (line ++ rest) = (entry.1, entry.2 ++ unescape rest) := by
  obtain ⟨hkey, hvalue⟩ := h
  rw [List.append_assoc, List.cons_append,
    splitEntry_of_spells hkey (List.forall_mem_append.mpr ⟨hvalue.not_isBlank, hrest⟩),
    hvalue.unescape_append]

theorem unescape_eq (h : SpellsEntry entry line) :
    unescape line = entry.1 ++ '=' :: entry.2 := by
  obtain ⟨hkey, hvalue⟩ := h
  rw [hkey.unescape_append, unescape_cons_of_ne (by decide), hvalue.unescape_eq]

theorem not_goesOn (h : SpellsEntry entry line) : ¬goesOn line := by
  rw [goesOn_of_line h.newline_not_mem, h.trim_eq, h.continues_eq_false]
  exact Bool.false_ne_true

/-- A line that spells an entry with a key holds the entry. -/
theorem entries_eq (h : SpellsEntry entry line) (named : entry.1 ≠ []) : entries line = [entry] := by
  have hover : ¬isPassedOver line := by simpa using h.not_isPassedOver named []
  have hsplit : splitEntry line = entry := by
    simpa [unescape] using h.splitEntry_append (List.forall_mem_nil _)
  refine entries_eq_singleton ?_ hsplit named
  rw [Text.lines_eq_singleton h.newline_not_mem, joinLines_of_not_continues, h.trim_eq]
  · rfl
  · rw [h.trim_eq]
    exact fun hpassed => hover hpassed.2
  · rw [h.trim_eq, h.continues_eq_false]
    exact Bool.false_ne_true

end SpellsEntry

/-- Letters and digits are a spelling of themselves. -/
theorem spellsEntry_of_isAlphanum {key value : List Char} (hkey : ∀ c ∈ key, c.isAlphanum)
    (hvalue : ∀ c ∈ value, c.isAlphanum) : SpellsEntry (key, value) (key ++ '=' :: value) :=
  .mk (.self fun c hc => isPlain_of_isAlphanum (hkey c hc))
    (.self fun c hc => isPlain_of_isAlphanum (hvalue c hc))

end Properties

end CallWatch
