import CallWatch.Proofs.Settings.Spelling
import CallWatch.Proofs.Text.Hex

/-! Properties that are written read back. The writer spells each key and each value and puts each
entry on a line of its own, so that reading a file gives the entries in order, and of the values of
a key the last. -/

namespace CallWatch

namespace Properties

variable {upper : Bool} {c : Char} {text spelled : List Char}

/-- The characters that are written as a backslash and a character, each with the latter. -/
def escapes : List (Char × Char) :=
  marks.map (fun c => (c, c)) ++ [('\t', 't'), ('\n', 'n'), ('\r', 'r'), ('\x0c', 'f')]

/-- A character as it is written: behind a backslash, or, if it is a blank, by its code, or by
itself. -/
def escape (upper : Bool) (c : Char) : List Char :=
  match escapes.lookup c with
  | some d => ['\\', d]
  | none => if Text.isBlank c then '\\' :: 'u' :: Hex.ofCode upper c.toNat else [c]

/-- The text as it is written in an entry, its codes in upper case or in lower case. -/
def writeText (upper : Bool) (text : List Char) : List Char :=
  text.flatMap (escape upper)

def writeEntry (upper : Bool) (entry : List Char × List Char) : List Char :=
  writeText upper entry.1 ++ '=' :: writeText upper entry.2

def writeEntries (upper : Bool) (entries : List (List Char × List Char)) : List Char :=
  entries.flatMap fun entry => writeEntry upper entry ++ ['\n']

/-- The file of the given keys and values, one line for each of the pairs. -/
def write (upper : Bool) (pairs : List (String × String)) : String :=
  String.ofList (writeEntries upper (pairs.map fun pair => (pair.1.toList, pair.2.toList)))

theorem toNat_lt_of_isBlank (h : Text.isBlank c) : c.toNat < 65536 := by
  obtain ⟨range, hrange, -, hhigh⟩ := Text.isBlank_iff.mp h
  have hbound : ∀ range ∈ Text.blankRanges, range.2 < 65536 := by decide
  exact Nat.lt_of_le_of_lt hhigh (hbound range hrange)

/-- The four digits of the code of a character stand for the character. -/
theorem exists_character? (upper : Bool) (h : c.toNat < 65536) :
    ∃ w x y z, Hex.ofCode upper c.toNat = [w, x, y, z] ∧ character? w x y z = some c := by
  refine ⟨_, _, _, _, rfl, ?_⟩
  have hplus : Hex.digit upper (c.toNat / 4096) ≠ '+' := by
    intro heq
    have hdigit : (Hex.digit upper (c.toNat / 4096)).isAlphanum := Hex.isAlphanum_digit (by omega)
    rw [heq] at hdigit
    exact absurd hdigit (by decide)
  have hnumber : Hex.number? (Hex.ofCode upper c.toNat) = some c.toNat := Hex.number?_ofCode h
  rw [Hex.ofCode] at hnumber
  have hvalid : c.toNat.isValidChar := c.valid
  rw [character?, if_neg hplus, hnumber, Option.bind_eq_bind, Option.bind_some, if_pos hvalid,
    Char.ofNat_toNat]

theorem meaning_of_mem_escapes : ∀ pair ∈ escapes,
    escaped pair.2 = pair.1 ∧ pair.2 ≠ 'u' ∧ ¬Text.isBlank pair.2 := by
  decide

theorem Spells.escape_append (c : Char) (h : Spells text spelled) :
    Spells (c :: text) (escape upper c ++ spelled) := by
  rw [escape]
  split
  case h_1 d hescape =>
    have hmem : (c, d) ∈ escapes := by
      obtain ⟨front, back, hsplit, -⟩ := List.lookup_eq_some_iff.mp hescape
      rw [hsplit]
      exact List.mem_append_right front List.mem_cons_self
    obtain ⟨meaning, kind, shown⟩ := meaning_of_mem_escapes (c, d) hmem
    exact .paired meaning kind shown h
  case h_2 hnone =>
    split
    case isTrue hblank =>
      have hcode := toNat_lt_of_isBlank hblank
      obtain ⟨w, x, y, z, hdigits, hmeaning⟩ := exists_character? upper hcode
      have hplain : ∀ d ∈ [w, x, y, z], isPlain d := fun d hd =>
        isPlain_of_isAlphanum (Hex.forall_mem_ofCode hcode d (hdigits ▸ hd))
      rw [hdigits]
      exact .coded hmeaning hplain h
    case isFalse hblank =>
      have hmark : c ∉ marks := by
        intro hc
        have hself : (c, c) ∈ escapes := List.mem_append_left _ (List.mem_map_of_mem hc)
        exact absurd (List.lookup_eq_none_iff.mp hnone _ hself) (by simp)
      exact .plain (isPlain_iff.mpr ⟨hblank, hmark⟩) h

theorem spells_writeText (text : List Char) : Spells text (writeText upper text) := by
  induction text with
  | nil => exact .nil
  | cons c text ih => exact ih.escape_append c

theorem spellsEntry_writeEntry (entry : List Char × List Char) :
    SpellsEntry entry (writeEntry upper entry) :=
  .mk (spells_writeText entry.1) (spells_writeText entry.2)

/-- The entries that are written are those that are read, in the same order. -/
theorem entries_writeEntries {written : List (List Char × List Char)}
    (named : ∀ entry ∈ written, entry.1 ≠ []) : entries (writeEntries upper written) = written := by
  induction written with
  | nil => rfl
  | cons entry written ih =>
    obtain ⟨hentry, hwritten⟩ := List.forall_mem_cons.mp named
    rw [writeEntries, List.flatMap_cons, List.append_assoc, List.singleton_append,
      entries_append (spellsEntry_writeEntry entry).not_goesOn,
      (spellsEntry_writeEntry entry).entries_eq hentry, ← writeEntries, ih hwritten]
    rfl

/-- Under a key stands the last value of the key. -/
theorem getElem?_ofEntries (pairs : List (String × String)) (key : String) :
    (ofEntries (pairs.map fun pair => (pair.1.toList, pair.2.toList)))[key]? =
      pairs.reverse.lookup key := by
  have hpairs : ((pairs.map fun pair => (pair.1.toList, pair.2.toList)).map fun entry =>
      (String.ofList entry.1, String.ofList entry.2)) = pairs := by
    simp only [List.map_map, Function.comp_def, String.ofList_toList, Prod.eta, List.map_id']
  rw [ofEntries, hpairs, Std.ExtTreeMap.getElem?_insertMany_list,
    List.findSomeRev?_eq_findSome?_reverse, List.lookup_eq_findSome?,
    Std.ExtTreeMap.getElem?_empty, Option.or_none]
  congr
  funext pair
  simp only [Std.LawfulEqCmp.compare_eq_iff_eq, beq_iff_eq, eq_comm (a := key)]

/-- A file that is written for pairs with keys, with the line end of its last line or without it,
gives each key the last value that it has among the pairs, and holds no other key. -/
theorem parse_of_written {pairs : List (String × String)} (named : ∀ pair ∈ pairs, pair.1 ≠ "")
    {text : String} (written : text = write upper pairs ∨ text ++ "\n" = write upper pairs)
    (key : String) : (parse text)[key]? = pairs.reverse.lookup key := by
  have hnamed : ∀ entry ∈ pairs.map fun pair => (pair.1.toList, pair.2.toList), entry.1 ≠ [] := by
    refine List.forall_mem_map.mpr fun pair hpair => ?_
    simpa using named pair hpair
  have hwrite : entries (write upper pairs).toList =
      pairs.map fun pair => (pair.1.toList, pair.2.toList) := by
    rw [write, String.toList_ofList, entries_writeEntries hnamed]
  have hentries : entries text.toList = entries (write upper pairs).toList := by
    rcases written with hall | hline
    · rw [hall]
    · rw [← hline, String.toList_append]
      exact (entries_concat_newline _).symm
  rw [parse, hentries, hwrite, getElem?_ofEntries]

/-- The second value of the key counts, and the file gives back blanks, marks and empty values. -/
theorem parse_of_written_twice :
    let pairs := [("a b", "1"), ("#k=", "x\\\u2003\n"), ("a b", "")]
    (∀ pair ∈ pairs, pair.1 ≠ "") ∧
      write true pairs = "a\\u0020b=1\n\\#k\\==x\\\\\\u2003\\n\na\\u0020b=\n" ∧
      (parse (write true pairs))["a b"]? = some "" ∧
      (parse (write true pairs))["#k="]? = some "x\\\u2003\n" := by
  have hnamed : ∀ pair ∈ [("a b", "1"), ("#k=", "x\\\u2003\n"), ("a b", "")], pair.1 ≠ "" := by
    decide
  exact ⟨hnamed, by decide, parse_of_written hnamed (.inl rfl) "a b",
    parse_of_written hnamed (.inl rfl) "#k="⟩

end Properties

end CallWatch
