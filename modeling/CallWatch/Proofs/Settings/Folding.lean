import CallWatch.Proofs.Settings.Continuation
import Mathlib.Data.Bool.AllAny

/-! Folded lines. A line may be folded at any place behind its first character that is not a blank,
in the key, around the separator or in the value: behind a backslash that no other one takes the
meaning from, with blanks of any number before what goes on. The entries stay the same. -/

namespace CallWatch

namespace Properties

variable {line blanks text : List Char} {c : Char}

/-- A line that ends in an even number of backslashes, or in none. -/
def EndsEven (line : List Char) : Prop :=
  ∃ stem n, line = stem ++ List.replicate (2 * n) '\\' ∧ EndsOtherwise stem

/-- One more backslash at the end of a line makes it go on. -/
theorem EndsEven.endsOdd (h : EndsEven line) : EndsOdd (line ++ ['\\']) := by
  obtain ⟨stem, n, rfl, hstem⟩ := h
  refine ⟨stem, n, [], ?_, hstem, List.forall_mem_nil _⟩
  rw [List.append_nil, List.append_assoc, ← List.replicate_succ']

/-- The first part of a folded line goes on, and all of it but the backslash is kept. -/
theorem trim_fold (line : List Char) :
    Text.trim (line ++ ['\\']) = Text.trimStart line ++ ['\\'] :=
  Text.trim_append_cons line (by decide) []

theorem EndsEven.continues_trimStart (h : EndsEven line) :
    continues (Text.trimStart line) = false := by
  have hgoes : continues (Text.trim (line ++ ['\\'])) := (continues_trim_iff _).mpr h.endsOdd
  rw [trim_fold, continues_concat_backslash] at hgoes
  simpa using hgoes

/-- A line that holds an entry holds one whatever is put behind it. -/
theorem not_isPassedOver_append (entry : ¬HoldsNone line) (back : List Char) :
    ¬isPassedOver (Text.trimStart line ++ back) := by
  rw [← isPassedOver_trimStart_iff] at entry
  cases hstart : Text.trimStart line with
  | nil => exact absurd (hstart ▸ rfl) entry
  | cons mark rest =>
    rw [hstart] at entry
    exact entry

/-- A line folded in two is joined to what it was. -/
theorem joinLines_fold (entry : ¬HoldsNone line) (even : EndsEven line)
    (hblanks : ∀ b ∈ blanks, Text.isBlank b) (hc : ¬Text.isBlank c) (rest : List (List Char)) :
    joinLines none ((line ++ ['\\']) :: (blanks ++ c :: text) :: rest) =
      joinLines none ((line ++ c :: text) :: rest) := by
  have hfirst : Text.trim (line ++ ['\\']) = Text.trimStart line ++ ['\\'] := trim_fold line
  have hnext : Text.trim (blanks ++ c :: text) = c :: Text.trimEnd text := by
    rw [Text.trim_append_cons blanks hc, Text.trimStart, List.dropWhile_eq_nil_iff.mpr hblanks]
    rfl
  have hwhole : Text.trim (line ++ c :: text) = Text.trimStart line ++ c :: Text.trimEnd text :=
    Text.trim_append_cons line hc text
  -- The second part goes on just if the whole line does, as the first ends in whole pairs.
  have hparity :
      continues (Text.trim (line ++ c :: text)) = continues (c :: Text.trimEnd text) := by
    rw [hwhole, continues_append even.continues_trimStart]
  have hopens : ¬isPassedOver (Text.trim (line ++ ['\\'])) :=
    hfirst ▸ not_isPassedOver_append entry _
  have hholds : ¬isPassedOver (Text.trim (line ++ c :: text)) :=
    hwhole ▸ not_isPassedOver_append entry _
  have hopen (head : List Char) :
      ¬((some head).isNone ∧ isPassedOver (Text.trim (blanks ++ c :: text))) :=
    fun hover => Bool.false_ne_true hover.1
  rw [joinLines_of_continues (fun hover => hopens hover.2)
    ((continues_trim_iff _).mpr even.endsOdd), hfirst, List.dropLast_concat]
  by_cases hgoes : continues (c :: Text.trimEnd text)
  · rw [joinLines_of_continues (hopen _) (by rwa [hnext]), hnext,
      joinLines_of_continues (fun hover => hholds hover.2) (by rwa [hparity]), hwhole,
      List.dropLast_append_of_ne_nil (List.cons_ne_nil c _)]
    rfl
  · rw [joinLines_of_not_continues (hopen _) (by rwa [hnext]), hnext,
      joinLines_of_not_continues (fun hover => hholds hover.2) (by rwa [hparity]), hwhole]
    rfl

/-- A text whose first line is folded has the entries of the text. -/
theorem entries_fold (hline : '\n' ∉ line) (entry : ¬HoldsNone line) (even : EndsEven line)
    (hblanks : ∀ b ∈ blanks, Text.isBlank b ∧ b ≠ '\n') (hc : ¬Text.isBlank c)
    (text : List Char) :
    entries (line ++ '\\' :: '\n' :: (blanks ++ c :: text)) = entries (line ++ c :: text) := by
  obtain ⟨last, rest, htext⟩ := List.exists_cons_of_ne_nil (Text.lines_ne_nil text)
  have hlines {front : List Char} (hfront : '\n' ∉ front) :
      Text.lines (front ++ c :: text) = (front ++ c :: last) :: rest := by
    have hc' : '\n' ∉ front ++ [c] := by
      rintro hmem
      rcases List.mem_append.mp hmem with hmem | hmem
      · exact hfront hmem
      · exact hc (List.mem_singleton.mp hmem ▸ by decide)
    rw [List.append_cons, Text.lines_append_of_not_mem hc', htext, List.modifyHead_cons,
      List.append_assoc]
    rfl
  have hfolded : '\n' ∉ line ++ ['\\'] := by simpa using hline
  have hfront : '\n' ∉ blanks := fun hmem => (hblanks _ hmem).2 rfl
  rw [entries, List.append_cons, Text.lines_append, Text.lines_eq_singleton hfolded,
    List.singleton_append, hlines hfront,
    joinLines_fold entry even (fun b hb => (hblanks b hb).1) hc, entries, hlines hline]

/-- A line of a text that holds an entry, and in which none goes on, may be folded at any place
where it ends in an even number of backslashes and goes on with something else than a blank. The
properties of the text stay the same, whatever blanks the next line begins with. -/
theorem parse_fold {before line blanks next : String}
    (fresh : before = "" ∨ ∃ above, before = above ++ "\n" ∧ isUnfinished above.toList = false)
    (hline : '\n' ∉ line.toList) (entry : ¬HoldsNone line.toList) (even : EndsEven line.toList)
    (hblanks : ∀ b ∈ blanks.toList, Text.isBlank b ∧ b ≠ '\n')
    (hnext : ∃ c rest, next.toList = c :: rest ∧ ¬Text.isBlank c) (after : String) :
    parse (before ++ line ++ "\\\n" ++ blanks ++ next ++ after) =
      parse (before ++ line ++ next ++ after) := by
  obtain ⟨c, rest, hnext, hc⟩ := hnext
  have hfold := entries_fold hline entry even hblanks hc (rest ++ after.toList)
  have hmark : "\\\n".toList = ['\\', '\n'] := rfl
  simp only [parse, String.toList_append, hmark, hnext, List.append_assoc, List.cons_append,
    List.nil_append]
  rcases fresh with rfl | ⟨above, rfl, hfinished⟩
  · exact congrArg ofEntries hfold
  · have hend : "\n".toList = ['\n'] := rfl
    simp only [String.toList_append, hend, List.append_assoc, List.cons_append, List.nil_append]
    rw [entries_append_of_finished hfinished, hfold, ← entries_append_of_finished hfinished]

/-- A line below a comment is folded inside its key, behind an escaped backslash and in front of a
character that would begin a comment on a line of its own. -/
theorem parse_fold_of_key :
    let above := "# a\\#b=0\\"
    let line := " a\\\\"
    let blanks := " \t"
    let text := above ++ "\n" ++ line ++ "\\\n" ++ blanks ++ "#b" ++ " = 1\\\n2\nc=3"
    isUnfinished above.toList = false ∧ '\n' ∉ line.toList ∧ ¬HoldsNone line.toList ∧
      EndsEven line.toList ∧ (∀ b ∈ blanks.toList, Text.isBlank b ∧ b ≠ '\n') ∧
      parse text = parse (above ++ "\n" ++ line ++ "#b" ++ " = 1\\\n2\nc=3") ∧
      (parse text)["a\\#b"]? = some "12" := by
  intro above line blanks text
  have hline : '\n' ∉ line.toList := by decide
  have hentry : ¬HoldsNone line.toList := by
    rw [← isPassedOver_trim_iff]
    decide
  have heven : EndsEven line.toList := by
    refine ⟨[' ', 'a'], 1, by decide, ?_⟩
    rintro c ⟨⟩
    decide
  have hblanks : ∀ b ∈ blanks.toList, Text.isBlank b ∧ b ≠ '\n' :=
    List.all_iff_forall_prop.mp (by decide)
  have hfold : parse text = parse (above ++ "\n" ++ line ++ "#b" ++ " = 1\\\n2\nc=3") :=
    parse_fold (.inr ⟨above, rfl, by decide⟩) hline hentry heven hblanks
      ⟨'#', ['b'], rfl, by decide⟩ _
  refine ⟨by decide, hline, hentry, heven, hblanks, hfold, ?_⟩
  rw [hfold]
  decide

end Properties

end CallWatch
