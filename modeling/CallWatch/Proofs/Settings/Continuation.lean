import CallWatch.Proofs.Settings.Spelling
import Mathlib.Data.List.Induction

/-! Lines that go on in the next one. What counts is the number of backslashes that a line ends in
when the blanks behind them are taken away: a line with an odd number absorbs the line below it, so
that an escaped blank at the end of a line is lost and its backslash joins the two lines. -/

namespace CallWatch

namespace Properties

variable {line stem : List Char}

/-- A text that is empty or ends in something else than a backslash. -/
def EndsOtherwise (text : List Char) : Prop :=
  ∀ c ∈ text.getLast?, c ≠ '\\'

/-- A line that ends in an odd number of backslashes and any blanks behind them. -/
def EndsOdd (line : List Char) : Prop :=
  ∃ stem n blanks, line = stem ++ (List.replicate (2 * n + 1) '\\' ++ blanks) ∧
    EndsOtherwise stem ∧ ∀ c ∈ blanks, Text.isBlank c

/-- A line is a text that ends otherwise and a row of backslashes. -/
theorem exists_stem (line : List Char) :
    ∃ stem k, line = stem ++ List.replicate k '\\' ∧ EndsOtherwise stem := by
  induction line using List.reverseRecOn with
  | nil => exact ⟨[], 0, rfl, fun c hc => nomatch hc⟩
  | append_singleton line c ih =>
    by_cases hc : c = '\\'
    · obtain ⟨stem, k, hline, hstem⟩ := ih
      refine ⟨stem, k + 1, ?_, hstem⟩
      rw [hline, hc, List.replicate_succ', List.append_assoc]
    · refine ⟨line ++ [c], 0, (List.append_nil _).symm, fun d hd => ?_⟩
      rw [List.getLast?_concat, Option.mem_some_iff] at hd
      exact hd ▸ hc

theorem EndsOtherwise.continues_eq_false (h : EndsOtherwise stem) : continues stem = false := by
  rcases List.eq_nil_or_concat stem with hnil | ⟨front, c, hstem⟩
  · rw [hnil]
    rfl
  · rw [hstem, List.concat_eq_append]
    exact continues_concat_of_ne (h c (by simp [hstem])) front

theorem continues_append_replicate (h : EndsOtherwise stem) (k : Nat) :
    continues (stem ++ List.replicate k '\\') = decide (k % 2 = 1) := by
  rw [continues_append h.continues_eq_false]
  simp [continues]

theorem endsOtherwise_append {before : List Char} (hbefore : ∀ c ∈ before, Text.isBlank c)
    (hstem : EndsOtherwise stem) : EndsOtherwise (before ++ stem) := by
  intro c hc
  rw [List.getLast?_append] at hc
  cases hlast : stem.getLast? with
  | some d =>
    rw [hlast] at hc
    exact hstem c (hlast.trans hc)
  | none =>
    rw [hlast, Option.none_or] at hc
    rintro rfl
    exact absurd (hbefore _ (List.mem_of_mem_getLast? hc)) (by decide)

theorem endsOtherwise_trimStart (h : EndsOtherwise stem) : EndsOtherwise (Text.trimStart stem) := by
  intro c hc
  have hlast : (stem.takeWhile Text.isBlank ++ Text.trimStart stem).getLast? = some c := by
    rw [List.getLast?_append, Option.mem_def.mp hc]
    rfl
  rw [Text.trimStart, List.takeWhile_append_dropWhile] at hlast
  exact h c hlast

/-- A trimmed line goes on in the next one just when the line ends in an odd number of backslashes
and blanks. -/
theorem continues_trim_iff (line : List Char) : continues (Text.trim line) ↔ EndsOdd line := by
  constructor
  · intro hgoes
    obtain ⟨stem, k, htrim, hstem⟩ := exists_stem (Text.trim line)
    rw [htrim, continues_append_replicate hstem, decide_eq_true_eq] at hgoes
    obtain ⟨before, after, hline, hbefore, hafter⟩ := Text.exists_trim line
    refine ⟨before ++ stem, k / 2, after, ?_, endsOtherwise_append hbefore hstem, hafter⟩
    have hk : 2 * (k / 2) + 1 = k := by omega
    rw [hk, List.append_assoc, ← List.append_assoc stem, ← htrim, ← hline]
  · rintro ⟨front, n, blanks, rfl, hfront, hblanks⟩
    have hshown : ∀ c ∈ List.replicate (2 * n + 1) '\\', ¬Text.isBlank c := by
      intro c hc
      rw [List.eq_of_mem_replicate hc]
      decide
    rw [← List.append_assoc, Text.trim_append_blanks _ hblanks,
      Text.trim_append_core front (fun c hc => hshown c (List.mem_of_mem_head? hc)) (by simp)
        (fun c hc => hshown c (List.mem_of_mem_getLast? hc)),
      continues_append_replicate (endsOtherwise_trimStart hfront), decide_eq_true_eq]
    omega

theorem not_goesOn_iff (hline : '\n' ∉ line) : ¬goesOn line ↔ ¬EndsOdd line := by
  rw [goesOn_of_line hline, continues_trim_iff]

/-- A line that goes on is joined with the line below it. -/
theorem joinLines_of_endsOdd {next : List Char} (hline : EndsOdd line)
    (entry : ¬isPassedOver (Text.trim line)) (hnext : ¬EndsOdd next) :
    joinLines none [line, next] = [(Text.trim line).dropLast ++ Text.trim next] := by
  rw [joinLines_of_continues (fun h => entry h.2) ((continues_trim_iff line).mpr hline)]
  exact joinLines_of_not_continues (fun h => Bool.false_ne_true h.1)
    (mt (continues_trim_iff next).mp hnext)

/-- The lines below a line that holds an entry have their entries for themselves just when the line
does not end in an odd number of backslashes and blanks. -/
theorem separates_iff (hline : '\n' ∉ line) (hentry : entries line ≠ []) :
    (∀ after, entries (line ++ '\n' :: after) = entries line ++ entries after) ↔
      ¬EndsOdd line := by
  constructor
  · intro hseparate hodd
    have hover : ¬isPassedOver (Text.trim line) := by
      intro hover
      refine hentry ?_
      rw [entries, Text.lines_eq_singleton hline, joinLines_of_isPassedOver hover]
      rfl
    -- One line more, with an entry of its own, would make one entry more.
    have hnext : ¬EndsOdd ['a'] := by
      rw [← continues_trim_iff]
      decide
    have hjoined : (entries (line ++ '\n' :: ['a'])).length ≤ 1 := by
      rw [entries, Text.lines_append, Text.lines_eq_singleton hline,
        Text.lines_eq_singleton (by decide), List.singleton_append,
        joinLines_of_endsOdd hodd hover hnext]
      exact List.length_filter_le _ _
    have hlength := List.length_pos_iff.mpr hentry
    rw [hseparate, List.length_append, show (entries ['a']).length = 1 from rfl] at hjoined
    omega
  · intro hends after
    exact entries_append ((not_goesOn_iff hline).mpr hends) after

/-- A line that spells an entry and ends in a backslash and blanks, such as an escaped blank,
absorbs the line below it, which stands behind the value of the entry. -/
theorem SpellsEntry.entries_of_escaped_blank {entry other : List Char × List Char}
    {next blanks : List Char} (hline : SpellsEntry entry line) (hnext : SpellsEntry other next)
    (named : entry.1 ≠ []) (hblanks : ∀ c ∈ blanks, Text.isBlank c)
    (hnewline : '\n' ∉ line ++ '\\' :: blanks) :
    entries (line ++ '\\' :: blanks ++ '\n' :: next) =
      [(entry.1, entry.2 ++ (other.1 ++ '=' :: other.2))] := by
  have hshown : ∀ c ∈ line ++ ['\\'], ¬Text.isBlank c :=
    List.forall_mem_append.mpr ⟨hline.not_isBlank, List.forall_mem_singleton.mpr (by decide)⟩
  have htrim : Text.trim (line ++ '\\' :: blanks) = line ++ ['\\'] := by
    rw [List.append_cons, Text.trim_append_blanks _ hblanks, Text.trim_eq_self hshown]
  have hodd : EndsOdd (line ++ '\\' :: blanks) := by
    rw [← continues_trim_iff, htrim, continues_concat_backslash, hline.continues_eq_false]
    rfl
  have hends : ¬EndsOdd next := by
    rw [← continues_trim_iff, hnext.trim_eq, hnext.continues_eq_false]
    exact Bool.false_ne_true
  have hjoined : joinLines none (Text.lines (line ++ '\\' :: blanks ++ '\n' :: next)) =
      [line ++ next] := by
    rw [Text.lines_append, Text.lines_eq_singleton hnewline,
      Text.lines_eq_singleton hnext.newline_not_mem, List.singleton_append,
      joinLines_of_endsOdd hodd (htrim ▸ hline.not_isPassedOver named _) hends, htrim,
      hnext.trim_eq, List.dropLast_concat]
  have hsplit : splitEntry (line ++ next) = (entry.1, entry.2 ++ (other.1 ++ '=' :: other.2)) := by
    rw [hline.splitEntry_append hnext.not_isBlank, hnext.unescape_eq]
  exact entries_eq_singleton hjoined hsplit named

/-- The lines below a line that holds an entry keep their entries just when the line does not end in
an odd number of backslashes and blanks. So of two entries of letters and digits, the first with an
escaped blank at its end, there comes one: the blank is lost, and the second entry becomes part of
the value of the first. -/
theorem escaped_blank_joins_lines (hline : '\n' ∉ line) (hentry : entries line ≠ []) :
    ((∀ after, entries (line ++ '\n' :: after) = entries line ++ entries after) ↔
      ¬EndsOdd line) ∧
    ∀ key value name setting blanks : List Char, line = key ++ '=' :: value ++ '\\' :: blanks →
      key ≠ [] → (∀ c ∈ key ++ value ++ (name ++ setting), c.isAlphanum) →
      (∀ c ∈ blanks, Text.isBlank c) →
      entries (line ++ '\n' :: (name ++ '=' :: setting)) =
        [(key, value ++ (name ++ '=' :: setting))] := by
  refine ⟨separates_iff hline hentry, ?_⟩
  rintro key value name setting blanks rfl named halphanum hblanks
  simp only [List.forall_mem_append] at halphanum
  obtain ⟨⟨hkey, hvalue⟩, hname, hsetting⟩ := halphanum
  exact (spellsEntry_of_isAlphanum hkey hvalue).entries_of_escaped_blank
    (spellsEntry_of_isAlphanum hname hsetting) named hblanks hline

/-- The entry of the first line absorbs that of the second. -/
theorem escaped_blank_joins_lines_of_two :
    let line := ['a', '=', '1', '\\', ' ']
    '\n' ∉ line ∧ entries line = [(['a'], ['1'])] ∧ EndsOdd line ∧
      entries (line ++ '\n' :: ['b', '=', '2']) = [(['a'], ['1', 'b', '=', '2'])] ∧
      ¬∀ after, entries (line ++ '\n' :: after) = entries line ++ entries after := by
  intro line
  have hline : '\n' ∉ line := by decide
  have hentries : entries line = [(['a'], ['1'])] := by decide
  have hodd : EndsOdd line := (continues_trim_iff line).mp (by decide)
  obtain ⟨hseparates, hjoins⟩ := escaped_blank_joins_lines hline (by rw [hentries]; simp)
  have halphanum : ∀ c ∈ ['a', '1', 'b', '2'], c.isAlphanum := List.all_eq_true.mp (by decide)
  have hjoined := hjoins ['a'] ['1'] ['b'] ['2'] [' '] rfl (by decide) halphanum
    (List.forall_mem_singleton.mpr (by decide))
  exact ⟨hline, hentries, hodd, hjoined, fun h => hseparates.mp h hodd⟩

/-- The setting below the escaped blank is not found under its key. -/
theorem setting_lost_of_escaped_blank :
    (parse "a=1\\ \nb=2")["a"]? = some "1b=2" ∧ (parse "a=1\\ \nb=2")["b"]? = none := by
  decide

end Properties

end CallWatch
