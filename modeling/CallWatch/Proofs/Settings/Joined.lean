import CallWatch.Proofs.Text.Blank
import CallWatch.Proofs.Text.Lines
import CallWatch.Settings.Properties
import Mathlib.Data.List.Induction

/-! How the lines of a properties text are joined. A line is taken without the blanks around it, and
what decides whether it goes on in the next one is how many backslashes it ends in then. Where a
text leaves no entry unfinished, its entries stand before those of any text below it. That is so
where its last line does not go on, and where that line is a comment. -/

namespace CallWatch.Properties

variable {pending : Option (List Char)} {line : List Char} {rest : List (List Char)}

theorem continues_concat_of_ne {c : Char} (h : c ≠ '\\') (front : List Char) :
    continues (front ++ [c]) = false := by
  simp [continues, h]

/-- One more backslash at the end makes the other of going on and ending. -/
theorem continues_concat_backslash (front : List Char) :
    continues (front ++ ['\\']) = !continues front := by
  simp only [continues, List.reverse_append, List.reverse_singleton, List.singleton_append,
    List.takeWhile_cons, decide_true, if_true, List.length_cons]
  rw [← decide_not, decide_eq_decide]
  omega

/-- Behind a text that does not go on, what follows decides. -/
theorem continues_append {front : List Char} (h : continues front = false) (back : List Char) :
    continues (front ++ back) = continues back := by
  induction back using List.reverseRecOn with
  | nil => rwa [List.append_nil]
  | append_singleton back c ih =>
    rw [← List.append_assoc]
    by_cases hc : c = '\\'
    · rw [hc, continues_concat_backslash, continues_concat_backslash, ih]
    · rw [continues_concat_of_ne hc, continues_concat_of_ne hc]

/-- A line that holds no entry where none goes on in it: blanks only, or a comment behind blanks. -/
inductive HoldsNone : List Char → Prop
  | blank {line : List Char} (blanks : ∀ c ∈ line, Text.isBlank c) : HoldsNone line
  | comment {before : List Char} {mark : Char} (text : List Char)
      (blanks : ∀ c ∈ before, Text.isBlank c) (marked : mark = '#' ∨ mark = '!') :
      HoldsNone (before ++ mark :: text)

theorem isPassedOver_trimStart_iff (line : List Char) :
    isPassedOver (Text.trimStart line) ↔ HoldsNone line := by
  constructor
  · intro hover
    cases hstart : Text.trimStart line with
    | nil => exact .blank (List.dropWhile_eq_nil_iff.mp hstart)
    | cons mark text =>
      rw [hstart] at hover
      rw [← List.takeWhile_append_dropWhile (p := Text.isBlank) (l := line), ← Text.trimStart,
        hstart]
      exact .comment text (fun b hb => List.mem_takeWhile_imp hb) (of_decide_eq_true hover)
  · intro hnone
    cases hnone with
    | blank blanks =>
      rw [Text.trimStart, List.dropWhile_eq_nil_iff.mpr blanks]
      rfl
    | @comment before mark text blanks marked =>
      have hfirst : ∀ c ∈ (mark :: text).head?, ¬Text.isBlank c := by
        rintro c ⟨⟩
        rcases marked with rfl | rfl <;> decide
      rw [Text.trimStart_append blanks hfirst]
      exact decide_eq_true marked

/-- Trimming at the end keeps what decides whether a line is passed over. -/
theorem isPassedOver_trim_iff (line : List Char) :
    isPassedOver (Text.trim line) ↔ HoldsNone line := by
  rw [← isPassedOver_trimStart_iff, Text.trim]
  cases hstart : Text.trimStart line with
  | nil => rfl
  | cons mark text =>
    have hshown : ¬Text.isBlank mark := by
      have hhead := List.head?_dropWhile_not Text.isBlank line
      rw [← Text.trimStart, hstart, List.head?_cons] at hhead
      simpa using hhead
    rw [Text.trimEnd_cons hshown]
    rfl

/-- A line that is passed over begins no entry. -/
theorem joinLines_of_isPassedOver (h : isPassedOver (Text.trim line)) :
    joinLines none (line :: rest) = joinLines none rest :=
  if_pos ⟨rfl, h⟩

/-- Lines that hold no entry make no difference in front of others. -/
theorem joinLines_append_of_holdsNone {front : List (List Char)}
    (h : ∀ line ∈ front, HoldsNone line) (rest : List (List Char)) :
    joinLines none (front ++ rest) = joinLines none rest := by
  induction front with
  | nil => rfl
  | cons line front ih =>
    obtain ⟨hline, hfront⟩ := List.forall_mem_cons.mp h
    rw [List.cons_append, joinLines_of_isPassedOver ((isPassedOver_trim_iff line).mpr hline),
      ih hfront]

theorem joinLines_of_continues (entry : ¬(pending.isNone ∧ isPassedOver (Text.trim line)))
    (h : continues (Text.trim line)) :
    joinLines pending (line :: rest) =
      joinLines (some (pending.getD [] ++ (Text.trim line).dropLast)) rest := by
  rw [joinLines, if_neg entry, if_pos h]

theorem joinLines_of_not_continues (entry : ¬(pending.isNone ∧ isPassedOver (Text.trim line)))
    (h : ¬continues (Text.trim line)) :
    joinLines pending (line :: rest) =
      (pending.getD [] ++ Text.trim line) :: joinLines none rest := by
  rw [joinLines, if_neg entry, if_neg h]

/-- Whether an entry is unfinished behind a line, if one is unfinished before it or not. A line that
is passed over begins none, whatever it ends in. -/
def staysOpen (unfinished : Bool) (line : List Char) : Bool :=
  continues (Text.trim line) && (unfinished || !isPassedOver (Text.trim line))

def leavesOpen (unfinished : Bool) (lines : List (List Char)) : Bool :=
  lines.foldl staysOpen unfinished

theorem staysOpen_of_isPassedOver (h : isPassedOver (Text.trim line)) :
    staysOpen false line = false := by
  simp [staysOpen, h]

theorem staysOpen_eq_continues (entry : ¬(pending.isNone ∧ isPassedOver (Text.trim line))) :
    staysOpen pending.isSome line = continues (Text.trim line) := by
  cases pending <;> simp_all [staysOpen]

/-- Lines behind some that leave no entry unfinished are joined by themselves. -/
theorem joinLines_append {front : List (List Char)} (h : leavesOpen pending.isSome front = false)
    (rest : List (List Char)) :
    joinLines pending (front ++ rest) = joinLines pending front ++ joinLines none rest := by
  induction front generalizing pending with
  | nil =>
    obtain rfl : pending = none := by simpa [leavesOpen] using h
    rfl
  | cons line front ih =>
    rw [leavesOpen, List.foldl_cons, ← leavesOpen] at h
    rw [List.cons_append]
    by_cases entry : pending.isNone ∧ isPassedOver (Text.trim line)
    · obtain ⟨hnone, hpassed⟩ := entry
      obtain rfl := Option.isNone_iff_eq_none.mp hnone
      rw [Option.isSome_none, staysOpen_of_isPassedOver hpassed] at h
      rw [joinLines_of_isPassedOver hpassed, joinLines_of_isPassedOver hpassed]
      exact ih h
    · rw [staysOpen_eq_continues entry] at h
      by_cases hgoes : continues (Text.trim line)
      · rw [joinLines_of_continues entry hgoes, joinLines_of_continues entry hgoes]
        exact ih (by rwa [hgoes] at h)
      · rw [joinLines_of_not_continues entry hgoes, joinLines_of_not_continues entry hgoes,
          List.cons_append, ih (by rwa [eq_false_of_ne_true hgoes] at h)]

/-- A text whose lines are joined to one has the entry of that one, if it has a key. -/
theorem entries_eq_singleton {text whole : List Char} {entry : List Char × List Char}
    (joined : joinLines none (Text.lines text) = [whole]) (split : splitEntry whole = entry)
    (named : entry.1 ≠ []) : entries text = [entry] := by
  have hkept : (!entry.1.isEmpty) = true := by simpa using named
  rw [entries, joined, List.map_singleton, split, List.filter_singleton, hkept]
  rfl

/-- An empty line at the end makes no difference, as it only ends what goes on in it. -/
theorem joinLines_concat_nil (lines : List (List Char)) :
    joinLines pending (lines ++ [[]]) = joinLines pending lines := by
  induction lines generalizing pending with
  | nil => cases pending with
    | none => rfl
    | some front => exact congrArg (fun entry => [entry]) (List.append_nil front)
  | cons line lines ih =>
    rw [List.cons_append, joinLines, joinLines]
    simp only [ih]

/-- The entries of a text are the same with a line end behind it. -/
theorem entries_concat_newline (text : List Char) : entries (text ++ ['\n']) = entries text := by
  rw [entries, Text.lines_append, Text.lines_eq_singleton List.not_mem_nil, joinLines_concat_nil,
    entries]

/-- Whether the last entry of a text is unfinished at its end. -/
def isUnfinished (text : List Char) : Bool :=
  leavesOpen false (Text.lines text)

/-- Whether the last line of a text goes on behind the text. -/
def goesOn (text : List Char) : Bool :=
  (Text.lines text).getLast?.any fun line => continues (Text.trim line)

theorem goesOn_of_line {line : List Char} (h : '\n' ∉ line) :
    goesOn line = continues (Text.trim line) := by
  rw [goesOn, Text.lines_eq_singleton h]
  rfl

theorem goesOn_of_isUnfinished {text : List Char} (h : isUnfinished text) : goesOn text := by
  obtain ⟨others, line, hlines⟩ :=
    (List.eq_nil_or_concat (Text.lines text)).resolve_left (Text.lines_ne_nil text)
  rw [List.concat_eq_append] at hlines
  rw [isUnfinished, leavesOpen, hlines, List.foldl_concat, staysOpen, Bool.and_eq_true] at h
  rw [goesOn, hlines, List.getLast?_concat, Option.any_some]
  exact h.1

/-- The entries of two texts, one below the other, are those of the first and those of the second,
if the first leaves none unfinished. -/
theorem entries_append_of_finished {front : List Char} (h : isUnfinished front = false)
    (back : List Char) : entries (front ++ '\n' :: back) = entries front ++ entries back := by
  have hclosed : leavesOpen (none : Option (List Char)).isSome (Text.lines front) = false := h
  rw [entries, Text.lines_append, joinLines_append hclosed, List.map_append, List.filter_append,
    entries, entries]

theorem entries_append {front : List Char} (h : ¬goesOn front) (back : List Char) :
    entries (front ++ '\n' :: back) = entries front ++ entries back :=
  entries_append_of_finished (eq_false_of_ne_true (mt goesOn_of_isUnfinished h)) back

end CallWatch.Properties
