import CallWatch.Text.Blank
import Mathlib.Data.List.Basic
import Mathlib.Data.List.TakeWhile

/-! Trimming. It removes the blanks in front of a text, keeps the text up to its last character that
is not blank, and removes the blanks behind that. -/

namespace CallWatch.Text

variable {before core rest after : List Char}

theorem isBlank_iff {c : Char} :
    isBlank c ↔ ∃ range ∈ blankRanges, range.1 ≤ c.toNat ∧ c.toNat ≤ range.2 := by
  simp [isBlank, inRanges]

theorem trimStart_append (hbefore : ∀ c ∈ before, isBlank c)
    (hfirst : ∀ c ∈ core.head?, ¬isBlank c) : trimStart (before ++ core) = core := by
  rw [trimStart, List.dropWhile_append_of_pos hbefore]
  cases core with
  | nil => rfl
  | cons c core => exact List.dropWhile_cons_of_neg (hfirst c rfl)

theorem trimEnd_eq_nil (hafter : ∀ c ∈ after, isBlank c) : trimEnd after = [] := by
  have hreverse : ∀ c ∈ after.reverse, isBlank c := fun c hc => hafter c (List.mem_reverse.mp hc)
  rw [trimEnd, List.dropWhile_eq_nil_iff.mpr hreverse, List.reverse_nil]

theorem trimEnd_append (hlast : ∀ c ∈ core.getLast?, ¬isBlank c) :
    trimEnd (core ++ rest) = core ++ trimEnd rest := by
  have hcore : core.reverse.dropWhile isBlank = core.reverse := by
    cases hreverse : core.reverse with
    | nil => rfl
    | cons c front =>
      refine List.dropWhile_cons_of_neg (hlast c ?_)
      rw [← List.head?_reverse, hreverse]
      rfl
  rw [trimEnd, List.reverse_append, List.dropWhile_append, hcore]
  split
  case isTrue hblank =>
    rw [List.reverse_reverse, trimEnd, List.isEmpty_iff.mp hblank, List.reverse_nil,
      List.append_nil]
  case isFalse => rw [List.reverse_append, List.reverse_reverse, trimEnd]

theorem trimEnd_cons {c : Char} (hc : ¬isBlank c) (rest : List Char) :
    trimEnd (c :: rest) = c :: trimEnd rest :=
  trimEnd_append fun d hd => by
    rw [List.getLast?_singleton, Option.mem_some_iff] at hd
    exact hd ▸ hc

theorem trimEnd_isPrefix (text : List Char) : trimEnd text <+: text := by
  rw [← List.reverse_suffix, trimEnd, List.reverse_reverse]
  exact List.dropWhile_suffix isBlank

/-- A text between blanks that goes on in front of the last of them is trimmed to itself and what it
goes on with. -/
theorem trim_append (hbefore : ∀ c ∈ before, isBlank c) (hfirst : ∀ c ∈ core.head?, ¬isBlank c)
    (hne : core ≠ []) (hlast : ∀ c ∈ core.getLast?, ¬isBlank c) :
    trim (before ++ (core ++ rest)) = core ++ trimEnd rest := by
  have hstart : trimStart (before ++ (core ++ rest)) = core ++ rest := by
    refine trimStart_append hbefore ?_
    rwa [List.head?_append_of_ne_nil core hne]
  rw [trim, hstart, trimEnd_append hlast]

/-- Blanks behind a text are trimmed away, whatever it ends in. -/
theorem trim_append_blanks (text : List Char) (hafter : ∀ c ∈ after, isBlank c) :
    trim (text ++ after) = trim text := by
  have hreverse : ∀ c ∈ after.reverse, isBlank c := fun c hc => hafter c (List.mem_reverse.mp hc)
  rw [trim, trimStart, List.dropWhile_append]
  split
  case isTrue hblank =>
    rw [List.dropWhile_eq_nil_iff.mpr hafter, trim, trimStart, List.isEmpty_iff.mp hblank]
  case isFalse =>
    rw [trim, trimStart, trimEnd, List.reverse_append, List.dropWhile_append_of_pos hreverse,
      trimEnd]

/-- Trimming takes blanks away at the ends of a text and nothing else. -/
theorem exists_trim (text : List Char) :
    ∃ before after, text = before ++ (trim text ++ after) ∧ (∀ c ∈ before, isBlank c) ∧
      ∀ c ∈ after, isBlank c := by
  let tail := (trimStart text).reverse
  refine ⟨text.takeWhile isBlank, (tail.takeWhile isBlank).reverse, ?_,
    fun c hc => List.mem_takeWhile_imp hc,
    fun c hc => List.mem_takeWhile_imp (List.mem_reverse.mp hc)⟩
  have htail : trim text ++ (tail.takeWhile isBlank).reverse = trimStart text := by
    rw [trim, trimEnd, ← List.reverse_append, List.takeWhile_append_dropWhile, List.reverse_reverse]
  rw [htail, trimStart, List.takeWhile_append_dropWhile]

/-- Trimming at the start reaches into a text that begins with something else than a blank only from
its front. -/
theorem trimStart_append_of_shown (front : List Char) (hfirst : ∀ c ∈ core.head?, ¬isBlank c) :
    trimStart (front ++ core) = trimStart front ++ core := by
  rw [trimStart, List.dropWhile_append]
  split
  case isTrue hfront =>
    rw [trimStart, List.isEmpty_iff.mp hfront]
    exact trimStart_append (List.forall_mem_nil _) hfirst
  case isFalse => rfl

/-- Behind a character that is not a blank, a text is trimmed at its end only. -/
theorem trim_append_cons (front : List Char) {c : Char} (hc : ¬isBlank c) (rest : List Char) :
    trim (front ++ c :: rest) = trimStart front ++ c :: trimEnd rest := by
  have hfirst : ∀ d ∈ (c :: rest).head?, ¬isBlank d := fun d hd => Option.some.inj hd ▸ hc
  have hlast : ∀ d ∈ (trimStart front ++ [c]).getLast?, ¬isBlank d := by
    intro d hd
    rw [List.getLast?_concat] at hd
    exact Option.some.inj hd ▸ hc
  rw [trim, trimStart_append_of_shown front hfirst, List.append_cons, trimEnd_append hlast,
    List.append_assoc]
  rfl

/-- A text that begins and ends in something else than a blank is kept behind another one. -/
theorem trim_append_core {core : List Char} (front : List Char)
    (hfirst : ∀ c ∈ core.head?, ¬isBlank c) (hne : core ≠ [])
    (hlast : ∀ c ∈ core.getLast?, ¬isBlank c) : trim (front ++ core) = trimStart front ++ core := by
  have hend : trimEnd (trimStart front ++ core ++ []) = trimStart front ++ core ++ trimEnd [] :=
    trimEnd_append fun c hc => hlast c (by rwa [List.getLast?_append_of_ne_nil _ hne] at hc)
  rw [List.append_nil] at hend
  rw [trim, trimStart_append_of_shown front hfirst, hend]
  exact List.append_nil _

/-- A text that begins and ends in something else than a blank has nothing to trim. -/
theorem trim_eq_self_of_ends {core : List Char} (hfirst : ∀ c ∈ core.head?, ¬isBlank c)
    (hne : core ≠ []) (hlast : ∀ c ∈ core.getLast?, ¬isBlank c) : trim core = core :=
  trim_append_core [] hfirst hne hlast

/-- A text without blanks is what is left of it between blanks. -/
theorem trim_between (hbefore : ∀ c ∈ before, isBlank c) (hcore : ∀ c ∈ core, ¬isBlank c)
    (hne : core ≠ []) (hafter : ∀ c ∈ after, isBlank c) :
    trim (before ++ (core ++ after)) = core := by
  rw [trim_append hbefore (fun c hc => hcore c (List.mem_of_mem_head? hc)) hne
    (fun c hc => hcore c (List.mem_of_mem_getLast? hc)), trimEnd_eq_nil hafter, List.append_nil]

theorem trim_eq_self (hcore : ∀ c ∈ core, ¬isBlank c) : trim core = core := by
  cases core with
  | nil => rfl
  | cons c core =>
    have htrim : trim ([] ++ (c :: core ++ [])) = c :: core :=
      trim_between (List.forall_mem_nil _) hcore (List.cons_ne_nil c core) (List.forall_mem_nil _)
    rwa [List.append_nil] at htrim

/-- Trimming the end of a text keeps its first character or nothing. -/
theorem head?_trimEnd_append {P : Char → Prop} (hrest : ∀ c ∈ rest.head?, P c)
    (hafter : ∀ c ∈ after, isBlank c) : ∀ c ∈ (trimEnd (rest ++ after)).head?, P c := by
  intro c hc
  cases rest with
  | nil =>
    rw [List.nil_append, trimEnd_eq_nil hafter] at hc
    exact nomatch hc
  | cons d rest =>
    obtain ⟨more, hmore⟩ := trimEnd_isPrefix (d :: rest ++ after)
    have hhead : (trimEnd (d :: rest ++ after) ++ more).head? = some c := by
      rw [List.head?_append, hc]
      rfl
    rw [hmore] at hhead
    exact hrest c hhead

theorem not_isBlank_of_head?_trimStart (text : List Char) :
    ∀ c ∈ (trimStart text).head?, ¬isBlank c := by
  intro c hc hblank
  have hnot := List.head?_dropWhile_not isBlank text
  rw [← trimStart, Option.mem_def.mp hc] at hnot
  exact absurd hblank (by simp [hnot])

theorem trimStart_eq_self (hfirst : ∀ c ∈ core.head?, ¬isBlank c) : trimStart core = core := by
  show trimStart ([] ++ core) = core
  exact trimStart_append (List.forall_mem_nil _) hfirst

theorem trimEnd_trimEnd (text : List Char) : trimEnd (trimEnd text) = trimEnd text := by
  have hstart := trimStart_eq_self (not_isBlank_of_head?_trimStart text.reverse)
  rw [trimEnd, trimEnd, List.reverse_reverse]
  exact congrArg List.reverse hstart

/-- A trimmed text has nothing left to trim. -/
theorem trim_trim (text : List Char) : trim (trim text) = trim text := by
  have hfirst : ∀ c ∈ (trimEnd (trimStart text ++ [])).head?, ¬isBlank c :=
    head?_trimEnd_append (not_isBlank_of_head?_trimStart text) (List.forall_mem_nil _)
  rw [List.append_nil] at hfirst
  have hstart : trimStart (trim text) = trim text := trimStart_eq_self hfirst
  rw [trim, hstart, trim, trimEnd_trimEnd]

end CallWatch.Text
