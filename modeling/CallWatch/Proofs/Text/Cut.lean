import CallWatch.Text.Cut
import Mathlib.Data.List.Basic
import Mathlib.Data.List.TakeWhile

/-! Parts of a text, as the cuts find them: what a text begins with is a prefix, what it holds is an
infix, and a cut at a character that stands between two parts gives the parts. -/

namespace CallWatch.Text

theorem behind?_eq_some_iff {lead text rest : List Char} :
    behind? lead text = some rest ↔ lead ++ rest = text :=
  List.isPrefixOf?_eq_some_iff_append_eq

theorem isSome_behind?_iff {lead text : List Char} :
    (behind? lead text).isSome ↔ lead <+: text := by
  rw [Option.isSome_iff_exists]
  simp only [behind?_eq_some_iff]
  rfl

theorem holds_iff_isInfix {part text : List Char} : holds part text ↔ part <:+: text := by
  unfold holds
  induction text with
  | nil => rw [behindFirst?, isSome_behind?_iff, List.prefix_nil, List.infix_nil]
  | cons c text ih =>
    rw [behindFirst?, List.infix_cons_iff, ← ih, ← isSome_behind?_iff]
    cases behind? part (c :: text) <;> simp

theorem behind?_append (lead rest : List Char) : behind? lead (lead ++ rest) = some rest :=
  behind?_eq_some_iff.mpr rfl

section Between

variable {cut : Char} {front back : List Char}

theorem cutFirst?_append (h : cut ∉ front) :
    cutFirst? cut (front ++ cut :: back) = some (front, back) := by
  have hfront : ∀ c ∈ front, decide (c ≠ cut) = true := by
    intro c hc
    exact decide_eq_true fun heq => h (heq ▸ hc)
  rw [cutFirst?, List.dropWhile_append_of_pos hfront, List.takeWhile_append_of_pos hfront]
  simp

theorem cutFirst?_eq_none (h : cut ∉ front) : cutFirst? cut front = none := by
  have hfront : front.dropWhile (· ≠ cut) = [] := by
    rw [List.dropWhile_eq_nil_iff]
    intro c hc
    exact decide_eq_true fun heq => h (heq ▸ hc)
  rw [cutFirst?, hfront]

theorem cutLast?_append (h : cut ∉ back) :
    cutLast? cut (front ++ cut :: back) = some (front, back) := by
  have hback : cut ∉ back.reverse := fun hmem => h (List.mem_reverse.mp hmem)
  rw [cutLast?, List.reverse_append, List.reverse_cons, List.append_assoc, List.singleton_append,
    cutFirst?_append hback]
  simp

/-- A mark is found behind a text without its first character. -/
theorem behindFirst?_append {mark : List Char} (h : cut ∉ front) :
    behindFirst? (cut :: mark) (front ++ (cut :: mark ++ back)) = some back := by
  induction front with
  | nil =>
    rw [List.nil_append, List.cons_append, behindFirst?, ← List.cons_append, behind?_append]
  | cons c front ih =>
    rw [List.mem_cons, not_or] at h
    have hnone : behind? (cut :: mark) (c :: (front ++ (cut :: mark ++ back))) = none := by
      rw [Option.eq_none_iff_forall_not_mem]
      intro rest hrest
      exact h.1 (List.cons.inj (behind?_eq_some_iff.mp hrest)).1
    rw [List.cons_append, behindFirst?, hnone]
    exact ih h.2

/-- A text up to the first character outside a class. -/
theorem takeWhile_append {p : Char → Bool} (hfront : ∀ c ∈ front, p c)
    (hback : ∀ c ∈ back.head?, ¬p c) : (front ++ back).takeWhile p = front := by
  rw [List.takeWhile_append_of_pos hfront]
  cases back with
  | nil => exact List.append_nil front
  | cons c back => rw [List.takeWhile_cons_of_neg (hback c rfl), List.append_nil]

theorem dropWhile_append {p : Char → Bool} (hfront : ∀ c ∈ front, p c)
    (hback : ∀ c ∈ back.head?, ¬p c) : (front ++ back).dropWhile p = back := by
  rw [List.dropWhile_append_of_pos hfront]
  cases back with
  | nil => rfl
  | cons c back => exact List.dropWhile_cons_of_neg (hback c rfl)

end Between

end CallWatch.Text
