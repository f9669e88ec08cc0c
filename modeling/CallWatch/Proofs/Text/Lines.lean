import CallWatch.Text.Cut
import Mathlib.Data.List.Basic

/-! The lines of a text, which are the library's split of it at line ends. A line end between two
texts separates their lines. -/

namespace CallWatch.Text

theorem pieces_eq_splitOnP (cuts : Char → Bool) (text : List Char) :
    pieces cuts text = text.splitOnP cuts := by
  induction text with
  | nil => rfl
  | cons c text ih =>
    obtain ⟨piece, others, h⟩ := List.exists_cons_of_ne_nil (List.splitOnP_ne_nil cuts text)
    unfold pieces at ih ⊢
    rw [List.foldr_cons, ih, List.splitOnP_cons_eq_if_modifyHead, h]
    rfl

theorem lines_eq_splitOn (text : List Char) : lines text = text.splitOn '\n' :=
  pieces_eq_splitOnP _ text

theorem lines_ne_nil (text : List Char) : lines text ≠ [] := by
  rw [lines_eq_splitOn]
  exact List.splitOn_ne_nil '\n' text

theorem lines_append (front back : List Char) :
    lines (front ++ '\n' :: back) = lines front ++ lines back := by
  simp only [lines_eq_splitOn, List.splitOn_append_cons_self]

theorem lines_eq_singleton {line : List Char} (h : '\n' ∉ line) : lines line = [line] := by
  rw [lines_eq_splitOn, List.splitOn_eq_singleton h]

/-- What stands in front of a text on its first line becomes part of that line. -/
theorem lines_append_of_not_mem {front : List Char} (h : '\n' ∉ front) (text : List Char) :
    lines (front ++ text) = (lines text).modifyHead (front ++ ·) := by
  induction front with
  | nil => exact congrFun List.modifyHead_id.symm (lines text)
  | cons c front ih =>
    have hc : c ≠ '\n' := (List.ne_of_not_mem_cons h).symm
    rw [List.cons_append, lines_eq_splitOn, List.splitOn_cons_eq_if_modifyHead,
      if_neg (by simpa using hc), ← lines_eq_splitOn, ih (List.not_mem_of_not_mem_cons h),
      List.modifyHead_modifyHead]
    rfl

end CallWatch.Text
