import Mathlib.Data.List.Basic

/-! What lasts in a run: it came about at one step, and each step behind that has left it alone. -/

namespace CallWatch

variable {α : Type} {begins leaves : α → Prop}

/-- Some step of a run begins something, and all steps behind it leave it alone. -/
def Lasts (begins leaves : α → Prop) (run : List α) : Prop :=
  ∃ earlier first later, run = earlier ++ first :: later ∧ begins first ∧ ∀ s ∈ later, leaves s

theorem not_lasts_nil : ¬Lasts begins leaves [] := by
  rintro ⟨earlier, first, later, h, -⟩
  simp at h

/-- What lasts to the end of a run came about at the last step, or lasted before and was left
alone. -/
theorem lasts_concat (run : List α) (s : α) :
    Lasts begins leaves (run ++ [s]) ↔ begins s ∨ Lasts begins leaves run ∧ leaves s := by
  constructor
  · rintro ⟨earlier, first, later, hrun, hfirst, hlater⟩
    -- The first step is the new one if nothing came later.
    rcases List.eq_nil_or_concat later with rfl | ⟨middle, last, rfl⟩
    · obtain ⟨-, hs⟩ := List.append_inj' hrun rfl
      obtain rfl : s = first := by simpa using hs
      exact .inl hfirst
    · rw [List.concat_eq_append] at hrun hlater
      have hsplit : run ++ [s] = (earlier ++ first :: middle) ++ [last] := by
        rw [hrun, List.append_assoc]
        rfl
      obtain ⟨rfl, hs⟩ := List.append_inj' hsplit rfl
      obtain rfl : s = last := by simpa using hs
      refine .inr ⟨⟨earlier, first, middle, rfl, hfirst, ?_⟩, hlater s (by simp)⟩
      intro t ht
      exact hlater t (by simp [ht])
  · rintro (hbegins | ⟨⟨earlier, first, later, rfl, hfirst, hlater⟩, hleaves⟩)
    · exact ⟨run, s, [], rfl, hbegins, by simp⟩
    · refine ⟨earlier, first, later ++ [s], by simp, hfirst, ?_⟩
      intro t ht
      rcases List.mem_append.mp ht with ht | ht
      · exact hlater t ht
      · obtain rfl := List.mem_singleton.mp ht
        exact hleaves

end CallWatch
