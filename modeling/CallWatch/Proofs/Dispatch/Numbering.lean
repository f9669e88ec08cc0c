import Mathlib.Data.List.Nodup
import Mathlib.Data.List.Range

/-! Runs number what their steps give them. The numbers run from zero without a gap, so no two
things that are given are the same, and an edit can say for each number what is given instead. -/

namespace CallWatch

variable {σ α β : Type}

/-- What some steps give, with its numbers. -/
def numbered (given? : σ → Option α) (mk : Nat → α → β) (steps : List σ) : List β :=
  (steps.filterMap given?).mapIdx mk

variable (given? : σ → Option α) (mk : Nat → α → β)

theorem length_numbered (steps : List σ) :
    (numbered given? mk steps).length = steps.countP fun s => (given? s).isSome := by
  rw [numbered, List.length_mapIdx, List.length_filterMap_eq_countP]

theorem numbered_concat (steps : List σ) (s : σ) :
    numbered given? mk (steps ++ [s]) = numbered given? mk steps ++
      (given? s).toList.map (mk (numbered given? mk steps).length) := by
  unfold numbered
  rw [List.filterMap_append, List.mapIdx_append, List.length_mapIdx]
  cases h : given? s <;> simp [h]

theorem map_number_numbered (number : β → Nat) (hnumber : ∀ n a, number (mk n a) = n)
    (steps : List σ) : (numbered given? mk steps).map number =
      List.range (numbered given? mk steps).length := by
  unfold numbered
  rw [List.mapIdx_eq_zipIdx_map, List.map_map, List.length_map, List.length_zipIdx,
    List.range_eq_range', ← List.zipIdx_map_snd]
  exact List.map_congr_left fun pair _ => hnumber pair.2 pair.1

theorem nodup_numbered (number : β → Nat) (hnumber : ∀ n a, number (mk n a) = n)
    (steps : List σ) : (numbered given? mk steps).Nodup := by
  refine List.Nodup.of_map number ?_
  rw [map_number_numbered given? mk number hnumber]
  exact List.nodup_range

/-- Some steps, each edited as its number says, which is how many of those before it are counted,
from `number` on. -/
def edited (counts : σ → Bool) (edit : Nat → σ → σ) (number : Nat) : List σ → List σ
  | [] => []
  | s :: steps => edit number s :: edited counts edit (number + if counts s then 1 else 0) steps

theorem edited_concat (counts : σ → Bool) (edit : Nat → σ → σ) (number : Nat) (steps : List σ)
    (s : σ) : edited counts edit number (steps ++ [s]) =
      edited counts edit number steps ++ [edit (number + steps.countP counts) s] := by
  induction steps generalizing number with
  | nil => simp [edited]
  | cons t steps ih =>
    rw [List.cons_append, edited, edited, ih, List.cons_append, List.countP_cons]
    congr 4
    omega

end CallWatch
