import CallWatch.Dispatch.Outbox

/-! Flushes as a whole. The turns of a flush hand the pieces of the queue to the crew, one after
another (`flush_of_fits`), and where no memory for a batch can be asked for, a flush does nothing
(`flush_of_not_fits`). -/

namespace CallWatch

/-- A list in pieces of the given size, the last of which may be smaller. -/
def pieces {α : Type} (size : Nat) (items : List α) : List (List α) :=
  match items with
  | [] => []
  | item :: rest => (item :: rest.take (size - 1)) :: pieces size (rest.drop (size - 1))
termination_by items.length
decreasing_by simp only [List.length_drop, List.length_cons]; omega

section Pieces

variable {α : Type} {size : Nat} {items : List α}

@[simp] theorem pieces_nil (size : Nat) : pieces size ([] : List α) = [] := by
  rw [pieces]

theorem pieces_of_ne_nil (hsize : 0 < size) (h : items ≠ []) :
    pieces size items = items.take size :: pieces size (items.drop size) := by
  obtain ⟨item, rest, rfl⟩ := List.exists_cons_of_ne_nil h
  obtain ⟨n, rfl⟩ := Nat.exists_eq_add_one.mpr hsize
  rw [pieces]
  rfl

theorem flatten_pieces (size : Nat) (items : List α) : (pieces size items).flatten = items := by
  fun_induction pieces size items with
  | case1 => rfl
  | case2 item rest ih =>
    rw [List.flatten_cons, ih, List.cons_append, List.take_append_drop]

theorem ne_nil_of_mem_pieces {piece : List α} (h : piece ∈ pieces size items) : piece ≠ [] := by
  fun_induction pieces size items with
  | case1 => simp at h
  | case2 item rest ih =>
    rcases List.mem_cons.mp h with rfl | h
    · simp
    · exact ih h

theorem pieces_map {β : Type} (f : α → β) (size : Nat) (items : List α) :
    pieces size (items.map f) = (pieces size items).map (List.map f) := by
  fun_induction pieces size items with
  | case1 => simp
  | case2 item rest ih =>
    rw [List.map_cons, pieces, ← List.map_take, ← List.map_drop, ih]
    simp

end Pieces

namespace Outbox

variable {o : Outbox}

/-- Handing over batches changes nothing but the crew and the count of failed events. -/
theorem foldl_hand (o : Outbox) (batches : List (List Event)) :
    (batches.foldl hand o).accepting = o.accepting ∧ (batches.foldl hand o).queue = o.queue ∧
      (batches.foldl hand o).crew.isOpen = o.crew.isOpen ∧
      (batches.foldl hand o).plan = o.plan := by
  induction batches generalizing o with
  | nil => exact ⟨rfl, rfl, rfl, rfl⟩
  | cons batch batches ih =>
    have hhand : (o.hand batch).accepting = o.accepting ∧
        (o.hand batch).crew.isOpen = o.crew.isOpen := by
      unfold hand Crew.execute
      by_cases takes : o.crew.isOpen = true ∧ 0 < o.crew.workers <;> simp [takes]
    obtain ⟨haccepting, hqueue, hopen, hplan⟩ := ih (o.hand batch)
    rw [List.foldl_cons]
    exact ⟨haccepting.trans hhand.1, hqueue.trans (o.queue_hand batch), hopen.trans hhand.2,
      hplan.trans (o.plan_hand batch)⟩

/-- A hand-over does not look at the queue, so the queue may be cut before it or after. -/
theorem hand_with_queue (o : Outbox) (batch : List Event) (queue : Array Event) :
    { o.hand batch with queue := queue } = ({ o with queue := queue } : Outbox).hand batch := by
  unfold hand
  dsimp only
  split <;> rfl

theorem flush_of_not_fits (h : o.plan.batchFits = false) : o.flush = (.panicked, o) := by
  rw [flush, h]
  rfl

theorem front_eq_nil_iff : o.front = [] ↔ o.queue = #[] := by
  have hpos := o.plan.batchSize_pos
  rw [front, List.take_eq_nil_iff, Array.toList_eq_nil_iff]
  exact or_iff_right (by omega)

/-- A flush of a queue that is not empty goes on after its first turn as it goes from the beginning,
unless the turn found less than a batch holds. -/
theorem flush_of_turn (fits : o.plan.batchFits = true) (h : o.queue ≠ #[]) :
    o.flush =
      if o.queue.size < o.plan.batchSize then (.returned, o.turn) else o.turn.flush := by
  have hshort : o.front.length < o.plan.batchSize ↔ o.queue.size < o.plan.batchSize := by
    rw [front, List.length_take, Array.length_toList]
    omega
  rw [flush, fits]
  simp only [Bool.not_true, Bool.false_eq_true, if_false, front_eq_nil_iff, h, dif_neg,
    not_false_eq_true, hshort]

theorem flush_of_empty (fits : o.plan.batchFits = true) (h : o.queue = #[]) :
    o.flush = (.returned, o) := by
  rw [flush, fits]
  simp [front_eq_nil_iff, h]

/-- A flush that memory allows for hands over the pieces of the queue. -/
theorem flush_of_fits (fits : o.plan.batchFits = true) :
    o.flush =
      (.returned, (pieces o.plan.batchSize o.queue.toList).foldl hand { o with queue := #[] }) := by
  -- On the size of the queue, which each turn makes smaller.
  induction hn : o.queue.size using Nat.strongRecOn generalizing o with
  | ind n ih =>
    subst hn
    by_cases hempty : o.queue = #[]
    · obtain ⟨plan, accepting, queue, crew, flushJob, sent, failed, dropped⟩ := o
      obtain rfl : queue = #[] := hempty
      rw [flush_of_empty fits rfl]
      simp
    · have hne : o.queue.toList ≠ [] := by simpa using hempty
      have hcut : { o.turn with queue := #[] } = ({ o with queue := #[] } : Outbox).hand o.front :=
        Outbox.hand_with_queue _ o.front #[]
      rw [flush_of_turn fits hempty, pieces_of_ne_nil o.plan.batchSize_pos hne, List.foldl_cons]
      split
      · next short =>
        have hrest : o.queue.toList.drop o.plan.batchSize = [] :=
          List.drop_eq_nil_of_le (by rw [Array.length_toList]; exact Nat.le_of_lt short)
        rw [hrest, pieces_nil, List.foldl_nil, turn, hrest]
        rfl
      · have hless := size_queue_turn (mt front_eq_nil_iff.mp hempty)
        rw [ih _ hless (by rwa [plan_turn]) rfl, hcut, plan_turn, queue_turn]
        rfl

/-- A flush returns with the queue handed over, or panics with the queue as it was. -/
theorem flush_cases (o : Outbox) :
    o.plan.batchFits = true ∧ o.flush = (.returned,
        (pieces o.plan.batchSize o.queue.toList).foldl hand { o with queue := #[] }) ∨
      o.plan.batchFits = false ∧ o.flush = (.panicked, o) := by
  cases fits : o.plan.batchFits with
  | true => exact .inl ⟨rfl, flush_of_fits fits⟩
  | false => exact .inr ⟨rfl, flush_of_not_fits fits⟩

theorem plan_flush (o : Outbox) : o.flush.2.plan = o.plan := by
  rcases o.flush_cases with ⟨-, hflush⟩ | ⟨-, hflush⟩
  · rw [hflush]
    exact (foldl_hand _ _).2.2.2
  · rw [hflush]

theorem accepting_flush (o : Outbox) : o.flush.2.accepting = o.accepting := by
  rcases o.flush_cases with ⟨-, hflush⟩ | ⟨-, hflush⟩
  · rw [hflush]
    exact (foldl_hand _ _).1
  · rw [hflush]

theorem isOpen_flush (o : Outbox) : o.flush.2.crew.isOpen = o.crew.isOpen := by
  rcases o.flush_cases with ⟨-, hflush⟩ | ⟨-, hflush⟩
  · rw [hflush]
    exact (foldl_hand _ _).2.2.1
  · rw [hflush]

theorem queue_flush (fits : o.plan.batchFits = true) : o.flush.2.queue = #[] := by
  rw [flush_of_fits fits]
  exact (foldl_hand _ _).2.1

/-- The outbox when a shutdown begins: it accepts nothing, and its flush job is cancelled. -/
def retired (o : Outbox) : Outbox :=
  { o with accepting := false, flushJob := none }

theorem shutdown_of_shut (h : o.accepting = false) : o.shutdown = (.returned, none, o) := by
  rw [shutdown, h]
  rfl

theorem shutdown_of_fits (h : o.accepting = true) (fits : o.plan.batchFits = true) :
    o.shutdown = (.returned, o.flushJob,
      { o.retired.flush.2 with crew := o.retired.flush.2.crew.close }) := by
  have hflush : o.retired.flush = (.returned, o.retired.flush.2) := by
    rw [flush_of_fits (o := o.retired) fits]
  rw [shutdown, h]
  simp only [Bool.not_true, Bool.false_eq_true, if_false]
  rw [show ({ o with accepting := false, flushJob := none } : Outbox).flush =
    (.returned, o.retired.flush.2) from hflush]

theorem shutdown_of_not_fits (h : o.accepting = true) (fits : o.plan.batchFits = false) :
    o.shutdown = (.panicked, o.flushJob, o.retired) := by
  have hflush : o.retired.flush = (.panicked, o.retired) := flush_of_not_fits (o := o.retired) fits
  rw [shutdown, h]
  simp only [Bool.not_true, Bool.false_eq_true, if_false]
  rw [show ({ o with accepting := false, flushJob := none } : Outbox).flush =
    (.panicked, o.retired) from hflush]

theorem accepting_shutdown (o : Outbox) : o.shutdown.2.2.accepting = false := by
  cases accepting : o.accepting with
  | false => rw [shutdown_of_shut accepting, accepting]
  | true =>
    cases fits : o.plan.batchFits with
    | true =>
      rw [shutdown_of_fits accepting fits]
      exact o.retired.accepting_flush
    | false =>
      rw [shutdown_of_not_fits accepting fits]
      rfl

/-- A shutdown closes the crew unless the outbox was shut down before, or the flush panics. -/
theorem isOpen_shutdown (o : Outbox) :
    o.shutdown.2.2.crew.isOpen =
      (o.crew.isOpen && !(o.accepting && o.plan.batchFits)) := by
  cases accepting : o.accepting with
  | false => simp [shutdown_of_shut accepting]
  | true =>
    cases fits : o.plan.batchFits with
    | true => simp [shutdown_of_fits accepting fits, Crew.close]
    | false => simp [shutdown_of_not_fits accepting fits, retired]

theorem plan_shutdown (o : Outbox) : o.shutdown.2.2.plan = o.plan := by
  cases accepting : o.accepting with
  | false => rw [shutdown_of_shut accepting]
  | true =>
    cases fits : o.plan.batchFits with
    | true =>
      rw [shutdown_of_fits accepting fits]
      exact o.retired.plan_flush
    | false =>
      rw [shutdown_of_not_fits accepting fits]
      rfl

end Outbox

end CallWatch
