import CallWatch.Proofs.Dispatch.Mirror
import CallWatch.Proofs.Dispatch.Numbering

/-! Where the letters of a run come to. A letter that was submitted before the outbox was shut down
is accepted or dropped, and each later one is ignored. Letters keep the order in which they were
submitted. -/

namespace CallWatch

/-- An event of which only the operation and the year are known. -/
def Event.ofOperation (operation : String) (year : Int) : Event where
  requestId := ""
  operation := some operation
  interfaceName := none
  repositoryId := none
  sourceHost := none
  sourcePort := none
  targetHost := none
  targetPort := none
  sourceService := none
  targetService := none
  point := .sendRequest
  contexts := none
  direction := .request
  status := .success
  message := .request
  requestData := none
  responseData := none
  errorMessage := none
  exceptionKind := none
  latency := none
  timestamp := { Timestamp.epoch with seconds := (year - 1970) * 31556952 }

namespace Outbox

/-- The events that some steps submit, with their numbers. -/
def letters (steps : List Step) : List Letter :=
  (steps.filterMap Step.event?).mapIdx Letter.mk

/-- The steps before the outbox is shut down. -/
def beforeShutdown (steps : List Step) : List Step :=
  steps.takeWhile fun s => !s.isShutdown

/-- The letters that are submitted before the outbox is shut down. -/
def early (steps : List Step) : List Letter :=
  letters (beforeShutdown steps)

/-- The letters that are submitted once the outbox is shut down. -/
def late (steps : List Step) : List Letter :=
  (letters steps).drop (early steps).length

/-- Whether some steps never shut the outbox down. -/
def neverShutdown (steps : List Step) : Bool :=
  steps.all fun s => !s.isShutdown

theorem length_letters (steps : List Step) :
    (letters steps).length = steps.countP (·.event?.isSome) :=
  length_numbered _ _ steps

theorem letters_concat (steps : List Step) (s : Step) :
    letters (steps ++ [s]) =
      letters steps ++ s.event?.toList.map (Letter.mk (letters steps).length) :=
  numbered_concat _ _ steps s

theorem nodup_letters (steps : List Step) : (letters steps).Nodup :=
  nodup_numbered _ _ Letter.number (fun _ _ => rfl) steps

theorem beforeShutdown_concat (steps : List Step) (s : Step) :
    beforeShutdown (steps ++ [s]) =
      if neverShutdown steps then steps ++ [s].filter (fun s => !s.isShutdown)
      else beforeShutdown steps := by
  unfold beforeShutdown neverShutdown
  induction steps with
  | nil => cases h : s.isShutdown <;> simp [h]
  | cons t steps ih =>
    cases h : t.isShutdown with
    | true => simp [h]
    | false =>
      rw [List.cons_append, List.takeWhile_cons_of_pos (by simp [h]), ih,
        List.takeWhile_cons_of_pos (by simp [h])]
      simp only [List.all_cons, h, Bool.not_false, Bool.true_and]
      split <;> rfl

theorem early_concat_of_neverShutdown {steps : List Step} (h : neverShutdown steps = true)
    (s : Step) : early (steps ++ [s]) = letters (steps ++ [s]) := by
  rw [early, beforeShutdown_concat, if_pos h]
  cases s with
  | shutdown => simp [Step.isShutdown, letters_concat, Step.event?]
  | _ => simp [Step.isShutdown]

theorem early_concat_of_shutdown {steps : List Step} (h : neverShutdown steps = false) (s : Step) :
    early (steps ++ [s]) = early steps := by
  rw [early, beforeShutdown_concat, h]
  rfl

theorem neverShutdown_concat (steps : List Step) (s : Step) :
    neverShutdown (steps ++ [s]) = (neverShutdown steps && !s.isShutdown) := by
  simp [neverShutdown]

theorem early_of_neverShutdown {steps : List Step} (h : neverShutdown steps = true) :
    early steps = letters steps := by
  induction steps using List.reverseRecOn with
  | nil => rfl
  | append_singleton steps s =>
    rw [neverShutdown_concat, Bool.and_eq_true] at h
    exact early_concat_of_neverShutdown h.1 s

theorem isPrefix_early (steps : List Step) : early steps <+: letters steps := by
  induction steps using List.reverseRecOn with
  | nil => exact List.prefix_rfl
  | append_singleton steps s ih =>
    cases h : neverShutdown steps with
    | true =>
      have hsame := early_concat_of_neverShutdown h s
      exact ⟨[], by rw [hsame, List.append_nil]⟩
    | false =>
      rw [early_concat_of_shutdown h, letters_concat]
      exact ih.trans (List.prefix_append ..)

theorem early_append_late (steps : List Step) : early steps ++ late steps = letters steps :=
  List.prefix_iff_eq_append.mp (isPrefix_early steps)

theorem not_mem_early_of_mem_late {steps : List Step} {letter : Letter}
    (h : letter ∈ late steps) : letter ∉ early steps := by
  have hnodup := nodup_letters steps
  rw [← early_append_late, List.nodup_append] at hnodup
  exact fun hearly => hnodup.2.2 letter hearly letter h rfl

theorem late_of_neverShutdown {steps : List Step} (h : neverShutdown steps = true) :
    late steps = [] := by
  rw [late, early_of_neverShutdown h, List.drop_length]

theorem late_concat_of_neverShutdown {steps : List Step} (h : neverShutdown steps = true)
    (s : Step) : late (steps ++ [s]) = [] := by
  rw [late, early_concat_of_neverShutdown h, List.drop_length]

theorem late_concat_of_shutdown {steps : List Step} (h : neverShutdown steps = false) (s : Step) :
    late (steps ++ [s]) =
      late steps ++ s.event?.toList.map (Letter.mk (letters steps).length) := by
  rw [late, early_concat_of_shutdown h, letters_concat,
    List.drop_append_of_le_length (isPrefix_early steps).length_le]
  rfl

theorem letters_concat_of_event?_eq_none (steps : List Step) {s : Step} (hs : s.event? = none) :
    letters (steps ++ [s]) = letters steps := by
  rw [letters_concat, hs]
  exact List.append_nil _

theorem early_concat_of_event?_eq_none (steps : List Step) {s : Step} (hs : s.event? = none) :
    early (steps ++ [s]) = early steps := by
  cases h : neverShutdown steps with
  | true =>
    rw [early_concat_of_neverShutdown h, early_of_neverShutdown h,
      letters_concat_of_event?_eq_none steps hs]
  | false => exact early_concat_of_shutdown h s

theorem late_concat_of_event?_eq_none (steps : List Step) {s : Step} (hs : s.event? = none) :
    late (steps ++ [s]) = late steps := by
  rw [late, early_concat_of_event?_eq_none steps hs, letters_concat_of_event?_eq_none steps hs]
  rfl

theorem accepting_step (o : Outbox) (collector : Collector) (s : Step) :
    (o.step collector s).1.accepting = (o.accepting && !s.isShutdown) := by
  cases s with
  | submit event =>
    simp only [step, submit, Step.isShutdown]
    split <;> [skip; split] <;> simp
  | flush => simp [step, accepting_flush, Step.isShutdown]
  | shutdown => simp [step, accepting_shutdown, Step.isShutdown]
  | start =>
    simp only [step, start, Step.isShutdown]
    split <;> simp
  | finish place =>
    obtain ⟨sent, failed, h⟩ := o.exists_finish_eq place collector
    simp [step, h, Step.isShutdown]

theorem plan_step (o : Outbox) (collector : Collector) (s : Step) :
    (o.step collector s).1.plan = o.plan := by
  cases s with
  | submit event =>
    simp only [step, submit]
    split <;> [skip; split] <;> rfl
  | flush => exact o.plan_flush
  | shutdown => exact o.plan_shutdown
  | start =>
    simp only [step, start]
    split <;> rfl
  | finish place =>
    obtain ⟨sent, failed, hfinish⟩ := o.exists_finish_eq place collector
    rw [step, hfinish]

/-- The crew is closed by the first shutdown, unless its flush panics. -/
theorem isOpen_step (o : Outbox) (collector : Collector) (s : Step) :
    (o.step collector s).1.crew.isOpen =
      (o.crew.isOpen && !(s.isShutdown && o.accepting && o.plan.batchFits)) := by
  cases s with
  | submit event =>
    simp only [step, submit, Step.isShutdown]
    split <;> [skip; split] <;> simp
  | flush => simp [step, isOpen_flush, Step.isShutdown]
  | shutdown => simp [step, isOpen_shutdown, Step.isShutdown]
  | start =>
    simp only [step, start, Step.isShutdown]
    split
    · next crew hstart =>
      obtain ⟨batch, waiting, -, -, rfl⟩ := Crew.start?_eq_some hstart
      simp
    · simp
  | finish place =>
    obtain ⟨sent, failed, h⟩ := o.exists_finish_eq place collector
    simp [step, h, Crew.freed, Step.isShutdown]

/-- An outbox whose crew is open as long as it accepts events, and after that just if its flushes
panic, remains such an outbox. -/
theorem isOpen_eq_step {o : Outbox} (h : o.crew.isOpen = (o.accepting || !o.plan.batchFits))
    (collector : Collector) (s : Step) :
    (o.step collector s).1.crew.isOpen =
      ((o.step collector s).1.accepting || !(o.step collector s).1.plan.batchFits) := by
  rw [isOpen_step, accepting_step, plan_step, h]
  cases s.isShutdown <;> cases o.accepting <;> cases o.plan.batchFits <;> rfl

end Outbox

namespace Journal

/-- What a journal says of letters that were just submitted. -/
def sorting (j : Journal) : Nat × List Letter × List Letter × List Letter :=
  (j.submitted, j.accepted, j.dropped, j.ignored)

theorem sorting_hand (j : Journal) (batches : List (List Letter)) :
    (batches.foldl hand j).sorting = j.sorting := by
  induction batches generalizing j with
  | nil => rfl
  | cons batch batches ih =>
    rw [List.foldl_cons, ih]
    unfold hand
    dsimp only
    split <;> rfl

theorem sorting_flush (j : Journal) (plan : OutboxPlan) : (j.flush plan).sorting = j.sorting := by
  unfold flush
  split
  · exact sorting_hand j _
  · rfl

theorem sorting_step (j : Journal) (o : Outbox) (collector : Collector) (s : Outbox.Step)
    (h : s.event? = none) : (j.step o collector s).sorting = j.sorting := by
  cases s with
  | submit event => simp [Outbox.Step.event?] at h
  | flush => exact j.sorting_flush o.plan
  | shutdown =>
    simp only [step]
    split
    · exact j.sorting_flush o.plan
    · rfl
  | start =>
    simp only [step, start]
    split <;> rfl
  | finish place =>
    simp only [step, finish]
    split <;> rfl

end Journal

namespace OutboxRun

variable {plan : OutboxPlan} {before : Collector} {r r' : OutboxRun}

/-- Each letter of an enabled outbox is accepted or dropped if it came before the shutdown, and
ignored if it came after. -/
structure Sorted (steps : List Outbox.Step) (r : OutboxRun) : Prop where
  accepting : r.outbox.accepting = Outbox.neverShutdown steps
  submitted : r.journal.submitted = (Outbox.letters steps).length
  early : (r.journal.accepted ++ r.journal.dropped).Perm (Outbox.early steps)
  inOrder : r.journal.accepted.Sublist (Outbox.early steps)
  late : r.journal.ignored = Outbox.late steps

theorem Sorted.submit {steps : List Outbox.Step} (h : Sorted steps r)
    (enabled : r.outbox.plan.enabled = true) (event : Event) :
    Sorted (steps ++ [.submit event]) (r.step (.submit event)) := by
  have hletters : Outbox.letters (steps ++ [.submit event]) =
      Outbox.letters steps ++ [⟨r.journal.submitted, event⟩] := by
    rw [Outbox.letters_concat, h.submitted]
    rfl
  have hcount : r.journal.submitted + 1 = (Outbox.letters (steps ++ [.submit event])).length := by
    rw [hletters, List.length_append, h.submitted]
    rfl
  have haccepting : r.outbox.accepting = Outbox.neverShutdown (steps ++ [.submit event]) := by
    rw [h.accepting, Outbox.neverShutdown_concat]
    simp [Outbox.Step.isShutdown]
  have hlive : r.outbox.isLive = Outbox.neverShutdown steps := by
    rw [Outbox.isLive, enabled, h.accepting, Bool.true_and]
  rw [step_submit, hlive]
  cases hnever : Outbox.neverShutdown steps with
  | true =>
    have hearly : Outbox.early (steps ++ [.submit event]) =
        Outbox.early steps ++ [⟨r.journal.submitted, event⟩] := by
      rw [Outbox.early_concat_of_neverShutdown hnever, hletters,
        Outbox.early_of_neverShutdown hnever]
    have hlate : r.journal.ignored = Outbox.late (steps ++ [.submit event]) := by
      rw [h.late, Outbox.late_of_neverShutdown hnever, Outbox.late_concat_of_neverShutdown hnever]
    rw [if_pos rfl]
    split
    · refine ⟨haccepting, hcount, ?_, ?_, hlate⟩
      · rw [hearly]
        refine List.Perm.trans ?_ (h.early.append_right _)
        simp only [accept, List.append_assoc]
        exact (List.perm_append_comm).append_left _
      · rw [hearly]
        exact h.inOrder.append (List.Sublist.refl _)
    · refine ⟨haccepting, hcount, ?_, ?_, hlate⟩
      · rw [hearly]
        refine List.Perm.trans ?_ (h.early.append_right _)
        rw [List.append_assoc]
        rfl
      · rw [hearly]
        exact h.inOrder.trans (List.sublist_append_left ..)
  | false =>
    have hearly := Outbox.early_concat_of_shutdown hnever (.submit event)
    have hlate := Outbox.late_concat_of_shutdown hnever (.submit event)
    rw [if_neg (by simp)]
    refine ⟨haccepting, hcount, hearly ▸ h.early, hearly ▸ h.inOrder, ?_⟩
    rw [hlate, ← h.late, ← h.submitted]
    rfl

theorem Sorted.quiet {steps : List Outbox.Step} (h : Sorted steps r) {s : Outbox.Step}
    (hs : s.event? = none) : Sorted (steps ++ [s]) (r.step s) := by
  have hsorting := r.journal.sorting_step r.outbox r.collector s hs
  simp only [Journal.sorting, Prod.mk.injEq] at hsorting
  obtain ⟨hsubmitted, haccepted, hdropped, hignored⟩ := hsorting
  have hearly := Outbox.early_concat_of_event?_eq_none steps hs
  refine ⟨?_, ?_, ?_, ?_, ?_⟩
  · rw [step, Outbox.accepting_step, h.accepting, Outbox.neverShutdown_concat]
  · rw [step, hsubmitted, h.submitted, Outbox.letters_concat_of_event?_eq_none steps hs]
  · rw [step, haccepted, hdropped, hearly]
    exact h.early
  · rw [step, haccepted, hearly]
    exact h.inOrder
  · rw [step, hignored, h.late, Outbox.late_concat_of_event?_eq_none steps hs]

theorem sorted_after (plan : OutboxPlan) (enabled : plan.enabled = true) (before : Collector)
    (steps : List Outbox.Step) : Sorted steps (after plan before steps) := by
  induction steps using List.reverseRecOn with
  | nil => exact ⟨rfl, rfl, .refl _, .refl _, rfl⟩
  | append_singleton steps s ih =>
    rw [after_concat]
    cases s with
    | submit event =>
      exact ih.submit (by rw [(mirrors_after plan before steps).plan_eq, enabled]) event
    | _ => exact ih.quiet rfl

end OutboxRun

end CallWatch
