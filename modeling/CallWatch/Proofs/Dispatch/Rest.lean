import CallWatch.Proofs.Dispatch.Drain
import CallWatch.Proofs.Dispatch.Letters

/-! Outboxes at rest. Once an outbox is shut down and its workers have ended every batch, nothing
that is asked of it later posts anything or changes a count, whatever still stands on the timetable.
An outbox that is not enabled is at rest from the beginning. -/

namespace CallWatch

namespace Outbox

/-- Nothing comes of the outbox any more: it takes no events, no batch waits or runs, and none is
queued that a flush would hand over. -/
structure AtRest (o : Outbox) : Prop where
  dead : o.isLive = false
  empty : o.plan.batchFits = true → o.queue = #[]
  idle : o.crew.isIdle = true

variable {o : Outbox}

namespace AtRest

theorem flush (h : o.AtRest) : o.flush.2 = o := by
  cases fits : o.plan.batchFits with
  | true => rw [flush_of_empty fits (h.empty fits)]
  | false => rw [flush_of_not_fits fits]

theorem submit (h : o.AtRest) (event : Event) : (o.submit event).2 = o := by
  simp [Outbox.submit, h.dead]

theorem crew (h : o.AtRest) : o.crew.waiting = [] ∧ o.crew.running = [] := by
  simpa [Crew.isIdle] using h.idle

theorem start? (h : o.AtRest) : o.crew.start? = none := by
  simp [Crew.start?, h.crew.1]

theorem start (h : o.AtRest) : o.start = o := by
  rw [Outbox.start, h.start?]

theorem finish (h : o.AtRest) (place : Nat) (collector : Collector) :
    o.finish place collector = (o, collector) := by
  simp [Outbox.finish, h.crew.2]

theorem drain (h : o.AtRest) (collector : Collector) : o.drain collector = (o, collector) :=
  drain_of_idle h.idle collector

theorem retired (h : o.AtRest) : o.retired.AtRest :=
  ⟨Bool.and_false _, h.empty, h.idle⟩

/-- A shutdown of an outbox at rest leaves all but its flush job and the door of its crew. -/
theorem shutdown (h : o.AtRest) :
    o.shutdown.2.2.AtRest ∧ o.shutdown.2.2.stats = o.stats ∧ o.shutdown.2.2.queue = o.queue := by
  cases accepting : o.accepting with
  | false =>
    rw [shutdown_of_shut accepting]
    exact ⟨h, rfl, rfl⟩
  | true =>
    cases fits : o.plan.batchFits with
    | true =>
      rw [shutdown_of_fits accepting fits, h.retired.flush]
      exact ⟨⟨Bool.and_false _, h.empty, h.idle⟩, rfl, rfl⟩
    | false =>
      rw [shutdown_of_not_fits accepting fits]
      exact ⟨h.retired, rfl, rfl⟩

/-- No step of an outbox at rest reaches the collector or changes a count or the queue. -/
theorem step (h : o.AtRest) (collector : Collector) (s : Step) :
    (o.step collector s).1.AtRest ∧ (o.step collector s).1.stats = o.stats ∧
      (o.step collector s).1.queue = o.queue ∧ (o.step collector s).2 = collector := by
  cases s with
  | submit event =>
    rw [Outbox.step, h.submit]
    exact ⟨h, rfl, rfl, rfl⟩
  | flush =>
    rw [Outbox.step, h.flush]
    exact ⟨h, rfl, rfl, rfl⟩
  | shutdown => exact ⟨h.shutdown.1, h.shutdown.2.1, h.shutdown.2.2, rfl⟩
  | start =>
    rw [Outbox.step, h.start]
    exact ⟨h, rfl, rfl, rfl⟩
  | finish place =>
    rw [Outbox.step, h.finish]
    exact ⟨h, rfl, rfl, rfl⟩

end AtRest

/-- Putting the flush on a timetable changes nothing in an outbox but its job. -/
theorem schedule_outbox (o : Outbox) (timetable : Timetable Chore) :
    ∃ job, (o.schedule timetable).2.1 = { o with flushJob := job } := by
  unfold schedule
  split
  · exact ⟨o.flushJob, rfl⟩
  · split
    · exact ⟨_, rfl⟩
    · exact ⟨o.flushJob, rfl⟩

theorem not_accepting_of_step {collector : Collector} {s : Step} (hs : s.isShutdown = false)
    (shut : (o.step collector s).1.accepting = false) : o.accepting = false := by
  rwa [accepting_step, hs, Bool.not_false, Bool.and_true] at shut

/-- Unless it panics, the flush of a shutdown empties the queue, and no event enters it after that.
-/
theorem queue_step (fits : o.plan.batchFits = true) (h : o.accepting = false → o.queue = #[])
    (collector : Collector) (s : Step) (shut : (o.step collector s).1.accepting = false) :
    (o.step collector s).1.queue = #[] := by
  cases s with
  | submit event =>
    have haccepting := not_accepting_of_step rfl shut
    simp [step, submit, isLive, haccepting, h haccepting]
  | flush => exact queue_flush fits
  | shutdown =>
    cases haccepting : o.accepting with
    | true =>
      rw [step, shutdown_of_fits haccepting fits]
      exact queue_flush (o := o.retired) fits
    | false => simp [step, shutdown_of_shut haccepting, h haccepting]
  | start =>
    have haccepting := not_accepting_of_step rfl shut
    simp only [step, start]
    split <;> exact h haccepting
  | finish place =>
    have haccepting := not_accepting_of_step rfl shut
    obtain ⟨sent, failed, hfinish⟩ := o.exists_finish_eq place collector
    rw [step, hfinish]
    exact h haccepting

end Outbox

/-- An outbox with its collector and the timetable that flushes it. -/
structure Depot where
  outbox : Outbox
  collector : Collector
  timetable : Timetable Chore

namespace Depot

/-- What can happen to an outbox and its timetable: a step of the outbox by itself, its flush is put
on the timetable, the clock reaches a moment for a job, the run of a job ends, by itself or in a
panic, the timetable handles a command, or it is closed. -/
inductive Operation
  | own (s : Outbox.Step)
  | schedule
  | tick (id now : Nat)
  | ended (id : Nat) (ending : Ending)
  | handle (now : Nat)
  | close

def perform (d : Depot) : Operation → Depot
  | .own s =>
    { outbox := (d.outbox.step d.collector s).1
      collector := (d.outbox.step d.collector s).2
      timetable :=
        match s with
        | .shutdown => d.outbox.shutdown.2.1.elim d.timetable d.timetable.cancel
        | _ => d.timetable }
  | .schedule =>
    let (_, outbox, timetable) := d.outbox.schedule d.timetable
    { d with outbox, timetable }
  | .tick id now =>
    match d.timetable.tick id now with
    | (some .flush, timetable) => { d with outbox := d.outbox.flush.2, timetable }
    | (_, timetable) => { d with timetable }
  | .ended id ending => { d with timetable := d.timetable.finish id ending }
  | .handle now => { d with timetable := d.timetable.handle now }
  | .close => { d with timetable := d.timetable.shutdown }

def performAll (d : Depot) (operations : List Operation) : Depot :=
  operations.foldl perform d

/-- An operation is, for the outbox and the collector, one step of the outbox or no more than a new
flush job. -/
theorem perform_cases (d : Depot) (op : Operation) :
    (∃ s, (op = .own .shutdown ↔ s = .shutdown) ∧
      ((d.perform op).outbox, (d.perform op).collector) = d.outbox.step d.collector s) ∨
    (op ≠ .own .shutdown ∧ ∃ job, (d.perform op).outbox = { d.outbox with flushJob := job } ∧
      (d.perform op).collector = d.collector) := by
  cases op with
  | own s => exact .inl ⟨s, by simp, rfl⟩
  | schedule =>
    obtain ⟨job, hjob⟩ := d.outbox.schedule_outbox d.timetable
    exact .inr ⟨by simp, job, hjob, rfl⟩
  | tick id now =>
    simp only [perform]
    split
    · exact .inl ⟨.flush, by simp, rfl⟩
    · exact .inr ⟨by simp, d.outbox.flushJob, rfl, rfl⟩
  | ended id ending => exact .inr ⟨by simp, d.outbox.flushJob, rfl, rfl⟩
  | handle now => exact .inr ⟨by simp, d.outbox.flushJob, rfl, rfl⟩
  | close => exact .inr ⟨by simp, d.outbox.flushJob, rfl, rfl⟩

/-- An outbox at rest stays so, and nothing changes its counts or its queue or reaches its
collector. -/
theorem performAll_of_atRest {d : Depot} (h : d.outbox.AtRest) (operations : List Operation) :
    (d.performAll operations).outbox.AtRest ∧
      (d.performAll operations).outbox.stats = d.outbox.stats ∧
      (d.performAll operations).outbox.queue = d.outbox.queue ∧
      (d.performAll operations).collector = d.collector := by
  induction operations generalizing d with
  | nil => exact ⟨h, rfl, rfl, rfl⟩
  | cons op operations ih =>
    have hstep : (d.perform op).outbox.AtRest ∧ (d.perform op).outbox.stats = d.outbox.stats ∧
        (d.perform op).outbox.queue = d.outbox.queue ∧
        (d.perform op).collector = d.collector := by
      rcases d.perform_cases op with ⟨s, -, hs⟩ | ⟨-, job, houtbox, hcollector⟩
      · have hrest := h.step d.collector s
        rw [← hs] at hrest
        exact hrest
      · rw [houtbox]
        exact ⟨⟨h.dead, h.empty, h.idle⟩, rfl, rfl, hcollector⟩
    obtain ⟨hatRest, hstats, hqueue, hcollector⟩ := hstep
    obtain ⟨hrest, hlaterStats, hlaterQueue, hlaterCollector⟩ := ih hatRest
    exact ⟨hrest, hlaterStats.trans hstats, hlaterQueue.trans hqueue,
      hlaterCollector.trans hcollector⟩

/-- What an operation keeps of an outbox with a given plan, and what a shutdown makes of it. -/
theorem perform_shut {d : Depot} (op : Operation)
    (h : d.outbox.plan.batchFits = true → d.outbox.accepting = false → d.outbox.queue = #[])
    (door : d.outbox.crew.isOpen = (d.outbox.accepting || !d.outbox.plan.batchFits)) :
    (d.perform op).outbox.plan = d.outbox.plan ∧
      (d.outbox.plan.batchFits = true → (d.perform op).outbox.accepting = false →
        (d.perform op).outbox.queue = #[]) ∧
      (d.perform op).outbox.crew.isOpen =
        ((d.perform op).outbox.accepting || !d.outbox.plan.batchFits) ∧
      (op = .own .shutdown ∨ d.outbox.accepting = false →
        (d.perform op).outbox.accepting = false) := by
  rcases d.perform_cases op with ⟨s, hop, hs⟩ | ⟨hop, job, houtbox, -⟩
  · have houtbox : (d.perform op).outbox = (d.outbox.step d.collector s).1 := by rw [← hs]
    have haccepting := d.outbox.accepting_step d.collector s
    have hdoor := Outbox.isOpen_eq_step door d.collector s
    rw [Outbox.plan_step] at hdoor
    rw [houtbox]
    refine ⟨d.outbox.plan_step d.collector s,
      fun fits => Outbox.queue_step fits (h fits) d.collector s, hdoor, ?_⟩
    rintro (hshut | hretired)
    · rw [haccepting, hop.mp hshut]
      exact Bool.and_false _
    · rw [haccepting, hretired]
      rfl
  · rw [houtbox]
    exact ⟨rfl, h, door, fun hshut => hshut.resolve_left hop⟩

/-- Once an outbox is shut down, it accepts no events, and unless its flushes panic, its queue is
empty and its crew is closed. -/
theorem performAll_shut (plan : OutboxPlan) (before : Collector) (timetable : Timetable Chore)
    (operations : List Operation) :
    let d := performAll ⟨.ofPlan plan, before, timetable⟩ operations
    d.outbox.plan = plan ∧
      (plan.batchFits = true → d.outbox.accepting = false → d.outbox.queue = #[]) ∧
      d.outbox.crew.isOpen = (d.outbox.accepting || !plan.batchFits) ∧
      (.own .shutdown ∈ operations → d.outbox.accepting = false) := by
  induction operations using List.reverseRecOn with
  | nil => exact ⟨rfl, fun _ _ => rfl, rfl, fun h => absurd h List.not_mem_nil⟩
  | append_singleton operations op ih =>
    obtain ⟨hplan, hempty, hdoor, hshut⟩ := ih
    have hop := perform_shut op (by rwa [hplan]) (by rwa [hplan])
    rw [hplan] at hop
    simp only [performAll, List.foldl_append, List.foldl_cons, List.foldl_nil] at *
    refine ⟨hop.1, hop.2.1, hop.2.2.1, fun hmem => hop.2.2.2 ?_⟩
    rcases List.mem_append.mp hmem with hearlier | hlast
    · exact .inr (hshut hearlier)
    · exact .inl (List.mem_singleton.mp hlast).symm

/-- Once an outbox is shut down and its workers have ended, no later operations post anything: the
collector stays as it is, no count changes, and the queue stays as it is. It is empty if the crew was
closed, as it was unless the flush of the shutdown panicked. An outbox that is not enabled never
posts or counts anything. -/
theorem inert (plan : OutboxPlan) (before : Collector) (timetable : Timetable Chore)
    (earlier later : List Operation) :
    let d := performAll ⟨.ofPlan plan, before, timetable⟩ earlier
    (.own .shutdown ∈ earlier → d.outbox.crew.isIdle = true →
      (d.performAll later).collector = d.collector ∧
        (d.performAll later).outbox.queue = d.outbox.queue ∧
        (d.outbox.crew.isOpen = false → d.outbox.queue = #[]) ∧
        (plan.batchFits = true → d.outbox.crew.isOpen = false) ∧
        (d.performAll later).outbox.stats = d.outbox.stats) ∧
    (plan.enabled = false → d.collector = before ∧ d.outbox.stats = ⟨0, 0, 0, 0⟩) := by
  intro d
  constructor
  · intro shut idle
    obtain ⟨hplan, hempty, hdoor, hshut⟩ := performAll_shut plan before timetable earlier
    have hqueue (fits : plan.batchFits = true) : d.outbox.queue = #[] := hempty fits (hshut shut)
    have hclosed : d.outbox.crew.isOpen = !plan.batchFits := by
      rw [hdoor, hshut shut, Bool.false_or]
    have hdead : d.outbox.isLive = false := by
      rw [Outbox.isLive, hshut shut, Bool.and_false]
    have hrest : d.outbox.AtRest := ⟨hdead, by rwa [hplan], idle⟩
    obtain ⟨-, hstats, hsame, hcollector⟩ := performAll_of_atRest hrest later
    exact ⟨hcollector, hsame, fun closed => hqueue (by simpa [hclosed] using closed),
      fun fits => by simp [hclosed, fits], hstats⟩
  · intro disabled
    have hrest : (Outbox.ofPlan plan).AtRest :=
      ⟨by rw [Outbox.isLive, Outbox.ofPlan, disabled, Bool.false_and], fun _ => rfl, rfl⟩
    obtain ⟨-, hstats, -, hcollector⟩ :=
      performAll_of_atRest (d := ⟨.ofPlan plan, before, timetable⟩) hrest earlier
    exact ⟨hcollector, hstats⟩

/-- An outbox that has posted two events is shut down, and its flush is put on the timetable anew: a
tick begins a flush, which finds nothing. -/
theorem inert_of_rescheduled_flush :
    let plan : OutboxPlan :=
      ⟨true, 3, 2, 1, 1000, "traffic", "batch", "health", ⟨600, 608, 64, ""⟩, by decide⟩
    let before : Collector := ⟨fun _ => .status 200, fun _ => .status 200, #[], #[]⟩
    let event := fun operation => Event.ofOperation operation 2000
    let earlier := [.schedule, .handle 0, .own (.submit (event "a")), .tick 1 1000,
      .own (.submit (event "b")), .own .shutdown, .own .start, .own (.finish 0), .own .start,
      .own (.finish 0)]
    let later := [.own (.submit (event "c")), .schedule, .handle 1000, .handle 1000, .tick 2 2000,
      .own .shutdown, .own .start]
    let d := performAll ⟨.ofPlan plan, before, .empty⟩ earlier
    .own .shutdown ∈ earlier ∧ d.outbox.crew.isIdle = true ∧ d.collector.posts.size = 2 ∧
      d.outbox.stats = ⟨2, 0, 0, 0⟩ ∧
      ((d.performAll (later.take 4)).timetable.tick 2 2000).1 = some .flush ∧
      (d.performAll later).collector.posts.size = 2 ∧
      (d.performAll later).outbox.stats = ⟨2, 0, 0, 0⟩ ∧
      (performAll ⟨.ofPlan { plan with enabled := false }, before, .empty⟩ earlier).outbox.stats =
        ⟨0, 0, 0, 0⟩ := by
  intro plan before event earlier later d
  have shut : .own .shutdown ∈ earlier := by simp [earlier]
  have idle : d.outbox.crew.isIdle = true := by decide +kernel
  have hposts : d.collector.posts.size = 2 := by decide +kernel
  have hstats : d.outbox.stats = ⟨2, 0, 0, 0⟩ := by decide +kernel
  obtain ⟨hcollector, -, -, -, hlater⟩ := (inert plan before .empty earlier later).1 shut idle
  have hdisabled := (inert { plan with enabled := false } before .empty earlier later).2 rfl
  exact ⟨shut, idle, hposts, hstats, by decide +kernel,
    (congrArg (fun c => c.posts.size) hcollector).trans hposts, hlater.trans hstats, hdisabled.2⟩

end Depot

end CallWatch
