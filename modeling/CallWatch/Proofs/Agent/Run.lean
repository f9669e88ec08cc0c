import CallWatch.Agent
import CallWatch.Proofs.Dispatch.Offers
import CallWatch.Proofs.Dispatch.Rest
import CallWatch.Proofs.Naming.Scans
import CallWatch.Proofs.Observation.Play

/-! Runs of an agent. Handlers of both sides, flushes, the work of the crew, regular chores and
shutdowns come in any order. What the handlers submit does not depend on what becomes of it
(`events_offersFrom`), and until the agent is shut down, its outbox accounts for each event that
they submit (`AtWork.run`). -/

namespace CallWatch

/-- A report does not go where events go. -/
theorem Settings.isOwn_reportUrl (s : Settings) (machine : Machine) (body : String) :
    (OutboxPlan.ofSettings s machine).isOwn ⟨s.reportUrl, body⟩ = false := by
  have htraffic : s.reportUrl ≠ s.trafficUrl := by
    intro h
    have hlist := congrArg String.toList h
    simp [reportUrl, trafficUrl] at hlist
  have hbatch : s.reportUrl ≠ s.batchUrl := by
    intro h
    have hlist := congrArg String.toList h
    simp [reportUrl, batchUrl] at hlist
  simp [OutboxPlan.isOwn, OutboxPlan.ofSettings, htraffic, hbatch]

namespace Scanner

/-- A scan posts nothing, or one report. -/
theorem scan_cases (s : Scanner) (around : Surroundings) :
    (s.scan around).2.1.reportUrl = s.reportUrl ∧
      ((s.scan around).2.2 = around.collector ∨
        ∃ body, (s.scan around).2.2 = (around.collector.post ⟨s.reportUrl, body⟩).2) := by
  generalize hscan : s.scan around = outcome
  cases hscan ▸ s.scanned_scan around with
  | unconnected => exact ⟨rfl, .inl rfl⟩
  | unlisted => exact ⟨rfl, .inl rfl⟩
  | walked root connected entries found =>
    refine ⟨rfl, ?_⟩
    rw [report_eq]
    cases hpost : TopologyEntry.reportPost? s.reportUrl entries around.wall with
    | none => exact .inl rfl
    | some post =>
      obtain ⟨json, -, rfl⟩ := Option.map_eq_some_iff.mp hpost
      exact .inr ⟨json.text, rfl⟩

end Scanner

namespace Agent

/-- What can happen to an agent: the runtime notifies it of a call, its queue is flushed, a worker
begins a batch or ends one, a chore is done by itself, or it is shut down. -/
inductive Step
  | notice (notification : Notification) (call : Call) (moment : Moment)
  | flush
  | start
  | finish (place : Nat)
  | chore (chore : Chore) (now : Instant) (around : Surroundings)
  | shutdown (horizon : Nat)

def step (a : Agent) (collector : Collector) : Step → Agent × Collector
  | .notice n call moment => (a.notify n call moment, collector)
  | .flush => (a.flush.2, collector)
  | .start => ({ a with outbox := a.outbox.start }, collector)
  | .finish place =>
    let (outbox, collector) := a.outbox.finish place collector
    ({ a with outbox }, collector)
  | .chore chore now around => (a.perform chore now { around with collector }).2
  | .shutdown horizon => (a.shutdown horizon collector).2

def run (a : Agent) (collector : Collector) (steps : List Step) : Agent × Collector :=
  steps.foldl (fun p s => p.1.step p.2 s) (a, collector)

namespace Step

def isShutdown : Step → Bool
  | shutdown _ => true
  | _ => false

end Step

/-- The event that a step submits to the outbox, if it does. -/
def offer? (a : Agent) : Step → Option Offer
  | .notice n call moment =>
    (a.observer.notify n call moment a.starts).2.map fun event =>
      ⟨event, decide (a.outbox.queue.size < a.outbox.plan.capacity)⟩
  | _ => none

/-- The events that the steps of a run submit to the outbox, in order. -/
def offersFrom (a : Agent) (collector : Collector) : List Step → List Offer
  | [] => []
  | s :: rest =>
    (a.offer? s).toList ++ offersFrom (a.step collector s).1 (a.step collector s).2 rest

variable {a : Agent} {collector : Collector}

/-- The chores that are due on the timetable are done as steps of a run. -/
theorem doDue_eq_run (a : Agent) (horizon : Nat) (now : Instant) (around : Surroundings) :
    let due := (a.timetable.settle horizon).runsUntil horizon
    (a.doDue horizon now around).2 =
      run { a with timetable := due.2 } around.collector
        (due.1.map fun job => .chore job.2 now around) := by
  have hfoldl (jobs : List (Nat × Chore)) (trace : ScanTrace) (p : Agent × Collector) :
      (jobs.foldl
        (fun (p : ScanTrace × Agent × Collector) job =>
          let after := p.2.1.perform job.2 now { around with collector := p.2.2 }
          (p.1.append after.1, after.2))
        (trace, p)).2 = p.1.run p.2 (jobs.map fun job => .chore job.2 now around) := by
    induction jobs generalizing trace p with
    | nil => rfl
    | cons job jobs ih => exact ih _ _
  exact hfoldl _ _ _

/-- An agent that has not been shut down, and whose outbox accounts for the events that were
submitted to it. -/
structure AtWork (settings : Settings) (machine : Machine) (before : Collector)
    (offers : List Offer) (a : Agent) (collector : Collector) : Prop where
  reports : ∀ scanner, a.scanner = some scanner → scanner.reportUrl = settings.reportUrl
  going : a.stopped = false
  accepting : a.outbox.accepting = true
  accounted : OutboxRun.Accounted (.ofSettings settings machine) before offers a.outbox collector

namespace AtWork

variable {settings : Settings} {machine : Machine} {before : Collector} {offers : List Offer}

theorem own (h : AtWork settings machine before offers a collector) {s : Outbox.Step}
    (hs : s.event? = none) (hshut : s.isShutdown = false) :
    AtWork settings machine before offers { a with outbox := (a.outbox.step collector s).1 }
      (a.outbox.step collector s).2 where
  reports := h.reports
  going := h.going
  accepting := by simp [Outbox.accepting_step, h.accepting, hshut]
  accounted := h.accounted.step hs

theorem drain (h : AtWork settings machine before offers a collector) :
    AtWork settings machine before offers (a.drain collector).1 (a.drain collector).2 where
  reports := h.reports
  going := h.going
  accepting := (a.outbox.accepting_drain collector).trans h.accepting
  accounted := h.accounted.drain

theorem isLive (h : AtWork settings machine before offers a collector)
    (enabled : settings.enabled = true) : a.outbox.isLive = true := by
  rw [Outbox.isLive, h.accounted.plan_eq, h.accepting, OutboxPlan.ofSettings, enabled]
  rfl

theorem notify (h : AtWork settings machine before offers a collector)
    (enabled : settings.enabled = true) (n : Notification) (call : Call) (moment : Moment) :
    AtWork settings machine before (offers ++ (a.offer? (.notice n call moment)).toList)
      (a.notify n call moment) collector := by
  simp only [Agent.notify, offer?]
  split
  · next hnone =>
    rw [hnone]
    exact { h with accounted := by simpa using h.accounted }
  · next event hevent =>
    rw [hevent]
    exact {
      reports := h.reports
      going := h.going
      accepting := by
        have haccepting := a.outbox.accepting_step collector (.submit event)
        rwa [h.accepting] at haccepting
      accounted := h.accounted.submit (h.isLive enabled) event }

theorem scan (h : AtWork settings machine before offers a collector) (around : Surroundings)
    (hcollector : around.collector = collector) :
    AtWork settings machine before offers (a.scan around).2.1 (a.scan around).2.2 := by
  subst hcollector
  unfold Agent.scan
  split
  · exact h
  · next scanner hscanner =>
    have hurl := h.reports scanner hscanner
    obtain ⟨hreports, hcollector⟩ := scanner.scan_cases around
    refine ⟨fun other hother => ?_, h.going, h.accepting, ?_⟩
    · obtain rfl := Option.some.inj hother
      exact hreports.trans hurl
    · rcases hcollector with hsame | ⟨body, hposted⟩
      · exact hsame ▸ h.accounted
      · rw [hurl] at hposted
        exact hposted ▸ h.accounted.post (settings.isOwn_reportUrl machine body)

/-- A step other than a shutdown keeps an agent underway, and its outbox accounts for what the step
submits. -/
theorem step (h : AtWork settings machine before offers a collector)
    (enabled : settings.enabled = true) {s : Step} (hs : s.isShutdown = false) :
    AtWork settings machine before (offers ++ (a.offer? s).toList) (a.step collector s).1
      (a.step collector s).2 := by
  cases s with
  | notice n call moment => exact h.notify enabled n call moment
  | shutdown horizon => exact nomatch hs
  | chore chore now around =>
    simp only [offer?, Option.toList_none, List.append_nil]
    cases chore with
    -- A flush that is done as a chore does not wait for the crew: it lets it deliver everything.
    | flush => exact (h.own (s := .flush) rfl rfl).drain
    | sweep => exact { h with }
    | scan => exact h.scan _ rfl
  | flush =>
    simp only [offer?, Option.toList_none, List.append_nil]
    exact h.own (s := .flush) rfl rfl
  | start =>
    simp only [offer?, Option.toList_none, List.append_nil]
    exact h.own (s := .start) rfl rfl
  | finish place =>
    simp only [offer?, Option.toList_none, List.append_nil]
    exact h.own (s := .finish place) rfl rfl

theorem run (h : AtWork settings machine before offers a collector)
    (enabled : settings.enabled = true) {steps : List Step} (running : ∀ s ∈ steps, s.isShutdown = false) :
    AtWork settings machine before (offers ++ a.offersFrom collector steps)
      (a.run collector steps).1 (a.run collector steps).2 := by
  induction steps generalizing a collector offers with
  | nil => simpa [offersFrom, Agent.run] using h
  | cons s steps ih =>
    have hstep := h.step enabled (running s List.mem_cons_self)
    have hrest := ih hstep fun t ht => running t (List.mem_cons_of_mem s ht)
    rw [List.append_assoc] at hrest
    exact hrest

end AtWork

end Agent

end CallWatch
