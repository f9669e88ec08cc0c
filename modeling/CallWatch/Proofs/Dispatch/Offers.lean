import CallWatch.Proofs.Dispatch.Drain
import CallWatch.Proofs.Dispatch.ExactlyOnce

/-! Offers to an outbox that shares its collector. Events are offered to the outbox, which takes
those that find room in the queue, and others post to the same collector. To the outbox the
collector is as if the posts of others had never been (`step_only`), so the journal of its run
accounts for every offer, whatever is posted in between. -/

namespace CallWatch

namespace Collector

variable {keep : Post → Bool} {p : Post}

/-- The collector as it is to those whose posts are kept: the posts of others are left out, and so
are the answers to them. -/
def only (c : Collector) (keep : Post → Bool) : Collector :=
  { c with
    postReply := fun n => c.postReply (n + c.posts.countP fun p => !keep p)
    posts := c.posts.filter keep }

theorem only_post_of_kept (c : Collector) (h : keep p = true) :
    (c.only keep).post p = ((c.post p).1, (c.post p).2.only keep) := by
  have hsize : (c.posts.filter keep).size + c.posts.countP (fun p => !keep p) = c.posts.size := by
    have hcount := c.posts.size_eq_countP_add_countP (p := keep)
    simp only [Array.countP_eq_size_filter] at hcount ⊢
    simpa using hcount.symm
  simp [post, only, h, hsize]

/-- A post of others takes an answer, and changes nothing else. -/
theorem only_post_of_other (c : Collector) (h : keep p = false) :
    (c.post p).2.only keep =
      { c.only keep with postReply := fun n => (c.only keep).postReply (n + 1) } := by
  simp [post, only, h, Nat.add_assoc, Nat.add_comm 1]

end Collector

/-- Whether a post goes where the outbox posts its batches. -/
def OutboxPlan.isOwn (plan : OutboxPlan) (p : Post) : Bool :=
  p.url = plan.trafficUrl ∨ p.url = plan.batchUrl

theorem OutboxPlan.isOwn_of_post? {plan : OutboxPlan} {batch : List Event} {p : Post}
    (h : plan.post? batch = some p) : plan.isOwn p = true := by
  unfold post? at h
  split at h
  · split at h
    · obtain rfl := Option.some.inj h
      simp [isOwn]
    · exact nomatch h
  · split at h
    · obtain rfl := Option.some.inj h
      simp [isOwn]
    · exact nomatch h

/-- An event that was offered to an outbox, and whether the queue had room for it. -/
structure Offer where
  event : Event
  hasRoom : Bool

namespace Offer

def taken (offers : List Offer) : List Event :=
  (offers.filter (·.hasRoom)).map (·.event)

/-- The events that found the queue full. -/
def missed (offers : List Offer) : List Event :=
  (offers.filter (!·.hasRoom)).map (·.event)

theorem taken_concat (offers : List Offer) (offer : Offer) :
    taken (offers ++ [offer]) = taken offers ++ if offer.hasRoom then [offer.event] else [] := by
  cases h : offer.hasRoom <;> simp [taken, h]

theorem missed_concat (offers : List Offer) (offer : Offer) :
    missed (offers ++ [offer]) = missed offers ++ if offer.hasRoom then [] else [offer.event] := by
  cases h : offer.hasRoom <;> simp [missed, h]

end Offer

theorem Outbox.Step.event?_of_isWork {s : Step} (h : s.isWork = true) : s.event? = none := by
  cases s with
  | submit event => exact nomatch h
  | _ => rfl

theorem Fate.ofAnswer_eq_lost {answer : Option Reply} (h : ofAnswer answer = .lost) :
    answer = some .panicked := by
  cases answer with
  | none => cases h
  | some reply =>
    cases reply with
    | panicked => rfl
    | status code => by_cases htaken : (Reply.status code).isTaken <;> simp [ofAnswer, htaken] at h
    | timedOut => cases h
    | failed reason => cases h

namespace OutboxRun

variable {plan : OutboxPlan} {before : Collector} {r r' : OutboxRun} {offers : List Offer}

/-- No post has panicked, and none will. -/
structure Unharmed (r : OutboxRun) : Prop where
  answers : ∀ n, r.collector.postReply n ≠ .panicked
  ended : ∀ batch ∈ r.journal.ended, batch.2 ≠ some .panicked

theorem Unharmed.finish (h : Unharmed r) (place : Nat) (batch : List Letter) :
    Unharmed (r.finish place batch) := by
  unfold OutboxRun.finish
  constructor
  · cases r.outbox.plan.post? (Letter.events batch) with
    | none => exact h.answers
    | some post => exact h.answers
  · intro ended hmem
    rcases List.mem_append.mp hmem with hmem | hmem
    · exact h.ended ended hmem
    · obtain rfl := List.mem_singleton.mp hmem
      intro hpanicked
      obtain ⟨post, -, hreply⟩ := Option.map_eq_some_iff.mp hpanicked
      exact h.answers _ hreply

theorem Move.unharmed (move : Move r r') (_ : Mirrors plan before r) (h : Unharmed r) :
    Unharmed r' := by
  cases move with
  | finish place batch running => exact h.finish place batch
  | _ => exact ⟨h.answers, h.ended⟩

theorem Unharmed.lost_eq_nil (h : Unharmed r) : r.journal.under .lost = [] := by
  rw [Journal.under, List.filter_eq_nil_iff.mpr, List.flatMap_nil]
  intro batch hbatch hlost
  exact h.ended batch hbatch (Fate.ofAnswer_eq_lost (of_decide_eq_true hlost))

/-- The journal accounts for the offers to an outbox: it took those that found room, in order, and
counted the others. -/
structure Accounts (plan : OutboxPlan) (before : Collector) (offers : List Offer) (r : OutboxRun) :
    Prop where
  mirrors : Mirrors plan before r
  filed : Filed r
  unharmed : Unharmed r
  isOpen : r.outbox.crew.isOpen = (r.outbox.accepting || !r.outbox.plan.batchFits)
  held : plan.batchFits = false → r.journal.dispatched = [] ∧ r.journal.refused = []
  taken : Letter.events r.journal.accepted = Offer.taken offers
  missed : Letter.events r.journal.dropped = Offer.missed offers

namespace Accounts

/-- An outbox that has just been made, with whatever flush job, accounts for no offers. -/
theorem ofPlan (plan : OutboxPlan) (before : Collector) (job : Option Nat)
    (answers : ∀ n, before.postReply n ≠ .panicked) :
    Accounts plan before [] ⟨{ Outbox.ofPlan plan with flushJob := job }, before,
      .empty plan.workers⟩ where
  mirrors := { Mirrors.ofPlan plan before with }
  filed := { Filed.ofPlan plan before with }
  unharmed := ⟨answers, fun _ h => absurd h List.not_mem_nil⟩
  isOpen := rfl
  held _ := ⟨rfl, rfl⟩
  taken := rfl
  missed := rfl

theorem keeps (h : Accounts plan before offers r) (s : Outbox.Step) :
    Mirrors plan before (r.step s) ∧ Filed (r.step s) ∧ Unharmed (r.step s) :=
  ⟨h.mirrors.step s, (invariant_of_moves Move.filed (h.mirrors.moves_step s) h.mirrors h.filed).1,
    (invariant_of_moves Move.unharmed (h.mirrors.moves_step s) h.mirrors h.unharmed).1⟩

theorem held_step (h : Accounts plan before offers r) (s : Outbox.Step)
    (fits : plan.batchFits = false) :
    (r.step s).journal.dispatched = [] ∧ (r.step s).journal.refused = [] := by
  obtain ⟨hdispatched, hrefused⟩ :=
    handed_step_of_not_fits (r := r) (by rwa [h.mirrors.plan_eq]) s
  exact ⟨hdispatched.trans (h.held fits).1, hrefused.trans (h.held fits).2⟩

theorem quiet (h : Accounts plan before offers r) {s : Outbox.Step} (hs : s.event? = none) :
    Accounts plan before offers (r.step s) := by
  obtain ⟨mirrors, filed, unharmed⟩ := h.keeps s
  have hsorting := r.journal.sorting_step r.outbox r.collector s hs
  simp only [Journal.sorting, Prod.mk.injEq] at hsorting
  obtain ⟨-, haccepted, hdropped, -⟩ := hsorting
  refine ⟨mirrors, filed, unharmed, Outbox.isOpen_eq_step h.isOpen _ s, h.held_step s, ?_, ?_⟩
  · rw [step, haccepted, h.taken]
  · rw [step, hdropped, h.missed]

theorem submit (h : Accounts plan before offers r) (live : r.outbox.isLive = true)
    (event : Event) :
    Accounts plan before
      (offers ++ [⟨event, decide (r.outbox.queue.size < r.outbox.plan.capacity)⟩])
      (r.step (.submit event)) := by
  obtain ⟨mirrors, filed, unharmed⟩ := h.keeps (.submit event)
  refine ⟨mirrors, filed, unharmed, Outbox.isOpen_eq_step h.isOpen r.collector (.submit event),
    h.held_step _, ?_, ?_⟩
  all_goals
    rw [step_submit, if_pos live]
    by_cases room : r.outbox.queue.size < r.outbox.plan.capacity
  · rw [if_pos room, accept, Letter.events_append, h.taken, Offer.taken_concat]
    simp [room, Letter.events]
  · rw [if_neg room, drop, h.taken, Offer.taken_concat]
    simp [room]
  · rw [if_pos room, accept, h.missed, Offer.missed_concat]
    simp [room]
  · rw [if_neg room, drop, Letter.events_append, h.missed, Offer.missed_concat]
    simp [room, Letter.events]

theorem dropped_eq (h : Accounts plan before offers r) :
    r.outbox.dropped = (Offer.missed offers).length := by
  rw [h.mirrors.dropped, ← h.missed, Letter.length_events]

/-- An outbox whose flushes panic keeps the events that it took in its queue, and nothing is posted
or counted. -/
theorem held_eq (h : Accounts plan before offers r) (fits : plan.batchFits = false) :
    r.outbox.queue.toList = Offer.taken offers ∧ r.collector.posts = before.posts ∧
      r.outbox.sent = 0 ∧ r.outbox.failed = 0 ∧ r.outbox.crew.isIdle = true := by
  have m := h.mirrors
  obtain ⟨hdispatched, hrefused⟩ := h.held fits
  have hended := h.filed.ended_eq_nil hdispatched
  have hunder (fate : Fate) : r.journal.under fate = [] := by rw [Journal.under, hended]; rfl
  refine ⟨?_, ?_, ?_, ?_, ?_⟩
  · rw [m.queue, ← h.taken, h.filed.accepted, hdispatched, hrefused]
    rfl
  · rw [← Array.toList_inj, m.posts_eq, hended]
    exact List.append_nil _
  · rw [m.sent, hunder]
    rfl
  · rw [m.failed, hunder, hrefused]
    rfl
  · have hhanded := h.filed.handed
    rw [hdispatched] at hhanded
    have htasks := (List.append_eq_nil_iff.mp hhanded.eq_nil).2
    rw [m.crew, Crew.isIdle_iff, Crew.tasks_map, htasks]
    rfl

/-- Once the outbox is shut down and its workers have ended, the events that it took are those of
its batches, each batch was posted if it can be written, and the counts add up. -/
theorem settled (h : Accounts plan before offers r) (workers : 0 < plan.workers)
    (fits : plan.batchFits = true) (retired : r.outbox.accepting = false)
    (idle : r.outbox.crew.isIdle = true) :
    r.outbox.queue = #[] ∧
    ∃ batches : List (List Event), (Offer.taken offers).Perm batches.flatten ∧
      r.collector.posts.toList = before.posts.toList ++ batches.filterMap plan.post? ∧
      r.outbox.sent + r.outbox.failed = batches.flatten.length := by
  have m := h.mirrors
  have htasks := m.tasks_eq_nil idle
  have hrefused := h.filed.refused_eq_nil m workers
  have hqueue : r.journal.queue = [] := by
    have hclosed : r.journal.crew.isOpen = false := by
      have hopen := h.isOpen
      rw [retired, m.plan_eq, fits, m.crew] at hopen
      exact hopen
    exact (h.filed.closed hclosed).2
  have haccepted : r.journal.accepted.Perm (r.journal.ended.map (·.1)).flatten := by
    have hhanded := h.filed.handed
    rw [htasks, List.append_nil] at hhanded
    rw [h.filed.accepted, hrefused, hqueue, List.flatten_nil, List.append_nil, List.append_nil]
    exact hhanded.flatten.symm
  have hevents : Letter.events (r.journal.ended.map (·.1)).flatten =
      (r.journal.ended.map fun batch => Letter.events batch.1).flatten := by
    rw [Letter.events, List.map_flatten, List.map_map]
    rfl
  refine ⟨?_, r.journal.ended.map fun batch => Letter.events batch.1, ?_, ?_, ?_⟩
  · rw [← Array.toList_eq_nil_iff, m.queue, hqueue]
    rfl
  · rw [← h.taken, ← hevents]
    exact haccepted.map _
  · rw [m.posts_eq, List.filterMap_map, List.filterMap_map]
    rfl
  · have hended := r.journal.ended_perm_under.length_eq
    rw [h.unharmed.lost_eq_nil, List.append_nil, List.length_append] at hended
    rw [← hevents, Letter.length_events, hended, m.sent, m.failed, hrefused]
    simp

/-- The answers to come may change, so long as none is a panic. -/
theorem answering (h : Accounts plan before offers r) {postReply : Nat → Reply}
    (answers : ∀ n, postReply n ≠ .panicked) :
    Accounts plan before offers { r with collector := { r.collector with postReply } } where
  mirrors := { h.mirrors with }
  filed := { h.filed with }
  unharmed := ⟨answers, h.unharmed.ended⟩
  isOpen := h.isOpen
  held := h.held
  taken := h.taken
  missed := h.missed

end Accounts

/-- The run with the collector as it is to the outbox. -/
def only (r : OutboxRun) (keep : Post → Bool) : OutboxRun :=
  { r with collector := r.collector.only keep }

/-- A step does the same whether or not the posts of others are left out. -/
theorem step_only (r : OutboxRun) (s : Outbox.Step) :
    (r.only r.outbox.plan.isOwn).step s = (r.step s).only r.outbox.plan.isOwn := by
  have hpost (batch : List Event) (p : Post) (h : r.outbox.plan.post? batch = some p) :=
    r.collector.only_post_of_kept (OutboxPlan.isOwn_of_post? h)
  have hanswer : (fun events => (r.outbox.plan.post? events).map fun post =>
      ((r.collector.only r.outbox.plan.isOwn).post post).1) =
      fun events => (r.outbox.plan.post? events).map fun post => (r.collector.post post).1 := by
    funext events
    cases h : r.outbox.plan.post? events with
    | none => rfl
    | some p => simp [hpost events p h]
  cases s with
  | finish place =>
    simp only [step, only, Outbox.step, Journal.step, hanswer]
    cases running : r.outbox.crew.running[place]? with
    | none => simp only [Outbox.finish_of_not_running running]
    | some batch =>
      simp only [Outbox.finish_of_running running]
      cases h : r.outbox.plan.post? batch with
      | none => rfl
      | some p => simp [hpost batch p h]
  | _ => rfl

theorem Accounts.step_only (h : Accounts plan before offers (r.only plan.isOwn))
    (s : Outbox.Step) : (r.only plan.isOwn).step s = (r.step s).only plan.isOwn := by
  have hplan : r.outbox.plan = plan := h.mirrors.plan_eq
  have honly := OutboxRun.step_only r s
  rwa [hplan] at honly

theorem Accounts.work (h : Accounts plan before offers (r.only plan.isOwn))
    {work : List Outbox.Step} (quiet : ∀ s ∈ work, s.event? = none) :
    Accounts plan before offers ((work.foldl step r).only plan.isOwn) := by
  induction work generalizing r with
  | nil => exact h
  | cons s work ih =>
    have hstep := h.quiet (quiet s List.mem_cons_self)
    rw [h.step_only] at hstep
    exact ih hstep fun t ht => quiet t (List.mem_cons_of_mem s ht)

/-- Some journal accounts for the offers to an outbox, by the posts that are its own. -/
def Accounted (plan : OutboxPlan) (before : Collector) (offers : List Offer) (o : Outbox)
    (c : Collector) : Prop :=
  ∃ r : OutboxRun, r.outbox = o ∧ r.collector = c ∧
    Accounts plan (before.only plan.isOwn) offers (r.only plan.isOwn)

namespace Accounted

variable {o : Outbox} {c : Collector}

theorem ofPlan (plan : OutboxPlan) (before : Collector) (job : Option Nat)
    (answers : ∀ n, before.postReply n ≠ .panicked) :
    Accounted plan before [] { Outbox.ofPlan plan with flushJob := job } before :=
  ⟨⟨_, before, .empty plan.workers⟩, rfl, rfl, .ofPlan plan _ job fun _ => answers _⟩

theorem plan_eq (h : Accounted plan before offers o c) : o.plan = plan := by
  obtain ⟨r, rfl, rfl, haccounts⟩ := h
  exact haccounts.mirrors.plan_eq

/-- The workers that the plan gives the outbox end every batch. -/
theorem isIdle_drain (h : Accounted plan before offers o c) (workers : 0 < plan.workers) :
    (o.drain c).1.crew.isIdle = true := by
  obtain ⟨r, rfl, rfl, haccounts⟩ := h
  exact haccounts.mirrors.isIdle_drain haccounts.filed workers r.collector

theorem submit (h : Accounted plan before offers o c) (live : o.isLive = true) (event : Event) :
    Accounted plan before (offers ++ [⟨event, decide (o.queue.size < o.plan.capacity)⟩])
      (o.submit event).2 c := by
  obtain ⟨r, rfl, rfl, haccounts⟩ := h
  refine ⟨r.step (.submit event), rfl, rfl, ?_⟩
  rw [← haccounts.step_only]
  exact haccounts.submit live event

theorem step (h : Accounted plan before offers o c) {s : Outbox.Step} (hs : s.event? = none) :
    Accounted plan before offers (o.step c s).1 (o.step c s).2 := by
  obtain ⟨r, rfl, rfl, haccounts⟩ := h
  exact ⟨r.step s, rfl, rfl, haccounts.work fun t ht => List.mem_singleton.mp ht ▸ hs⟩

theorem drain (h : Accounted plan before offers o c) :
    Accounted plan before offers (o.drain c).1 (o.drain c).2 := by
  obtain ⟨r, rfl, rfl, haccounts⟩ := h
  obtain ⟨work, hwork, hdrain⟩ := r.exists_work_of_drain
  exact ⟨work.foldl OutboxRun.step r, congrArg Prod.fst hdrain, congrArg Prod.snd hdrain,
    haccounts.work fun s hs => Outbox.Step.event?_of_isWork (hwork s hs)⟩

/-- Posts of others do not matter. -/
theorem post (h : Accounted plan before offers o c) {p : Post} (other : plan.isOwn p = false) :
    Accounted plan before offers o (c.post p).2 := by
  obtain ⟨r, rfl, rfl, haccounts⟩ := h
  refine ⟨{ r with collector := (r.collector.post p).2 }, rfl, rfl, ?_⟩
  rw [only, r.collector.only_post_of_other other]
  exact haccounts.answering fun n => haccounts.unharmed.answers (n + 1)

theorem dropped_eq (h : Accounted plan before offers o c) :
    o.dropped = (Offer.missed offers).length := by
  obtain ⟨r, rfl, rfl, haccounts⟩ := h
  exact haccounts.dropped_eq

/-- An outbox whose flushes panic keeps the events that it took in its queue, and nothing of its own
is posted or counted. -/
theorem held_eq (h : Accounted plan before offers o c) (fits : plan.batchFits = false) :
    o.queue.toList = Offer.taken offers ∧
      c.posts.toList.filter plan.isOwn = before.posts.toList.filter plan.isOwn ∧
      o.sent = 0 ∧ o.failed = 0 ∧ o.crew.isIdle = true := by
  obtain ⟨r, rfl, rfl, haccounts⟩ := h
  obtain ⟨hqueue, hposts, hrest⟩ := haccounts.held_eq fits
  refine ⟨hqueue, ?_, hrest⟩
  simpa [only, Collector.only] using congrArg Array.toList hposts

/-- Once the outbox is shut down and its workers have ended, the events that it took are those of
its batches, each batch was posted if it can be written, and the counts add up. -/
theorem settled (h : Accounted plan before offers o c) (workers : 0 < plan.workers)
    (fits : plan.batchFits = true) (retired : o.accepting = false)
    (idle : o.crew.isIdle = true) :
    o.queue = #[] ∧
    ∃ batches : List (List Event), (Offer.taken offers).Perm batches.flatten ∧
      c.posts.toList.filter plan.isOwn =
        before.posts.toList.filter plan.isOwn ++ batches.filterMap plan.post? ∧
      o.sent + o.failed = batches.flatten.length := by
  obtain ⟨r, rfl, rfl, haccounts⟩ := h
  obtain ⟨hqueue, batches, htaken, hposts, hcounts⟩ :=
    haccounts.settled workers fits retired idle
  refine ⟨hqueue, batches, htaken, ?_, hcounts⟩
  simpa [only, Collector.only] using hposts

end Accounted

end OutboxRun

end CallWatch
