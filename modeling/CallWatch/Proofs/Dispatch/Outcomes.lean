import CallWatch.Proofs.Dispatch.Drain
import CallWatch.Proofs.Dispatch.ExactlyOnce
import CallWatch.Proofs.Dispatch.Reworded
import Mathlib.Algebra.GroupWithZero.Nat

/-! What comes of batches. A batch that has ended was posted with the number of the written batches
that ended before it, and it counts by the answer to that post alone. So the counts of an outbox are
sums over its batches, and another outcome of one batch leaves everything else as it is. -/

namespace CallWatch

namespace Outcome

/-- Whether the events of a batch are sent: its post was answered with a status in 200..299. -/
def isSent : Option Reply → Bool
  | some (.status code) => 200 ≤ code ∧ code < 300
  | _ => false

/-- Whether the events of a batch have failed: it could not be written, or its post was answered
with another status or came to an error. If the post panicked, they are neither sent nor failed. -/
def isFailed : Option Reply → Bool
  | none => true
  | some (.status code) => ¬(200 ≤ code ∧ code < 300)
  | some .timedOut => true
  | some (.failed _) => true
  | some .panicked => false

theorem isSent_iff (answer : Option Reply) :
    isSent answer = true ↔ Fate.ofAnswer answer = .sent := by
  cases answer with
  | none => simp [isSent, Fate.ofAnswer]
  | some reply =>
    cases reply with
    | status code =>
      by_cases h : 200 ≤ code ∧ code < 300 <;> simp [isSent, Fate.ofAnswer, Reply.isTaken, h]
    | _ => simp [isSent, Fate.ofAnswer, Reply.isTaken]

theorem isFailed_iff (answer : Option Reply) :
    isFailed answer = true ↔ Fate.ofAnswer answer = .failed := by
  cases answer with
  | none => simp [isFailed, Fate.ofAnswer]
  | some reply =>
    cases reply with
    | status code =>
      by_cases h : 200 ≤ code ∧ code < 300 <;> simp [isFailed, Fate.ofAnswer, Reply.isTaken, h]
    | _ => simp [isFailed, Fate.ofAnswer, Reply.isTaken]

end Outcome

namespace Journal

/-- How many events are in the batches that ended with an answer of some kind. -/
def total (j : Journal) (kind : Option Reply → Bool) : Nat :=
  ((j.ended.filter fun batch => kind batch.2).map (·.1.length)).sum

theorem total_eq {kind : Option Reply → Bool} {fate : Fate}
    (h : ∀ answer, kind answer = true ↔ Fate.ofAnswer answer = fate) (j : Journal) :
    j.total kind = (j.under fate).length := by
  have hkind : (fun batch : List Letter × Option Reply => kind batch.2) =
      fun batch => decide (Fate.ofAnswer batch.2 = fate) := by
    funext batch
    rw [Bool.eq_iff_iff, h, decide_eq_true_iff]
  rw [total, under, List.length_flatMap, hkind]

/-- To a total a batch adds its own events, or nothing. -/
theorem total_of_ended {j : Journal} {earlier later : List (List Letter × Option Reply)}
    {batch : List Letter} {answer : Option Reply}
    (ended : j.ended = earlier ++ (batch, answer) :: later) (kind : Option Reply → Bool) :
    j.total kind = (if kind answer then batch.length else 0) +
      (((earlier ++ later).filter fun batch => kind batch.2).map (·.1.length)).sum := by
  rw [total, ended]
  cases h : kind answer <;> simp [List.filter_append, h, Nat.add_left_comm]

end Journal

namespace OutboxPlan

variable (plan : OutboxPlan)

/-- How many of some batches can be written. -/
def written (batches : List (List Letter)) : Nat :=
  batches.countP fun batch => (plan.post? (Letter.events batch)).isSome

/-- Some batches with the answers to their posts, where the replies come one for each batch that can
be written. -/
def answers (reply : Nat → Reply) : List (List Letter) → List (List Letter × Option Reply)
  | [] => []
  | batch :: batches =>
    (batch, (plan.post? (Letter.events batch)).map fun _ => reply 0) ::
      answers (fun n => reply (n + plan.written [batch])) batches

theorem written_append (xs ys : List (List Letter)) :
    plan.written (xs ++ ys) = plan.written xs + plan.written ys :=
  List.countP_append

theorem answers_append (reply : Nat → Reply) (xs ys : List (List Letter)) :
    plan.answers reply (xs ++ ys) =
      plan.answers reply xs ++ plan.answers (fun n => reply (n + plan.written xs)) ys := by
  induction xs generalizing reply with
  | nil => rfl
  | cons batch xs ih =>
    have hwritten : plan.written (batch :: xs) = plan.written xs + plan.written [batch] := by
      rw [← List.singleton_append, written_append, Nat.add_comm]
    rw [List.cons_append, answers, answers, ih, List.cons_append, hwritten]
    simp only [Nat.add_assoc]

/-- The answer to a batch is the reply that comes once those before it have theirs. -/
theorem answers_around (reply : Nat → Reply) (xs : List (List Letter)) (batch : List Letter)
    (ys : List (List Letter)) : plan.answers reply (xs ++ batch :: ys) =
      plan.answers reply xs ++
        (batch, (plan.post? (Letter.events batch)).map fun _ => reply (plan.written xs)) ::
          plan.answers (fun n => reply (n + plan.written (xs ++ [batch]))) ys := by
  have hwritten (n : Nat) :
      n + plan.written [batch] + plan.written xs = n + plan.written (xs ++ [batch]) := by
    rw [written_append]
    omega
  rw [answers_append, answers]
  simp only [hwritten, Nat.zero_add]

theorem map_fst_answers (reply : Nat → Reply) (batches : List (List Letter)) :
    (plan.answers reply batches).map (·.1) = batches := by
  induction batches generalizing reply with
  | nil => rfl
  | cons batch batches ih => rw [answers, List.map_cons, ih]

/-- Only the replies to the batches that can be written matter. -/
theorem answers_congr {reply reply' : Nat → Reply} {batches : List (List Letter)}
    (h : ∀ n < plan.written batches, reply n = reply' n) :
    plan.answers reply batches = plan.answers reply' batches := by
  induction batches generalizing reply reply' with
  | nil => rfl
  | cons batch batches ih =>
    have hwritten : plan.written (batch :: batches) =
        plan.written [batch] + plan.written batches := plan.written_append [batch] batches
    rw [answers, answers]
    congr 1
    · cases hpost : plan.post? (Letter.events batch) with
      | none => rfl
      | some post => simp [h 0 (by simp [written, hpost])]
    · exact ih fun n hn => h _ (by omega)

end OutboxPlan

namespace OutboxRun

variable {plan : OutboxPlan} {before before' : Collector} {r r' : OutboxRun}

/-- Between the posts of the batches before it and after it, a batch has its own, or none. -/
theorem Mirrors.posts_of_ended (m : Mirrors plan before r)
    {earlier later : List (List Letter × Option Reply)} {batch : List Letter}
    {answer : Option Reply} (ended : r.journal.ended = earlier ++ (batch, answer) :: later) :
    r.collector.posts.toList =
      (before.posts.toList ++
        (earlier.map (·.1)).filterMap fun batch => plan.post? (Letter.events batch)) ++
      (plan.post? (Letter.events batch)).toList ++
      (later.map (·.1)).filterMap fun batch => plan.post? (Letter.events batch) := by
  rw [m.posts_eq, ended]
  cases hpost : plan.post? (Letter.events batch) <;> simp [hpost]

theorem Mirrors.size_posts (m : Mirrors plan before r) :
    r.collector.posts.size = before.posts.size + plan.written (r.journal.ended.map (·.1)) := by
  rw [← Array.length_toList, m.posts_eq, List.length_append, Array.length_toList,
    List.length_filterMap_eq_countP, OutboxPlan.written]

theorem Mirrors.sent_eq (m : Mirrors plan before r) :
    r.outbox.sent = r.journal.total Outcome.isSent := by
  rw [m.sent, Journal.total_eq Outcome.isSent_iff]

theorem Mirrors.failed_eq (m : Mirrors plan before r) :
    r.outbox.failed = r.journal.total Outcome.isFailed + r.journal.refused.flatten.length := by
  rw [m.failed, Journal.total_eq Outcome.isFailed_iff, Nat.add_comm]

/-- The replies of a collector to the posts that come after those that it has. -/
def replies (before : Collector) (n : Nat) : Reply :=
  before.postReply (before.posts.size + n)

/-- The answers to the batches that ended are those of the collector, in order. -/
structure Answered (plan : OutboxPlan) (before : Collector) (r : OutboxRun) : Prop where
  replies : r.collector.postReply = before.postReply
  answers : r.journal.ended = plan.answers (OutboxRun.replies before) (r.journal.ended.map (·.1))

theorem Answered.finish (h : Answered plan before r) (m : Mirrors plan before r) (place : Nat)
    (batch : List Letter) : Answered plan before (r.finish place batch) := by
  have hanswer : r.answer batch = (plan.post? (Letter.events batch)).map fun _ =>
      OutboxRun.replies before (plan.written (r.journal.ended.map (·.1))) := by
    rw [answer, m.plan_eq]
    simp only [Collector.post, h.replies, m.size_posts, OutboxRun.replies]
  constructor
  · simp only [OutboxRun.finish]
    cases r.outbox.plan.post? (Letter.events batch) <;> exact h.replies
  · simp only [OutboxRun.finish]
    rw [List.map_append, OutboxPlan.answers_append, ← h.answers, hanswer]
    simp [OutboxPlan.answers]

theorem Move.answered (move : Move r r') (m : Mirrors plan before r)
    (h : Answered plan before r) : Answered plan before r' := by
  cases move with
  | finish place batch running => exact h.finish m place batch
  | _ => exact ⟨h.replies, h.answers⟩

theorem ended_eq_answers (plan : OutboxPlan) (before : Collector) (steps : List Outbox.Step) :
    (after plan before steps).journal.ended =
      plan.answers (replies before) ((after plan before steps).journal.ended.map (·.1)) :=
  (invariant_after (P := Answered plan before) ⟨rfl, rfl⟩ Move.answered steps).answers

/-- No two accepted letters have the same number. -/
structure Numbered (r : OutboxRun) : Prop where
  below : ∀ letter ∈ r.journal.accepted, letter.number < r.journal.submitted
  nodup : (r.journal.accepted.map (·.number)).Nodup

theorem Numbered.accept (h : Numbered r) (event : Event) : Numbered (r.accept event) := by
  constructor
  · intro letter hmem
    rcases List.mem_append.mp hmem with hmem | hmem
    · exact Nat.lt_succ_of_lt (h.below letter hmem)
    · obtain rfl := List.mem_singleton.mp hmem
      exact Nat.lt_succ_self _
  · rw [OutboxRun.accept, List.map_append, List.nodup_append]
    refine ⟨h.nodup, by simp, ?_⟩
    intro number hmem other hother
    obtain ⟨letter, hletter, rfl⟩ := List.mem_map.mp hmem
    obtain rfl := List.mem_singleton.mp hother
    exact Nat.ne_of_lt (h.below letter hletter)

theorem Move.numbered (move : Move r r') (_ : Mirrors plan before r) (h : Numbered r) :
    Numbered r' := by
  have hlater : ∀ letter ∈ r.journal.accepted, letter.number < r.journal.submitted + 1 :=
    fun letter hmem => Nat.lt_succ_of_lt (h.below letter hmem)
  cases move with
  | accept event => exact h.accept event
  | drop event => exact ⟨hlater, h.nodup⟩
  | ignore event => exact ⟨hlater, h.nodup⟩
  | _ => exact ⟨h.below, h.nodup⟩

theorem numbered_after (plan : OutboxPlan) (before : Collector) (steps : List Outbox.Step) :
    Numbered (after plan before steps) :=
  invariant_after ⟨fun _ h => absurd h List.not_mem_nil, List.nodup_nil⟩ Move.numbered steps

/-- The letters of a run that are in other batches than one that ended, or in no batch yet. -/
def others (r : OutboxRun) (earlier later : List (List Letter × Option Reply)) : List Letter :=
  (earlier.map (·.1)).flatten ++ (later.map (·.1)).flatten ++ r.journal.underway ++
    r.journal.refused.flatten ++ r.journal.queue

theorem Filed.accepted_perm_others (f : Filed r) {earlier later : List (List Letter × Option Reply)}
    {batch : List Letter} {answer : Option Reply}
    (ended : r.journal.ended = earlier ++ (batch, answer) :: later) :
    r.journal.accepted.Perm (batch ++ r.others earlier later) := by
  classical
  have hhanded := f.handed.flatten
  rw [ended, List.map_append, List.map_cons, List.flatten_append, List.flatten_append,
    List.flatten_cons] at hhanded
  rw [f.accepted, others, Journal.underway]
  rw [List.perm_iff_count] at hhanded ⊢
  intro letter
  have h := hhanded letter
  simp only [List.count_append] at h ⊢
  omega

/-- An edit of a batch's events leaves every other letter as it is. -/
theorem reword_others (f : Filed r) (h : Numbered r)
    {earlier later : List (List Letter × Option Reply)} {batch : List Letter}
    {answer : Option Reply} (ended : r.journal.ended = earlier ++ (batch, answer) :: later)
    {edit : Nat → Event → Event}
    (only : ∀ number, (∀ letter ∈ batch, letter.number ≠ number) → edit number = id) :
    ∀ letter ∈ r.others earlier later, letter.reword edit = letter := by
  have hnodup := ((f.accepted_perm_others ended).map (·.number)).nodup_iff.mp h.nodup
  rw [List.map_append, List.nodup_append] at hnodup
  intro letter hletter
  have hedit : edit letter.number = id := only _ fun other hother =>
    hnodup.2.2 _ (List.mem_map_of_mem hother) _ (List.mem_map_of_mem hletter)
  rw [Letter.reword, hedit]
  rfl

/-- Another outcome for a batch that ended after some others. Its events may be others, with which
it can be written or not, and its post may have another answer. All other posts have the same
answers, where the later ones move by a place if one batch is posted and the other is not. -/
structure Replaces (plan : OutboxPlan) (before before' : Collector) (edit : Nat → Event → Event)
    (earlier : List (List Letter)) (batch : List Letter) : Prop where
  only : ∀ number, (∀ letter ∈ batch, letter.number ≠ number) → edit number = id
  posts : before'.posts = before.posts
  sooner : ∀ n < plan.written earlier, replies before' n = replies before n
  later : ∀ n, replies before' (n + plan.written (earlier ++ [batch.map (Letter.reword edit)])) =
    replies before (n + plan.written (earlier ++ [batch]))

section Isolation

variable {steps : List Outbox.Step} {edit : Nat → Event → Event}
  {earlier later : List (List Letter × Option Reply)} {batch : List Letter} {answer : Option Reply}

theorem answers_of_ended
    (ended : (after plan before steps).journal.ended = earlier ++ (batch, answer) :: later) :
    earlier = plan.answers (replies before) (earlier.map (·.1)) ∧
      later = plan.answers
        (fun n => replies before (n + plan.written (earlier.map (·.1) ++ [batch])))
        (later.map (·.1)) := by
  have hlength : earlier.length =
      (plan.answers (replies before) (earlier.map (·.1))).length := by
    have h := congrArg List.length (plan.map_fst_answers (replies before) (earlier.map (·.1)))
    simpa using h.symm
  have hended := ended_eq_answers plan before steps
  rw [ended, List.map_append, List.map_cons, OutboxPlan.answers_around] at hended
  obtain ⟨hearlier, hrest⟩ := List.append_inj hended hlength
  exact ⟨hearlier, (List.cons.inj hrest).2⟩

/-- The other batches of a run keep their letters when the events of one batch are others. -/
theorem Rewords.batches {r r' : OutboxRun} (h : Rewords edit r r')
    (fixed : ∀ letter ∈ r.others earlier later, letter.reword edit = letter)
    (ended : r.journal.ended = earlier ++ (batch, answer) :: later) :
    r'.journal.ended.map (·.1) =
        earlier.map (·.1) ++ batch.map (Letter.reword edit) :: later.map (·.1) ∧
      r'.journal.crew.tasks = r.journal.crew.tasks ∧ r'.journal.refused = r.journal.refused ∧
      r'.journal.queue = r.journal.queue := by
  have hsame (letters : List Letter) (hletters : letters ⊆ r.others earlier later) :
      letters.map (Letter.reword edit) = letters := by
    rw [List.map_congr_left fun letter hletter => fixed letter (hletters hletter), List.map_id']
  have hbatches (batches : List (List Letter))
      (hletters : batches.flatten ⊆ r.others earlier later) :
      batches.map (List.map (Letter.reword edit)) = batches := by
    rw [List.map_congr_left fun batch hbatch => hsame batch fun letter hletter =>
      hletters (List.mem_flatten_of_mem hbatch hletter), List.map_id']
  refine ⟨?_, ?_, ?_, ?_⟩
  · rw [h.ended, ended, List.map_append, List.map_append, List.map_cons, List.map_cons, hbatches,
      hbatches]
    · exact fun letter hletter => by simp [others, hletter]
    · exact fun letter hletter => by simp [others, hletter]
  · rw [h.tasks, hbatches]
    exact fun letter hletter => by simp [others, Journal.underway, hletter]
  · rw [h.refused, hbatches]
    exact fun letter hletter => by simp [others, hletter]
  · rw [h.queue, hsame]
    exact fun letter hletter => by simp [others, hletter]

/-- With another outcome of one batch, all other batches end as they did. -/
theorem Replaces.ended
    (h : Replaces plan before before' edit (earlier.map (·.1)) batch)
    (ended : (after plan before steps).journal.ended = earlier ++ (batch, answer) :: later) :
    (after plan before' (Outbox.reword edit steps)).journal.ended = earlier ++
      (batch.map (Letter.reword edit),
        (plan.post? (Letter.events (batch.map (Letter.reword edit)))).map fun _ =>
          replies before' (plan.written (earlier.map (·.1)))) :: later := by
  have fixed := reword_others (filed_after plan before steps) (numbered_after plan before steps)
    ended h.only
  have hbatches := ((rewords_after plan before before' edit steps).batches fixed ended).1
  obtain ⟨hearlier, hlater⟩ := answers_of_ended ended
  rw [ended_eq_answers, hbatches, OutboxPlan.answers_around]
  congr 1
  · rw [plan.answers_congr h.sooner, ← hearlier]
  · congr 1
    rw [plan.answers_congr fun n _ => h.later n, ← hlater]

/-- The counts of an outbox are exact sums: those of the batches that were written and answered with
a status in 200..299, and those of the batches that were not written, were answered otherwise, came
to an error, or were refused. Each batch that has ended was posted if it can be written, whatever
came of those before it, and the workers go on until all have ended. With another outcome of one
batch, all other batches have the same letters, the same posts and the same answers, and so they
add the same to the counts. -/
theorem outcomes_counted_apart (plan : OutboxPlan) (before : Collector)
    (steps : List Outbox.Step) :
    let r := after plan before steps
    let post? := fun batch => plan.post? (Letter.events batch)
    r.outbox.sent = r.journal.total Outcome.isSent ∧
    r.outbox.failed = r.journal.total Outcome.isFailed + r.journal.refused.flatten.length ∧
    r.journal.ended = plan.answers (replies before) (r.journal.ended.map (·.1)) ∧
    r.collector.posts.toList =
      before.posts.toList ++ (r.journal.ended.map (·.1)).filterMap post? ∧
    (r.outbox.crew.isIdle = true → (r.journal.ended.map (·.1)).Perm r.journal.dispatched) ∧
    (0 < plan.workers → ∃ work : List Outbox.Step, (∀ s ∈ work, s.isWork = true) ∧
      (after plan before (steps ++ work)).outbox.crew.isIdle = true) ∧
    ∀ earlier batch answer later, r.journal.ended = earlier ++ (batch, answer) :: later →
      ∀ edit before', Replaces plan before before' edit (earlier.map (·.1)) batch →
        let r' := after plan before' (Outbox.reword edit steps)
        let batch' := batch.map (Letter.reword edit)
        let answer' := (post? batch').map fun _ =>
          replies before' (plan.written (earlier.map (·.1)))
        r'.journal.ended = earlier ++ (batch', answer') :: later ∧
        r'.journal.crew.tasks = r.journal.crew.tasks ∧ r'.journal.refused = r.journal.refused ∧
        r'.journal.queue = r.journal.queue ∧
        (∃ sooner rest, r.collector.posts.toList = sooner ++ (post? batch).toList ++ rest ∧
          r'.collector.posts.toList = sooner ++ (post? batch').toList ++ rest) ∧
        r'.outbox.sent + (if Outcome.isSent answer then batch.length else 0) =
          r.outbox.sent + (if Outcome.isSent answer' then batch.length else 0) ∧
        r'.outbox.failed + (if Outcome.isFailed answer then batch.length else 0) =
          r.outbox.failed + (if Outcome.isFailed answer' then batch.length else 0) := by
  intro r post?
  have m := mirrors_after plan before steps
  have f := filed_after plan before steps
  refine ⟨m.sent_eq, m.failed_eq, ended_eq_answers plan before steps, m.posts_eq, ?_,
    fun workers => exists_idle_after plan workers before steps, ?_⟩
  · intro idle
    have hhanded := f.handed
    rwa [m.tasks_eq_nil idle, List.append_nil] at hhanded
  · intro earlier batch answer later ended edit before' h r' batch' answer'
    have m' := mirrors_after plan before' (Outbox.reword edit steps)
    have hended : r'.journal.ended = earlier ++ (batch', answer') :: later := h.ended ended
    have fixed := reword_others f (numbered_after plan before steps) ended h.only
    obtain ⟨-, htasks, hrefused, hqueue⟩ :=
      (rewords_after plan before before' edit steps).batches fixed ended
    refine ⟨hended, htasks, hrefused, hqueue, ?_, ?_, ?_⟩
    · have hposts := m'.posts_of_ended hended
      rw [h.posts] at hposts
      exact ⟨_, _, m.posts_of_ended ended, hposts⟩
    · have hlength : batch'.length = batch.length := List.length_map ..
      rw [m.sent_eq, m'.sent_eq, Journal.total_of_ended ended, Journal.total_of_ended hended,
        hlength]
      omega
    · have hlength : batch'.length = batch.length := List.length_map ..
      rw [m.failed_eq, m'.failed_eq, Journal.total_of_ended ended, Journal.total_of_ended hended,
        hlength, hrefused]
      omega

end Isolation

/-- Of three batches the first is sent, the second is lost and the third has failed. If the second
could not be written instead, its two events would have failed, and nothing else would change. -/
theorem outcomes_counted_apart_of_unwritten_batch :
    let plan : OutboxPlan :=
      ⟨true, 9, 2, 1, 0, "traffic", "batch", "health", ⟨600, 608, 64, ""⟩, by decide⟩
    let before : Collector := ⟨fun n => if n = 0 then .status 200 else if n = 1 then .panicked else
      .status 500, fun _ => .status 200, #[], #[]⟩
    let before' : Collector :=
      { before with postReply := fun n => if n = 0 then .status 200 else .status 500 }
    let edit := fun number event =>
      if number = 2 ∨ number = 3 then Event.ofOperation "later" (-1) else event
    let submit := fun operation => Outbox.Step.submit (Event.ofOperation operation 2000)
    let steps : List Outbox.Step := [submit "a", submit "b", submit "c", submit "d", submit "e",
      .flush, .start, .finish 0, .start, .finish 0, .start, .finish 0]
    let r := after plan before steps
    let r' := after plan before' (Outbox.reword edit steps)
    0 < plan.workers ∧ r.outbox.crew.isIdle = true ∧ r.outbox.stats = ⟨2, 1, 0, 0⟩ ∧
      (∃ earlier batch answer later, r.journal.ended = earlier ++ (batch, answer) :: later ∧
        Replaces plan before before' edit (earlier.map (·.1)) batch ∧ answer = some .panicked) ∧
      r'.outbox.sent = 2 ∧ r'.outbox.failed = 3 := by
  intro plan before before' edit submit steps r r'
  have idle : r.outbox.crew.isIdle = true := by decide +kernel
  have hstats : r.outbox.stats = ⟨2, 1, 0, 0⟩ := by decide +kernel
  obtain ⟨first, second, third, ended⟩ := List.length_eq_three.mp
    (show r.journal.ended.length = 3 by decide +kernel)
  have hnumbers : r.journal.ended.map (·.1.map (·.number)) = [[0, 1], [2, 3], [4]] := by
    decide +kernel
  have hanswers : r.journal.ended.map (·.2) =
      [some (.status 200), some .panicked, some (.status 500)] := by
    decide +kernel
  have hposts : (r.journal.ended.map fun batch => (plan.post? (Letter.events batch.1)).isSome) =
      [true, true, true] := by
    decide +kernel
  have hposts' : (r.journal.ended.map fun batch =>
      (plan.post? (Letter.events (batch.1.map (Letter.reword edit)))).isSome) =
      [true, false, true] := by
    decide +kernel
  rw [ended] at hnumbers hanswers hposts hposts'
  simp only [List.map_cons, List.map_nil, List.cons.injEq, and_true]
    at hnumbers hanswers hposts hposts'
  have hended : r.journal.ended = [first] ++ (second.1, some .panicked) :: [third] := by
    rw [ended, ← hanswers.2.1]
    rfl
  have hreplaces : Replaces plan before before' edit ([first].map (·.1)) second.1 := by
    refine ⟨fun number hnumber => ?_, rfl, fun n hn => ?_, fun n => ?_⟩
    · have hne (n : Nat) (hn : n ∈ [2, 3]) : number ≠ n := by
        rw [← hnumbers.2.1] at hn
        obtain ⟨letter, hletter, rfl⟩ := List.mem_map.mp hn
        exact (hnumber letter hletter).symm
      funext event
      simp [edit, hne]
    · obtain rfl : n = 0 := by simpa [OutboxPlan.written, hposts] using hn
      rfl
    · simp [OutboxPlan.written, hposts, hposts', replies, before, before']
  obtain ⟨-, -, -, -, -, -, hisolated⟩ := outcomes_counted_apart plan before steps
  obtain ⟨-, -, -, -, -, hsent, hfailed⟩ := hisolated _ _ _ _ hended edit before' hreplaces
  have hunwritten : plan.post? (Letter.events (second.1.map (Letter.reword edit))) = none := by
    simpa using hposts'.2.1
  have hlength : second.1.length = 2 := by simpa using congrArg List.length hnumbers.2.1
  have hr : (after plan before steps).outbox.sent = 2 ∧
      (after plan before steps).outbox.failed = 1 :=
    ⟨congrArg (·.sent) hstats, congrArg (·.failed) hstats⟩
  simp only [hunwritten, hr, hlength] at hsent hfailed
  exact ⟨Nat.one_pos, idle, hstats, ⟨_, _, _, _, hended, hreplaces, rfl⟩, hsent, hfailed⟩

end OutboxRun

end CallWatch
