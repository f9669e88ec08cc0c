import CallWatch.Proofs.Observation.Run

/-! What calls leave behind. Every notification that ends a call takes its start, but for the
redirection that a client receives: that one leaves the start, until a later completion takes it or
a sweep drops it. Runs in which every call that begins is completed later leave no starts at all. -/

namespace CallWatch

namespace Notification

/-- The notifications that end a call: its completions, and a redirection that a client receives. -/
def endings : List Notification :=
  .reached .receiveOther :: completions

end Notification

namespace Observer

def Step.Completes (key : String) : Step → Prop
  | notice n call moment =>
    n ∈ Notification.completions ∧ call.pairing? n.side moment.name = some key
  | sweep _ _ => False

theorem Step.Completes.ends {key : String} {s : Step} (h : s.Completes key) (began : Instant) :
    s.Ends key began := by
  cases s with
  | notice n call moment => exact ⟨List.mem_append_right _ h.1, h.2⟩
  | sweep limit now => exact h.elim

theorem startsAfter_eq_empty_iff {o : Observer} {history : List Step} :
    o.startsAfter history = ∅ ↔ ∀ key began, ¬Underway history key began := by
  constructor
  · intro h key began hunderway
    rw [← o.getElem?_startsAfter, h] at hunderway
    simp at hunderway
  · intro h
    apply Std.ExtTreeMap.ext_getElem?
    intro key
    rw [Std.ExtTreeMap.getElem?_empty, Option.eq_none_iff_forall_not_mem]
    intro began hbegan
    exact h key began (o.getElem?_startsAfter history key began |>.mp hbegan)

/-- An ending of a monitored call leaves a start under the call's key only if it is a redirection
that a client receives, and there was a start before. -/
theorem getElem?_notify_ending (o : Observer) {starts : Starts} {n : Notification} {call : Call}
    {moment : Moment} {key : String} (hn : n ∈ Notification.endings)
    (hkey : call.pairing? n.side moment.name = some key) :
    (o.notify n call moment starts).1[key]? =
      if n = .reached .receiveOther then starts[key]? else none := by
  rw [getElem?_notify, if_pos hkey]
  rcases List.mem_cons.mp hn with rfl | hcompletion
  · rfl
  · rw [Notification.timing_eq_take_iff.mpr hcompletion]
    rw [if_neg]
    rintro rfl
    exact absurd hcompletion (by decide)

/-- Every ending of a monitored call with a raw request id leaves no start under the call's key,
except that a redirection which a client receives leaves the start that was there. A run in which
every call that begins is completed later leaves no starts. -/
theorem completed_leave_nothing (o : Observer) :
    (∀ starts n call moment key, n ∈ Notification.endings →
      call.pairing? n.side moment.name = some key →
      (o.notify n call moment starts).1[key]? =
        if n = .reached .receiveOther then starts[key]? else none) ∧
    ∀ history : List Step,
      (∀ earlier first later key began, history = earlier ++ first :: later →
        first.Begins key began → ∃ s ∈ later, s.Completes key) →
      o.startsAfter history = ∅ := by
  constructor
  · intro starts n call moment key hn hkey
    exact o.getElem?_notify_ending hn hkey
  · intro history hcompleted
    rw [startsAfter_eq_empty_iff]
    rintro key began ⟨earlier, first, later, hhistory, hfirst, hlater⟩
    obtain ⟨s, hs, hcompletes⟩ := hcompleted earlier first later key began hhistory hfirst
    exact hlater s hs (hcompletes.ends began)

/-- A server's redirection over a start that is kept, and a run of a client's call and a server's
call, interleaved, and each completed. -/
theorem completed_leave_nothing_of_interleaved_calls :
    let o : Observer := ⟨false, false, 0, "here"⟩
    let kept := (∅ : Starts).record (RequestKey.digits [2]) 1
    (o.notify (.reached .sendOther) (Call.bare [2]) ⟨3, ⟨0, 0, 0⟩, ""⟩ kept).1[
        RequestKey.digits [2]]? = none ∧
    o.startsAfter [.notice (.reached .sendRequest) (Call.bare [1]) ⟨0, ⟨0, 0, 0⟩, ""⟩,
      .notice .requestContexts (Call.bare [2]) ⟨1, ⟨0, 0, 0⟩, ""⟩,
      .notice (.reached .receiveException) (Call.bare [1]) ⟨2, ⟨0, 0, 0⟩, ""⟩,
      .notice (.reached .sendOther) (Call.bare [2]) ⟨3, ⟨0, 0, 0⟩, ""⟩] = ∅ := by
  intro o kept
  obtain ⟨hending, hrun⟩ := o.completed_leave_nothing
  refine ⟨hending kept (.reached .sendOther) _ _ _ (by decide) (by decide +kernel), hrun _ ?_⟩
  rintro earlier first later key began hhistory hfirst
  rcases earlier with _ | ⟨s₁, _ | ⟨s₂, _ | ⟨s₃, _ | ⟨s₄, earlier⟩⟩⟩⟩
  all_goals
    simp only [List.nil_append, List.cons_append, List.cons.injEq] at hhistory
  · obtain ⟨rfl, rfl⟩ := hhistory
    refine ⟨_, List.mem_cons_of_mem _ List.mem_cons_self, by decide, hfirst.2.1⟩
  · obtain ⟨rfl, rfl, rfl⟩ := hhistory
    refine ⟨_, List.mem_cons_of_mem _ List.mem_cons_self, by decide, hfirst.2.1⟩
  · obtain ⟨rfl, rfl, rfl, rfl⟩ := hhistory
    exact absurd hfirst.1 (by decide)
  · obtain ⟨rfl, rfl, rfl, rfl, rfl⟩ := hhistory
    exact absurd hfirst.1 (by decide)
  · simp at hhistory

/-- A redirection is an ending of the client's call that began before it, and yet the call's start
is still there. -/
theorem received_redirection_leaves_start :
    let o : Observer := ⟨false, false, 0, "here"⟩
    let call := Call.bare [1]
    let began := Step.notice (.reached .sendRequest) call ⟨0, ⟨0, 0, 0⟩, ""⟩
    let ended := Step.notice (.reached .receiveOther) call ⟨1, ⟨0, 0, 0⟩, ""⟩
    .reached .receiveOther ∈ Notification.endings ∧
      call.pairing? .client "" = some (RequestKey.digits [1]) ∧
      (o.startsAfter [began, ended])[RequestKey.digits [1]]? = some 0 := by
  decide +kernel

end Observer

end CallWatch
