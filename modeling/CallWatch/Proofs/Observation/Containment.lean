import CallWatch.Observation.Handler
import CallWatch.Proofs.Observation.Run

/-! Containment. A handler returns, and what it has done is what its notification does
(`handle_eq`), wherever an error or a panic cut its body short. So nothing that goes wrong reaches
the monitored call, at most one event is submitted, and of the starts at most the call's own
changes. -/

namespace CallWatch

namespace Observer

theorem body_snd (o : Observer) (sink : Sink) (n : Notification) (call : Call) (moment : Moment)
    (scene : Scene) : (o.body sink n call moment scene).2 =
      { starts := (o.notify n call moment scene.starts).1
        submitted := scene.submitted ++ (o.notify n call moment scene.starts).2.toList } := by
  unfold body notify
  rw [Handling.read_bind]
  cases hsight : call.sight n.side moment.name with
  | failed e => simp
  | panicked => simp
  | value sighted =>
    cases sighted with
    | none => simp [pure]
    | some seen =>
      dsimp only
      rw [Handling.time_bind]
      cases n with
      | requestContexts => simp [pure]
      | reached point =>
        dsimp only
        rw [Handling.read_bind]
        -- From here on the starts have changed, and only the event can still be lost.
        cases o.event point call seen
            ((Notification.reached point).timing.apply seen.key moment.now scene.starts).1
            moment.wall with
        | failed e => simp
        | panicked => simp
        | value e => simp [Handling.submit]

theorem handle_eq (o : Observer) (sink : Sink) (n : Notification) (call : Call) (moment : Moment)
    (scene : Scene) : o.handle sink n call moment scene =
      (.value (),
        { starts := (o.notify n call moment scene.starts).1
          submitted := scene.submitted ++ (o.notify n call moment scene.starts).2.toList }) := by
  rw [handle, Handling.guarded_eq, body_snd]

/-- A notification changes the starts only under the key of its call, which has a raw request
id. -/
theorem exists_raw_of_getElem?_notify_ne {o : Observer} {n : Notification} {call : Call}
    {moment : Moment} {starts : Starts} {key : String}
    (h : (o.notify n call moment starts).1[key]? ≠ starts[key]?) :
    ∃ raw, call.requestId = .value raw ∧ raw ≠ [] ∧ RequestKey.digits raw = key := by
  rw [getElem?_notify] at h
  by_cases hkey : call.pairing? n.side moment.name = some key
  · exact Call.pairing?_eq_some hkey
  · rw [if_neg hkey] at h
    exact absurd rfl h

/-- However the data of a call read and whatever the sink does, a handler returns, submits at most
one event, and changes the starts at most under the call's own key; it leaves them all if the call
has no raw request id. -/
theorem handle_contained (o : Observer) (sink : Sink) (n : Notification) (call : Call)
    (moment : Moment) (scene : Scene) :
    ∃ after, o.handle sink n call moment scene = (.value (), after) ∧
      (∃ event : Option Event, after.submitted = scene.submitted ++ event.toList) ∧
      (∀ key, after.starts[key]? ≠ scene.starts[key]? →
        ∃ raw, call.requestId = .value raw ∧ raw ≠ [] ∧ key = RequestKey.digits raw) ∧
      (call.requestId = .value [] → after.starts = scene.starts) := by
  refine ⟨_, o.handle_eq sink n call moment scene, ⟨_, rfl⟩, ?_, ?_⟩
  · intro key hkey
    obtain ⟨raw, hraw, hne, rfl⟩ := exists_raw_of_getElem?_notify_ne hkey
    exact ⟨raw, hraw, hne, rfl⟩
  · intro hempty
    apply Std.ExtTreeMap.ext_getElem?
    intro key
    by_contra hkey
    obtain ⟨raw, hraw, hne, -⟩ := exists_raw_of_getElem?_notify_ne hkey
    exact hne (Reading.value.inj (hraw.symm.trans hempty))

/-- A request whose arguments panic after its start was kept, with a sink that would panic too. -/
theorem handle_contained_of_panicking_arguments :
    let o : Observer := ⟨true, true, 65536, "here"⟩
    let call : Call := { Call.bare [1, 2] with arguments := .panicked }
    ∃ after, o.handle ⟨fun _ _ => true⟩ (.reached .sendRequest) call ⟨7, ⟨0, 0, 0⟩, ""⟩ ⟨∅, []⟩ =
        (.value (), after) ∧ after.submitted = [] ∧
      after.starts[RequestKey.digits [1, 2]]? = some 7 ∧
      ∀ key, key ≠ RequestKey.digits [1, 2] → after.starts[key]? = none := by
  intro o call
  obtain ⟨after, hafter, -, hstarts, -⟩ :=
    o.handle_contained ⟨fun _ _ => true⟩ (.reached .sendRequest) call ⟨7, ⟨0, 0, 0⟩, ""⟩ ⟨∅, []⟩
  obtain rfl : (o.handle ⟨fun _ _ => true⟩ (.reached .sendRequest) call ⟨7, ⟨0, 0, 0⟩, ""⟩
      ⟨∅, []⟩).2 = after := by rw [hafter]
  refine ⟨_, hafter, List.isEmpty_iff.mp (by decide +kernel), by decide +kernel, ?_⟩
  intro key hkey
  by_contra hkept
  obtain ⟨raw, hraw, -, rfl⟩ := hstarts key (by simpa using hkept)
  obtain rfl : [1, 2] = raw := Reading.value.inj hraw
  exact hkey rfl

end Observer

end CallWatch
