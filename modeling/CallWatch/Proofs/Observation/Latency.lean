import CallWatch.Proofs.Observation.Run

/-! Latencies. The event of a completion shows how long its call took if the call is underway at
that point of the run, whichever side began it and whatever else was observed or swept in between.
No other event shows a latency. -/

namespace CallWatch

theorem Timing.apply_latency_eq_some_iff {timing : Timing} {key : RequestKey} {now : Instant}
    {starts : Starts} {x : Float} : (timing.apply key now starts).1 = some x ↔
      timing = .take ∧ ∃ digits began, key.pairing? = some digits ∧ starts[digits]? = some began ∧
        x = millis (now.since began) := by
  unfold apply
  split
  · simp
  · next digits hpairing =>
    rw [Starts.takeElapsed, Starts.take, Option.map_eq_some_iff]
    simp [hpairing, eq_comm]
  · next hmark htake =>
    constructor
    · intro h
      simp at h
    · rintro ⟨htiming, digits, -, hpairing, -⟩
      exact absurd hpairing (htake digits htiming)

namespace Observer

/-- In every run of notifications and sweeps, an event shows a latency just if it is that of a
completion, its call has a raw request id, and the last step that concerned the id's first bytes
began a call. The latency is then the time since that step in milliseconds, or zero if that step
lies ahead, added up from its whole seconds and the rest. -/
theorem latency_eq_some_iff (o : Observer) (history : List Step) (n : Notification) (call : Call)
    (moment : Moment) (e : Event)
    (submitted : (o.step (o.startsAfter history) (.notice n call moment)).2 = some e) :
    ∃ raw, call.requestId = .value raw ∧ ∀ x, e.latency = some x ↔
      n ∈ Notification.completions ∧ raw ≠ [] ∧
        ∃ began, Underway history (RequestKey.digits raw) began ∧
          let nanos := (moment.now - began).toNat
          x = ((nanos / 1000000000).toFloat + (nanos % 1000000000).toFloat / 1000000000.0) *
            1000.0 := by
  obtain ⟨point, seen, rfl, hseen, hevent⟩ := notify_event.mp submitted
  obtain ⟨operation, ids, raw, -, -, -, -, hraw, rfl⟩ := Call.sight_eq_some.mp hseen
  obtain ⟨exception, site, contexts, requestData, responseData, -, -, -, -, -, rfl⟩ :=
    event_eq_value.mp hevent
  refine ⟨raw, hraw, fun x => ?_⟩
  rw [Timing.apply_latency_eq_some_iff, Notification.timing_eq_take_iff,
    RequestKey.pairing?_ofBytes]
  simp only [getElem?_startsAfter]
  by_cases hempty : raw = []
  · simp [hempty]
  · simp [hempty, millis, Instant.since]

/-- A reply five milliseconds after its request, with an unpaired call and a sweep in between. -/
theorem latency_eq_some_iff_of_reply :
    let o : Observer := ⟨false, false, 0, "here"⟩
    let call : List UInt8 → Call := fun raw => {
      requestId := .value raw
      operation := .value "price"
      contextLength := fun _ => .value none
      arguments := .value []
      result := .value none
      targetTypeIds := .value []
      target := .value ""
      exceptionId := .value ""
      objectId := .value []
      targetInterface := .value "" }
    let history : List Step := [.notice (.reached .sendRequest) (call [1, 2]) ⟨0, ⟨0, 0, 0⟩, ""⟩,
      .notice (.reached .receiveReply) (call []) ⟨1, ⟨0, 0, 0⟩, ""⟩, .sweep 3 2]
    ∃ e, (o.step (o.startsAfter history) (.notice (.reached .receiveReply) (call [1, 2])
      ⟨5000000, ⟨0, 0, 0⟩, ""⟩)).2 = some e ∧ e.latency =
        some ((Nat.toFloat 0 + Nat.toFloat 5000000 / 1000000000.0) * 1000.0) := by
  intro o call history
  have hsome : (o.step (o.startsAfter history) (.notice (.reached .receiveReply) (call [1, 2])
      ⟨5000000, ⟨0, 0, 0⟩, ""⟩)).2.isSome = true := by decide +kernel
  obtain ⟨e, submitted⟩ := Option.isSome_iff_exists.mp hsome
  obtain ⟨raw, hraw, hlatency⟩ := latency_eq_some_iff o history _ _ _ e submitted
  obtain rfl : [1, 2] = raw := Reading.value.inj hraw
  have hunderway : Underway history (RequestKey.digits [1, 2]) 0 := by
    refine ⟨[], _, _, rfl, ⟨by decide, by decide +kernel, rfl⟩, ?_⟩
    intro s hs
    simp only [List.mem_cons, List.not_mem_nil, or_false] at hs
    rcases hs with rfl | rfl
    · rintro ⟨-, hpairing⟩
      exact absurd hpairing (by decide +kernel)
    · show ¬3 ≤ Instant.since 2 0
      decide
  exact ⟨e, submitted, (hlatency _).mpr ⟨by decide, by decide, 0, hunderway, rfl⟩⟩

end Observer

end CallWatch
