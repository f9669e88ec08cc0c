import CallWatch.Proofs.Observation.Latency
import CallWatch.Proofs.Observation.Play

/-! The form of events. Which fields an event has follows from its point, from its side, and from
what the observer captures: requests have no outcome, only exceptions have an error, and each side
names only the host that it knows. -/

namespace CallWatch

theorem ExceptionClass.status_ofId_ne_success (id : String) : (ofId id).status ≠ .success := by
  unfold ofId
  dsimp only
  split <;> exact fun h => nomatch h

/-- The fields of an event of a call agree with each other, and with what the observer captures. -/
structure Event.WellFormed (o : Observer) (call : Call) (e : Event) : Prop where
  direction : e.direction = .request ↔ e.point = .sendRequest ∨ e.point = .receiveRequest
  message : e.direction = .request ↔ e.message = .request
  kind : e.errorMessage.isSome ↔ e.exceptionKind.isSome
  status : e.errorMessage.isSome ↔ e.status ≠ .success
  raised : e.errorMessage.isSome ↔ e.point = .receiveException ∨ e.point = .sendException
  requestData : e.requestData.isSome ↔ e.direction = .request ∧ o.requestData = true
  responseData : e.responseData.isSome →
    (e.point = .receiveReply ∨ e.point = .sendReply) ∧ o.responseData = true
  latency : e.latency.isSome →
    e.direction = .reply ∧ ∃ raw, call.requestId = .value raw ∧ raw ≠ []
  client : e.point.side = .client → e.sourceHost = some o.localHost ∧ e.targetService = none
  server : e.point.side = .server → e.targetHost = some o.localHost ∧ e.sourceHost = none
  interface : e.interfaceName.isSome ↔ e.repositoryId.isSome

namespace Point

theorem hasException_iff {point : Point} :
    point.hasException = true ↔ point = .receiveException ∨ point = .sendException := by
  cases point <;> decide

theorem hasResult_iff {point : Point} :
    point.hasResult = true ↔ point = .receiveReply ∨ point = .sendReply := by
  cases point <;> decide

theorem direction_eq_request_iff {point : Point} :
    point.direction = .request ↔ point = .sendRequest ∨ point = .receiveRequest := by
  cases point <;> decide

theorem message_eq_request_iff {point : Point} :
    point.message = .request ↔ point.direction = .request := by
  cases point <;> decide

theorem direction_of_take {point : Point} (h : point.timing = .take) :
    point.direction = .reply := by
  revert h
  cases point <;> decide

end Point

namespace Observer

variable {o : Observer} {point : Point} {call : Call}

theorem exceptionAt_eq_value {exception : Option ExceptionClass}
    (h : exceptionAt point call = .value exception) :
    (exception.isSome ↔ point.hasException = true) ∧
      (exception.isSome ↔ exception.elim .success (·.status) ≠ .success) := by
  unfold exceptionAt at h
  split at h
  · next hraises =>
    obtain ⟨c, hclass, hc⟩ := Reading.bind_eq_value.mp h
    obtain rfl := Reading.value.inj hc
    obtain ⟨id, -, hid⟩ := Reading.bind_eq_value.mp hclass
    obtain rfl := Reading.value.inj hid
    have hstatus := ExceptionClass.status_ofId_ne_success id
    simp [hraises, hstatus]
  · next hquiet =>
    obtain rfl := Reading.value.inj h
    simp [hquiet]

theorem requestDataAt_isSome_iff {operation : String} {data : Option Payload}
    (h : o.requestDataAt point call operation = .value data) :
    data.isSome ↔ point.direction = .request ∧ o.requestData = true := by
  unfold requestDataAt at h
  split at h
  · next hcaptured =>
    obtain ⟨p, -, hp⟩ := Reading.bind_eq_value.mp h
    obtain rfl := Reading.value.inj hp
    simp [hcaptured]
  · next hnot =>
    obtain rfl := Reading.value.inj h
    simp [hnot]

theorem captures_of_responseDataAt {operation : String} {data : Option Payload}
    (h : o.responseDataAt point call operation = .value data) (hdata : data.isSome) :
    point.hasResult = true ∧ o.responseData = true := by
  unfold responseDataAt at h
  split at h
  · assumption
  · obtain rfl := Reading.value.inj h
    exact absurd hdata (by decide)

theorem site_client {site : Site} (h : o.site .client call = .value site) :
    site.sourceHost = some o.localHost ∧ site.targetService = none := by
  obtain ⟨target, -, hsite⟩ := Reading.bind_eq_value.mp h
  obtain rfl := Reading.value.inj hsite
  exact ⟨rfl, rfl⟩

theorem site_server {site : Site} (h : o.site .server call = .value site) :
    site.targetHost = some o.localHost ∧ site.sourceHost = none := by
  obtain ⟨name, -, hsite⟩ := Reading.bind_eq_value.mp h
  obtain rfl := Reading.value.inj hsite
  exact ⟨rfl, rfl⟩

theorem event_wellFormed {seen : Sighting} {latency : Option Float} {wall : Timestamp} {e : Event}
    (hevent : o.event point call seen latency wall = .value e)
    (hlatency : latency.isSome →
      point.direction = .reply ∧ ∃ raw, call.requestId = .value raw ∧ raw ≠ []) :
    e.WellFormed o call := by
  obtain ⟨exception, site, contexts, requestData, responseData, hexception, hsite, -, hrequest,
    hresponse, rfl⟩ := event_eq_value.mp hevent
  obtain ⟨hraised, hstatus⟩ := exceptionAt_eq_value hexception
  constructor
  case direction => exact Point.direction_eq_request_iff
  case message => exact Point.message_eq_request_iff.symm
  case kind => simp
  case status => simpa using hstatus
  case raised => simpa [Point.hasException_iff] using hraised
  case requestData => exact requestDataAt_isSome_iff hrequest
  case responseData =>
    intro hdata
    obtain ⟨hresult, hcaptured⟩ := captures_of_responseDataAt hresponse hdata
    exact ⟨Point.hasResult_iff.mp hresult, hcaptured⟩
  case latency => exact hlatency
  case client =>
    intro hside
    have hside : point.side = .client := hside
    exact site_client (hside ▸ hsite)
  case server =>
    intro hside
    have hside : point.side = .server := hside
    exact site_server (hside ▸ hsite)
  case interface => simp

/-- The event of a notification is that of its point, and well formed. -/
theorem notify_wellFormed {n : Notification} {moment : Moment} {starts : Starts} {e : Event}
    (h : (o.notify n call moment starts).2 = some e) :
    n = .reached e.point ∧ e.WellFormed o call := by
  obtain ⟨point, seen, rfl, hseen, hevent⟩ := notify_event.mp h
  have hpoint : e.point = point := by
    obtain ⟨_, _, _, _, _, -, -, -, -, -, rfl⟩ := event_eq_value.mp hevent
    rfl
  refine ⟨by rw [hpoint], event_wellFormed hevent fun htimed => ?_⟩
  obtain ⟨x, hx⟩ := Option.isSome_iff_exists.mp htimed
  obtain ⟨htake, digits, -, hdigits, -, -⟩ := Timing.apply_latency_eq_some_iff.mp hx
  have hpaired : call.pairing? (Notification.reached point).side moment.name = some digits := by
    rw [Call.pairing?, hseen]
    exact hdigits
  obtain ⟨raw, hraw, hne, -⟩ := Call.pairing?_eq_some hpaired
  exact ⟨Point.direction_of_take htake, raw, hraw, hne⟩

/-- In every run of handlers and sweeps, over any starts and with any sink, each event that is
submitted comes from the handler of its point, and its fields agree with each other and with what
the observer captures. -/
theorem play_wellFormed (o : Observer) (sink : Sink) (scene : Scene) (history : List Step) :
    (o.play sink scene history).submitted =
      scene.submitted ++ (o.eventsFrom scene.starts history).map (·.2) ∧
    ∀ s e, (s, e) ∈ o.eventsFrom scene.starts history →
      ∃ call moment, s = .notice (.reached e.point) call moment ∧ s ∈ history ∧
        e.WellFormed o call := by
  refine ⟨by rw [play_eq], ?_⟩
  intro s e hmem
  obtain ⟨hs, before, hevent⟩ := mem_eventsFrom hmem
  cases s with
  | notice n call moment =>
    obtain ⟨rfl, hformed⟩ := notify_wellFormed hevent
    exact ⟨call, moment, rfl, hs, hformed⟩
  | sweep limit now => exact nomatch hevent

/-- A request that ends in a passing failure of the runtime: the second event is that of the
exception, and it has an error and no data. -/
theorem play_wellFormed_of_exception :
    let o : Observer := ⟨true, true, 65536, "here"⟩
    let call := { Call.bare [1, 2] with exceptionId := .value "IDL:omg.org/CORBA/TRANSIENT:1.0" }
    let history := [.notice (.reached .sendRequest) call ⟨0, ⟨0, 0, 0⟩, ""⟩,
      .notice (.reached .receiveException) call ⟨5, ⟨0, 0, 0⟩, ""⟩]
    ∃ s e, (s, e) ∈ o.eventsFrom ∅ history ∧ e.point = .receiveException ∧
      e.errorMessage.isSome ∧ e.status ≠ .success ∧ ¬e.requestData.isSome ∧ ¬e.responseData.isSome ∧
      e.sourceHost = some "here" := by
  intro o call history
  have hlength : (o.eventsFrom ∅ history).length = 2 := by decide +kernel
  have hmem : (o.eventsFrom ∅ history)[1] ∈ o.eventsFrom ∅ history := List.getElem_mem _
  have hpoint : (o.eventsFrom ∅ history)[1].2.point = .receiveException := by decide +kernel
  generalize (o.eventsFrom ∅ history)[1] = submitted at hmem hpoint
  obtain ⟨-, hformed⟩ := o.play_wellFormed ⟨fun _ _ => true⟩ ⟨∅, []⟩ history
  obtain ⟨_, _, -, -, h⟩ := hformed submitted.1 submitted.2 hmem
  have hraised := h.raised.mpr (.inl hpoint)
  refine ⟨submitted.1, submitted.2, hmem, hpoint, hraised, h.status.mp hraised, ?_, ?_,
    (h.client (by rw [hpoint]; rfl)).1⟩
  · intro hdata
    rcases h.direction.mp (h.requestData.mp hdata).1 with hrequest | hrequest
    all_goals exact nomatch hpoint.symm.trans hrequest
  · intro hdata
    rcases (h.responseData hdata).1 with hreply | hreply
    all_goals exact nomatch hpoint.symm.trans hreply

end Observer

end CallWatch
