import CallWatch.Observation.Observer

/-! What a notification reads, and what it does. A call is monitored if its operation, the ids of
its type and its request id can be read and none of them says that it belongs to the
infrastructure. The starts then change as the timing of the notification says, whatever else can be
read; the event comes only if all its parts can. -/

namespace CallWatch

/-- What has to be read before a call counts as monitored. -/
theorem Call.sight_eq_some {call : Call} {side : Side} {name : String} {seen : Sighting} :
    call.sight side name = .value (some seen) ↔
      ∃ operation ids raw, call.operation = .value operation ∧ Skip.operation operation = false ∧
        call.typeIds side = .value ids ∧ Skip.typeIds ids = false ∧
        call.requestId = .value raw ∧ ⟨operation, ids.head?, .ofBytes raw name⟩ = seen := by
  unfold sight
  simp only [Reading.bind_eq_value]
  constructor
  · rintro ⟨operation, hoperation, h⟩
    cases hskip : Skip.operation operation with
    | true => simp [hskip, Reading.pure_eq_value] at h
    | false =>
      simp only [hskip, Bool.false_eq_true, if_false, Reading.bind_eq_value] at h
      obtain ⟨ids, hids, h⟩ := h
      cases hskip' : Skip.typeIds ids with
      | true => simp [hskip', Reading.pure_eq_value] at h
      | false =>
        simp only [hskip', Bool.false_eq_true, if_false, Reading.bind_eq_value,
          Reading.pure_eq_value, Option.some.injEq] at h
        obtain ⟨raw, hraw, hseen⟩ := h
        exact ⟨operation, ids, raw, hoperation, hskip, hids, hskip', hraw, hseen⟩
  · rintro ⟨operation, ids, raw, hoperation, hskip, hids, hskip', hraw, rfl⟩
    refine ⟨operation, hoperation, ?_⟩
    simp only [hskip, Bool.false_eq_true, if_false, Reading.bind_eq_value]
    refine ⟨ids, hids, ?_⟩
    simp only [hskip', Bool.false_eq_true, if_false, Reading.bind_eq_value, Reading.pure_eq_value]
    exact ⟨raw, hraw, rfl⟩

/-- A call that shows an operation and a raw request id, and has nothing else to show. -/
def Call.bare (raw : List UInt8) : Call where
  requestId := .value raw
  operation := .value "price"
  contextLength := fun _ => .value none
  arguments := .value []
  result := .value none
  targetTypeIds := .value []
  target := .value ""
  exceptionId := .value ""
  objectId := .value []
  targetInterface := .value ""

namespace Observer

theorem event_eq_value {o : Observer} {point : Point} {call : Call} {seen : Sighting}
    {latency : Option Float} {wall : Timestamp} {e : Event} :
    o.event point call seen latency wall = .value e ↔
      ∃ exception site contexts requestData responseData,
        exceptionAt point call = .value exception ∧ o.site point.side call = .value site ∧
        call.probeContexts = .value contexts ∧
        o.requestDataAt point call seen.operation = .value requestData ∧
        o.responseDataAt point call seen.operation = .value responseData ∧
        e = {
          requestId := seen.key.text
          operation := some seen.operation
          interfaceName := seen.repositoryId.map RepositoryId.shortTypeName
          repositoryId := seen.repositoryId
          sourceHost := site.sourceHost
          sourcePort := none
          targetHost := site.targetHost
          targetPort := site.targetPort
          sourceService := none
          targetService := site.targetService
          point
          contexts
          direction := point.direction
          status := exception.elim .success (·.status)
          message := point.message
          requestData
          responseData
          errorMessage := exception.map (·.message)
          exceptionKind := exception.map (·.kind)
          latency
          timestamp := wall } := by
  unfold event
  simp only [Reading.bind_eq_value, Reading.pure_eq_value]
  constructor
  · rintro ⟨exception, hexception, site, hsite, contexts, hcontexts, requestData, hrequest,
      responseData, hresponse, rfl⟩
    exact ⟨exception, site, contexts, requestData, responseData, hexception, hsite, hcontexts,
      hrequest, hresponse, rfl⟩
  · rintro ⟨exception, site, contexts, requestData, responseData, hexception, hsite, hcontexts,
      hrequest, hresponse, rfl⟩
    exact ⟨exception, hexception, site, hsite, contexts, hcontexts, requestData, hrequest,
      responseData, hresponse, rfl⟩

theorem notify_starts {o : Observer} {n : Notification} {call : Call} {moment : Moment}
    {starts : Starts} {seen : Sighting} (h : call.sight n.side moment.name = .value (some seen)) :
    (o.notify n call moment starts).1 = (n.timing.apply seen.key moment.now starts).2 := by
  simp only [notify, h]
  cases n with
  | requestContexts => rfl
  | reached point =>
    dsimp only
    split <;> rfl

theorem notify_unseen {o : Observer} {n : Notification} {call : Call} {moment : Moment}
    {starts : Starts} (h : ∀ seen, call.sight n.side moment.name ≠ .value (some seen)) :
    o.notify n call moment starts = (starts, none) := by
  unfold notify
  split
  · next seen hseen => exact absurd hseen (h seen)
  · rfl

theorem notify_event {o : Observer} {n : Notification} {call : Call} {moment : Moment}
    {starts : Starts} {e : Event} :
    (o.notify n call moment starts).2 = some e ↔
      ∃ point seen, n = .reached point ∧
        call.sight n.side moment.name = .value (some seen) ∧
        o.event point call seen (n.timing.apply seen.key moment.now starts).1 moment.wall =
          .value e := by
  constructor
  · intro h
    unfold notify at h
    split at h
    · next seen hseen =>
      cases n with
      | requestContexts => simp at h
      | reached point =>
        dsimp only at h
        split at h
        · next event hevent =>
          obtain rfl := Option.some.inj h
          exact ⟨point, seen, rfl, hseen, hevent⟩
        · simp at h
    · simp at h
  · rintro ⟨point, seen, rfl, hseen, hevent⟩
    simp only [notify, hseen, hevent]

end Observer

end CallWatch
