import CallWatch.Proofs.Event.Limit
import CallWatch.Proofs.Observation.Play
import CallWatch.Proofs.Observation.Unreadable

/-! What events show of the data of a call. The arguments and the result of a call make a whole
payload, whichever way they are read: of values, of placeholders, or of a note in place of all. Each
payload of an event is what the limit of the observer leaves of such a whole. -/

namespace CallWatch

namespace Call

/-- All that can be shown of the arguments of a call, under no limit. -/
def wholeArguments (call : Call) (operation : String) : Reading Payload :=
  match call.arguments with
  | .value values => do return .arguments operation (← values.mapM RuntimeValue.capture)
  | .failed (.notAvailable _) =>
    .value (.ofNote "Arguments not available at this interception point")
  | .failed e => .value (.ofNote ("Could not extract arguments: " ++ e.message))
  | .panicked => .panicked

/-- All that can be shown of the result of a call, if there is anything to show. -/
def wholeResult (call : Call) (operation : String) : Reading (Option Payload) :=
  match call.result with
  | .value (some v) => do
    if ← v.isEmpty then return none
    return some (.result operation (← v.capture))
  | .value none | .failed (.notAvailable _) => .value none
  | .failed e => .value (some (.ofNote ("Could not extract result: " ++ e.message)))
  | .panicked => .panicked

variable {call : Call} {operation : String} {limit : Nat}

theorem captureArguments_eq : call.captureArguments operation limit =
    call.wholeArguments operation >>= fun whole => pure (whole.bounded limit) := by
  unfold captureArguments wholeArguments
  cases call.arguments with
  | value values => simp only [bind_assoc, pure_bind]
  | failed e => cases e <;> rfl
  | panicked => rfl

theorem captureResult_eq : call.captureResult operation limit =
    call.wholeResult operation >>= fun whole => pure (whole.map fun p => p.bounded limit) := by
  unfold captureResult wholeResult
  cases call.result with
  | value result =>
    cases result with
    | none => rfl
    | some v =>
      simp only [bind_assoc]
      refine bind_congr fun empty => ?_
      cases empty with
      | true => rfl
      | false => simp only [Bool.false_eq_true, if_false, bind_assoc, pure_bind, Option.map_some]
  | failed e => cases e <;> rfl
  | panicked => rfl

/-- A captured payload is what the limit leaves of the whole arguments. -/
theorem shows_of_captureArguments {p : Payload}
    (h : call.captureArguments operation limit = .value p) :
    ∃ whole, call.wholeArguments operation = .value whole ∧ p.Shows limit whole := by
  rw [captureArguments_eq] at h
  obtain ⟨whole, hwhole, hp⟩ := Reading.bind_eq_value.mp h
  obtain rfl := Reading.pure_eq_value.mp hp
  exact ⟨whole, hwhole, whole.shows_bounded limit⟩

theorem shows_of_captureResult {p : Payload}
    (h : call.captureResult operation limit = .value (some p)) :
    ∃ whole, call.wholeResult operation = .value (some whole) ∧ p.Shows limit whole := by
  rw [captureResult_eq] at h
  obtain ⟨found, hfound, hp⟩ := Reading.bind_eq_value.mp h
  obtain ⟨whole, rfl, rfl⟩ := Option.map_eq_some_iff.mp (Reading.pure_eq_value.mp hp)
  exact ⟨whole, hfound, whole.shows_bounded limit⟩

end Call

namespace Observer

/-- Each payload of an event is what the limit leaves of the whole arguments or the whole result. -/
theorem shows_of_event {o : Observer} {point : Point} {call : Call} {seen : Sighting}
    {latency : Option Float} {wall : Timestamp} {e : Event}
    (h : o.event point call seen latency wall = .value e) :
    (∀ p, e.requestData = some p → ∃ whole, call.wholeArguments seen.operation = .value whole ∧
      p.Shows o.maxPayloadBytes whole) ∧
    ∀ p, e.responseData = some p → ∃ whole, call.wholeResult seen.operation = .value (some whole) ∧
      p.Shows o.maxPayloadBytes whole := by
  obtain ⟨_, _, _, requestData, responseData, -, -, -, hrequest, hresponse, rfl⟩ :=
    event_eq_value.mp h
  constructor
  · rintro p rfl
    unfold requestDataAt at hrequest
    split at hrequest
    case isTrue =>
      obtain ⟨captured, hcaptured, hp⟩ := Reading.bind_eq_value.mp hrequest
      obtain rfl := Option.some.inj (Reading.value.inj hp)
      exact Call.shows_of_captureArguments hcaptured
    case isFalse => cases hrequest
  · rintro p rfl
    unfold responseDataAt at hresponse
    split at hresponse
    case isTrue => exact Call.shows_of_captureResult hresponse
    case isFalse => cases hresponse

/-- In every run of handlers and sweeps, each payload of an event is the whole payload of the call,
if its text is not longer than the limit, and otherwise a note of the length of that text and of the
limit. As the length of a text in memory is a number of 64 bits, no payload is longer than the limit
or than 93 bytes. -/
theorem payloads_bounded (o : Observer) (limit : o.maxPayloadBytes < 2 ^ 64) (sink : Sink)
    (starts : Starts) (history : List Step) :
    ∀ e ∈ (o.play sink ⟨starts, []⟩ history).submitted, ∃ call moment operation,
      .notice (.reached e.point) call moment ∈ history ∧ call.operation = .value operation ∧
      (∀ p, e.requestData = some p → ∃ whole, call.wholeArguments operation = .value whole ∧
        p.Shows o.maxPayloadBytes whole ∧
        (whole.size < 2 ^ 64 → p.size ≤ max o.maxPayloadBytes 93)) ∧
      ∀ p, e.responseData = some p → ∃ whole, call.wholeResult operation = .value (some whole) ∧
        p.Shows o.maxPayloadBytes whole ∧
        (whole.size < 2 ^ 64 → p.size ≤ max o.maxPayloadBytes 93) := by
  intro e he
  rw [play_eq] at he
  obtain ⟨⟨s, _⟩, hmem, rfl⟩ := List.mem_map.mp he
  obtain ⟨hs, before, hevent⟩ := mem_eventsFrom hmem
  cases s with
  | sweep age now => exact nomatch hevent
  | notice n call moment =>
    obtain ⟨point, seen, rfl, hseen, hevent⟩ := notify_event.mp hevent
    obtain ⟨operation, _, _, hoperation, -, -, -, -, rfl⟩ := Call.sight_eq_some.mp hseen
    obtain ⟨hrequest, hresponse⟩ := shows_of_event hevent
    obtain ⟨_, _, _, _, _, -, -, -, -, -, rfl⟩ := event_eq_value.mp hevent
    refine ⟨call, moment, operation, hs, hoperation, fun p hp => ?_, fun p hp => ?_⟩
    · obtain ⟨whole, hwhole, hshows⟩ := hrequest p hp
      exact ⟨whole, hwhole, hshows, hshows.size_le limit⟩
    · obtain ⟨whole, hwhole, hshows⟩ := hresponse p hp
      exact ⟨whole, hwhole, hshows, hshows.size_le limit⟩

/-- A request with a text of sixteen quotation marks, each of which takes two bytes. The note that
stands for it is longer than the limit, and shorter than 93 bytes. -/
theorem payloads_bounded_of_quotation_marks :
    let o : Observer := ⟨true, true, 20, "here"⟩
    let hidden : CaptureError := .runtime ""
    let text : RuntimeValue := ⟨.value .string, .failed hidden, .failed hidden, .failed hidden,
      .failed hidden, .failed hidden, .failed hidden, .failed hidden,
      .value "\"\"\"\"\"\"\"\"\"\"\"\"\"\"\"\"", .failed hidden⟩
    let call := { Call.bare [1, 2] with arguments := .value [text] }
    let history := [.notice (.reached .sendRequest) call ⟨0, ⟨0, 0, 0⟩, ""⟩]
    o.maxPayloadBytes < 2 ^ 64 ∧
      ∃ e p, e ∈ (o.play ⟨fun _ _ => false⟩ ⟨∅, []⟩ history).submitted ∧ e.requestData = some p ∧
        p = .ofNote "Payload of 74 bytes exceeds limit of 20 bytes" ∧ p.size ≤ 93 := by
  intro o hidden text call history
  have hlimit : o.maxPayloadBytes < 2 ^ 64 := by decide
  have hcaptured : ((o.play ⟨fun _ _ => false⟩ ⟨∅, []⟩ history).submitted.map fun e =>
      e.requestData.isSome) = [true] := by decide +kernel
  obtain ⟨e, he, hsome⟩ := List.mem_map.mp (hcaptured ▸ List.mem_singleton_self true)
  obtain ⟨p, hp⟩ := Option.isSome_iff_exists.mp hsome
  obtain ⟨called, moment, operation, hnotice, hoperation, hrequest, -⟩ :=
    o.payloads_bounded hlimit ⟨fun _ _ => false⟩ ∅ history e he
  obtain ⟨whole, hwhole, hshows, hsize⟩ := hrequest p hp
  -- the only notification is that of the call, so the whole payload is that of its argument
  obtain ⟨-, rfl, -⟩ := Observer.Step.notice.inj (List.mem_singleton.mp hnotice)
  obtain rfl : "price" = operation := Reading.value.inj hoperation
  obtain rfl : Payload.arguments "price" [.text "\"\"\"\"\"\"\"\"\"\"\"\"\"\"\"\""] = whole :=
    Reading.value.inj hwhole
  have hlength : (Payload.arguments "price"
      [.text "\"\"\"\"\"\"\"\"\"\"\"\"\"\"\"\""]).size = 74 := by decide +kernel
  rcases hshows with ⟨hfits, -⟩ | ⟨-, hnote⟩
  · rw [hlength] at hfits
    exact absurd hfits (by decide)
  · rw [hlength] at hnote hsize
    have htext : "Payload of " ++ toString 74 ++ " bytes exceeds limit of " ++ toString 20 ++
        " bytes" = "Payload of 74 bytes exceeds limit of 20 bytes" := by decide
    exact ⟨hlimit, e, p, he, hp, hnote.trans (congrArg Payload.ofNote htext), hsize (by decide)⟩

end Observer

end CallWatch
