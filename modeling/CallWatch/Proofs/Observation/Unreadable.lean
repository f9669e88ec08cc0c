import CallWatch.Proofs.Observation.Infrastructure
import Mathlib.Data.List.Forall2

/-! Data that cannot be read. A call whose operation can be read is shown at each of its points by
exactly one event, whichever of its other accessors fail: what cannot be read is left out, or a note
or a placeholder stands for it, and an argument that cannot be read touches no other. -/

namespace CallWatch

namespace Reading

variable {α β : Type}

instance : LawfulMonad Reading :=
  LawfulMonad.mk' Reading (fun r => by cases r <;> rfl) (fun _ _ => rfl)
    (fun r _ _ => by cases r <;> rfl)

/-- Something is read. -/
def Gives (r : Reading α) : Prop :=
  ∃ a, r = value a

theorem gives_pure (a : α) : (pure a : Reading α).Gives :=
  ⟨a, rfl⟩

theorem Gives.bind {r : Reading α} {next : α → Reading β} (h : r.Gives)
    (hnext : ∀ a, (next a).Gives) : (r >>= next).Gives := by
  obtain ⟨a, rfl⟩ := h
  exact hnext a

theorem gives_recover {r : Reading α} (h : r ≠ .panicked) (instead : CaptureError → α) :
    (r.recover instead).Gives := by
  cases r with
  | value a => exact ⟨a, rfl⟩
  | failed e => exact ⟨instead e, rfl⟩
  | panicked => exact absurd rfl h

theorem gives_optional {r : Reading α} (h : r ≠ .panicked) : r.optional.Gives := by
  cases r with
  | value a => exact ⟨some a, rfl⟩
  | failed e => exact ⟨none, rfl⟩
  | panicked => exact absurd rfl h

theorem recover_eq_value {r : Reading α} {instead : CaptureError → α} {a : α} :
    r.recover instead = value a ↔ r = value a ∨ ∃ e, r = failed e ∧ instead e = a := by
  cases r <;> simp [recover]

theorem optional_eq_value {r : Reading α} {found : Option α} :
    r.optional = value found ↔
      (∃ a, r = value a ∧ found = some a) ∨ (∃ e, r = failed e) ∧ found = none := by
  cases r <;> simp [optional, eq_comm]

theorem bind_ne_panicked {r : Reading α} {next : α → Reading β} (h : r ≠ .panicked)
    (hnext : ∀ a, next a ≠ .panicked) : (r >>= next) ≠ .panicked := by
  cases r with
  | value a => exact hnext a
  | failed e => exact fun hfailed => nomatch hfailed
  | panicked => exact absurd rfl h

theorem pure_ne_panicked (a : α) : (pure a : Reading α) ≠ .panicked :=
  fun h => nomatch h

/-- Reading one after another gives a list just if each reading gives its item. -/
theorem mapM_eq_value {f : α → Reading β} {items : List α} {shown : List β} :
    items.mapM f = value shown ↔ List.Forall₂ (fun item b => f item = value b) items shown := by
  induction items generalizing shown with
  | nil =>
    rw [List.mapM_nil, pure_eq_value, List.forall₂_nil_left_iff]
    exact eq_comm
  | cons item items ih =>
    rw [List.mapM_cons, List.forall₂_cons_left_iff]
    simp only [bind_eq_value, pure_eq_value, ih]
    constructor
    · rintro ⟨b, hb, rest, hrest, rfl⟩
      exact ⟨b, rest, hb, hrest, rfl⟩
    · rintro ⟨b, rest, hb, hrest, rfl⟩
      exact ⟨b, hb, rest, hrest, rfl⟩

theorem gives_mapM {f : α → Reading β} {items : List α} (h : ∀ item ∈ items, (f item).Gives) :
    (items.mapM f).Gives := by
  induction items with
  | nil => exact gives_pure []
  | cons item items ih =>
    rw [List.mapM_cons]
    refine (h item List.mem_cons_self).bind fun b => ?_
    refine (ih fun other hother => h other (List.mem_cons_of_mem item hother)).bind fun rest => ?_
    exact gives_pure (b :: rest)

end Reading

open Reading

namespace RuntimeValue

/-- No accessor of the value panics. -/
structure IsCalm (v : RuntimeValue) : Prop where
  kind : v.kind ≠ .panicked
  typeName : v.typeName ≠ .panicked
  typeId : v.typeId ≠ .panicked
  bool : v.bool ≠ .panicked
  char : v.char ≠ .panicked
  signed : v.signed ≠ .panicked
  unsigned : v.unsigned ≠ .panicked
  float : v.float ≠ .panicked
  string : v.string ≠ .panicked
  enumMember : v.enumMember ≠ .panicked

theorem IsCalm.contents {v : RuntimeValue} (h : v.IsCalm) : v.contents ≠ .panicked := by
  unfold RuntimeValue.contents
  refine bind_ne_panicked h.kind fun kind => ?_
  have hdescriptor : (do
      let name ← v.typeName
      return CapturedValue.descriptor ⟨name, kind.number, ← v.typeId⟩) ≠ .panicked :=
    bind_ne_panicked h.typeName fun _ => bind_ne_panicked h.typeId fun _ => pure_ne_panicked _
  -- Each kind has one reader; the structured kinds are all shown by their type.
  cases kind with
  | boolean => exact bind_ne_panicked h.bool fun _ => pure_ne_panicked _
  | char | wideChar => exact bind_ne_panicked h.char fun _ => pure_ne_panicked _
  | short | long | longLong => exact bind_ne_panicked h.signed fun _ => pure_ne_panicked _
  | octet | ushort | ulong | ulongLong =>
    exact bind_ne_panicked h.unsigned fun _ => pure_ne_panicked _
  | float | double => exact bind_ne_panicked h.float fun _ => pure_ne_panicked _
  | string | wideString => exact bind_ne_panicked h.string fun _ => pure_ne_panicked _
  | enum => exact bind_ne_panicked h.enumMember fun _ => pure_ne_panicked _
  | void | null => exact pure_ne_panicked _
  | _ => exact hdescriptor

/-- What an event shows of a value: its contents, or in place of an error a placeholder that names
the kind of the error. -/
def ShownAs (v : RuntimeValue) (shown : CapturedValue) : Prop :=
  v.contents = .value shown ∨
    ∃ e, v.contents = .failed e ∧ shown = .unavailable ("<" ++ e.kindName ++ ">")

theorem capture_eq_value {v : RuntimeValue} {shown : CapturedValue} :
    v.capture = .value shown ↔ v.ShownAs shown := by
  rw [capture, recover_eq_value]
  simp only [ShownAs, CapturedValue.ofReason, eq_comm]

end RuntimeValue

namespace Payload

/-- A payload shows arguments with one entry for each, in its place. A note stands for all of them
if they cannot be read at all, or if their text is longer than a limit. -/
def ShowsArguments (p : Payload) (arguments : Reading (List RuntimeValue)) (operation : String)
    (limit : Nat) : Prop :=
  match arguments with
  | .value values =>
    ∃ params, List.Forall₂ RuntimeValue.ShownAs values params ∧
      (p = .arguments operation params ∨
        limit < (Payload.arguments operation params).size ∧ ∃ note, p = .ofNote note)
  | .failed _ => ∃ note, p = .ofNote note
  | .panicked => False

theorem bounded_ofNote (limit : Nat) (note : String) :
    ∃ other, (ofNote note).bounded limit = ofNote other := by
  unfold bounded
  split
  · exact ⟨_, rfl⟩
  · exact ⟨note, rfl⟩

end Payload

namespace Call

/-- No accessor of the call panics, nor one of its argument and result values. The raw request id
and the service contexts are read by accessors that cannot fail. -/
structure IsCalm (call : Call) : Prop where
  requestId : call.requestId.Gives
  contextLength : ∀ id, (call.contextLength id).Gives
  arguments : call.arguments ≠ .panicked
  argument : ∀ values, call.arguments = .value values → ∀ v ∈ values, v.IsCalm
  result : call.result ≠ .panicked
  resultValue : ∀ v, call.result = .value (some v) → v.IsCalm
  targetTypeIds : call.targetTypeIds ≠ .panicked
  target : call.target ≠ .panicked
  exceptionId : call.exceptionId ≠ .panicked
  objectId : call.objectId ≠ .panicked
  targetInterface : call.targetInterface ≠ .panicked

variable {call : Call}

theorem IsCalm.captureArguments (calm : call.IsCalm) (operation : String) (limit : Nat) :
    ∃ p, call.captureArguments operation limit = .value p ∧
      p.ShowsArguments call.arguments operation limit := by
  unfold Call.captureArguments Payload.ShowsArguments
  cases harguments : call.arguments with
  | value values =>
    obtain ⟨params, hparams⟩ : (values.mapM RuntimeValue.capture).Gives :=
      gives_mapM fun v hv => gives_recover (calm.argument values harguments v hv).contents _
    refine ⟨(Payload.arguments operation params).bounded limit, ?_, params, ?_, ?_⟩
    · exact bind_eq_value.mpr ⟨params, hparams, rfl⟩
    · exact (mapM_eq_value.mp hparams).imp fun _ _ => RuntimeValue.capture_eq_value.mp
    · unfold Payload.bounded
      split
      · next hlong => exact .inr ⟨hlong, _, rfl⟩
      · exact .inl rfl
  | failed e =>
    cases e with
    | notAvailable reason => exact ⟨_, rfl, Payload.bounded_ofNote limit _⟩
    | typeMismatch expected found => exact ⟨_, rfl, Payload.bounded_ofNote limit _⟩
    | runtime reason => exact ⟨_, rfl, Payload.bounded_ofNote limit _⟩
  | panicked => exact absurd harguments calm.arguments

theorem IsCalm.captureResult (calm : call.IsCalm) (operation : String) (limit : Nat) :
    (call.captureResult operation limit).Gives := by
  unfold Call.captureResult
  cases hresult : call.result with
  | value result =>
    cases result with
    | none => exact ⟨_, rfl⟩
    | some v =>
      have hv := calm.resultValue v hresult
      have hempty : v.isEmpty.Gives := (gives_optional hv.kind).bind fun _ => gives_pure _
      refine hempty.bind fun empty => ?_
      cases empty with
      | true => exact gives_pure none
      | false => exact (gives_recover hv.contents _).bind fun _ => gives_pure _
  | failed e =>
    cases e with
    | notAvailable reason => exact ⟨_, rfl⟩
    | typeMismatch expected found => exact ⟨_, rfl⟩
    | runtime reason => exact ⟨_, rfl⟩
  | panicked => exact absurd hresult calm.result

theorem IsCalm.probeContexts (calm : call.IsCalm) : call.probeContexts.Gives := by
  unfold Call.probeContexts
  refine (gives_mapM fun id _ => (calm.contextLength id).bind fun _ => gives_pure _).bind ?_
  intro found
  split
  · exact gives_pure none
  · exact gives_pure _

theorem IsCalm.objectName (calm : call.IsCalm) : call.objectName.Gives := by
  unfold Call.objectName
  refine (gives_optional calm.objectId).bind fun id => ?_
  split
  · exact gives_pure none
  · split
    · exact gives_pure none
    · exact gives_pure _

theorem declares_of_mem_typeIds {side : Side} {ids : List String} {id : String}
    (hids : call.typeIds side = .value ids) (hid : id ∈ ids) : call.Declares side id := by
  cases side with
  | client =>
    rcases recover_eq_value.mp hids with hdeclared | ⟨e, -, hnone⟩
    · exact ⟨ids, hdeclared, hid⟩
    · rw [← hnone] at hid
      exact absurd hid List.not_mem_nil
  | server =>
    obtain ⟨found, hfound, hvalue⟩ := bind_eq_value.mp hids
    obtain rfl := Reading.value.inj hvalue
    obtain rfl : found = some id := by simpa using hid
    rcases optional_eq_value.mp hfound with ⟨declared, hdeclared, hsame⟩ | ⟨-, hnone⟩
    · obtain rfl := Option.some.inj hsame
      exact hdeclared
    · exact nomatch hnone

theorem IsCalm.typeIds (calm : call.IsCalm) (side : Side) : (call.typeIds side).Gives := by
  cases side with
  | client => exact gives_recover calm.targetTypeIds _
  | server => exact (gives_optional calm.targetInterface).bind fun _ => gives_pure _

/-- A call with a readable operation is monitored unless it belongs to the infrastructure, whatever
else of it fails. -/
theorem IsCalm.sight (calm : call.IsCalm) {side : Side} {operation : String}
    (readable : call.operation = .value operation) (outside : ¬call.IsInfrastructure side)
    (name : String) :
    ∃ seen, call.sight side name = .value (some seen) ∧ seen.operation = operation := by
  obtain ⟨ids, hids⟩ := calm.typeIds side
  obtain ⟨raw, hraw⟩ := calm.requestId
  have hskip : Skip.operation operation = false := by
    rw [Skip.operation, ← Bool.not_eq_true, List.contains_iff_mem]
    exact fun hmem => outside (.inl ⟨operation, readable, hmem⟩)
  have hskipIds : Skip.typeIds ids = false := by
    rw [Skip.typeIds, List.any_eq_false]
    intro id hid hmarked
    obtain ⟨mark, hmark, hholds⟩ := List.any_eq_true.mp hmarked
    exact outside (.inr ⟨id, declares_of_mem_typeIds hids hid, mark, hmark,
      Text.holds_iff_isInfix.mp hholds⟩)
  exact ⟨_, sight_eq_some.mpr ⟨operation, ids, raw, readable, hskip, hids, hskipIds, hraw, rfl⟩,
    rfl⟩

end Call

namespace Observer

variable {call : Call}

theorem gives_exceptionAt (calm : call.IsCalm) (point : Point) :
    (exceptionAt point call).Gives := by
  unfold exceptionAt
  split
  · have hclass : call.exceptionClass.Gives :=
      (gives_recover calm.exceptionId _).bind fun _ => gives_pure _
    exact hclass.bind fun _ => gives_pure _
  · exact gives_pure none

theorem gives_site (o : Observer) (calm : call.IsCalm) (side : Side) :
    (o.site side call).Gives := by
  cases side with
  | client =>
    have htarget : call.targetEndpoint.Gives :=
      (gives_optional calm.target).bind fun _ => gives_pure _
    exact htarget.bind fun _ => gives_pure _
  | server => exact calm.objectName.bind fun _ => gives_pure _

theorem gives_responseDataAt (o : Observer) (calm : call.IsCalm) (point : Point)
    (operation : String) : (o.responseDataAt point call operation).Gives := by
  unfold responseDataAt
  split
  · exact calm.captureResult operation o.maxPayloadBytes
  · exact gives_pure none

/-- What a captured request shows of the arguments. -/
theorem requestDataAt_shows (o : Observer) (calm : call.IsCalm) (point : Point)
    (operation : String) :
    ∃ data, o.requestDataAt point call operation = .value data ∧
      (point.direction = .request ∧ o.requestData = true →
        ∃ p, data = some p ∧ p.ShowsArguments call.arguments operation o.maxPayloadBytes) := by
  unfold requestDataAt
  split
  · obtain ⟨p, hp, hshows⟩ := calm.captureArguments operation o.maxPayloadBytes
    exact ⟨some p, by rw [hp]; rfl, fun _ => ⟨p, rfl, hshows⟩⟩
  · next hnot => exact ⟨none, rfl, fun hcaptured => absurd hcaptured hnot⟩

theorem event_of_calm (o : Observer) (calm : call.IsCalm) (point : Point) (seen : Sighting)
    (latency : Option Float) (wall : Timestamp) :
    ∃ e, o.event point call seen latency wall = .value e ∧ e.point = point ∧
      e.operation = some seen.operation ∧
      (point.direction = .request ∧ o.requestData = true → ∃ p, e.requestData = some p ∧
        p.ShowsArguments call.arguments seen.operation o.maxPayloadBytes) := by
  obtain ⟨exception, hexception⟩ := gives_exceptionAt calm point
  obtain ⟨site, hsite⟩ := o.gives_site calm point.side
  obtain ⟨contexts, hcontexts⟩ := calm.probeContexts
  obtain ⟨requestData, hrequest, hshows⟩ := o.requestDataAt_shows calm point seen.operation
  obtain ⟨responseData, hresponse⟩ := o.gives_responseDataAt calm point seen.operation
  exact ⟨_, event_eq_value.mpr ⟨exception, site, contexts, requestData, responseData, hexception,
    hsite, hcontexts, hrequest, hresponse, rfl⟩, rfl, rfl, hshows⟩

/-- Over a call whose operation can be read and that is not of the infrastructure, a handler of a
point submits exactly one event, and the handler of the service contexts none, whichever other
accessors fail. A captured request has one entry for each argument in its place, unless a note
stands for all of them. -/
theorem handle_submits_one (o : Observer) (sink : Sink) (n : Notification) (call : Call)
    (moment : Moment) (scene : Scene) (operation : String)
    (readable : call.operation = .value operation) (outside : ¬call.IsInfrastructure n.side)
    (calm : call.IsCalm) :
    ∃ after, o.handle sink n call moment scene = (.value (), after) ∧
      (n = .requestContexts → after.submitted = scene.submitted) ∧
      ∀ point, n = .reached point → ∃ e, after.submitted = scene.submitted ++ [e] ∧
        e.point = point ∧ e.operation = some operation ∧
        (point.direction = .request ∧ o.requestData = true → ∃ p, e.requestData = some p ∧
          p.ShowsArguments call.arguments operation o.maxPayloadBytes) := by
  obtain ⟨seen, hseen, rfl⟩ := calm.sight readable outside moment.name
  refine ⟨_, o.handle_eq sink n call moment scene, ?_, ?_⟩
  · rintro rfl
    simp [notify, hseen]
  · rintro point rfl
    obtain ⟨e, hevent, hpoint, hoperation, hshows⟩ := o.event_of_calm calm point seen
      ((Notification.reached point).timing.apply seen.key moment.now scene.starts).1 moment.wall
    have hnotify := notify_event.mpr ⟨point, seen, rfl, hseen, hevent⟩
    exact ⟨e, by rw [hnotify]; rfl, hpoint, hoperation, hshows⟩

/-- A request of which little more than the operation can be read: of its two arguments the first
is of no known kind, and the second is shown nevertheless. -/
theorem handle_submits_one_of_failing_accessors :
    let o : Observer := ⟨true, true, 65536, "here"⟩
    let lost : CaptureError := .runtime "stream closed"
    let hidden : RuntimeValue := ⟨.failed lost, .failed lost, .failed lost, .failed lost,
      .failed lost, .failed lost, .failed lost, .failed lost, .failed lost, .failed lost⟩
    let shown : RuntimeValue := { hidden with kind := .value .boolean, bool := .value true }
    let call : Call := ⟨.value [1, 2], .value "price", fun _ => .value none,
      .value [hidden, shown], .failed lost, .failed lost, .failed lost, .failed lost, .failed lost,
      .failed lost⟩
    call.operation = .value "price" ∧ ¬call.IsInfrastructure .client ∧ call.IsCalm ∧
      ∃ after e p, o.handle ⟨fun _ _ => false⟩ (.reached .sendRequest) call ⟨7, ⟨0, 0, 0⟩, ""⟩
          ⟨∅, []⟩ = (.value (), after) ∧
        after.submitted = [e] ∧ e.requestData = some p ∧
        p.params = some [.unavailable "<RuntimeError>", .bool true] := by
  intro o lost hidden shown call
  have outside : ¬call.IsInfrastructure .client := by
    rintro (⟨operation, hoperation, hmem⟩ | ⟨id, ⟨ids, hids, -⟩, -⟩)
    · obtain rfl : "price" = operation := Reading.value.inj hoperation
      exact absurd hmem (by decide)
    · exact nomatch hids
  have hiddenCalm : hidden.IsCalm := by constructor <;> exact fun h => nomatch h
  have shownCalm : shown.IsCalm := by constructor <;> exact fun h => nomatch h
  have calm : call.IsCalm := by
    have unread (α : Type) : (.failed lost : Reading α) ≠ .panicked := fun h => nomatch h
    refine ⟨⟨_, rfl⟩, fun _ => ⟨_, rfl⟩, pure_ne_panicked _, ?_, unread _,
      fun _ h => (nomatch h), unread _, unread _, unread _, unread _, unread _⟩
    intro values hvalues v hv
    obtain rfl : [hidden, shown] = values := Reading.value.inj hvalues
    rcases List.mem_pair.mp hv with rfl | rfl
    · exact hiddenCalm
    · exact shownCalm
  obtain ⟨after, hafter, -, hpoint⟩ := o.handle_submits_one ⟨fun _ _ => false⟩
    (.reached .sendRequest) call ⟨7, ⟨0, 0, 0⟩, ""⟩ ⟨∅, []⟩ "price" rfl outside calm
  obtain ⟨e, hsubmitted, -, -, hdata⟩ := hpoint .sendRequest rfl
  obtain ⟨p, hp, params, hparams, hshown⟩ := hdata ⟨rfl, rfl⟩
  refine ⟨rfl, outside, calm, after, e, p, hafter, hsubmitted, hp, ?_⟩
  obtain ⟨first, rest, hfirst, hrest, rfl⟩ := List.forall₂_cons_left_iff.mp hparams
  obtain ⟨second, none, hsecond, hnone, rfl⟩ := List.forall₂_cons_left_iff.mp hrest
  obtain rfl := List.forall₂_nil_left_iff.mp hnone
  obtain rfl : first = .unavailable "<RuntimeError>" := by
    rcases hfirst with hcontents | ⟨e, hfailed, rfl⟩
    · exact nomatch hcontents
    · obtain rfl : lost = e := Reading.failed.inj hfailed
      rfl
  obtain rfl : .bool true = second := by
    rcases hsecond with hcontents | ⟨e, hfailed, -⟩
    · exact Reading.value.inj hcontents
    · exact nomatch hfailed
  rcases hshown with rfl | ⟨hlong, -⟩
  · rfl
  · exact absurd hlong (by decide +kernel)

end Observer

end CallWatch
