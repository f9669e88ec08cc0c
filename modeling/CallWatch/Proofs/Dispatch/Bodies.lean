import CallWatch.Proofs.Dispatch.Letters
import CallWatch.Proofs.Event.Record
import CallWatch.Proofs.Json.Completeness
import Mathlib.Data.List.Forall2

/-! Bodies of posts. A batch is posted if the times of its events can be written. Its body spells
the object of its one event, or an object with the list of its events, and from each of the objects
a reader learns the record of its event. -/

namespace CallWatch

namespace Event

theorem exists_toJson {e : Event} (h : e.timestamp.IsWritable) : ∃ json, e.toJson = .ok json := by
  obtain ⟨text, htext⟩ := h.exists_write
  exact ⟨_, by rw [toJson, htext]; rfl⟩

theorem exists_write_of_toJson {e : Event} {item : Json} (h : e.toJson = .ok item) :
    ∃ timestamp, e.timestamp.write = .ok timestamp ∧
      item = .object (e.members (String.ofList timestamp)) := by
  rw [toJson] at h
  cases htime : e.timestamp.write with
  | error cause =>
    rw [htime] at h
    cases h
  | ok timestamp =>
    rw [htime] at h
    exact ⟨timestamp, rfl, (Except.ok.inj h).symm⟩

theorem mapM_toJson_cons {e : Event} {rest : List Event} {items : List Json} :
    (e :: rest).mapM toJson = .ok items ↔
      ∃ item more, e.toJson = .ok item ∧ rest.mapM toJson = .ok more ∧ items = item :: more := by
  rw [List.mapM_cons]
  cases e.toJson with
  | error cause => simp [bind, Except.bind]
  | ok item =>
    cases rest.mapM toJson with
    | error cause => simp [bind, Except.bind]
    | ok more => simp [bind, Except.bind, pure, Except.pure, eq_comm]

theorem exists_mapM_toJson {batch : List Event} (h : ∀ e ∈ batch, e.timestamp.IsWritable) :
    ∃ items, batch.mapM toJson = .ok items := by
  induction batch with
  | nil => exact ⟨[], rfl⟩
  | cons e batch ih =>
    obtain ⟨json, hjson⟩ := exists_toJson (h e List.mem_cons_self)
    obtain ⟨items, hitems⟩ := ih fun other hother => h other (List.mem_cons_of_mem e hother)
    exact ⟨json :: items, mapM_toJson_cons.mpr ⟨json, items, hjson, hitems, rfl⟩⟩

/-- The JSON of an event: an object with the members of an event in their order, from which the
record of the event is learned. -/
def IsRecordedBy (e : Event) (item : Json) : Prop :=
  ∃ members, item = .object members ∧ members.map Prod.fst = fieldNames ∧
    (members.map Prod.fst).Nodup ∧ Record.ofJson? item = some e.record

theorem isRecordedBy_of_toJson {e : Event} {item : Json} (h : e.toJson = .ok item) :
    e.IsRecordedBy item ∧ item.Proper := by
  obtain ⟨timestamp, hwrite, rfl⟩ := exists_write_of_toJson h
  have hnames : fieldNames.Nodup := by decide
  exact ⟨⟨_, rfl, rfl, hnames, e.ofJson?_members hwrite⟩, e.proper_members _⟩

theorem forall₂_isRecordedBy {batch : List Event} {items : List Json}
    (h : batch.mapM toJson = .ok items) :
    List.Forall₂ IsRecordedBy batch items ∧ ∀ item ∈ items, item.Proper := by
  induction batch generalizing items with
  | nil =>
    obtain rfl : [] = items := Except.ok.inj h
    exact ⟨.nil, List.forall_mem_nil _⟩
  | cons e batch ih =>
    obtain ⟨item, more, hitem, hmore, rfl⟩ := mapM_toJson_cons.mp h
    obtain ⟨hrecorded, hproper⟩ := isRecordedBy_of_toJson hitem
    obtain ⟨hrest, hrestProper⟩ := ih hmore
    exact ⟨.cons hrecorded hrest, List.forall_mem_cons.mpr ⟨hproper, hrestProper⟩⟩

/-- The value of a body: the one event by itself, or all of them in an object. -/
def bodyJson : List Json → Json
  | [item] => item
  | items => .object [("events", .array items)]

theorem proper_bodyJson {items : List Json} (h : ∀ item ∈ items, item.Proper) :
    (bodyJson items).Proper := by
  rw [bodyJson.eq_def]
  split
  · next item => exact h item List.mem_cons_self
  · exact .object (List.forall_mem_singleton.mpr (.array h))

end Event

namespace OutboxPlan

variable {plan : OutboxPlan} {batch : List Event} {post : Post}

/-- A post shows a batch: it goes to the address of events with the one event, or to that of batches
with all of them, and a reader of its body learns the record of each event, in order. -/
def Shows (plan : OutboxPlan) (batch : List Event) (post : Post) : Prop :=
  ∃ items, List.Forall₂ Event.IsRecordedBy batch items ∧
    Json.ofBytes? (Utf8.encode post.body.toList) = some (Event.bodyJson items) ∧
    post.url = if batch.length = 1 then plan.trafficUrl else plan.batchUrl

theorem post?_eq_some {items : List Json} (h : batch.mapM Event.toJson = .ok items) :
    plan.post? batch = some
      ⟨if batch.length = 1 then plan.trafficUrl else plan.batchUrl,
        (Event.bodyJson items).text⟩ := by
  have hbatch : Event.batchJson batch = .ok (.object [("events", .array items)]) := by
    rw [Event.batchJson, h]
    rfl
  cases batch with
  | nil =>
    obtain rfl : [] = items := Except.ok.inj h
    rfl
  | cons e rest =>
    obtain ⟨item, more, hitem, hmore, rfl⟩ := Event.mapM_toJson_cons.mp h
    cases rest with
    | nil =>
      obtain rfl : [] = more := Except.ok.inj hmore
      simp [post?, hitem, Event.bodyJson]
    | cons f rest =>
      obtain ⟨next, last, -, -, rfl⟩ := Event.mapM_toJson_cons.mp hmore
      simp [post?, hbatch, Event.bodyJson]

theorem spelt_bodyJson {items : List Json} (h : batch.mapM Event.toJson = .ok items) :
    Json.Spelt (Event.bodyJson items) (Event.bodyJson items).text.toList := by
  rw [Json.text, String.toList_ofList]
  exact Json.spelt_write (Event.proper_bodyJson (Event.forall₂_isRecordedBy h).2)

/-- A batch is posted if the times of its events can be written. The body spells a value from which
the record of each event is learned, in the order of the batch, and reads back as that value. -/
theorem exists_post?_of_isWritable (plan : OutboxPlan) {batch : List Event}
    (h : ∀ e ∈ batch, e.timestamp.IsWritable) :
    ∃ post items, plan.post? batch = some post ∧
      Json.Spelt (Event.bodyJson items) post.body.toList ∧
      Json.ofBytes? (Utf8.encode post.body.toList) = some (Event.bodyJson items) ∧
      List.Forall₂ Event.IsRecordedBy batch items := by
  obtain ⟨items, hitems⟩ := Event.exists_mapM_toJson h
  have hspelt := spelt_bodyJson hitems
  exact ⟨_, items, post?_eq_some hitems, hspelt, Json.ofBytes?_encode_eq_some_iff.mpr hspelt,
    (Event.forall₂_isRecordedBy hitems).1⟩

/-- Two events. The first has quotes, a control and a letter beyond ASCII in its texts, shows three
arguments, and bears the time of a leap day an hour east; the second is the reply to a user
exception and shows a note in place of its result. -/
theorem exists_post?_of_isWritable_of_two :
    let plan : OutboxPlan :=
      ⟨true, 3, 2, 1, 0, "traffic", "batch", "health", ⟨600, 608, 64, ""⟩, by decide⟩
    let call : Event := { Event.ofOperation "sa\"y\\\x01é" 2024 with
      sourcePort := some 65535
      contexts := some (((∅ : ServiceContexts).insert "b" ⟨7, 0⟩).insert "a\n" ⟨4294967295, 12⟩)
      requestData := some (.arguments "op" [.signed (-3), .text "x", .absent])
      timestamp := ⟨1709161200, 500000000, 3600⟩ }
    let reply : Event := { Event.ofOperation "say" 1970 with
      point := .sendException
      direction := .reply
      status := .exception
      message := .reply
      exceptionKind := some .user
      responseData := some (.ofNote "too \tlong") }
    call.timestamp.write = .ok "2024-02-29T00:00:00.5+01:00".toList ∧
      reply.timestamp.write = .ok "1970-01-01T00:00:00Z".toList ∧
      (∀ e ∈ [call, reply], e.timestamp.IsWritable) ∧
      ∃ post items records, plan.post? [call, reply] = some post ∧
        Json.ofBytes? (Utf8.encode post.body.toList) = some (.object [("events", .array items)]) ∧
        items.mapM Event.Record.ofJson? = some records ∧
        records.map (·.operation) = [some "sa\"y\\\x01é", some "say"] ∧
        records.map (·.sourcePort) = [some 65535, none] ∧
        records.map (·.point) = [.sendRequest, .sendException] ∧
        records.map (·.direction) = [.request, .reply] ∧
        records.map (·.status) = [.success, .exception] ∧
        records.map (·.message) = [.request, .reply] ∧
        records.map (·.exceptionKind) = [none, some .user] ∧
        records.map (·.contexts) = [some [("a\n", 4294967295, 12), ("b", 7, 0)], none] ∧
        records.map (·.requestData) =
          [some ⟨some "op", some [.integer (-3), .text "x", .null], none, none⟩, none] ∧
        records.map (·.responseData) = [none, some ⟨none, none, none, some "too \tlong"⟩] ∧
        records.map (·.timestamp) = [⟨1709161200, 500000000, 3600⟩, ⟨0, 0, 0⟩] := by
  intro plan call reply
  have hcall : call.timestamp.write = .ok "2024-02-29T00:00:00.5+01:00".toList := by
    decide +kernel
  have hreply : reply.timestamp.write = .ok "1970-01-01T00:00:00Z".toList := by
    decide +kernel
  have hwritable : ∀ e ∈ [call, reply], e.timestamp.IsWritable := by
    intro e he
    rcases List.mem_pair.mp he with rfl | rfl
    · exact Timestamp.isWritable_of_write hcall
    · exact Timestamp.isWritable_of_write hreply
  obtain ⟨post, items, hpost, -, hread, hrecorded⟩ := plan.exists_post?_of_isWritable hwritable
  -- the records are those of the two events, so what they hold can be computed
  obtain ⟨first, rest, ⟨_, -, -, -, hfirst⟩, hrest, rfl⟩ := List.forall₂_cons_left_iff.mp hrecorded
  obtain ⟨second, none, ⟨_, -, -, -, hsecond⟩, hnone, rfl⟩ := List.forall₂_cons_left_iff.mp hrest
  obtain rfl := List.forall₂_nil_left_iff.mp hnone
  refine ⟨hcall, hreply, hwritable, post, [first, second], [call.record, reply.record], hpost,
    hread, ?_, rfl, rfl, rfl, rfl, rfl, rfl, rfl, rfl, rfl, rfl, rfl⟩
  simp [hfirst, hsecond]

end OutboxPlan

end CallWatch
