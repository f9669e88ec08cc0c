import CallWatch.Proofs.Observation.Containment
import CallWatch.Proofs.Observation.Separation
import CallWatch.Proofs.Text.Case

/-! Request ids. The id that the events of a call show is the key under which its start is kept, in
the handlers of either side. It spells out the first sixteen bytes of the raw request id, so that
events pair just if their raw ids agree on these, and a call without a raw id pairs with none. -/

namespace CallWatch

namespace RequestKey

/-- The digits in which bytes are spelt out. -/
def lowerDigits : List Char := "0123456789abcdef".toList

theorem text_ofBytes {raw : List UInt8} (h : raw ≠ []) (name : String) :
    (ofBytes raw name).text = digits raw := by
  obtain ⟨byte, rest, rfl⟩ := List.exists_cons_of_ne_nil h
  rfl

theorem length_digits (raw : List UInt8) : (digits raw).length = 2 * min 16 raw.length := by
  rw [digits, String.length_ofList, Hex.length_encode, List.length_take]
  rfl

theorem mem_lowerDigits_of_mem_digits {raw : List UInt8} :
    ∀ c ∈ (digits raw).toList, c ∈ lowerDigits := by
  rw [digits, String.toList_ofList]
  exact Hex.forall_mem_encode (by decide) _

/-- A hyphenated UUID has five groups of hexadecimal digits with hyphens between them. -/
def IsUuid (name : String) : Prop :=
  ∃ groups : List String, name = "-".intercalate groups ∧
    groups.map String.length = [8, 4, 4, 4, 12] ∧ ∀ g ∈ groups, ∀ c ∈ g.toList, c ∈ lowerDigits

theorem IsUuid.ne_digits {name : String} (h : IsUuid name) (raw : List UInt8) :
    name ≠ digits raw := by
  obtain ⟨groups, rfl, hlengths, -⟩ := h
  obtain ⟨first, groups, rfl, -, hlengths⟩ := List.map_eq_cons_iff.mp hlengths
  obtain ⟨second, rest, rfl, -, -⟩ := List.map_eq_cons_iff.mp hlengths
  intro heq
  have hhyphen : '-' ∈ ("-".intercalate (first :: second :: rest)).toList := by
    rw [String.intercalate_cons_cons, String.toList_append, String.toList_append]
    exact List.mem_append_left _ (List.mem_append_right _ List.mem_cons_self)
  rw [heq] at hhyphen
  exact absurd (mem_lowerDigits_of_mem_digits _ hhyphen) (by decide)

end RequestKey

namespace Observer

/-- The handler of a notification submits an event, with some sink in some scene. -/
def Emits (o : Observer) (n : Notification) (call : Call) (moment : Moment) (e : Event) : Prop :=
  ∃ sink scene, (o.handle sink n call moment scene).2.submitted = scene.submitted ++ [e]

variable {o : Observer} {n : Notification} {call : Call} {moment : Moment} {e : Event}

theorem emits_iff :
    o.Emits n call moment e ↔ ∃ starts, (o.notify n call moment starts).2 = some e := by
  constructor
  · rintro ⟨sink, scene, h⟩
    rw [handle_eq] at h
    exact ⟨scene.starts, Option.toList_eq_singleton_iff.mp (List.append_cancel_left h)⟩
  · rintro ⟨starts, h⟩
    refine ⟨⟨fun _ _ => false⟩, ⟨starts, []⟩, ?_⟩
    rw [handle_eq, h]
    rfl

/-- The id that an event shows is the text of its call's key. -/
theorem Emits.requestId_eq (h : o.Emits n call moment e) {raw : List UInt8}
    (hraw : call.requestId = .value raw) : e.requestId = (RequestKey.ofBytes raw moment.name).text ∧
      ∃ seen, call.sight n.side moment.name = .value (some seen) := by
  obtain ⟨starts, h⟩ := emits_iff.mp h
  obtain ⟨point, seen, rfl, hseen, hevent⟩ := notify_event.mp h
  refine ⟨?_, seen, hseen⟩
  obtain ⟨operation, ids, raw', -, -, -, -, hraw', rfl⟩ := Call.sight_eq_some.mp hseen
  obtain rfl : raw = raw' := Reading.value.inj (hraw.symm.trans hraw')
  obtain ⟨_, _, _, _, _, -, -, -, -, -, rfl⟩ := event_eq_value.mp hevent
  rfl

end Observer

/-- All that the handlers of a call do to starts they do under one key. Wherever the call is
monitored, a beginning keeps its start there, a completion takes the one that is there, and other
notifications leave the starts as they are. -/
def Call.TimedUnder (call : Call) (key : String) : Prop :=
  ∀ (o : Observer) sink n moment (scene : Scene) seen,
    call.sight n.side moment.name = .value (some seen) →
      (o.handle sink n call moment scene).2.starts =
        match n.timing with
        | .mark => scene.starts.record key moment.now
        | .take => (scene.starts.take key).2
        | .leave => scene.starts

theorem Call.timedUnder_digits {call : Call} {raw : List UInt8}
    (hraw : call.requestId = .value raw) (hne : raw ≠ []) :
    call.TimedUnder (RequestKey.digits raw) := by
  intro o sink n moment scene seen hseen
  rw [Observer.handle_eq, Observer.notify_starts hseen]
  obtain ⟨operation, ids, raw', -, -, -, -, hraw', rfl⟩ := sight_eq_some.mp hseen
  obtain rfl : raw = raw' := Reading.value.inj (hraw.symm.trans hraw')
  have hkey : (RequestKey.ofBytes raw moment.name).pairing? = some (RequestKey.digits raw) := by
    rw [RequestKey.pairing?_ofBytes, if_neg hne]
  cases n.timing <;> simp [Timing.apply, hkey, Starts.takeElapsed]

/-- A call that is monitored is timed under one key only, as its beginning shows. -/
theorem Call.TimedUnder.unique {call : Call} {key other : String} {side : Side} {name : String}
    {seen : Sighting} (h : call.TimedUnder key) (h' : call.TimedUnder other)
    (hseen : call.sight side name = .value (some seen)) : key = other := by
  obtain ⟨n, rfl, hmark⟩ : ∃ n : Notification, n.side = side ∧ n.timing = .mark := by
    cases side with
    | client => exact ⟨.reached .sendRequest, rfl, rfl⟩
    | server => exact ⟨.requestContexts, rfl, rfl⟩
  let o : Observer := ⟨false, false, 0, ""⟩
  have hbegins : ∀ k, call.TimedUnder k →
      (o.handle ⟨fun _ _ => false⟩ n call ⟨0, ⟨0, 0, 0⟩, name⟩ ⟨∅, []⟩).2.starts =
        (∅ : Starts).record k 0 := by
    intro k hk
    rw [hk o ⟨fun _ _ => false⟩ n ⟨0, ⟨0, 0, 0⟩, name⟩ ⟨∅, []⟩ seen hseen, hmark]
  have hkept := (hbegins key h).symm.trans (hbegins other h')
  by_contra hne
  have hstart := congrArg (·[key]?) hkept
  simp only [Starts.getElem?_record, if_neg (Ne.symm hne)] at hstart
  simp at hstart

namespace Observer

variable {o o' : Observer} {n n' : Notification} {call call' : Call} {moment moment' : Moment}
  {e e' : Event}

/-- Two events of calls with raw request ids, of handlers of either side, show the same id just if
the raw ids agree on their first sixteen bytes, and just then their calls are timed under one key,
which is the id itself. It has two digits for each of these bytes. The id of a call without a raw id
is another one, if it is a UUID. -/
theorem requestId_eq_iff (he : o.Emits n call moment e) (he' : o'.Emits n' call' moment' e')
    {raw raw' : List UInt8} (hraw : call.requestId = .value raw)
    (hraw' : call'.requestId = .value raw') (hne : raw ≠ []) (hne' : raw' ≠ []) :
    (e.requestId = e'.requestId ↔ raw.take 16 = raw'.take 16) ∧
      ((∃ key, call.TimedUnder key ∧ call'.TimedUnder key) ↔ raw.take 16 = raw'.take 16) ∧
      call.TimedUnder e.requestId ∧
      e.requestId.length = 2 * min 16 raw.length ∧
      (∀ c ∈ e.requestId.toList, c ∈ "0123456789abcdef".toList) ∧
      ∀ o₀ n₀ call₀ moment₀ e₀, Emits o₀ n₀ call₀ moment₀ e₀ → call₀.requestId = .value [] →
        RequestKey.IsUuid moment₀.name → e₀.requestId ≠ e.requestId := by
  obtain ⟨hid, seen, hseen⟩ := he.requestId_eq hraw
  obtain ⟨hid', seen', hseen'⟩ := he'.requestId_eq hraw'
  rw [RequestKey.text_ofBytes hne] at hid
  rw [RequestKey.text_ofBytes hne'] at hid'
  have htimed := Call.timedUnder_digits hraw hne
  have htimed' := Call.timedUnder_digits hraw' hne'
  rw [hid, hid']
  refine ⟨RequestKey.digits_eq_iff, ?_, htimed, RequestKey.length_digits raw,
    RequestKey.mem_lowerDigits_of_mem_digits, ?_⟩
  · rw [← RequestKey.digits_eq_iff]
    constructor
    · rintro ⟨key, hkey, hkey'⟩
      rw [htimed.unique hkey hseen, htimed'.unique hkey' hseen']
    · intro hsame
      exact ⟨_, htimed, hsame ▸ htimed'⟩
  · intro o₀ n₀ call₀ moment₀ e₀ he₀ hraw₀ hname
    rw [(he₀.requestId_eq hraw₀).1]
    exact hname.ne_digits raw

/-- A client's request and a server's, whose raw ids differ behind the sixteenth byte, and a reply
without a raw id. -/
theorem requestId_eq_iff_of_shared_prefix :
    let o : Observer := ⟨false, false, 0, "here"⟩
    let call := Call.bare (List.replicate 16 0xAB ++ [1])
    let call' := Call.bare (List.replicate 16 0xAB ++ [2, 3])
    let moment : Moment := ⟨0, ⟨0, 0, 0⟩, "67e55044-10b1-426f-9247-bb680e5fe0c8"⟩
    ∃ e e' e₀, o.Emits (.reached .sendRequest) call moment e ∧
      o.Emits (.reached .receiveRequest) call' moment e' ∧
      o.Emits (.reached .receiveReply) (Call.bare []) moment e₀ ∧
      RequestKey.IsUuid moment.name ∧ e.requestId = e'.requestId ∧
      (∃ key, call.TimedUnder key ∧ call'.TimedUnder key) ∧ e.requestId.length = 32 ∧
      e₀.requestId ≠ e.requestId := by
  intro o call call' moment
  have hsome : (o.notify (.reached .sendRequest) call moment ∅).2.isSome := by decide +kernel
  have hsome' : (o.notify (.reached .receiveRequest) call' moment ∅).2.isSome := by decide +kernel
  have hsome₀ : (o.notify (.reached .receiveReply) (Call.bare []) moment ∅).2.isSome := by
    decide +kernel
  obtain ⟨e, he⟩ := Option.isSome_iff_exists.mp hsome
  obtain ⟨e', he'⟩ := Option.isSome_iff_exists.mp hsome'
  obtain ⟨e₀, he₀⟩ := Option.isSome_iff_exists.mp hsome₀
  have hname : RequestKey.IsUuid moment.name :=
    ⟨["67e55044", "10b1", "426f", "9247", "bb680e5fe0c8"], by decide +kernel, by decide +kernel,
      List.forall_mem_flatMap.mp (List.all_iff_forall_prop.mp (by decide +kernel))⟩
  obtain ⟨hids, hkeys, -, hlength, -, hother⟩ := requestId_eq_iff (emits_iff.mpr ⟨∅, he⟩)
    (emits_iff.mpr ⟨∅, he'⟩) rfl rfl (List.cons_ne_nil _ _) (List.cons_ne_nil _ _)
  exact ⟨e, e', e₀, emits_iff.mpr ⟨∅, he⟩, emits_iff.mpr ⟨∅, he'⟩, emits_iff.mpr ⟨∅, he₀⟩, hname,
    hids.mpr rfl, hkeys.mpr rfl, hlength,
    hother o _ _ _ e₀ (emits_iff.mpr ⟨∅, he₀⟩) rfl hname⟩

end Observer

end CallWatch
