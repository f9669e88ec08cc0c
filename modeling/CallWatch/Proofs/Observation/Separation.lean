import CallWatch.Proofs.Observation.Run

/-! Separation of calls. Steps act on the starts only under the keys of their own calls, and events
depend on nothing else of them. So a run goes on for a group of calls as if the calls outside it
were not there, unless two raw request ids across the border agree on their first 16 bytes. -/

namespace CallWatch

/-- Calls have the same digits just if their raw request ids agree on the first 16 bytes. -/
theorem RequestKey.digits_eq_iff {raw other : List UInt8} :
    digits raw = digits other ↔ raw.take 16 = other.take 16 := by
  constructor
  · intro h
    exact Hex.encode_injective (String.ofList_injective h)
  · intro h
    exact congrArg (fun bytes => String.ofList (Hex.encode bytes)) h

/-- The starts are the same but for those under some keys. -/
def Starts.AgreeOff (keys : Set String) (starts other : Starts) : Prop :=
  ∀ key ∉ keys, starts[key]? = other[key]?

theorem Timing.apply_latency_congr {timing : Timing} {key : RequestKey} {now : Instant}
    {starts other : Starts}
    (h : ∀ digits, key.pairing? = some digits → starts[digits]? = other[digits]?) :
    (timing.apply key now starts).1 = (timing.apply key now other).1 := by
  unfold apply
  split
  · rfl
  · next digits hpairing => simp only [Starts.takeElapsed, Starts.take, h digits hpairing]
  · rfl

namespace Observer

/-- The key of the call of which a step notifies, if the call is monitored and can be paired. -/
def Step.key? : Step → Option String
  | notice n call moment => call.pairing? n.side moment.name
  | sweep _ _ => none

/-- Whether a step is left when only the calls of a group are observed. Sweeps are. -/
def Step.isLeft (group : Call → Bool) : Step → Bool
  | notice _ call _ => group call
  | sweep _ _ => true

def calls (steps : List Step) : List Call :=
  steps.filterMap fun
    | .notice _ call _ => some call
    | .sweep _ _ => none

theorem mem_calls {steps : List Step} {n : Notification} {call : Call} {moment : Moment}
    (h : .notice n call moment ∈ steps) : call ∈ calls steps :=
  List.mem_filterMap.mpr ⟨_, h, rfl⟩

theorem notify_event_congr {o : Observer} {n : Notification} {call : Call} {moment : Moment}
    {starts other : Starts}
    (h : ∀ key, call.pairing? n.side moment.name = some key → starts[key]? = other[key]?) :
    (o.notify n call moment starts).2 = (o.notify n call moment other).2 := by
  unfold notify
  unfold Call.pairing? at h
  split
  · next seen hseen =>
    rw [hseen] at h
    cases n with
    | requestContexts => rfl
    | reached point =>
      dsimp only
      rw [Timing.apply_latency_congr h]
      split <;> rfl
  · rfl

theorem step_agreeOff (o : Observer) {keys : Set String} {starts other : Starts} {s : Step}
    (h : starts.AgreeOff keys other) (hkey : ∀ key, s.key? = some key → key ∉ keys) :
    (o.step starts s).2 = (o.step other s).2 ∧
      (o.step starts s).1.AgreeOff keys (o.step other s).1 := by
  cases s with
  | notice n call moment =>
    refine ⟨notify_event_congr fun key hcall => h key (hkey key hcall), ?_⟩
    intro key hoff
    rw [step, step, getElem?_notify, getElem?_notify, h key hoff]
  | sweep limit now =>
    refine ⟨rfl, ?_⟩
    intro key hoff
    rw [step, step, Starts.getElem?_sweep, Starts.getElem?_sweep, h key hoff]

theorem agreeOff_notify (o : Observer) {keys : Set String} {starts other : Starts}
    {n : Notification} {call : Call} {moment : Moment} (h : starts.AgreeOff keys other)
    (hkey : ∀ key, call.pairing? n.side moment.name = some key → key ∈ keys) :
    (o.notify n call moment starts).1.AgreeOff keys other := by
  intro key hoff
  rw [getElem?_notify, if_neg, h key hoff]
  intro hcall
  exact hoff (hkey key hcall)

theorem filter_eventsFrom_cons (o : Observer) (group : Call → Bool) (starts : Starts) (s : Step)
    (rest : List Step) :
    (o.eventsFrom starts (s :: rest)).filter (·.1.isLeft group) =
      (if s.isLeft group then (o.step starts s).2.toList.map (s, ·) else []) ++
        (o.eventsFrom (o.step starts s).1 rest).filter (·.1.isLeft group) := by
  rw [eventsFrom, List.filter_append, List.filter_map]
  cases hs : s.isLeft group <;> simp [Function.comp_def, hs]

/-- Runs from starts that agree off the keys of the steps outside a group submit the same events for
the group and end in starts that agree off these keys, even if one of them leaves those steps
out. -/
theorem run_agreeOff (o : Observer) {keys : Set String} {group : Call → Bool} {steps : List Step}
    {starts other : Starts} (h : starts.AgreeOff keys other)
    (hin : ∀ s ∈ steps, s.isLeft group = true → ∀ key, s.key? = some key → key ∉ keys)
    (hout : ∀ s ∈ steps, s.isLeft group = false → ∀ key, s.key? = some key → key ∈ keys) :
    (o.eventsFrom starts steps).filter (·.1.isLeft group) =
        o.eventsFrom other (steps.filter (Step.isLeft group)) ∧
      (o.startsFrom starts steps).AgreeOff keys
        (o.startsFrom other (steps.filter (Step.isLeft group))) := by
  -- Agreement off the keys survives each step: one that is left acts on both runs alike, and one
  -- that is left out acts on the first run only, under a key where the two may differ.
  induction steps generalizing starts other with
  | nil => exact ⟨rfl, h⟩
  | cons s rest ih =>
    have hin' := fun t ht => hin t (List.mem_cons_of_mem s ht)
    have hout' := fun t ht => hout t (List.mem_cons_of_mem s ht)
    rw [filter_eventsFrom_cons]
    cases hs : s.isLeft group with
    | true =>
      obtain ⟨hevent, hafter⟩ := o.step_agreeOff h (hin s List.mem_cons_self hs)
      obtain ⟨hevents, hstarts⟩ := ih hafter hin' hout'
      rw [List.filter_cons_of_pos hs, eventsFrom, hevents, hevent, if_pos rfl]
      exact ⟨rfl, hstarts⟩
    | false =>
      have hafter : (o.step starts s).1.AgreeOff keys other := by
        cases s with
        | notice n call moment => exact o.agreeOff_notify h (hout _ List.mem_cons_self hs)
        | sweep limit now => exact absurd hs (by simp [Step.isLeft])
      obtain ⟨hevents, hstarts⟩ := ih hafter hin' hout'
      rw [List.filter_cons_of_neg (by simp [hs]), hevents, if_neg (by decide)]
      exact ⟨rfl, hstarts⟩

/-- In every run of notifications and sweeps, a group of calls has the same events, in the same
order and with the same latencies, and leaves the same starts under its keys, as if the calls
outside it had never been notified, if no raw request id of the group agrees with one outside on the
first 16 bytes. Calls without a raw request id disturb nobody. -/
theorem run_filter_of_apart (o : Observer) (starts : Starts) (history : List Step)
    (group : Call → Bool)
    (apart : ∀ call ∈ calls history, ∀ other ∈ calls history,
      group call = true → group other = false → ∀ raw raw', call.requestId = .value raw →
        other.requestId = .value raw' → raw ≠ [] → raw.take 16 ≠ raw'.take 16) :
    (o.eventsFrom starts history).filter (·.1.isLeft group) =
        o.eventsFrom starts (history.filter (Step.isLeft group)) ∧
      ∀ call ∈ calls history, group call = true → ∀ raw, call.requestId = .value raw → raw ≠ [] →
        (o.startsFrom starts history)[RequestKey.digits raw]? =
          (o.startsFrom starts (history.filter (Step.isLeft group)))[RequestKey.digits raw]? := by
  let keys : Set String := fun key => ∃ other ∈ calls history, group other = false ∧
    ∃ raw', other.requestId = .value raw' ∧ RequestKey.digits raw' = key
  have hoff : ∀ call ∈ calls history, group call = true → ∀ raw, call.requestId = .value raw →
      raw ≠ [] → RequestKey.digits raw ∉ keys := by
    rintro call hcall hgroup raw hraw hne ⟨other, hother, hnot, raw', hraw', hdigits⟩
    exact apart call hcall other hother hgroup hnot raw raw' hraw hraw' hne
      (RequestKey.digits_eq_iff.mp hdigits.symm)
  have hin : ∀ s ∈ history, s.isLeft group = true → ∀ key, s.key? = some key → key ∉ keys := by
    intro s hs hleft key hkey
    cases s with
    | notice n call moment =>
      obtain ⟨raw, hraw, hne, rfl⟩ := Call.pairing?_eq_some hkey
      exact hoff call (mem_calls hs) hleft raw hraw hne
    | sweep limit now => exact nomatch hkey
  have hout : ∀ s ∈ history, s.isLeft group = false → ∀ key, s.key? = some key → key ∈ keys := by
    intro s hs hleft key hkey
    cases s with
    | notice n call moment =>
      obtain ⟨raw, hraw, -, hdigits⟩ := Call.pairing?_eq_some hkey
      exact ⟨call, mem_calls hs, hleft, raw, hraw, hdigits⟩
    | sweep limit now => exact nomatch hkey
  obtain ⟨hevents, hstarts⟩ := o.run_agreeOff (fun key _ => rfl) hin hout
  exact ⟨hevents, fun call hcall hgroup raw hraw hne =>
    hstarts _ (hoff call hcall hgroup raw hraw hne)⟩

/-- Two calls whose raw request ids differ in the sixteenth byte only, with a sweep in between: the
second call leaves the reply of the first its latency. -/
theorem run_filter_of_shared_prefix :
    let o : Observer := ⟨false, false, 0, "here"⟩
    let mine := Call.bare (List.replicate 15 0 ++ [1, 9])
    let other := Call.bare (List.replicate 15 0 ++ [2, 9])
    let request := Step.notice (.reached .sendRequest) mine ⟨0, ⟨0, 0, 0⟩, ""⟩
    let sweep := Step.sweep 3 2
    let reply := Step.notice (.reached .receiveReply) mine ⟨5, ⟨0, 0, 0⟩, ""⟩
    let history := [request, .notice (.reached .sendRequest) other ⟨1, ⟨0, 0, 0⟩, ""⟩, sweep,
      .notice (.reached .receiveReply) other ⟨3, ⟨0, 0, 0⟩, ""⟩, reply]
    let group : Call → Bool := fun call =>
      match call.requestId with
      | .value raw => raw[15]? == some 1
      | _ => false
    (o.eventsFrom ∅ history).filter (·.1.isLeft group) = o.eventsFrom ∅ [request, sweep, reply] ∧
      (o.eventsFrom ∅ [request, sweep, reply]).length = 2 := by
  intro o mine other request sweep reply history group
  refine ⟨(o.run_filter_of_apart ∅ history group ?_).1, by decide +kernel⟩
  have hcalls : ∀ call ∈ calls history, call = mine ∨ call = other := by
    intro call hcall
    simp only [calls, history, request, sweep, reply, List.filterMap_cons, List.filterMap_nil,
      List.mem_cons, List.not_mem_nil, or_false] at hcall
    rcases hcall with rfl | rfl | rfl | rfl
    · exact .inl rfl
    · exact .inr rfl
    · exact .inr rfl
    · exact .inl rfl
  intro call hcall call' hcall' hgroup hgroup' raw raw' hraw hraw' _
  obtain rfl : call = mine := by
    rcases hcalls call hcall with rfl | rfl
    · rfl
    · exact absurd hgroup (by decide)
  obtain rfl : call' = other := by
    rcases hcalls call' hcall' with rfl | rfl
    · exact absurd hgroup' (by decide)
    · rfl
  obtain rfl := Reading.value.inj hraw
  obtain rfl := Reading.value.inj hraw'
  decide

end Observer

end CallWatch
