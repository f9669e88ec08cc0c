import CallWatch.Proofs.Timing.Exchanges

/-! Sweeps. A sweep removes just the starts whose age has reached its limit. Ages only grow, so an
earlier sweep with the same limit removes nothing that a later one would keep
(`sweep_exact_and_composes`). -/

namespace CallWatch

/-- The time since a start grows with the clock. -/
theorem Instant.since_mono {first second : Instant} (h : first ≤ second) (start : Instant) :
    first.since start ≤ second.since start :=
  Int.toNat_le_toNat (Int.sub_le_sub_right h start)

namespace Starts

theorem size_sweep_le (starts : Starts) (limit : Nat) (now : Instant) :
    (starts.sweep limit now).2.size ≤ starts.size :=
  Std.ExtTreeMap.size_filter_le_size

/-- A sweep keeps the starts whose age has not reached the limit, as they are. -/
theorem getElem?_sweep_eq_some_iff (starts : Starts) (limit : Nat) (now : Instant) (key : String)
    (began : Instant) : (starts.sweep limit now).2[key]? = some began ↔
      starts[key]? = some began ∧ ¬limit ≤ now.since began := by
  simp [getElem?_sweep, Option.filter_eq_some_iff]

/-- A sweep counts the starts whose age has reached the limit. -/
theorem sweep_fst (starts : Starts) (limit : Nat) (now : Instant) :
    (starts.sweep limit now).1 =
      starts.toList.countP fun entry => limit ≤ now.since entry.2 := by
  have hkept : (starts.sweep limit now).2.size =
      starts.toList.countP fun entry => now.since entry.2 < limit := by
    rw [List.countP_eq_length_filter, ← Std.ExtTreeMap.length_toList]
    exact congrArg List.length Std.ExtTreeMap.toList_filter
  have hall := List.length_eq_countP_add_countP (l := starts.toList)
    fun entry => decide (limit ≤ now.since entry.2)
  rw [Std.ExtTreeMap.length_toList] at hall
  simp only [decide_eq_true_eq, Nat.not_le] at hall
  show starts.size - (starts.sweep limit now).2.size = _
  omega

section
variable (starts : Starts) (limit : Nat) {first second : Instant} (h : first ≤ second)
include h

/-- What the earlier sweep removes, the later one would remove too. -/
theorem sweep_sweep_snd :
    ((starts.sweep limit first).2.sweep limit second).2 = (starts.sweep limit second).2 := by
  refine Std.ExtTreeMap.ext_getElem? fun key => Option.ext fun began => ?_
  rw [getElem?_sweep_eq_some_iff, getElem?_sweep_eq_some_iff, getElem?_sweep_eq_some_iff]
  have hage := Instant.since_mono h began
  constructor
  · rintro ⟨⟨hheld, -⟩, hyoung⟩
    exact ⟨hheld, hyoung⟩
  · rintro ⟨hheld, hyoung⟩
    exact ⟨⟨hheld, by omega⟩, hyoung⟩

theorem sweep_fst_add_sweep_fst :
    (starts.sweep limit first).1 + ((starts.sweep limit first).2.sweep limit second).1 =
      (starts.sweep limit second).1 := by
  have hfirst := starts.size_sweep_le limit first
  have hsecond := (starts.sweep limit first).2.size_sweep_le limit second
  have hsame := starts.sweep_sweep_snd limit h
  show starts.size - (starts.sweep limit first).2.size +
      ((starts.sweep limit first).2.size -
        ((starts.sweep limit first).2.sweep limit second).2.size) =
    starts.size - (starts.sweep limit second).2.size
  rw [hsame] at hsecond ⊢
  omega

end

/-- The starts after some requests. -/
def serveAll (starts : Starts) (requests : List Request) : Starts :=
  requests.foldl (fun starts request => (starts.serve request).2) starts

/-- A start that no request discards is still kept after them. -/
theorem getElem?_serveAll {starts : Starts} {requests : List Request} {key : String}
    {began : Instant} (hheld : starts[key]? = some began)
    (hkept : ∀ request ∈ requests, ¬request.Discards key began) :
    (starts.serveAll requests)[key]? = some began := by
  induction requests generalizing starts with
  | nil => exact hheld
  | cons request rest ih =>
    refine ih ?_ fun other hother => hkept other (List.mem_cons_of_mem _ hother)
    exact (starts.getElem?_serve request key began).mpr
      (.inr ⟨hheld, hkept request List.mem_cons_self⟩)

/-- A sweep leaves a start that has not reached the limit by the time of the sweep or later. -/
theorem Request.not_discards_sweep {limit : Nat} {moment now began : Instant} (h : moment ≤ now)
    (hyoung : now.since began < limit) (key : String) :
    ¬(sweep limit moment).Discards key began := by
  have hage := Instant.since_mono h began
  show ¬limit ≤ moment.since began
  omega

/-- A sweep removes just the starts whose age has reached the limit, and counts them. Two sweeps with
one limit leave and count as much together as the later one alone. So a call that is taken before
its age has reached the limit keeps its latency, however often starts are swept with that limit in
between. -/
theorem sweep_exact_and_composes (starts : Starts) (limit : Nat) :
    (∀ (now : Instant) (key : String) (began : Instant),
      (starts.sweep limit now).2[key]? = some began ↔
        starts[key]? = some began ∧ ¬limit ≤ now.since began) ∧
    (∀ now, (starts.sweep limit now).1 =
      starts.toList.countP fun entry => limit ≤ now.since entry.2) ∧
    (∀ first second : Instant, first ≤ second →
      ((starts.sweep limit first).2.sweep limit second).2 = (starts.sweep limit second).2 ∧
      (starts.sweep limit first).1 + ((starts.sweep limit first).2.sweep limit second).1 =
        (starts.sweep limit second).1) ∧
    ∀ (key : String) (began now : Instant) (between : List Request), now.since began < limit →
      (∀ request ∈ between, (∃ moment ≤ now, request = .sweep limit moment) ∨
        ¬request.Discards key began) →
      (((starts.record key began).serveAll between).takeElapsed key now).1 =
        some (millis (now.since began)) := by
  refine ⟨starts.getElem?_sweep_eq_some_iff limit, starts.sweep_fst limit,
    fun first second h => ⟨starts.sweep_sweep_snd limit h, starts.sweep_fst_add_sweep_fst limit h⟩,
    ?_⟩
  intro key began now between hyoung hbetween
  have hrecorded : (starts.record key began)[key]? = some began := by
    rw [getElem?_record, if_pos rfl]
  have hkept : ∀ request ∈ between, ¬request.Discards key began := by
    intro request hrequest
    rcases hbetween request hrequest with ⟨moment, hmoment, rfl⟩ | hspared
    · exact Request.not_discards_sweep hmoment hyoung key
    · exact hspared
  show ((starts.record key began).serveAll between)[key]?.map _ = _
  rw [getElem?_serveAll hrecorded hkept]
  rfl

/-- A start in the past, and one that lies ahead of every sweep below. -/
def aheadStarts : Starts :=
  (record ∅ "late" 0).record "ahead" 100

/-- The starts are swept at an age of four and of five nanoseconds with a limit of five, and a call
that began with the first sweep is taken four nanoseconds later. -/
theorem sweep_exact_and_composes_at_limit :
    ((aheadStarts.sweep 5 4).2.sweep 5 5).2 = (aheadStarts.sweep 5 5).2 ∧
    (aheadStarts.sweep 5 4).2["late"]? = some 0 ∧
    (aheadStarts.sweep 5 5).2["late"]? = none ∧
    (aheadStarts.sweep 5 5).2["ahead"]? = some 100 ∧
    (((aheadStarts.record "call" 4).serveAll
      [.sweep 5 4, .take "late", .sweep 5 8]).takeElapsed "call" 8).1 = some (millis 4) := by
  obtain ⟨hexact, -, hcompose, hlasting⟩ := sweep_exact_and_composes aheadStarts 5
  have hlate : aheadStarts["late"]? = some 0 := by
    simp [aheadStarts, getElem?_record]
  have hahead : aheadStarts["ahead"]? = some 100 := by
    simp [aheadStarts, getElem?_record]
  refine ⟨(hcompose 4 5 (by decide)).1, (hexact 4 _ _).mpr ⟨hlate, by decide⟩, ?_,
    (hexact 5 _ _).mpr ⟨hahead, by decide⟩, ?_⟩
  · rw [Option.eq_none_iff_forall_not_mem]
    intro began hbegan
    obtain ⟨hheld, hyoung⟩ := (hexact 5 _ _).mp hbegan
    rw [hlate] at hheld
    cases hheld
    exact hyoung (by decide)
  · refine hlasting "call" 4 8 _ (by decide) ?_
    intro request hrequest
    simp only [List.mem_cons, List.not_mem_nil, or_false] at hrequest
    rcases hrequest with rfl | rfl | rfl
    · exact .inl ⟨4, by decide, rfl⟩
    · exact .inr (by simp [Request.Discards])
    · exact .inl ⟨8, by decide, rfl⟩

end Starts

end CallWatch
