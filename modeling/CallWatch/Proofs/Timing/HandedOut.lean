import CallWatch.Proofs.Timing.Exchanges

/-! What is taken from correlators. A correlator hands out the start that was recorded last under a
key, through whichever of its clones that was, unless it was handed out before, swept because of its
age, or cleared. So it hands out no start more often than one is recorded, and it holds as many
starts as there are keys to take (`start_handed_out_once`). -/

namespace CallWatch.CorrelatorRun

open Starts (Pending Request)

/-- The requests to the correlators at a place, in order. -/
def requestsAt (r : CorrelatorRun) (place : Nat) : List Request :=
  (r.exchangesAt place).map Prod.fst

section
variable {r : CorrelatorRun} {handle place : Nat}
  (hplace : r.correlators.places[handle]? = some place)
include hplace

theorem ask_take (key : String) : (r.correlators.ask handle (.take key)).1 =
    some (.start (r.correlators.startsAt place)[key]?) := by
  rw [Correlators.ask_of_place hplace]
  rfl

theorem ask_takeElapsed (key : String) (now : Instant) :
    (r.correlators.ask handle (.takeElapsed key now)).1 =
      some (.elapsed ((r.correlators.startsAt place)[key]?.map fun began =>
        millis (now.since began))) := by
  rw [Correlators.ask_of_place hplace]
  rfl

/-- There is a start to take under just those keys that starts are kept under. -/
theorem mem_keys_iff_ask_take (key : String) : key ∈ (r.correlators.startsAt place).keys ↔
    ∃ began, (r.correlators.ask handle (.take key)).1 = some (.start (some began)) := by
  rw [Std.ExtTreeMap.mem_keys, Std.ExtTreeMap.mem_iff_isSome_getElem?, Option.isSome_iff_exists,
    ask_take hplace]
  simp only [Option.some.injEq, Starts.Answer.start.injEq]

end

/-- After every sequence of requests to correlators, a take of a key through any handle on a place
is answered with the start that is pending there, or with the milliseconds since it, and with
nothing if none is pending. No more takes of the key have found a start than have been recorded
under it, and the correlator counts the keys that a take would now find. -/
theorem start_handed_out_once (steps : List Step) {handle place : Nat}
    (hplace : (after steps).correlators.places[handle]? = some place) (key : String) :
    (∃ found, ((after steps).correlators.ask handle (.take key)).1 = some (.start found) ∧
      ∀ began, found = some began ↔ Pending ((after steps).requestsAt place) key began) ∧
    (∀ now, ∃ found,
      ((after steps).correlators.ask handle (.takeElapsed key now)).1 = some (.elapsed found) ∧
      ∀ elapsed, found = some elapsed ↔
        ∃ began, Pending ((after steps).requestsAt place) key began ∧
          millis (now.since began) = elapsed) ∧
    ((after steps).exchangesAt place).countP (Starts.finds key) ≤
      ((after steps).requestsAt place).countP (Request.records key) ∧
    ∃ keys : List String, keys.Nodup ∧
      (∀ other, other ∈ keys ↔ ∃ began,
        ((after steps).correlators.ask handle (.take other)).1 = some (.start (some began))) ∧
      (after steps).correlators.count? handle = some keys.length := by
  have hserved := served_after steps place
  have hheld : ∀ began, ((after steps).correlators.startsAt place)[key]? = some began ↔
      Pending ((after steps).requestsAt place) key began :=
    hserved.getElem?_eq_some_iff key
  refine ⟨⟨_, ask_take hplace key, hheld⟩, fun now => ⟨_, ask_takeElapsed hplace key now, ?_⟩, ?_,
    ((after steps).correlators.startsAt place).keys, ?_, mem_keys_iff_ask_take hplace, ?_⟩
  · intro elapsed
    simp only [Option.map_eq_some_iff, hheld]
  · have hcounts := hserved.finds_add_holds_le key
    exact Nat.le_trans (Nat.le_add_right _ _) hcounts
  · exact Std.ExtTreeMap.nodup_keys
  · rw [Correlators.count?_of_place hplace, Std.ExtTreeMap.length_keys]

/-- Two starts under one key, recorded through a correlator and its clone, and a sweep that comes a
nanosecond too early for the second. Another correlator is cleared. -/
def sharedSteps : List Step :=
  [.make, .make, .clone 0, .ask 0 (.record "a" 10), .ask 2 (.record "a" 20),
    .ask 0 (.sweep 15 34), .ask 1 .clear]

/-- The second start is there to take through either handle. -/
theorem start_handed_out_once_shared :
    (after sharedSteps).correlators.places[0]? = some 0 ∧
    ((after sharedSteps).correlators.ask 0 (.take "a")).1 = some (.start (some 20)) ∧
    (after sharedSteps).correlators.places[2]? = some 0 ∧
    ((after sharedSteps).correlators.ask 2 (.takeElapsed "a" 36)).1 =
      some (.elapsed (some (millis 16))) := by
  have hrequests : (after sharedSteps).requestsAt 0 =
      [.record "a" 10, .record "a" 20, .sweep 15 34] := rfl
  have hpending : Pending ((after sharedSteps).requestsAt 0) "a" 20 := by
    refine ⟨[.record "a" 10], .record "a" 20, [.sweep 15 34], hrequests, rfl, ?_⟩
    simp [Request.Discards, Instant.since]
  have hmade : (after sharedSteps).correlators.places[0]? = some 0 := rfl
  have hcloned : (after sharedSteps).correlators.places[2]? = some 0 := rfl
  obtain ⟨⟨found, hanswer, hfound⟩, -⟩ := start_handed_out_once sharedSteps hmade "a"
  obtain ⟨-, helapsed, -⟩ := start_handed_out_once sharedSteps hcloned "a"
  obtain ⟨elapsed, hanswered, htimed⟩ := helapsed 36
  rw [(hfound 20).mpr hpending] at hanswer
  rw [(htimed _).mpr ⟨20, hpending, rfl⟩] at hanswered
  exact ⟨hmade, hanswer, hcloned, hanswered⟩

end CallWatch.CorrelatorRun
