import CallWatch.Proofs.Timing.Lasting
import CallWatch.Timing.Correlators
import Mathlib.Data.List.Induction

/-! Exchanges with correlators: requests and what they are answered. Starts that have served some
requests hold, under each key, the latest one that was recorded and that no request has discarded
since (`Served.getElem?_eq_some_iff`). In a run of correlators, made and cloned at any time, the
starts at a place have served just the requests to the correlators at that place, in their order
(`served_after`). -/

namespace CallWatch

namespace Starts

/-- A request leaves nothing of a start under a key: it records another one, takes it, sweeps it
away because of its age, or clears everything. -/
def Request.Discards (key : String) (began : Instant) : Request → Prop
  | record other _ | take other | takeElapsed other _ => other = key
  | sweep limit now => limit ≤ now.since began
  | clear => True

/-- The latest start that was recorded under a key, if no request has discarded it since. -/
def Pending (requests : List Request) (key : String) (began : Instant) : Prop :=
  Lasts (· = .record key began) (¬Request.Discards key began ·) requests

theorem pending_concat (requests : List Request) (request : Request) (key : String)
    (began : Instant) : Pending (requests ++ [request]) key began ↔
      request = .record key began ∨ Pending requests key began ∧ ¬request.Discards key began :=
  lasts_concat requests request

/-- After a request, a start is kept under a key if it was recorded by the request, or if it was
kept before and the request does not discard it. -/
theorem getElem?_serve (starts : Starts) (request : Request) (key : String) (began : Instant) :
    (starts.serve request).2[key]? = some began ↔
      request = .record key began ∨ starts[key]? = some began ∧ ¬request.Discards key began := by
  cases request with
  | record other moment =>
    simp only [serve, getElem?_record, Request.Discards, Request.record.injEq]
    by_cases hkey : other = key <;> simp [hkey]
  | take other =>
    simp only [serve, getElem?_take, Request.Discards]
    by_cases hkey : other = key <;> simp [hkey]
  | takeElapsed other now =>
    simp only [serve, takeElapsed, getElem?_take, Request.Discards]
    by_cases hkey : other = key <;> simp [hkey]
  | sweep limit now =>
    simp [serve, getElem?_sweep, Request.Discards, Option.filter_eq_some_iff]
  | clear => simp [serve, Request.Discards]

/-- Starts that have served requests, each with what it was answered, since there were none. -/
inductive Served : List (Request × Answer) → Starts → Prop
  | nil : Served [] ∅
  | concat {told : List (Request × Answer)} {starts : Starts} (h : Served told starts)
      (request : Request) :
      Served (told ++ [(request, (starts.serve request).1)]) (starts.serve request).2

variable {told : List (Request × Answer)} {starts : Starts}

/-- The starts that are kept are those that are pending. -/
theorem Served.getElem?_eq_some_iff (h : Served told starts) (key : String) (began : Instant) :
    starts[key]? = some began ↔ Pending (told.map Prod.fst) key began := by
  induction h with
  | nil =>
    rw [Std.ExtTreeMap.getElem?_empty]
    exact ⟨fun h => absurd h (by simp), fun h => absurd h not_lasts_nil⟩
  | concat h request ih =>
    rw [getElem?_serve, ih, List.map_append, List.map_singleton, pending_concat]

/-- Whether a request records a start under a key. -/
def Request.records (key : String) : Request → Bool
  | record other _ => other = key
  | _ => false

/-- Whether a request takes what is under a key, and is answered that there was a start. -/
def finds (key : String) : Request × Answer → Bool
  | (.take other, .start found) => other = key ∧ found.isSome
  | (.takeElapsed other _, .elapsed found) => other = key ∧ found.isSome
  | _ => false

/-- A request that finds a start removes it, and only one that records a start adds it. -/
theorem finds_add_holds_le (starts : Starts) (request : Request) (key : String) :
    (finds key (request, (starts.serve request).1)).toNat +
        (starts.serve request).2[key]?.isSome.toNat ≤
      (request.records key).toNat + starts[key]?.isSome.toNat := by
  cases request with
  | record other moment =>
    simp only [serve, finds, getElem?_record, Request.records]
    by_cases hkey : other = key <;> simp [hkey]
  | take other =>
    simp only [serve, finds, getElem?_take, Request.records]
    by_cases hkey : other = key
    · subst hkey
      by_cases hheld : other ∈ starts <;> simp [take, hheld]
    · simp [hkey]
  | takeElapsed other now =>
    simp only [serve, takeElapsed, finds, getElem?_take, Request.records]
    by_cases hkey : other = key
    · subst hkey
      by_cases hheld : other ∈ starts <;> simp [take, hheld]
    · simp [hkey]
  | sweep limit now =>
    simp only [serve, finds, getElem?_sweep, Request.records]
    cases starts[key]? with
    | none => simp
    | some began => by_cases hage : now.since began < limit <;> simp [hage]
  | clear => simp [serve, finds, Request.records]

/-- A start that was recorded is found once at most: those found and the one that is kept are no
more than those recorded. -/
theorem Served.finds_add_holds_le (h : Served told starts) (key : String) :
    told.countP (finds key) + starts[key]?.isSome.toNat ≤
      (told.map Prod.fst).countP (Request.records key) := by
  induction h with
  | nil => simp
  | @concat told starts h request ih =>
    have hstep := Starts.finds_add_holds_le starts request key
    have hone : ∀ {α : Type} (p : α → Bool) (a : α), [a].countP p = (p a).toNat := by
      intro α p a
      rw [List.countP_singleton]
      cases p a <;> rfl
    rw [List.map_append, List.map_singleton, List.countP_append, List.countP_append, hone, hone]
    show _ ≤ _ + (Request.records key request).toNat
    omega

end Starts

/-- A request to a correlator, and what it was answered. -/
structure Exchange where
  handle : Nat
  request : Starts.Request
  answer : Starts.Answer

/-- Correlators, with all exchanges that there were with them. -/
structure CorrelatorRun where
  correlators : Correlators := {}
  exchanges : List Exchange := []

namespace CorrelatorRun

/-- What can happen to correlators: one is made, one is cloned, or one is asked for something. -/
inductive Step
  | make
  | clone (handle : Nat)
  | ask (handle : Nat) (request : Starts.Request)

def step (r : CorrelatorRun) : Step → CorrelatorRun
  | .make => { r with correlators := r.correlators.make }
  | .clone handle => { r with correlators := r.correlators.clone handle }
  | .ask handle request =>
    let (answer, correlators) := r.correlators.ask handle request
    ⟨correlators, r.exchanges ++ answer.toList.map (⟨handle, request, ·⟩)⟩

def after (steps : List Step) : CorrelatorRun :=
  steps.foldl step {}

@[simp] theorem after_concat (steps : List Step) (s : Step) :
    after (steps ++ [s]) = (after steps).step s := by
  rw [after, List.foldl_append]
  rfl

/-- The exchanges with the correlators at a place, in order. -/
def exchangesAt (r : CorrelatorRun) (place : Nat) : List (Starts.Request × Starts.Answer) :=
  (r.exchanges.filter fun e => r.correlators.places[e.handle]? = some place).map fun e =>
    (e.request, e.answer)

theorem exchangesAt_concat {r : CorrelatorRun} {correlators : Correlators}
    (hplaces : correlators.places = r.correlators.places) (e : Exchange) (place : Nat) :
    exchangesAt ⟨correlators, r.exchanges ++ [e]⟩ place = r.exchangesAt place ++
      if correlators.places[e.handle]? = some place then [(e.request, e.answer)] else [] := by
  rw [exchangesAt, exchangesAt, List.filter_append, List.map_append, hplaces]
  split
  · next h => simp [h]
  · next h => simp [h]

/-- Every exchange was with a correlator that there is. -/
def Known (r : CorrelatorRun) : Prop :=
  ∀ e ∈ r.exchanges, e.handle < r.correlators.places.length

theorem step_ask_of_place {r : CorrelatorRun} {handle place : Nat}
    (h : r.correlators.places[handle]? = some place) (request : Starts.Request) :
    r.step (.ask handle request) =
      ⟨r.correlators.put place ((r.correlators.startsAt place).serve request).2,
        r.exchanges ++ [⟨handle, request, ((r.correlators.startsAt place).serve request).1⟩]⟩ := by
  rw [step, Correlators.ask_of_place h]
  rfl

theorem step_ask_of_none {r : CorrelatorRun} {handle : Nat}
    (h : r.correlators.places[handle]? = none) (request : Starts.Request) :
    r.step (.ask handle request) = r := by
  rw [step, Correlators.ask_of_none h]
  simp

/-- Correlators that are made later have no part in the exchanges before. -/
theorem Known.exchangesAt_eq {r : CorrelatorRun} (h : r.Known) {correlators : Correlators}
    {more : List Nat} (hplaces : correlators.places = r.correlators.places ++ more) (place : Nat) :
    exchangesAt { r with correlators } place = r.exchangesAt place := by
  have hsame : ∀ e ∈ r.exchanges, decide (correlators.places[e.handle]? = some place) =
      decide (r.correlators.places[e.handle]? = some place) := by
    intro e he
    rw [hplaces, List.getElem?_append_left (h e he)]
  rw [exchangesAt, exchangesAt, List.filter_congr hsame]

theorem known_after (steps : List Step) : (after steps).Known := by
  induction steps using List.reverseRecOn with
  | nil => exact List.forall_mem_nil _
  | append_singleton steps s ih =>
    rw [after_concat]
    generalize after steps = r at ih ⊢
    cases s with
    | make =>
      intro e he
      have hbefore := ih e he
      simp only [step, Correlators.make, List.length_append]
      omega
    | clone handle =>
      intro e he
      have hbefore := ih e he
      simp only [step, Correlators.clone, List.length_append]
      omega
    | ask handle request =>
      cases hplace : r.correlators.places[handle]? with
      | none => rwa [step_ask_of_none hplace]
      | some place =>
        rw [step_ask_of_place hplace]
        intro e he
        rcases List.mem_append.mp he with he | he
        · exact ih e he
        · obtain rfl := List.mem_singleton.mp he
          exact (List.getElem?_eq_some_iff.mp hplace).1

/-- The starts at a place have served the requests to the correlators at that place. -/
theorem served_after (steps : List Step) (place : Nat) :
    Starts.Served ((after steps).exchangesAt place) ((after steps).correlators.startsAt place) := by
  induction steps using List.reverseRecOn with
  | nil => exact .nil
  | append_singleton steps s ih =>
    have hknown := known_after steps
    rw [after_concat]
    generalize after steps = r at ih hknown ⊢
    cases s with
    | make =>
      rw [step, hknown.exchangesAt_eq rfl, Correlators.startsAt_make]
      exact ih
    | clone handle =>
      rw [step, hknown.exchangesAt_eq rfl, Correlators.startsAt_clone]
      exact ih
    | ask handle request =>
      cases hplace : r.correlators.places[handle]? with
      | none => rwa [step_ask_of_none hplace]
      | some other =>
        rw [step_ask_of_place hplace, exchangesAt_concat (Correlators.places_put _ _ _),
          Correlators.places_put, hplace,
          Correlators.startsAt_put (List.mem_of_getElem? hplace)]
        -- Neither the starts at another place nor the exchanges there change.
        by_cases hsame : other = place
        · subst hsame
          rw [if_pos rfl, if_pos rfl]
          exact ih.concat request
        · rw [if_neg (by simpa using hsame), if_neg hsame, List.append_nil]
          exact ih

end CorrelatorRun

end CallWatch
