import CallWatch.Timing.Starts

/-! Correlators. A correlator is a handle on starts, and a clone of it is one more handle on the
same starts: what is recorded through one of them is found through any other, and taken from all. -/

namespace CallWatch

namespace Starts

/-- What starts can be asked for. -/
inductive Request
  | record (key : String) (began : Instant)
  | take (key : String)
  | takeElapsed (key : String) (now : Instant)
  | sweep (limit : Nat) (now : Instant)
  | clear

/-- What a request is answered: nothing, the start under a key, the milliseconds since it, or a
number of starts. -/
inductive Answer
  | done
  | start (found : Option Instant)
  | elapsed (millis : Option Float)
  | gone (count : Nat)

def serve (starts : Starts) : Request → Answer × Starts
  | .record key began => (.done, starts.record key began)
  | .take key =>
    let (found, rest) := starts.take key
    (.start found, rest)
  | .takeElapsed key now =>
    let (millis, rest) := starts.takeElapsed key now
    (.elapsed millis, rest)
  | .sweep limit now =>
    let (count, rest) := starts.sweep limit now
    (.gone count, rest)
  | .clear => (.done, ∅)

end Starts

/-- Correlators in the order in which they were made or cloned. Those with one place share the
starts that are kept there. -/
structure Correlators where
  stores : List Starts := []
  places : List Nat := []
  stored : ∀ place ∈ places, place < stores.length := by simp

namespace Correlators

/-- One more correlator, with starts of its own. -/
def make (c : Correlators) : Correlators where
  stores := c.stores ++ [∅]
  places := c.places ++ [c.stores.length]
  stored := by
    intro place hplace
    rw [List.length_append, List.length_singleton]
    rcases List.mem_append.mp hplace with hplace | hplace
    · exact Nat.lt_succ_of_lt (c.stored place hplace)
    · exact Nat.lt_succ_of_le (Nat.le_of_eq (List.mem_singleton.mp hplace))

/-- One more correlator on the starts of a given one. -/
def clone (c : Correlators) (handle : Nat) : Correlators where
  stores := c.stores
  places := c.places ++ c.places[handle]?.toList
  stored := by
    intro place hplace
    rcases List.mem_append.mp hplace with hplace | hplace
    · exact c.stored place hplace
    · exact c.stored place (List.mem_of_getElem? (Option.mem_toList.mp hplace))

/-- A correlator is made where no other one is. -/
theorem length_stores_notMem_places (c : Correlators) : c.stores.length ∉ c.places :=
  fun h => Nat.lt_irrefl _ (c.stored _ h)

/-- A clone is where the correlator is that it was cloned from. -/
theorem getElem?_places_clone {c : Correlators} {handle place : Nat}
    (h : c.places[handle]? = some place) :
    (c.clone handle).places[c.places.length]? = some place := by
  simp [clone, h]

/-- The starts at a place. -/
def startsAt (c : Correlators) (place : Nat) : Starts :=
  c.stores[place]?.getD ∅

/-- The starts that a correlator is a handle on. -/
def starts? (c : Correlators) (handle : Nat) : Option Starts :=
  c.places[handle]?.map c.startsAt

/-- How many starts a correlator holds. -/
def count? (c : Correlators) (handle : Nat) : Option Nat :=
  (c.starts? handle).map (·.size)

theorem count?_of_place {c : Correlators} {handle place : Nat}
    (h : c.places[handle]? = some place) : c.count? handle = some (c.startsAt place).size := by
  rw [count?, starts?, h]
  rfl

/-- Puts other starts in the place of a correlator's. -/
def put (c : Correlators) (place : Nat) (starts : Starts) : Correlators where
  stores := c.stores.set place starts
  places := c.places
  stored := by
    intro other hother
    rw [List.length_set]
    exact c.stored other hother

/-- Asks a correlator, if there is one with that number. -/
def ask (c : Correlators) (handle : Nat) (request : Starts.Request) :
    Option Starts.Answer × Correlators :=
  match c.places[handle]? with
  | none => (none, c)
  | some place =>
    let (answer, rest) := (c.startsAt place).serve request
    (some answer, c.put place rest)

theorem ask_of_place {c : Correlators} {handle place : Nat} (h : c.places[handle]? = some place)
    (request : Starts.Request) : c.ask handle request =
      (some ((c.startsAt place).serve request).1,
        c.put place ((c.startsAt place).serve request).2) := by
  rw [ask, h]

theorem ask_of_none {c : Correlators} {handle : Nat} (h : c.places[handle]? = none)
    (request : Starts.Request) : c.ask handle request = (none, c) := by
  rw [ask, h]

@[simp] theorem places_put (c : Correlators) (place : Nat) (starts : Starts) :
    (c.put place starts).places = c.places := rfl

@[simp] theorem startsAt_make (c : Correlators) (place : Nat) :
    c.make.startsAt place = c.startsAt place := by
  rw [startsAt, make, startsAt]
  rcases Nat.lt_trichotomy place c.stores.length with h | h | h
  · rw [List.getElem?_append_left h]
  · subst h
    simp
  · rw [List.getElem?_eq_none (by simp; omega), List.getElem?_eq_none (by omega)]

@[simp] theorem startsAt_clone (c : Correlators) (handle place : Nat) :
    (c.clone handle).startsAt place = c.startsAt place := rfl

theorem startsAt_put {c : Correlators} {place : Nat} (h : place ∈ c.places) (starts : Starts)
    (other : Nat) :
    (c.put place starts).startsAt other = if place = other then starts else c.startsAt other := by
  rw [startsAt, put, startsAt, List.getElem?_set]
  split
  · next heq => rw [if_pos (c.stored place h)]; rfl
  · rfl

end Correlators

end CallWatch
