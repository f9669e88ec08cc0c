import Std.Data.ExtTreeMap

/-! The starts of calls that are not complete, under the keys of the calls. A start is a reading of
a clock in nanoseconds. It is handed out once, and it is dropped when its age reaches a limit. -/

namespace CallWatch

/-- A reading of a steady clock, in nanoseconds. -/
abbrev Instant := Int

namespace Instant

/-- The nanoseconds from `start` to `now`, or none if `start` lies ahead. -/
def since (now start : Instant) : Nat :=
  (now - start).toNat

end Instant

/-- A duration of some nanoseconds in milliseconds. The seconds are rounded before they are
scaled. -/
def millis (nanos : Nat) : Float :=
  ((nanos / 1000000000).toFloat + (nanos % 1000000000).toFloat / 1000000000.0) * 1000.0

/-- The starts of calls under their keys. -/
abbrev Starts := Std.ExtTreeMap String Instant

namespace Starts

/-- A call starts. It takes the place of an earlier start under its key. -/
def record (starts : Starts) (key : String) (moment : Instant) : Starts :=
  starts.insert key moment

theorem getElem?_record (starts : Starts) (key other : String) (moment : Instant) :
    (starts.record key moment)[other]? = if key = other then some moment else starts[other]? := by
  rw [record, Std.ExtTreeMap.getElem?_insert]
  simp only [Std.LawfulEqCmp.compare_eq_iff_eq]

/-- The start under a key, and the starts without it. -/
def take (starts : Starts) (key : String) : Option Instant × Starts :=
  (starts[key]?, starts.erase key)

theorem getElem?_take (starts : Starts) (key other : String) :
    (starts.take key).2[other]? = if key = other then none else starts[other]? := by
  rw [take, Std.ExtTreeMap.getElem?_erase]
  simp only [Std.LawfulEqCmp.compare_eq_iff_eq]

/-- The milliseconds since the start under a key, and the starts without it. -/
def takeElapsed (starts : Starts) (key : String) (now : Instant) : Option Float × Starts :=
  let (start, rest) := starts.take key
  (start.map fun start => millis (now.since start), rest)

/-- The starts whose age in nanoseconds has not reached `limit`. -/
def younger (starts : Starts) (limit : Nat) (now : Instant) : Starts :=
  starts.filter fun _ start => now.since start < limit

/-- The number of starts whose age has reached `limit`, and the starts without them. -/
def sweep (starts : Starts) (limit : Nat) (now : Instant) : Nat × Starts :=
  let kept := starts.younger limit now
  (starts.size - kept.size, kept)

theorem getElem?_sweep (starts : Starts) (limit : Nat) (now : Instant) (key : String) :
    (starts.sweep limit now).2[key]? =
      starts[key]?.filter fun start => now.since start < limit := by
  rw [sweep, younger, Std.ExtTreeMap.getElem?_filter']

end Starts

end CallWatch
