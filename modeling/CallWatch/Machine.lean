/-! The machine below the monitor: how a piece of work ends there, and what memory and threads an
outbox finds on it. -/

namespace CallWatch

/-- How a piece of work ends. -/
inductive Ending
  | returned
  | panicked
  deriving DecidableEq

/-- How a piece of work ends for the one who runs it behind a guard, which catches a panic. -/
def Ending.caught : Ending → Ending
  | returned => returned
  | panicked => returned

/-- What an outbox finds on the machine: the bytes that an event takes in a batch and in a place of
the queue, the threads that a crew can have, and the reason that is given where there are no more of
them. -/
structure Machine where
  eventBytes : Nat
  placeBytes : Nat
  threads : Nat
  refusal : String
  deriving DecidableEq

/-- The most bytes that can be asked for at once, the greatest signed integer of 64 bits. A request
for more panics. -/
def Machine.allocationBytes : Nat := 9223372036854775807

/-- Whether memory for some things of one size can be asked for. -/
def Machine.canAllocate (count bytes : Nat) : Bool :=
  count * bytes ≤ allocationBytes

end CallWatch
