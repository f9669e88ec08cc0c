import CallWatch.Machine

/-! The collector, which takes events and reports, as the monitor sees it: an answer to each post
and to each health check, and the record of what it was sent. -/

namespace CallWatch

inductive Reply
  | status (code : Nat)
  | timedOut
  | failed (reason : String)
  | panicked
  deriving DecidableEq

/-- Whether the collector took what it was sent. -/
def Reply.isTaken : Reply → Bool
  | .status code => 200 ≤ code ∧ code < 300
  | _ => false

/-- How a call that posts something ends. -/
def Reply.ending : Reply → Ending
  | .panicked => .panicked
  | .status _ | .timedOut | .failed _ => .returned

structure Post where
  url : String
  body : String
  deriving DecidableEq

/-- A request for the state of a URL, with the time it may take in milliseconds. -/
structure Check where
  url : String
  millis : Nat
  deriving DecidableEq

/-- The collector: its answer to the post and to the check with a number, and what it was sent so
far. -/
structure Collector where
  postReply : Nat → Reply
  checkReply : Nat → Reply
  posts : Array Post
  checks : Array Check

namespace Collector

def post (c : Collector) (p : Post) : Reply × Collector :=
  (c.postReply c.posts.size, { c with posts := c.posts.push p })

def check (c : Collector) (k : Check) : Reply × Collector :=
  (c.checkReply c.checks.size, { c with checks := c.checks.push k })

end Collector

end CallWatch
