/-! What the monitor does at regular times. -/

namespace CallWatch

/-- A regular task of the monitor: to send what is queued, to drop starts that are too old, or to
report the naming directory. -/
inductive Chore
  | flush
  | sweep
  | scan
  deriving DecidableEq

end CallWatch
