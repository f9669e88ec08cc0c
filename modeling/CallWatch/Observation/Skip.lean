import CallWatch.Limits
import CallWatch.Text.Cut

/-! Calls that are not monitored: those of the runtime and of the naming service, which the monitor
itself makes. -/

namespace CallWatch.Skip

/-- Whether calls of the operation are not monitored. -/
def operation (name : String) : Bool :=
  Limits.infrastructureOperations.contains name

def typeId (id : String) : Bool :=
  Limits.infrastructureFragments.any fun fragment => Text.holds fragment.toList id.toList

/-- Whether calls of an object with these repository ids are not monitored. -/
def typeIds (ids : List String) : Bool :=
  ids.any typeId

end CallWatch.Skip
