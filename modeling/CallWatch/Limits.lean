/-! The fixed sizes, intervals and names of the monitor. -/

namespace CallWatch.Limits

/-- How many events the outbox holds unless the settings give another number. -/
def queueCapacity : Nat := 10000

/-- A full outbox is reported each time this many more events have been dropped. -/
def dropsPerWarning : Nat := 100

def healthCheckMillis : Nat := 3000

/-- How long a shutdown waits for posts in progress, in milliseconds. -/
def drainMillis : Nat := 5000

/-- How many bytes of a raw request id tell calls apart. -/
def requestKeyBytes : Nat := 16

def sweepMillis : Nat := 60000

def protocolVersion : String := "1.2"

/-- The service contexts whose sizes are recorded: code sets, transactions, the sending context, the
one with number 15, and the vendor's. -/
def probedContexts : List UInt32 := [0, 1, 6, 15, 0x4F545300]

/-- The operations of every object, of the naming service, and of the runtime's bootstrap. -/
def infrastructureOperations : List String :=
  ["_is_a", "_non_existent", "_get_interface_def", "_get_component", "_get_domain_managers",
    "_get_policy", "_repository_id", "resolve", "resolve_str", "bind", "rebind", "unbind",
    "bind_context", "rebind_context", "bind_new_context", "list", "to_name", "to_string",
    "destroy", "new_context", "to_url", "resolve_initial_references"]

/-- Parts of a repository id that mark an interface of the infrastructure. -/
def infrastructureFragments : List String :=
  ["CosNaming", "NamingContext", "PortableServer", "IORTable", "CORBA/Repository",
    "InitialReferences"]

def listPage : Nat := 1000

/-- The depth below which contexts are reported and not entered. -/
def walkDepth : Nat := 32

def reportSource : String := "agent"

end CallWatch.Limits
