import CallWatch.Number.Integer
import CallWatch.Reference.Ior

/-! Where an object is served, as far as the text of its reference tells: a stringified reference,
an object URL, or a URL with a scheme. -/

namespace CallWatch

/-- A host, and a port where the reference gives one. -/
structure Endpoint where
  host : String
  port : Option UInt16
  deriving DecidableEq

namespace Endpoint

/-- The port of an object URL that names none. -/
def defaultPort : UInt16 := 2809

/-- The host and port of the internet profile that comes first. -/
def ofIor? (ior : Ior) : Option Endpoint :=
  ior.primary?.map fun profile => ⟨profile.host, some profile.port⟩

/-- The host and port behind the mark of the scheme, up to a slash. A second part that is no port is
passed over. -/
def ofSchemeUrl? (text : List Char) : Option Endpoint := do
  let rest ← Text.behindFirst? "://".toList text
  let address := rest.takeWhile (· ≠ '/')
  let host := address.takeWhile (· ≠ ':')
  let port := ((address.drop (host.length + 1)).takeWhile (· ≠ ':'))
  if host.isEmpty then none
  else some ⟨String.ofList host, readPort? port⟩

/-- The host and the text of the port in an address. The host stands in brackets, or ends before the
last colon. -/
def splitAddress? : List Char → Option (List Char × Option (List Char))
  | '[' :: rest => do
    let (host, tail) ← Text.cutFirst? ']' rest
    return (host, Text.behind? [':'] tail)
  | address =>
    match Text.cutLast? ':' address with
    | some (host, port) => some (host, some port)
    | none => some (address, none)

/-- The first address of an object URL, without its protocol and version. Protocols without a
network address have none. -/
def firstAddress? (body : List Char) : Option (List Char) := do
  let first := body.takeWhile fun c => c ≠ '/' ∧ c ≠ '#' ∧ c ≠ ','
  let address ← (Text.behind? "iiop:".toList first).or (Text.behind? [':'] first)
  match Text.cutFirst? '@' address with
  | some (_, rest) => return rest
  | none => return address

def ofObjectUrl? (body : List Char) : Option Endpoint := do
  let address ← firstAddress? body
  let (host, portText) ← splitAddress? address
  let port ← match portText with
    | none => some defaultPort
    | some text => readPort? text
  if host.isEmpty then none else some ⟨String.ofList host, some port⟩

/-- The endpoint in a reference that stands between no blanks. -/
def ofTrimmed? (text : List Char) : Option Endpoint :=
  if (Text.behindAnyCase? Ior.mark text).isSome then (Ior.ofText? text).bind ofIor?
  else
    match (Text.behind? "corbaloc:".toList text).or (Text.behind? "corbaname:".toList text) with
    | some body => ofObjectUrl? body
    | none => ofSchemeUrl? text

/-- The endpoint in a reference, if the text has one of the forms and names one. -/
def ofText? (text : List Char) : Option Endpoint :=
  ofTrimmed? (Text.trim text)

def parse? (reference : String) : Option Endpoint :=
  ofText? reference.toList

end Endpoint

end CallWatch
