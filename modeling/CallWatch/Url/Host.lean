import CallWatch.Text.Utf8
import CallWatch.Url.DomainName
import CallWatch.Url.Escape
import CallWatch.Url.Ipv4
import CallWatch.Url.Ipv6

/-! The host of a URL: a domain name, or an internet address of either version, of which those of
version 6 stand in brackets. -/

namespace CallWatch

inductive Host
  | name (text : List Char)
  | v4 (address : Ipv4)
  | v6 (address : Ipv6)
  deriving DecidableEq

namespace Host

/-- A host outside brackets. Its escapes are carried out first, and a name that is meant as an
address must be one. -/
def ofName? (text : List Char) : Option Host := do
  let name ← DomainName.read? (← Utf8.decode? (Url.unescape text))
  if Ipv4.isMeant name then (Ipv4.read? name).map v4 else some (.name name)

def text : Host → List Char
  | .name text => text
  | .v4 address => address.text
  | .v6 address => '[' :: address.text ++ [']']

end Host

/-- A host, and the port where it is not the usual one. -/
structure Server where
  host : Host
  port : Option Nat
  deriving DecidableEq

namespace Server

/-- The port of a server that names none. -/
def usualPort : Nat := 80

/-- A port behind its colon, if it is one: digits of a number of 16 bits, or nothing at all. -/
def port? (digits : List Char) : Option (Option Nat) := do
  let port ← Ipv4.digits? 10 digits
  if 0xFFFF < port then none
  else if digits = [] ∨ port = usualPort then some none
  else some (some port)

/-- What may follow a host: nothing, or a colon and a port. -/
def ofHost? (host : Host) : List Char → Option Server
  | [] => some ⟨host, none⟩
  | ':' :: digits => (port? digits).map (⟨host, ·⟩)
  | _ => none

/-- A server as it stands in a URL, if it is one. -/
def read? : List Char → Option Server
  | '[' :: rest => do
    let (address, behind) ← Text.cutFirst? ']' rest
    ofHost? (.v6 (← Ipv6.read? address)) behind
  | text => do
    let host := text.takeWhile (· ≠ ':')
    ofHost? (← Host.ofName? host) (text.drop host.length)

def text (s : Server) : List Char :=
  s.host.text ++ (s.port.map fun port => ':' :: decimal port).getD []

end Server

end CallWatch
