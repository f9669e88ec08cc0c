import CallWatch.Error
import CallWatch.Settings.Basic
import CallWatch.Url.Basic

/-! The HTTP client with which the monitor reaches the collector. It carries the API token in a
header, which cannot hold control characters, and gives the status of the answer or the cause that
there is none. -/

namespace CallWatch

structure HttpClient where
  headers : List (String × String)
  deriving DecidableEq

/-- What is found at the other end of a request. -/
inductive Peer
  | answers (status : Nat)
  | silent
  | absent
  deriving DecidableEq

namespace HttpClient

/-- Whether a character can stand in a header: no control but the tab. -/
def isHeaderChar (c : Char) : Bool :=
  c = '\t' ∨ ' ' ≤ c ∧ c ≠ '\x7f'

/-- The header that carries a token, if there is one. -/
def authorization (token : String) : Except TransportError (List (String × String)) :=
  if token = "" then .ok []
  else if token.toList.all isHeaderChar then .ok [("authorization", "Bearer " ++ token)]
  else .error (.invalidHeader "Authorization")

def ofSettings (s : Settings) : Except TransportError HttpClient := do
  let token ← authorization s.apiToken
  return ⟨[("content-type", "application/json"), ("accept", "application/json")] ++ token⟩

/-- The reason that is given when no connection comes about: the URL makes no request, or none could
be sent. The URL stands in it as it was read. -/
def unreachable (origin rest : String) : String :=
  match Url.read? origin.toList rest.toList with
  | none => "builder error"
  | some url =>
    (if url.isSendable then "error sending request" else "builder error") ++
      " for url (" ++ String.ofList url.text ++ ")"

/-- What comes of a request to a URL, given in two parts of which the first ends with the port. -/
def request (origin rest : String) (peer : Peer) : Except TransportError Nat :=
  match peer with
  | .answers status => .ok status
  | .silent => .error (.timeout (origin ++ rest))
  | .absent => .error (.request (origin ++ rest) (unreachable origin rest))

end HttpClient

end CallWatch
