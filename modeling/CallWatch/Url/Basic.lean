import CallWatch.Url.Host
import CallWatch.Url.Path

/-! URLs of requests, as they are read and shown. A URL is given in two parts, of which the first
names the server up to the last digit of its port. The second goes on with the path, or it makes
credentials of the first by an at sign and names another server. -/

namespace CallWatch

/-- A URL that has been read. Credentials are no part of it. -/
structure Url where
  origin : List Char
  path : List (List Char)
  query : Option (List Char)
  fragment : Option (List Char)
  deriving DecidableEq

namespace Url

/-- Whether a character ends the part of a URL that names the server. -/
def endsAuthority (c : Char) : Bool :=
  c = '/' || c = '\\' || c = '?' || c = '#'

/-- The text that is read: no tabs and line ends anywhere, and no spaces and controls at its end. -/
def clean (text : List Char) : List Char :=
  let kept := text.filter fun c => c ≠ '\t' ∧ c ≠ '\n' ∧ c ≠ '\r'
  (kept.reverse.dropWhile (· ≤ ' ')).reverse

/-- The origin, where `more` stands between the port and the path. Without an at sign it would have
to go on with the port, which is complete. -/
def origin? (origin more : List Char) : Option (List Char) :=
  if more = [] then some origin
  else do
    let (_, server) ← Text.cutLast? '@' more
    return "http://".toList ++ (← Server.read? server).text

/-- The URL that begins with `origin` and goes on with `rest`, if it is one. -/
def read? (origin rest : List Char) : Option Url := do
  let text := clean rest
  let more := text.takeWhile fun c => !endsAuthority c
  let behind := text.drop more.length
  let path := behind.takeWhile fun c => c ≠ '?' ∧ c ≠ '#'
  let (beforeFragment, fragment) := match Text.cutFirst? '#' behind with
    | some (before, fragment) => (before, some fragment)
    | none => (behind, none)
  let query := (Text.cutFirst? '?' beforeFragment).map (·.2)
  return ⟨← origin? origin more, readPath path, query, fragment⟩

def text (u : Url) : List Char :=
  u.origin ++ pathText u.path ++
    (u.query.map fun query => '?' :: escapeAll ['\x27', '#'] query).getD [] ++
    (u.fragment.map fun fragment => '#' :: escapeAll ['\x60'] fragment).getD []

/-- The length from which a URL is too long for a request. -/
def lengthLimit : Nat := 0xFFFF

/-- Characters that a domain name may have but a request may not. -/
def unsendable : List Char := ['"', '\x60', '\x7b', '\x7d']

/-- Whether a request can carry a URL: it is short enough, and each character of its origin may
stand in a request. -/
def isSendable (u : Url) : Bool :=
  u.text.length < lengthLimit && u.origin.all fun c => !unsendable.contains c

end Url

end CallWatch
