import CallWatch.Error
import CallWatch.Text.Blank
import CallWatch.Text.Cut
import CallWatch.Text.Hex
import CallWatch.Text.Utf8
import Std.Data.ExtTreeMap

/-! Properties: texts under keys, from a properties file or from the arguments of a command line. A
line of the file holds a key and a value. A line that ends in an odd number of backslashes goes on
in the next one, and a backslash before a character takes away its meaning or gives it one. -/

namespace CallWatch

/-- Texts under keys, in the order of the keys. -/
abbrev Properties := Std.ExtTreeMap String String

namespace Properties

/-- Whether a trimmed line holds no entry: it is empty, or begins with the sign of a comment. -/
def isPassedOver (line : List Char) : Bool :=
  match line with
  | [] => true
  | c :: _ => c = '#' ∨ c = '!'

/-- Whether a trimmed line goes on in the next one. -/
def continues (line : List Char) : Bool :=
  (line.reverse.takeWhile (· = '\\')).length % 2 = 1

/-- The entries as they stand in the lines, each joined from the lines it spans. What came before
the first line of the list, if it goes on in it, is `pending`. -/
def joinLines (pending : Option (List Char)) : List (List Char) → List (List Char)
  | [] => pending.toList
  | line :: rest =>
    let body := Text.trim line
    if pending.isNone ∧ isPassedOver body then joinLines none rest
    else if continues body then joinLines (some (pending.getD [] ++ body.dropLast)) rest
    else (pending.getD [] ++ body) :: joinLines none rest

/-- The text of the key, and the rest of an entry from the separator on. The key ends at the first
equals sign, colon or blank that no backslash stands before. -/
def splitKey : List Char → List Char × List Char
  | [] => ([], [])
  | ['\\'] => (['\\'], [])
  | '\\' :: c :: text =>
    let (key, rest) := splitKey text
    ('\\' :: c :: key, rest)
  | c :: text =>
    if c = '=' ∨ c = ':' ∨ Text.isBlank c then ([], c :: text)
    else
      let (key, rest) := splitKey text
      (c :: key, rest)

/-- The text of the value in the rest of an entry: behind blanks, and behind an equals sign or a
colon and the blanks that follow it. -/
def valueText (rest : List Char) : List Char :=
  match Text.trimStart rest with
  | '=' :: value | ':' :: value => Text.trimStart value
  | value => value

/-- The character with a code of four hexadecimal digits. A plus sign may stand for the first. -/
def character? (a b c d : Char) : Option Char := do
  let code ← Hex.number? (if a = '+' then [b, c, d] else [a, b, c, d])
  if code.isValidChar then some (Char.ofNat code) else none

/-- What a backslash and the character after it stand for. -/
def escaped (c : Char) : Char :=
  if c = 't' then '\t' else if c = 'n' then '\n' else if c = 'r' then '\r'
  else if c = 'f' then '\x0c' else c

/-- A text with its escapes replaced. A code that is no character stays as it is, and a backslash
at the end stands for nothing. -/
def unescape : List Char → List Char
  | [] => []
  | ['\\'] => []
  | '\\' :: 'u' :: a :: b :: c :: d :: rest =>
    match character? a b c d with
    | some decoded => decoded :: unescape rest
    | none => '\\' :: 'u' :: a :: b :: c :: d :: unescape rest
  | '\\' :: 'u' :: rest => '\\' :: 'u' :: rest
  | '\\' :: c :: rest => escaped c :: unescape rest
  | c :: rest => c :: unescape rest

def splitEntry (entry : List Char) : List Char × List Char :=
  let (key, rest) := splitKey entry
  (unescape key, unescape (valueText rest))

/-- The entries of a text in order. An entry with an empty key does not count. -/
def entries (text : List Char) : List (List Char × List Char) :=
  ((joinLines none (Text.lines text)).map splitEntry).filter fun entry => !entry.1.isEmpty

/-- The properties with the given keys and values. The last value of a key counts. -/
def ofEntries (entries : List (List Char × List Char)) : Properties :=
  (∅ : Properties).insertMany
    (entries.map fun entry => (String.ofList entry.1, String.ofList entry.2))

def parse (text : String) : Properties :=
  ofEntries (entries text.toList)

/-- The entry in an argument of a command line, which begins with `-D`. -/
def argument? (argument : List Char) : Option (List Char × List Char) := do
  let body ← Text.behind? "-D".toList argument
  let (key, value) ← Text.cutFirst? '=' body
  return (Text.trim key, value)

/-- The properties in the arguments of a command line. Other arguments do not count. -/
def ofArguments (arguments : List String) : Properties :=
  ofEntries (arguments.filterMap fun argument => argument? argument.toList)

inductive File
  | missing
  | unreadable (reason : String)
  | contents (bytes : List UInt8)

/-- The properties in a file. A file that is missing has none. -/
def ofFile (path : String) : File → Except SettingError Properties
  | .missing => .ok ∅
  | .unreadable reason => .error (.fileUnreadable path reason)
  | .contents bytes =>
    match Utf8.decode? bytes with
    | some text => .ok (ofEntries (entries text))
    | none => .error (.fileUnreadable path "stream did not contain valid UTF-8")

end Properties

end CallWatch
