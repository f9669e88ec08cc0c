import CallWatch.Text.Cut
import CallWatch.Url.Escape

/-! The path of a URL: segments between slashes of either kind, with dot segments carried out. -/

namespace CallWatch.Url

/-- The segments of a path, which slashes of either kind separate. -/
def segments (path : List Char) : List (List Char) :=
  Text.pieces (fun c => c = '/' ∨ c = '\\') path

/-- Whether a segment stands for the directory itself. -/
def isDot (segment : List Char) : Bool :=
  [".", "%2e"].contains (String.ofList (segment.map Char.toLower))

/-- Whether a segment stands for the directory above. -/
def isDoubleDot (segment : List Char) : Bool :=
  ["..", ".%2e", "%2e.", "%2e%2e"].contains (String.ofList (segment.map Char.toLower))

/-- Whether a segment names a drive: a letter with a colon or a bar. -/
def isDrive : List Char → Bool
  | [letter, mark] => letter.isAlpha && (mark = ':' || mark = '|')
  | _ => false

/-- The segments of the directory above. A drive has none above it. -/
def above (path : List (List Char)) : List (List Char) :=
  if (path.getLast?.map isDrive).getD false then path else path.dropLast

/-- The segments behind `path` with the dot segments carried out. One at the end leaves an empty
segment. -/
def resolveDots (path : List (List Char)) : List (List Char) → List (List Char)
  | [] => path
  | [last] =>
    if isDot last then path ++ [[]]
    else if isDoubleDot last then above path ++ [[]]
    else path ++ [last]
  | segment :: rest =>
    if isDot segment then resolveDots path rest
    else if isDoubleDot segment then resolveDots (above path) rest
    else resolveDots (path ++ [segment]) rest

/-- The segments of a path from the root, whose first slash may be missing. -/
def readPath (path : List Char) : List (List Char) :=
  resolveDots [] (segments (path.drop 1))

def pathText (path : List (List Char)) : List Char :=
  path.flatMap fun segment => '/' :: escapeAll ['\x60', '#', '?', '\x7b', '\x7d'] segment

end CallWatch.Url
