import CallWatch.Text.Cut
import CallWatch.Text.Hex

/-! Tables that spell characters out, each by the text that it stands for. A table is written as rows,
one on a line or with semicolons between them. A row has a code and the spellings from that code on.
A spelling has its codes with points between them; a first and a last code with a hyphen between them
are the spellings, of one character each, of as many codes. -/

namespace CallWatch.Text

/-- A character by its code, and the text that it stands for. -/
structure Spelling where
  code : Nat
  text : List Char

/-- The number that is written in hexadecimal digits, and zero for any other text. -/
def code (digits : List Char) : Nat :=
  (Hex.number? digits).getD 0

def readEntry (entry : List Char) : List (List Char) :=
  match cutFirst? '-' entry with
  | some (first, last) =>
    (List.range (code last - code first + 1)).map fun i => [Char.ofNat (code first + i)]
  | none => [(pieces (· = '.') entry).map fun digits => Char.ofNat (code digits)]

def readRow (row : List Char) : List Spelling :=
  match (pieces (· = ' ') row).filter (· ≠ []) with
  | [] => []
  | first :: entries =>
    (entries.flatMap readEntry).zipIdx.map fun (text, i) => ⟨code first + i, text⟩

def readSpellings (table : String) : List Spelling :=
  (pieces (fun c => c = '\n' ∨ c = ';') table.toList).flatMap readRow

/-- The text that a character stands for, where a table has it. -/
def spell? (table : List Spelling) (c : Char) : Option (List Char) :=
  (table.find? (·.code = c.toNat)).map (·.text)

end CallWatch.Text
