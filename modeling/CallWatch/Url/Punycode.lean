/-! Punycode: a text as ASCII characters. Its ASCII characters come first; the others follow in the
order of their codes, each as the number of steps to it from the one before, where a step goes to
the next place of the text and, behind the last place, to the next code. -/

namespace CallWatch.Punycode

def digitChar (d : Nat) : Char :=
  if d < 26 then Char.ofNat (d + 0x61) else Char.ofNat (d - 26 + 0x30)

/-- The value of a digit, letters of either case. -/
def digit? (c : Char) : Option Nat :=
  if 'a' ≤ c ∧ c ≤ 'z' then some (c.toNat - 0x61)
  else if 'A' ≤ c ∧ c ≤ 'Z' then some (c.toNat - 0x41)
  else if '0' ≤ c ∧ c ≤ '9' then some (c.toNat - 0x30 + 26)
  else none

/-- The bound of the digit at a place: a digit below it is the last one of its number. -/
def bound (bias place : Nat) : Nat :=
  max 1 (min 26 (place - bias))

/-- A number, its least digit first. -/
def writeNumber (bias place n : Nat) : List Char :=
  if n < bound bias place then [digitChar n]
  else
    digitChar (bound bias place + (n - bound bias place) % (36 - bound bias place)) ::
      writeNumber bias (place + 36) ((n - bound bias place) / (36 - bound bias place))
termination_by n
decreasing_by
  have h : 1 ≤ bound bias place := Nat.le_max_left ..
  exact Nat.lt_of_le_of_lt (Nat.div_le_self ..) (by omega)

def readNumber? (bias : Nat) : Nat → Nat → List Char → Option (Nat × List Char)
  | _, _, [] => none
  | place, weight, c :: rest =>
    match digit? c with
    | none => none
    | some d =>
      if d < bound bias place then some (d * weight, rest)
      else do
        let (n, rest) ← readNumber? bias (place + 36) (weight * (36 - bound bias place)) rest
        return (d * weight + n, rest)

/-- Reading a number uses up some of the text. -/
theorem length_of_readNumber? {bias place weight n : Nat} {text rest : List Char}
    (h : readNumber? bias place weight text = some (n, rest)) : rest.length < text.length := by
  induction text generalizing place weight n with
  | nil => simp [readNumber?] at h
  | cons c text ih =>
    simp only [readNumber?] at h
    split at h
    · cases h
    · split at h
      · cases h
        simp
      · obtain ⟨⟨m, rest'⟩, hr, hm⟩ := Option.bind_eq_some_iff.1 h
        cases hm
        exact Nat.lt_succ_of_lt (ih hr)

/-- How often a number of steps is divided by 35 until it is at most 455, and what is left of it. -/
def settle (steps : Nat) : Nat × Nat :=
  if 455 < steps then
    let (times, left) := settle (steps / 35)
    (times + 1, left)
  else (0, steps)
termination_by steps
decreasing_by omega

/-- The bias behind a number of steps, the first or a later one, with `count` characters placed. -/
def adapt (first : Bool) (steps count : Nat) : Nat :=
  let scaled := if first then steps / 700 else steps / 2
  let (times, left) := settle (scaled + scaled / count)
  36 * times + 36 * left / (left + 38)

/-- What has been written, the steps since then, the bias, and how many characters are placed. -/
structure Writing where
  text : List Char
  steps : Nat
  bias : Nat
  placed : Nat

/-- One character of the text while those with `code` are placed. -/
def Writing.pass (first : Nat) (code : Nat) (w : Writing) (c : Char) : Writing :=
  if c.toNat < code then { w with steps := w.steps + 1 }
  else if c.toNat = code then
    ⟨w.text ++ writeNumber w.bias 36 w.steps, 0, adapt (w.placed = first) w.steps (w.placed + 1),
      w.placed + 1⟩
  else w

/-- The codes in order, each placed wherever the text has it. The first code that is not yet dealt
with is `next`. -/
def placeAll (text : List Char) (first : Nat) : Nat → List Nat → Writing → Writing
  | _, [], w => w
  | next, code :: rest, w =>
    let moved := { w with steps := w.steps + (code - next) * (w.placed + 1) }
    let done := text.foldl (Writing.pass first code) moved
    placeAll text first (code + 1) rest { done with steps := done.steps + 1 }

/-- A text in Punycode. A hyphen ends the ASCII characters, if there are any. -/
def encode (text : List Char) : List Char :=
  let ascii := text.filter (· ≤ '\x7f')
  let codes := ((text.filter ('\x7f' < ·)).map Char.toNat).mergeSort.eraseDups
  let rest := (placeAll text ascii.length 0x80 codes ⟨[], 0, 72, ascii.length⟩).text
  ascii ++ (if ascii = [] then [] else ['-']) ++ rest

/-- The characters of a text in Punycode put among those that are placed. The next one goes at least
to `place` and has at least the code `code`. -/
def insertAll (first : Bool) (bias code place : Nat) (placed text : List Char) :
    Option (List Char) :=
  match text with
  | [] => some placed
  | c :: rest =>
    match h : readNumber? bias 36 1 (c :: rest) with
    | none => none
    | some (steps, rest') =>
      let count := placed.length + 1
      let code := code + (place + steps) / count
      let place := (place + steps) % count
      if code < 0xD800 ∨ 0xDFFF < code ∧ code ≤ 0x10FFFF then
        insertAll false (adapt first steps count) code (place + 1)
          (placed.insertIdx place (Char.ofNat code)) rest'
      else none
termination_by text.length
decreasing_by exact length_of_readNumber? h

/-- The text that is written in Punycode, if it is one. -/
def decode? (text : List Char) : Option (List Char) :=
  let behind := (text.reverse.takeWhile (· ≠ '-')).reverse
  let ascii := (text.take (text.length - behind.length)).dropLast
  if ascii.all (· ≤ '\x7f') then insertAll true 72 0x80 0 ascii behind else none

end CallWatch.Punycode
