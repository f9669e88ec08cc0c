import CallWatch.Json.Basic
import CallWatch.Text.Hex

/-! The texts that spell a JSON value. White space may stand around every value, a string may escape
any of its characters, and a number has no more than one form for its whole part. What is written of
a value is one of the texts that spell it, if all of its numbers are numbers. -/

namespace CallWatch.Json

def isSpace (c : Char) : Bool :=
  c = ' ' || c = '\t' || c = '\n' || c = '\r'

/-- The part of a number that its last character so far belongs to. -/
inductive NumberPart
  | start
  | minus
  | zero
  | whole
  | point
  | fraction
  | mark
  | sign
  | exponent
  deriving DecidableEq

namespace NumberPart

/-- A whole part that begins with a zero is the zero alone. -/
def ofFirstDigit? (c : Char) : Option NumberPart :=
  if c = '0' then some zero else if c.isDigit then some whole else none

def ofMark? (c : Char) : Option NumberPart :=
  if c = 'e' ∨ c = 'E' then some mark else none

def ofPoint? (c : Char) : Option NumberPart :=
  if c = '.' then some point else ofMark? c

def next? : NumberPart → Char → Option NumberPart
  | start, c => if c = '-' then some minus else ofFirstDigit? c
  | minus, c => ofFirstDigit? c
  | zero, c => ofPoint? c
  | whole, c => if c.isDigit then some whole else ofPoint? c
  | point, c => if c.isDigit then some fraction else none
  | fraction, c => if c.isDigit then some fraction else ofMark? c
  | mark, c => if c = '+' ∨ c = '-' then some sign else if c.isDigit then some exponent else none
  | sign, c | exponent, c => if c.isDigit then some exponent else none

def isEnd : NumberPart → Bool
  | zero | whole | fraction | exponent => true
  | start | minus | point | mark | sign => false

/-- Whether a number may go on in this way behind a part. -/
def accepts : NumberPart → List Char → Bool
  | p, [] => p.isEnd
  | p, c :: rest =>
    match p.next? c with
    | some q => q.accepts rest
    | none => false

end NumberPart

def isNumber (literal : List Char) : Bool :=
  NumberPart.start.accepts literal

/-- The value of a text that is neither a string nor has parts. -/
def word? (word : List Char) : Option Json :=
  if word = "null".toList then some null
  else if word = "true".toList then some (bool true)
  else if word = "false".toList then some (bool false)
  else if isNumber word then some (number word)
  else none

/-- The character that a letter behind a backslash stands for. -/
def shortEscape? : Char → Option Char
  | '"' => some '"'
  | '\\' => some '\\'
  | '/' => some '/'
  | 'b' => some '\x08'
  | 'f' => some '\x0c'
  | 'n' => some '\n'
  | 'r' => some '\r'
  | 't' => some '\t'
  | _ => none

/-- A character that may stand for itself in a string. -/
def isPlain (c : Char) : Bool :=
  ' ' ≤ c && c ≠ '"' && c ≠ '\\'

/-- The number of four hexadecimal digits. -/
def unit? (digits : List Char) : Option Nat :=
  if digits.length = 4 then Hex.number? digits else none

/-- A piece of a string's text spells a character. One whose code has more than four digits is
escaped as two surrogates. -/
inductive CharSpelt : Char → List Char → Prop
  | plain {c : Char} (h : isPlain c) : CharSpelt c [c]
  | short {letter c : Char} (h : shortEscape? letter = some c) : CharSpelt c ['\\', letter]
  | unit {digits : List Char} {code : Nat} (h : unit? digits = some code)
      (hcode : code.isValidChar) : CharSpelt (Char.ofNat code) ('\\' :: 'u' :: digits)
  | pair {digits more : List Char} {high low : Nat} (hdigits : unit? digits = some (0xD800 + high))
      (hmore : unit? more = some (0xDC00 + low)) (hhigh : high < 0x400) (hlow : low < 0x400) :
      CharSpelt (Char.ofNat (0x10000 + 0x400 * high + low))
        ('\\' :: 'u' :: digits ++ '\\' :: 'u' :: more)

inductive TextSpelt : List Char → List Char → Prop
  | nil : TextSpelt [] []
  | cons {c : Char} {text piece pieces : List Char} (hc : CharSpelt c piece)
      (h : TextSpelt text pieces) : TextSpelt (c :: text) (piece ++ pieces)

/-- What a part of a JSON text stands for. -/
inductive Phrase
  | value (value : Json)
  | items (items : List Json)
  | members (members : List (String × Json))

/-- A text spells a phrase: a value, or values or members with commas between them. -/
inductive Phrase.Spelt : Phrase → List Char → Prop
  | word {word : List Char} {v : Json} (h : word? word = some v) : Spelt (.value v) word
  | string {s : String} {pieces : List Char} (h : TextSpelt s.toList pieces) :
      Spelt (.value (.string s)) ('"' :: pieces ++ ['"'])
  | spaced {v : Json} {before text after : List Char} (hbefore : ∀ c ∈ before, isSpace c)
      (h : Spelt (.value v) text) (hafter : ∀ c ∈ after, isSpace c) :
      Spelt (.value v) (before ++ text ++ after)
  | emptyArray (gap : List Char) (hgap : ∀ c ∈ gap, isSpace c) :
      Spelt (.value (.array [])) ('[' :: gap ++ [']'])
  | array {items : List Json} {inner : List Char} (h : Spelt (.items items) inner) :
      Spelt (.value (.array items)) ('[' :: inner ++ [']'])
  | emptyObject (gap : List Char) (hgap : ∀ c ∈ gap, isSpace c) :
      Spelt (.value (.object [])) ('\x7b' :: gap ++ ['\x7d'])
  | object {members : List (String × Json)} {inner : List Char}
      (h : Spelt (.members members) inner) :
      Spelt (.value (.object members)) ('\x7b' :: inner ++ ['\x7d'])
  | item {v : Json} {text : List Char} (h : Spelt (.value v) text) : Spelt (.items [v]) text
  | moreItems {v : Json} {items : List Json} {text rest : List Char} (h : Spelt (.value v) text)
      (hrest : Spelt (.items items) rest) : Spelt (.items (v :: items)) (text ++ ',' :: rest)
  | member {name : String} {v : Json} {lead text : List Char}
      (hname : Spelt (.value (.string name)) lead) (h : Spelt (.value v) text) :
      Spelt (.members [(name, v)]) (lead ++ ':' :: text)
  | moreMembers {name : String} {v : Json} {members : List (String × Json)}
      {lead text rest : List Char} (hname : Spelt (.value (.string name)) lead)
      (h : Spelt (.value v) text) (hrest : Spelt (.members members) rest) :
      Spelt (.members ((name, v) :: members)) (lead ++ ':' :: (text ++ ',' :: rest))

/-- A text spells a value. -/
def Spelt (v : Json) (text : List Char) : Prop :=
  Phrase.Spelt (.value v) text

/-- The literals of all numbers in a value are numbers. -/
inductive Proper : Json → Prop
  | null : Proper null
  | bool (value : Bool) : Proper (bool value)
  | number {literal : List Char} (h : isNumber literal) : Proper (number literal)
  | string (text : String) : Proper (string text)
  | array {items : List Json} (h : ∀ item ∈ items, Proper item) : Proper (array items)
  | object {members : List (String × Json)} (h : ∀ m ∈ members, Proper m.2) :
      Proper (object members)

theorem word?_of_isNumber {literal : List Char} (h : isNumber literal) :
    word? literal = some (number literal) := by
  have hother : ∀ word, isNumber word = false → literal ≠ word := by
    rintro word hword rfl
    rw [hword] at h
    exact nomatch h
  rw [word?, if_neg (hother _ rfl), if_neg (hother _ rfl), if_neg (hother _ rfl), if_pos h]

section Writing

theorem charSpelt_escape (c : Char) : CharSpelt c (escape c) := by
  unfold escape
  split
  · next h => exact .short (by rcases h with rfl | rfl <;> rfl)
  split
  · next h => exact .short (h ▸ rfl)
  split
  · next h => exact .short (h ▸ rfl)
  split
  · next h => exact .short (h ▸ rfl)
  split
  · next h => exact .short (h ▸ rfl)
  split
  · next h => exact .short (h ▸ rfl)
  split
  case isTrue h =>
    -- a control is one of the first 32 characters, and its code has two digits
    have hcontrol : ∀ n < 32,
        unit? ['0', '0', Nat.digitChar (n / 16), Nat.digitChar (n % 16)] = some n := by decide
    have hcode : c.toNat < 32 := h
    have hspelt := CharSpelt.unit (hcontrol c.toNat hcode) (.inl (by omega))
    rwa [Char.ofNat_toNat] at hspelt
  case isFalse hquote _ _ _ _ _ h =>
    refine .plain ?_
    simp_all [isPlain]

theorem textSpelt_flatMap_escape (text : List Char) : TextSpelt text (text.flatMap escape) := by
  induction text with
  | nil => exact .nil
  | cons c text ih => exact .cons (charSpelt_escape c) ih

theorem spelt_quoted (s : String) : Spelt (.string s) (quoted s.toList) :=
  .string (textSpelt_flatMap_escape s.toList)

theorem spelt_writeItems {items : List Json} (hne : items ≠ [])
    (h : ∀ item ∈ items, Spelt item item.write) :
    Phrase.Spelt (.items items) (writeItems items) := by
  induction items with
  | nil => exact absurd rfl hne
  | cons item items ih =>
    have hitem := h item List.mem_cons_self
    cases items with
    | nil => exact .item hitem
    | cons next items =>
      exact .moreItems hitem (ih (List.cons_ne_nil _ _) fun i hi => h i (List.mem_cons_of_mem _ hi))

theorem spelt_writeMembers {members : List (String × Json)} (hne : members ≠ [])
    (h : ∀ m ∈ members, Spelt m.2 m.2.write) :
    Phrase.Spelt (.members members) (writeMembers members) := by
  induction members with
  | nil => exact absurd rfl hne
  | cons m members ih =>
    obtain ⟨name, v⟩ := m
    have hvalue : Spelt v v.write := h (name, v) List.mem_cons_self
    cases members with
    | nil => exact .member (spelt_quoted name) hvalue
    | cons next members =>
      exact .moreMembers (spelt_quoted name) hvalue
        (ih (List.cons_ne_nil _ _) fun m hm => h m (List.mem_cons_of_mem _ hm))

/-- What is written of a proper value spells it. -/
theorem spelt_write {v : Json} (h : Proper v) : Spelt v v.write := by
  induction h with
  | null => exact .word rfl
  | bool value => cases value <;> exact .word rfl
  | number h => exact .word (word?_of_isNumber h)
  | string text => exact spelt_quoted text
  | @array items h ih =>
    by_cases hne : items = []
    · subst hne
      exact .emptyArray [] nofun
    · exact .array (spelt_writeItems hne ih)
  | @object members h ih =>
    by_cases hne : members = []
    · subst hne
      exact .emptyObject [] nofun
    · exact .object (spelt_writeMembers hne ih)

end Writing

end CallWatch.Json
