import CallWatch.Proofs.Settings.Spelling
import CallWatch.Proofs.Text.Hex

/-! Codes of characters in an entry. A backslash and `u` stand for a character if the four that stand
behind them are hexadecimal digits of its number. A plus sign in place of the first digit is read as
well. Any other four characters, or fewer at the end of the text, stay as they are, and what stands
behind them is read by itself. -/

namespace CallWatch.Properties

variable {c : Char} {code front : List Char}

/-- The code of a character: four hexadecimal digits of its number. -/
def IsCode (code : List Char) (c : Char) : Prop :=
  code.length = 4 ∧ Hex.Numeral code c.toNat

/-- A plus sign and three hexadecimal digits of the number of a character. -/
def IsSignedCode (code : List Char) (c : Char) : Prop :=
  ∃ digits, code = '+' :: digits ∧ digits.length = 3 ∧ Hex.Numeral digits c.toNat

/-- A text at whose end the reader of escapes has come to the end of all that it has begun to read.
A backslash takes the next character with it, and behind `u` the next four. -/
inductive Whole : List Char → Prop
  | nil : Whole []
  | plain {c : Char} {text : List Char} (shown : c ≠ '\\') (rest : Whole text) : Whole (c :: text)
  | pair {c : Char} {text : List Char} (kind : c ≠ 'u') (rest : Whole text) :
      Whole ('\\' :: c :: text)
  | coded {w x y z : Char} {text : List Char} (rest : Whole text) :
      Whole ('\\' :: 'u' :: w :: x :: y :: z :: text)

/-- What stands behind a whole text is read as if it stood alone. -/
theorem Whole.unescape_append (h : Whole front) (back : List Char) :
    unescape (front ++ back) = unescape front ++ unescape back := by
  induction h with
  | nil => rfl
  | plain shown _ ih =>
    rw [List.cons_append, unescape_cons_of_ne shown, unescape_cons_of_ne shown, ih]
    rfl
  | pair kind _ ih =>
    rw [List.cons_append, List.cons_append, unescape_backslash kind, unescape_backslash kind, ih]
    rfl
  | @coded w x y z text _ ih =>
    simp only [List.cons_append]
    rw [unescape, unescape, ih]
    cases character? w x y z <;> rfl

/-- A text is whole up to its end, to a backslash at its end, or to a code that its end cuts off. -/
theorem exists_whole (text : List Char) :
    ∃ front tail, text = front ++ tail ∧ Whole front ∧
      (tail = [] ∨ tail = ['\\'] ∨ ∃ code, tail = '\\' :: 'u' :: code ∧ code.length < 4) := by
  induction text using unescape.induct with
  | case1 => exact ⟨[], [], rfl, .nil, .inl rfl⟩
  | case2 => exact ⟨[], ['\\'], rfl, .nil, .inr (.inl rfl)⟩
  | case3 w x y z text _ _ ih =>
    obtain ⟨front, tail, rfl, hfront, htail⟩ := ih
    exact ⟨'\\' :: 'u' :: w :: x :: y :: z :: front, tail, rfl, .coded hfront, htail⟩
  | case4 w x y z text _ ih =>
    obtain ⟨front, tail, rfl, hfront, htail⟩ := ih
    exact ⟨'\\' :: 'u' :: w :: x :: y :: z :: front, tail, rfl, .coded hfront, htail⟩
  | case5 code short =>
    refine ⟨[], '\\' :: 'u' :: code, rfl, .nil, .inr (.inr ⟨code, rfl, ?_⟩)⟩
    match code with
    | [] | [_] | [_, _] | [_, _, _] => simp
    | w :: x :: y :: z :: text => exact (short w x y z text rfl).elim
  | case6 c text _ kind ih =>
    obtain ⟨front, tail, rfl, hfront, htail⟩ := ih
    exact ⟨'\\' :: c :: front, tail, rfl, .pair kind hfront, htail⟩
  | case7 c text alone _ _ paired ih =>
    obtain ⟨front, tail, rfl, hfront, htail⟩ := ih
    have shown : c ≠ '\\' := fun hc => by
      cases htext : front ++ tail with
      | nil => exact alone hc htext
      | cons d rest => exact paired d rest hc htext
    exact ⟨c :: front, tail, rfl, .plain shown hfront, htail⟩

/-- A character is read from its code, with a plus sign in place of the first digit or without. -/
theorem character?_eq_some_iff {w x y z : Char} :
    character? w x y z = some c ↔ IsCode [w, x, y, z] c ∨ IsSignedCode [w, x, y, z] c := by
  have hread (digits : List Char) :
      ((Hex.number? digits).bind fun n => if n.isValidChar then some (Char.ofNat n) else none) =
        some c ↔ Hex.Numeral digits c.toNat := by
    rw [Option.bind_eq_some_iff, ← Hex.number?_eq_some_iff]
    constructor
    · rintro ⟨n, hn, hc⟩
      split at hc
      case isTrue hvalid =>
        obtain rfl := Option.some.inj hc
        have htoNat : (Char.ofNat n).toNat = n := by
          rw [Char.ofNat, dif_pos hvalid]
          rfl
        rw [hn, htoNat]
      case isFalse => cases hc
    · intro hn
      have hvalid : c.toNat.isValidChar := c.valid
      exact ⟨c.toNat, hn, by rw [if_pos hvalid, Char.ofNat_toNat]⟩
  rw [character?, Option.bind_eq_bind, hread]
  by_cases hplus : w = '+'
  · subst hplus
    rw [if_pos rfl]
    constructor
    · exact fun h => .inr ⟨[x, y, z], rfl, rfl, h⟩
    · rintro (⟨-, h⟩ | ⟨digits, hdigits, -, h⟩)
      · exact absurd (h.isAlphanum '+' List.mem_cons_self) (by decide)
      · rwa [(List.cons.inj hdigits).2]
  · rw [if_neg hplus]
    constructor
    · exact fun h => .inl ⟨rfl, h⟩
    · rintro (⟨-, h⟩ | ⟨digits, hdigits, -⟩)
      · exact h
      · exact absurd (List.cons.inj hdigits).1 hplus

/-- What the reader takes for the code of a character has four characters. -/
theorem length_of_isCode (h : IsCode code c ∨ IsSignedCode code c) : code.length = 4 := by
  rcases h with ⟨hlength, -⟩ | ⟨digits, rfl, hlength, -⟩
  · exact hlength
  · rw [List.length_cons, hlength]

theorem unescape_of_isCode (h : IsCode code c ∨ IsSignedCode code c) (rest : List Char) :
    unescape ('\\' :: 'u' :: (code ++ rest)) = c :: unescape rest := by
  obtain ⟨w, x, y, z, rfl⟩ := List.length_eq_four.mp (length_of_isCode h)
  simp only [List.cons_append, List.nil_append]
  rw [unescape, character?_eq_some_iff.mpr h]

/-- A code that is none of a character stays as it is, and so does one that the text cuts off. -/
theorem unescape_of_not_isCode {tail : List Char}
    (h : ∀ c, ¬(IsCode (tail.take 4) c ∨ IsSignedCode (tail.take 4) c)) :
    unescape ('\\' :: 'u' :: tail) = '\\' :: 'u' :: (tail.take 4 ++ unescape (tail.drop 4)) := by
  match tail with
  | [] | [_] | [_, _] | [_, _, _] => rfl
  | w :: x :: y :: z :: rest =>
    have hnone : character? w x y z = none :=
      Option.eq_none_iff_forall_ne_some.mpr fun c hc => h c (character?_eq_some_iff.mp hc)
    rw [unescape, hnone]
    rfl

/-- Every text is read in whole pieces, up to a backslash or a code that its end cuts off. A code
that the reader meets behind a whole piece is replaced by a character just if it is four hexadecimal
digits of the number of the character, or a plus sign and three. Otherwise the backslash, `u` and
the next four characters, or all that are left, stay as they are. What stands behind them is read as
if it stood alone. -/
theorem unescape_code (text : List Char) :
    (∃ front tail, text = front ++ tail ∧ Whole front ∧
      (tail = [] ∨ tail = ['\\'] ∨ ∃ code, tail = '\\' :: 'u' :: code ∧ code.length < 4)) ∧
    ∀ front tail, text = front ++ '\\' :: 'u' :: tail → Whole front →
      (∀ c, unescape text = unescape front ++ c :: unescape (tail.drop 4) ↔
        IsCode (tail.take 4) c ∨ IsSignedCode (tail.take 4) c) ∧
      ((∀ c, ¬(IsCode (tail.take 4) c ∨ IsSignedCode (tail.take 4) c)) →
        unescape text =
          unescape front ++ '\\' :: 'u' :: (tail.take 4 ++ unescape (tail.drop 4))) := by
  refine ⟨exists_whole text, ?_⟩
  rintro front tail rfl hfront
  rw [hfront.unescape_append]
  refine ⟨fun c => ⟨fun hread => ?_, fun h => ?_⟩, fun h => by rw [unescape_of_not_isCode h]⟩
  · by_contra hc
    by_cases hcode : ∃ d, IsCode (tail.take 4) d ∨ IsSignedCode (tail.take 4) d
    · -- the character that is read is that of the code
      obtain ⟨d, hd⟩ := hcode
      have hd' := unescape_of_isCode hd (tail.drop 4)
      rw [List.take_append_drop] at hd'
      rw [hd'] at hread
      obtain rfl : d = c := (List.cons.inj (List.append_cancel_left hread)).1
      exact hc hd
    · -- what stays as it is is longer than one character
      rw [unescape_of_not_isCode (not_exists.mp hcode)] at hread
      have hlength := congrArg List.length (List.append_cancel_left hread)
      simp only [List.length_cons, List.length_append] at hlength
      omega
  · have hread := unescape_of_isCode h (tail.drop 4)
    rw [List.take_append_drop] at hread
    rw [hread]

/-- The code of the euro sign behind an escaped equals sign, in digits of both cases. -/
theorem unescape_code_of_euro :
    let front := ['a', '\\', '=']
    let tail := ['2', '0', 'a', 'C', '0']
    Whole front ∧ IsCode (tail.take 4) '€' ∧
      unescape (front ++ '\\' :: 'u' :: tail) = ['a', '=', '€', '0'] := by
  intro front tail
  have hfront : Whole front := .plain (by decide) (.pair (by decide) .nil)
  have hcode : IsCode (tail.take 4) '€' := ⟨rfl, Hex.number?_eq_some_iff.mp (by decide)⟩
  have hread := ((unescape_code _).2 front tail rfl hfront).1 '€'
  exact ⟨hfront, hcode, hread.mpr (.inl hcode)⟩

/-- A plus sign and three digits are read as a character, though they are no code of one. -/
theorem signed_code_read :
    unescape ['\\', 'u', '+', '0', 'e', '9'] = ['é'] ∧ (¬∃ c, IsCode ['+', '0', 'e', '9'] c) ∧
      (parse "a=\\u+0e9")["a"]? = some "é" := by
  refine ⟨by decide, ?_, by decide⟩
  rintro ⟨c, -, hdigits⟩
  exact absurd (hdigits.isAlphanum '+' List.mem_cons_self) (by decide)

end CallWatch.Properties
