import CallWatch.Proofs.Number.Integer

/-! Numerals. A range of counts reads the numerals of its numbers, which are decimal digits behind a
plus sign or not, and no other text. A text that it does not read has a fault, and the first one
from the left is given. -/

namespace CallWatch

/-- A text without the plus sign at its start. -/
def withoutPlus : List Char → List Char
  | '+' :: digits => digits
  | digits => digits

/-- A numeral: decimal digits, behind a plus sign or not, with the number they stand for. -/
structure Numeral (text : List Char) (n : Nat) : Prop where
  nonempty : withoutPlus text ≠ []
  digits : ∀ c ∈ withoutPlus text, c.isDigit
  value : Nat.ofDigitChars 10 (withoutPlus text) 0 = n

/-- What is wrong with a text that is no numeral of a number of so many bits: it is empty, or a sign
alone, or it has a character that is no digit, or the digits up to some place pass the bound. -/
inductive Numeral.Fault (bits : Nat) (text : List Char) : IntegerError → Prop
  | empty (nothing : text = []) : Fault bits text .empty
  | sign (alone : text = ['+']) : Fault bits text .invalidDigit
  | digit (front : List Char) (c : Char) (rest : List Char)
      (split : withoutPlus text = front ++ c :: rest) (digits : ∀ d ∈ front, d.isDigit)
      (fits : Nat.ofDigitChars 10 front 0 < Nat.pow 2 bits) (other : ¬c.isDigit) :
      Fault bits text .invalidDigit
  | large (front rest : List Char) (split : withoutPlus text = front ++ rest)
      (digits : ∀ d ∈ front, d.isDigit) (passes : Nat.pow 2 bits ≤ Nat.ofDigitChars 10 front 0) :
      Fault bits text .tooLarge

theorem decimalDigit?_eq_none {c : Char} (h : ¬c.isDigit) : decimalDigit? c = none := by
  rw [Char.isDigit, Bool.and_eq_true, decide_eq_true_eq, decide_eq_true_eq] at h
  exact if_neg h

namespace IntegerRange

variable {range : IntegerRange} {bits : Nat} {text front rest : List Char}

theorem lt_two_pow_iff {n : Nat} : n < Nat.pow 2 bits ↔ (n : Int) ≤ (unsigned bits).high := by
  show n < Nat.pow 2 bits ↔ (n : Int) ≤ ((Nat.pow 2 bits : Nat) : Int) - 1
  omega

/-- A range of counts reads the digits behind the sign, as it has no use for a minus sign. -/
theorem read_unsigned (h : withoutPlus text ≠ []) :
    (unsigned bits).read text = (unsigned bits).readUp 0 (withoutPlus text) := by
  have hminus (digits : List Char) :
      (unsigned bits).readUp 0 ('-' :: digits) = .error .invalidDigit := by
    rw [readUp, decimalDigit?_eq_none (by decide)]
  cases text with
  | nil => exact absurd rfl h
  | cons c digits =>
    by_cases hplus : c = '+'
    · subst hplus
      cases digits with
      | nil => exact absurd rfl h
      | cons d digits => rfl
    · by_cases hdash : c = '-'
      · subst hdash
        rw [show withoutPlus ('-' :: digits) = '-' :: digits from rfl, hminus]
        cases digits <;> rfl
      · rw [read.eq_def, withoutPlus.eq_def]
        split <;> simp_all

theorem readUp_of_passing (hdigits : ∀ c ∈ front, c.isDigit) {value : Nat}
    (hvalue : (value : Int) ≤ range.high)
    (h : range.high < (Nat.ofDigitChars 10 front value : Int)) :
    range.readUp value (front ++ rest) = .error .tooLarge := by
  induction front generalizing value with
  | nil => rw [Nat.ofDigitChars_nil] at h; omega
  | cons c front ih =>
    rw [Nat.ofDigitChars_cons] at h
    rw [List.cons_append, readUp, decimalDigit?_of_isDigit (hdigits c List.mem_cons_self)]
    simp only
    split
    case isTrue => rfl
    case isFalse hle =>
      exact_mod_cast ih (fun d hd => hdigits d (List.mem_cons_of_mem c hd)) (by omega) h

theorem read_of_numeral {n : Nat} (h : Numeral text n) (hn : n < Nat.pow 2 bits) :
    (unsigned bits).read text = .ok (n : Int) := by
  obtain ⟨hne, hdigits, rfl⟩ := h
  rw [read_unsigned hne]
  exact readUp_eq_ok hdigits (lt_two_pow_iff.mp hn)

theorem read_of_fault {e : IntegerError} (h : Numeral.Fault bits text e) :
    (unsigned bits).read text = .error e := by
  cases h with
  | empty nothing => rw [nothing, read]
  | sign alone => rw [alone, read]
  | digit front c rest split digits fits other =>
    have hread := readUp_append digits (lt_two_pow_iff.mp fits) (c :: rest)
    rw [readUp, decimalDigit?_eq_none other, ← split] at hread
    rw [read_unsigned (by rw [split]; exact List.append_ne_nil_of_right_ne_nil _ (by simp))]
    exact hread
  | large front rest split digits passes =>
    have hne : front ≠ [] := by
      rintro rfl
      have hpos : 0 < Nat.pow 2 bits := Nat.two_pow_pos bits
      rw [Nat.ofDigitChars_nil] at passes
      omega
    have hzero : ((0 : Nat) : Int) ≤ (unsigned bits).high :=
      lt_two_pow_iff.mp (Nat.two_pow_pos bits)
    rw [read_unsigned (by rw [split]; exact List.append_ne_nil_of_left_ne_nil hne _), split]
    refine readUp_of_passing digits hzero ?_
    by_contra hle
    exact absurd (lt_two_pow_iff.mpr (Int.not_lt.mp hle)) (Nat.not_lt.mpr passes)

/-- Every text is a numeral of a number of so many bits or has a fault: what decides are its digits
up to the first other character. -/
theorem exists_numeral_or_fault (bits : Nat) (text : List Char) :
    (∃ n < Nat.pow 2 bits, Numeral text n) ∨ ∃ e, Numeral.Fault bits text e := by
  by_cases hne : withoutPlus text = []
  · right
    cases text with
    | nil => exact ⟨_, .empty rfl⟩
    | cons c digits =>
      rw [withoutPlus.eq_def] at hne
      split at hne
      case h_1 digits heq => exact ⟨_, .sign (by rw [heq, hne])⟩
      case h_2 => exact absurd hne (List.cons_ne_nil c digits)
  · have hdigits : ∀ c ∈ (withoutPlus text).takeWhile Char.isDigit, c.isDigit :=
      fun c hc => List.mem_takeWhile_imp hc
    have hsplit := (List.takeWhile_append_dropWhile (p := Char.isDigit) (l := withoutPlus text)).symm
    by_cases hfits : Nat.ofDigitChars 10 ((withoutPlus text).takeWhile Char.isDigit) 0 < Nat.pow 2 bits
    · cases hrest : (withoutPlus text).dropWhile Char.isDigit with
      | nil =>
        rw [hrest, List.append_nil] at hsplit
        rw [← hsplit] at hdigits hfits
        exact .inl ⟨_, hfits, hne, hdigits, rfl⟩
      | cons c rest =>
        have hother : ¬c.isDigit := by
          have hhead := List.head?_dropWhile_not Char.isDigit (withoutPlus text)
          rw [hrest, List.head?_cons] at hhead
          simpa using hhead
        rw [hrest] at hsplit
        exact .inr ⟨_, .digit _ c rest hsplit hdigits hfits hother⟩
    · exact .inr ⟨_, .large _ _ hsplit hdigits (Nat.not_lt.mp hfits)⟩

/-- What a range of counts reads are the numerals of its numbers. -/
theorem read_eq_ok_iff {v : Int} :
    (unsigned bits).read text = .ok v ↔ ∃ n : Nat, v = n ∧ n < Nat.pow 2 bits ∧ Numeral text n := by
  constructor
  · intro h
    rcases exists_numeral_or_fault bits text with ⟨n, hn, hnumeral⟩ | ⟨e, hfault⟩
    · rw [read_of_numeral hnumeral hn] at h
      exact ⟨n, (Except.ok.inj h).symm, hn, hnumeral⟩
    · rw [read_of_fault hfault] at h
      cases h
  · rintro ⟨n, rfl, hn, hnumeral⟩
    exact read_of_numeral hnumeral hn

theorem read_eq_error_iff {e : IntegerError} :
    (unsigned bits).read text = .error e ↔ Numeral.Fault bits text e := by
  constructor
  · intro h
    rcases exists_numeral_or_fault bits text with ⟨n, hn, hnumeral⟩ | ⟨fault, hfault⟩
    · rw [read_of_numeral hnumeral hn] at h
      cases h
    · rw [read_of_fault hfault] at h
      obtain rfl := Except.error.inj h
      exact hfault
  · exact read_of_fault

end IntegerRange

end CallWatch
