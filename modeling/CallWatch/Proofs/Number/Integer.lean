import CallWatch.Number.Integer
import CallWatch.Proofs.Text.Case

/-! Integers read back from their decimal digits, in every range that holds them. -/

namespace CallWatch

theorem le_ofDigitChars (digits : List Char) (value : Nat) :
    value ≤ Nat.ofDigitChars 10 digits value := by
  induction digits generalizing value with
  | nil => exact Nat.le_refl value
  | cons c digits ih =>
    rw [Nat.ofDigitChars_cons]
    exact Nat.le_trans (by omega) (ih _)

theorem mem_digits_of_isDigit {c : Char} (h : c.isDigit) : c ∈ "0123456789".toList := by
  have hdigit : ∀ place < 10, Char.ofNat (48 + place) ∈ "0123456789".toList := by decide
  rw [Char.isDigit, Bool.and_eq_true, decide_eq_true_eq, decide_eq_true_eq] at h
  obtain ⟨place, hplace, rfl⟩ := Text.exists_place 48 10 h.1 (Nat.lt_succ_of_le h.2)
  exact hdigit place hplace

theorem decimalDigit?_of_isDigit {c : Char} (h : c.isDigit) :
    decimalDigit? c = some (c.toNat - '0'.toNat) := by
  rw [Char.isDigit, Bool.and_eq_true, decide_eq_true_eq, decide_eq_true_eq] at h
  exact if_pos h

namespace IntegerRange

variable {range : IntegerRange} {digits : List Char}

/-- Digits that end within the range are read through, as all values on the way are smaller. -/
theorem readUp_append (hdigits : ∀ c ∈ digits, c.isDigit) {value : Nat}
    (h : (Nat.ofDigitChars 10 digits value : Int) ≤ range.high) (rest : List Char) :
    range.readUp value (digits ++ rest) =
      range.readUp (Nat.ofDigitChars 10 digits value : Nat) rest := by
  induction digits generalizing value with
  | nil => rfl
  | cons c digits ih =>
    rw [Nat.ofDigitChars_cons] at h ⊢
    have hle := le_ofDigitChars digits (10 * value + (c.toNat - '0'.toNat))
    rw [List.cons_append, readUp, decimalDigit?_of_isDigit (hdigits c List.mem_cons_self)]
    simp only
    rw [if_neg (by omega)]
    exact_mod_cast ih (fun d hd => hdigits d (List.mem_cons_of_mem c hd)) h

theorem readUp_eq_ok (hdigits : ∀ c ∈ digits, c.isDigit) {value : Nat}
    (h : (Nat.ofDigitChars 10 digits value : Int) ≤ range.high) :
    range.readUp value digits = .ok (Nat.ofDigitChars 10 digits value : Int) := by
  have hread := readUp_append hdigits h []
  rwa [List.append_nil] at hread

/-- A text that begins with a digit has no sign. -/
theorem read_eq_readUp {c : Char} (hc : c.isDigit) :
    range.read (c :: digits) = range.readUp 0 (c :: digits) := by
  have hplus : c ≠ '+' := by rintro rfl; exact absurd hc (by decide)
  have hminus : c ≠ '-' := by rintro rfl; exact absurd hc (by decide)
  rw [read.eq_def]
  split <;> simp_all

end IntegerRange

theorem isDigit_of_mem_decimal {n : Nat} {c : Char} (h : c ∈ decimal n) : c.isDigit :=
  Nat.isDigit_of_mem_toDigits (by decide) (by decide) h

namespace IntegerRange

/-- The digits of a number below the upper bound are read as the number. -/
theorem read_decimal {range : IntegerRange} {n : Nat} (h : (n : Int) ≤ range.high) :
    range.read (decimal n) = .ok (n : Int) := by
  have hvalue : Nat.ofDigitChars 10 (decimal n) 0 = n := Nat.ofDigitChars_ten_toDigits
  have hread : range.readUp (0 : Nat) (decimal n) = .ok (Nat.ofDigitChars 10 (decimal n) 0 : Int) :=
    readUp_eq_ok (fun c hc => isDigit_of_mem_decimal hc) (by rwa [hvalue])
  rw [hvalue] at hread
  obtain ⟨c, rest, hdigits⟩ := List.exists_cons_of_ne_nil (Nat.toDigits_ne_nil (b := 10) (n := n))
  change decimal n = c :: rest at hdigits
  have hc : c.isDigit := isDigit_of_mem_decimal (hdigits ▸ List.mem_cons_self)
  rw [hdigits] at hread ⊢
  rw [read_eq_readUp hc]
  exact hread

end IntegerRange

theorem readPort?_decimal (port : UInt16) : readPort? (decimal port.toNat) = some port := by
  have hport : (port.toNat : Int) ≤ (IntegerRange.unsigned 16).high := by
    have hlt := port.toNat_lt
    show (port.toNat : Int) ≤ 65535
    omega
  rw [readPort?, IntegerRange.read_decimal hport]
  simp

end CallWatch
