import CallWatch.Proofs.Json.Grammar
import CallWatch.Proofs.Number.Integer
import CallWatch.Proofs.Number.Shortest

/-! The numbers that are written are numbers of the grammar. Those of integers read back as the
integers, and those of doubles cannot be taken for integers. -/

namespace CallWatch

/-- Digits of a number that is not zero, from the first that counts. -/
structure Leads (digits : List Char) : Prop where
  ne_nil : digits ≠ []
  head_ne_zero : digits.head? ≠ some '0'
  isDigit : ∀ c ∈ digits, c.isDigit

namespace Leads

variable {digits : List Char}

theorem of_isPrefix {front : List Char} (h : Leads digits) (hfront : front <+: digits)
    (hne : front ≠ []) : Leads front := by
  obtain ⟨rest, rfl⟩ := hfront
  refine ⟨hne, ?_, fun c hc => h.isDigit c (List.mem_append_left rest hc)⟩
  rw [← List.head?_append_of_ne_nil front hne]
  exact h.head_ne_zero

theorem append {more : List Char} (h : Leads digits) (hmore : ∀ c ∈ more, c.isDigit) :
    Leads (digits ++ more) := by
  refine ⟨by simp [h.ne_nil], ?_, fun c hc => (List.mem_append.mp hc).elim (h.isDigit c) (hmore c)⟩
  rw [List.head?_append_of_ne_nil digits h.ne_nil]
  exact h.head_ne_zero

theorem toDigits {n : Nat} (hn : n ≠ 0) : Leads (Nat.toDigits 10 n) := by
  refine ⟨Nat.toDigits_ne_nil, ?_, fun c hc => isDigit_of_mem_decimal hc⟩
  induction n using Nat.strongRecOn with
  | ind n ih =>
    rw [Nat.toDigits_eq_if (by decide)]
    split
    case isTrue hlt =>
      have hdigit : ∀ d < 10, d ≠ 0 → some (Nat.digitChar d) ≠ some '0' := by decide
      exact hdigit n hlt hn
    case isFalse hge =>
      rw [List.head?_append_of_ne_nil _ Nat.toDigits_ne_nil]
      exact ih (n / 10) (by omega) (by omega)

/-- Zeros at the end do not count. -/
theorem significant {n : Nat} (hn : n ≠ 0) : Leads (Decimal.significant n) := by
  have h := Leads.toDigits hn
  have hne : (Nat.toDigits 10 n).rdropWhile (· = '0') ≠ [] := by
    intro hnil
    obtain ⟨first, rest, hdigits⟩ := List.exists_cons_of_ne_nil h.ne_nil
    have hzero := List.rdropWhile_eq_nil_iff.mp hnil first (hdigits ▸ List.mem_cons_self)
    exact h.head_ne_zero (by rw [hdigits, List.head?_cons, of_decide_eq_true hzero])
  have hprefix := h.of_isPrefix (List.rdropWhile_prefix _ _) hne
  rw [Decimal.significant]
  split
  · next hnil => exact absurd hnil hne
  · exact hprefix

end Leads

namespace Json.NumberPart

variable {p : NumberPart} {digits rest : List Char}

theorem accepts_append (hp : ∀ c, c.isDigit → p.next? c = some p)
    (hdigits : ∀ c ∈ digits, c.isDigit) : p.accepts (digits ++ rest) = p.accepts rest := by
  induction digits with
  | nil => rfl
  | cons c digits ih =>
    rw [List.cons_append, accepts, hp c (hdigits c List.mem_cons_self)]
    exact ih fun d hd => hdigits d (List.mem_cons_of_mem c hd)

/-- A part that ends with the first digit of the next goes over into it. -/
theorem accepts_append_of_next {q : NumberPart} (hp : ∀ c, c.isDigit → p.next? c = some q)
    (hq : ∀ c, c.isDigit → q.next? c = some q) (hne : digits ≠ [])
    (hdigits : ∀ c ∈ digits, c.isDigit) : p.accepts (digits ++ rest) = q.accepts rest := by
  obtain ⟨c, digits, rfl⟩ := List.exists_cons_of_ne_nil hne
  rw [List.cons_append, accepts, hp c (hdigits c List.mem_cons_self)]
  exact accepts_append hq fun d hd => hdigits d (List.mem_cons_of_mem c hd)

theorem accepts_whole (h : Leads digits) : minus.accepts (digits ++ rest) = whole.accepts rest := by
  obtain ⟨c, digits, rfl⟩ := List.exists_cons_of_ne_nil h.ne_nil
  have hzero : c ≠ '0' := fun hc => h.head_ne_zero (by rw [hc, List.head?_cons])
  have hnext : minus.next? c = some whole := by
    simp [next?, ofFirstDigit?, hzero, h.isDigit c List.mem_cons_self]
  rw [List.cons_append, accepts, hnext]
  exact accepts_append (fun d hd => by simp [next?, hd]) fun d hd =>
    h.isDigit d (List.mem_cons_of_mem c hd)

theorem accepts_places (hne : digits ≠ []) (hdigits : ∀ c ∈ digits, c.isDigit) :
    point.accepts (digits ++ rest) = fraction.accepts rest :=
  accepts_append_of_next (fun c hc => by simp [next?, hc]) (fun c hc => by simp [next?, hc]) hne
    hdigits

theorem accepts_exponent (hne : digits ≠ []) (hdigits : ∀ c ∈ digits, c.isDigit) :
    sign.accepts digits := by
  have h : sign.accepts (digits ++ []) = exponent.accepts [] :=
    accepts_append_of_next (fun c hc => by simp [next?, hc]) (fun c hc => by simp [next?, hc]) hne
      hdigits
  rwa [List.append_nil] at h

theorem accepts_fraction (hne : digits ≠ []) (hdigits : ∀ c ∈ digits, c.isDigit) :
    point.accepts digits := by
  have h : point.accepts (digits ++ []) = fraction.accepts [] := accepts_places hne hdigits
  rwa [List.append_nil] at h

/-- Digits with a point somewhere between them. -/
theorem accepts_split (h : Leads digits) {count : Nat} (hcount : 0 < count)
    (hlength : count < digits.length) :
    minus.accepts (digits.take count ++ '.' :: digits.drop count) := by
  have hfront : Leads (digits.take count) :=
    h.of_isPrefix (List.take_prefix count digits) (by simp [h.ne_nil]; omega)
  rw [accepts_whole hfront]
  exact accepts_fraction (by simp; omega) fun c hc => h.isDigit c (List.mem_of_mem_drop hc)

theorem accepts_positional (h : Leads digits) (place : Int) :
    minus.accepts (Decimal.positional digits place) := by
  have hzeros : ∀ n, ∀ c ∈ List.replicate n '0', c.isDigit := by
    intro n c hc
    rw [List.eq_of_mem_replicate hc]
    rfl
  rw [Decimal.positional]
  split
  case isTrue =>
    exact accepts_fraction (by simp [h.ne_nil]) fun c hc =>
      (List.mem_append.mp hc).elim (hzeros _ c) (h.isDigit c)
  case isFalse =>
    exact accepts_split (h.append (hzeros _)) (Nat.succ_pos _) (by simp; omega)

theorem accepts_exponential (h : Leads digits) (place : Int) :
    minus.accepts (Decimal.exponential digits place) := by
  have hdigits : sign.accepts (Nat.toDigits 10 place.natAbs) :=
    accepts_exponent Nat.toDigits_ne_nil fun c hc => isDigit_of_mem_decimal hc
  have hexponent :
      mark.accepts ((if place < 0 then '-' else '+') :: Nat.toDigits 10 place.natAbs) := by
    split <;> exact hdigits
  have hfirst : Leads (digits.take 1) :=
    h.of_isPrefix (List.take_prefix 1 digits) (by simp [h.ne_nil])
  rw [Decimal.exponential, List.append_assoc, accepts_whole hfirst]
  split
  · exact hexponent
  · next hne =>
    have hplaces : ∀ c ∈ digits.drop 1, c.isDigit :=
      fun c hc => h.isDigit c (List.mem_of_mem_drop hc)
    exact (accepts_places hne hplaces).trans hexponent

theorem isNumber_sign_append {text : List Char} (h : minus.accepts text) (negative : Bool) :
    isNumber (Binary64.sign negative ++ text) := by
  cases negative with
  | true => exact h
  | false =>
    cases text with
    | nil => exact nomatch h
    | cons c text =>
      have hc : c ≠ '-' := by
        rintro rfl
        exact nomatch h
      rw [isNumber, Binary64.sign, if_neg (by decide), List.nil_append, accepts, next?, if_neg hc]
      exact h

end Json.NumberPart

/-- The exponent of a double has the bound of the smallest of them. -/
theorem Binary64.le_exponent_of_ofBits {bits : UInt64} {negative : Bool} {m : Nat} {e : Int}
    (h : ofBits bits = .finite negative m e) : -1074 ≤ e := by
  simp only [ofBits] at h
  split at h
  · split at h <;> exact nomatch h
  split at h
  · cases h
    decide
  · next hne =>
    cases h
    omega

namespace Json

def natural? (digits : List Char) : Option Nat :=
  if digits.all Char.isDigit then some (Nat.ofDigitChars 10 digits 0) else none

/-- The integer that a literal stands for, if it has neither places nor an exponent. -/
def integer? : List Char → Option Int
  | '-' :: digits => (natural? digits).map fun n => -(n : Int)
  | digits => (natural? digits).map fun n => (n : Int)

theorem natural?_decimal (n : Nat) : natural? (decimal n) = some n := by
  have hdigits : (decimal n).all Char.isDigit :=
    List.all_eq_true.mpr fun c hc => isDigit_of_mem_decimal hc
  rw [natural?, if_pos hdigits, decimal, Nat.ofDigitChars_ten_toDigits]

theorem natural?_eq_none {digits : List Char} {c : Char} (hc : c ∈ digits) (hdigit : ¬c.isDigit) :
    natural? digits = none :=
  if_neg fun hall => hdigit (List.all_eq_true.mp hall c hc)

theorem integer?_decimal (n : Nat) : integer? (decimal n) = some (n : Int) := by
  rw [integer?.eq_def]
  split
  · next digits hdigits =>
    have hminus : '-' ∈ decimal n := hdigits ▸ List.mem_cons_self
    exact absurd (isDigit_of_mem_decimal hminus) (by decide)
  · rw [natural?_decimal]
    rfl

theorem integer?_decimalInt (n : Int) : integer? (decimalInt n) = some n := by
  cases n with
  | ofNat n => exact integer?_decimal n
  | negSucc n =>
    rw [decimalInt, integer?, natural?_decimal]
    rfl

theorem integer?_eq_none {literal : List Char} {c : Char} (hc : c ∈ literal) (hminus : c ≠ '-')
    (hdigit : ¬c.isDigit) : integer? literal = none := by
  rw [integer?.eq_def]
  split
  · next digits =>
    rw [natural?_eq_none ((List.mem_cons.mp hc).resolve_left hminus) hdigit]
    rfl
  · rw [natural?_eq_none hc hdigit]
    rfl

theorem isNumber_decimal (n : Nat) : isNumber (decimal n) := by
  by_cases hn : n = 0
  · subst hn
    rfl
  · have h : NumberPart.minus.accepts (decimal n ++ []) = NumberPart.whole.accepts [] :=
      NumberPart.accepts_whole (Leads.toDigits hn)
    rw [List.append_nil] at h
    exact NumberPart.isNumber_sign_append h false

theorem isNumber_decimalInt (n : Int) : isNumber (decimalInt n) := by
  cases n with
  | ofNat n => exact isNumber_decimal n
  | negSucc n =>
    have h : NumberPart.minus.accepts (decimal (n + 1) ++ []) = NumberPart.whole.accepts [] :=
      NumberPart.accepts_whole (Leads.toDigits (Nat.succ_ne_zero n))
    rw [List.append_nil] at h
    exact NumberPart.isNumber_sign_append h true

/-- A decimal has a point or the mark of an exponent. -/
theorem mem_write (style : DecimalStyle) (d : Decimal) :
    '.' ∈ d.write style ∨ 'e' ∈ d.write style := by
  rw [Decimal.write]
  split
  · left
    rw [Decimal.positional]
    split <;> simp
  · right
    simp [Decimal.exponential]

theorem accepts_write {d : Decimal} (hd : d.digits ≠ 0) (style : DecimalStyle) :
    NumberPart.minus.accepts (d.write style) := by
  rw [Decimal.write]
  split
  · exact NumberPart.accepts_positional (.significant hd) _
  · exact NumberPart.accepts_exponential (.significant hd) _

/-- The text of a double is a number, and no integer. -/
theorem isNumber_writeShortest? {x : Float} {literal : List Char} {style : DecimalStyle}
    (h : (Binary64.ofFloat x).writeShortest? style = some literal) :
    isNumber literal ∧ integer? literal = none := by
  obtain ⟨negative, m, e, hx⟩ : ∃ negative m e, Binary64.ofFloat x = .finite negative m e := by
    cases hx : Binary64.ofFloat x with
    | nan => rw [hx] at h; exact nomatch h
    | infinite => rw [hx] at h; exact nomatch h
    | finite negative m e => exact ⟨negative, m, e, rfl⟩
  rw [hx, Binary64.writeShortest?] at h
  split at h
  case isTrue =>
    obtain rfl := Option.some.inj h
    refine ⟨NumberPart.isNumber_sign_append rfl negative, ?_⟩
    have hpoint : '.' ∈ "0.0".toList := by decide
    exact integer?_eq_none (List.mem_append_right _ hpoint) (by decide) (by decide)
  case isFalse hm =>
    obtain rfl := Option.some.inj h
    have hdigits := Rounding.digits_shortest_ne_zero hm (Binary64.le_exponent_of_ofBits hx)
    refine ⟨NumberPart.isNumber_sign_append (accepts_write hdigits style) negative, ?_⟩
    rcases mem_write style (Rounding.ofMantissa m e).shortest with hpoint | hmark
    · exact integer?_eq_none (List.mem_append_right _ hpoint) (by decide) (by decide)
    · exact integer?_eq_none (List.mem_append_right _ hmark) (by decide) (by decide)

end Json

end CallWatch
