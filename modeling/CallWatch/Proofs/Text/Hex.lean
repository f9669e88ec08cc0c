import CallWatch.Proofs.Text.Case
import CallWatch.Text.Hex
import Mathlib.Data.List.Induction

/-! Hexadecimal numerals. A digit is written in upper case or in lower case and read in either, and
what is read from a row of characters is the number of which they are the digits. -/

namespace CallWatch.Hex

variable {upper : Bool} {c : Char} {digits : List Char} {n : Nat}

/-- The hexadecimal digit of a number below sixteen, in upper case or in lower case. -/
def digit (upper : Bool) (n : Nat) : Char :=
  if upper then (Nat.digitChar n).toUpper else Nat.digitChar n

theorem digit?_digit (h : n < 16) : digit? (digit upper n) = some n := by
  revert upper n
  decide

theorem isAlphanum_digit (h : n < 16) : (digit upper n).isAlphanum := by
  revert upper n
  decide

/-- Digits of bytes are read before those behind them. -/
theorem decode?_append {bytes : List UInt8} (h : decode? digits = some bytes)
    (rest : List Char) : decode? (digits ++ rest) = (decode? rest).map (bytes ++ ·) := by
  fun_induction decode? digits generalizing bytes with
  | case1 =>
    obtain rfl := Option.some.inj h
    simp
  | case2 => cases h
  | case3 high low digits ih =>
    obtain ⟨first, hfirst, h⟩ := Option.bind_eq_some_iff.mp h
    obtain ⟨second, hsecond, h⟩ := Option.bind_eq_some_iff.mp h
    obtain ⟨others, hothers, h⟩ := Option.bind_eq_some_iff.mp h
    obtain rfl := Option.some.inj h
    simp only [List.cons_append, decode?, hfirst, hsecond, ih hothers, Option.bind_eq_bind,
      Option.bind_some]
    cases decode? rest <;> rfl

theorem eq_nil_of_decode?_eq_nil (h : decode? digits = some []) : digits = [] := by
  match digits with
  | [] => rfl
  | [_] => exact nomatch h
  | high :: low :: rest =>
    obtain ⟨first, -, h⟩ := Option.bind_eq_some_iff.mp h
    obtain ⟨second, -, h⟩ := Option.bind_eq_some_iff.mp h
    obtain ⟨others, -, h⟩ := Option.bind_eq_some_iff.mp h
    exact nomatch h

/-- The four digits of a number that has sixteen bits. -/
def ofCode (upper : Bool) (n : Nat) : List Char :=
  [digit upper (n / 4096), digit upper (n / 256 % 16), digit upper (n / 16 % 16),
    digit upper (n % 16)]

theorem number?_ofCode (h : n < 65536) : number? (ofCode upper n) = some n := by
  have hfirst : n / 4096 < 16 := by omega
  have hvalue : 16 * (16 * (16 * (n / 4096) + n / 256 % 16) + n / 16 % 16) + n % 16 = n := by omega
  simp [number?, ofCode, digit?_digit, hfirst, Nat.mod_lt, hvalue]

theorem forall_mem_ofCode (h : n < 65536) : ∀ c ∈ ofCode upper n, c.isAlphanum := by
  simp only [ofCode, List.forall_mem_cons, List.not_mem_nil, false_implies, implies_true, and_true]
  exact ⟨isAlphanum_digit (by omega), isAlphanum_digit (by omega), isAlphanum_digit (by omega),
    isAlphanum_digit (by omega)⟩

/-- A character between two codes is a digit, if the codes are those of digits in their order. -/
theorem exists_digit (upper : Bool) (low first count : Nat) (hcount : first + count ≤ 16)
    (hrow : ∀ place < count, Char.ofNat (low + place) = digit upper (first + place))
    (hlow : low ≤ c.toNat) (hhigh : c.toNat < low + count) :
    ∃ n < 16, ∃ upper, c = digit upper n := by
  obtain ⟨place, hplace, rfl⟩ := Text.exists_place low count hlow hhigh
  exact ⟨first + place, by omega, upper, hrow place hplace⟩

/-- The characters that are read as digits are those that are written for them. -/
theorem digit?_eq_some_iff : digit? c = some n ↔ n < 16 ∧ ∃ upper, c = digit upper n := by
  constructor
  · intro h
    have hdigit : ∃ m < 16, ∃ upper, c = digit upper m := by
      revert h
      fun_cases digit? c with
      | case1 row =>
        exact fun _ => exists_digit false 48 0 10 (by decide) (by decide) row.1
          (Nat.lt_succ_of_le row.2)
      | case2 _ row =>
        exact fun _ => exists_digit false 97 10 6 (by decide) (by decide) row.1
          (Nat.lt_succ_of_le row.2)
      | case3 _ _ row =>
        exact fun _ => exists_digit true 65 10 6 (by decide) (by decide) row.1
          (Nat.lt_succ_of_le row.2)
      | case4 => exact fun h => nomatch h
    obtain ⟨m, hm, upper, rfl⟩ := hdigit
    rw [digit?_digit hm] at h
    exact ⟨Option.some.inj h ▸ hm, upper, congrArg (digit upper) (Option.some.inj h)⟩
  · rintro ⟨hn, upper, rfl⟩
    exact digit?_digit hn

/-- A row of digits, each in upper case or in lower case, with the number that they stand for. -/
inductive Numeral : List Char → Nat → Prop
  | nil : Numeral [] 0
  | concat {digits : List Char} {n place : Nat} (front : Numeral digits n) (upper : Bool)
      (low : place < 16) : Numeral (digits ++ [digit upper place]) (16 * n + place)

theorem Numeral.isAlphanum (h : Numeral digits n) : ∀ c ∈ digits, c.isAlphanum := by
  induction h with
  | nil => exact List.forall_mem_nil _
  | concat _ upper low ih =>
    exact List.forall_mem_append.mpr ⟨ih, List.forall_mem_singleton.mpr (isAlphanum_digit low)⟩

theorem number?_concat (digits : List Char) (c : Char) :
    number? (digits ++ [c]) = (number? digits).bind fun value =>
      (digit? c).bind fun place => some (16 * value + place) := by
  rw [number?, List.foldl_concat]
  rfl

/-- What is read from a row of characters is the number of which they are the digits. -/
theorem number?_eq_some_iff : number? digits = some n ↔ Numeral digits n := by
  constructor
  · intro h
    induction digits using List.reverseRecOn generalizing n with
    | nil =>
      obtain rfl : 0 = n := Option.some.inj h
      exact .nil
    | append_singleton digits c ih =>
      rw [number?_concat] at h
      obtain ⟨value, hvalue, hlast⟩ := Option.bind_eq_some_iff.mp h
      obtain ⟨place, hplace, hn⟩ := Option.bind_eq_some_iff.mp hlast
      obtain ⟨hlow, upper, rfl⟩ := digit?_eq_some_iff.mp hplace
      obtain rfl := Option.some.inj hn
      exact .concat (ih hvalue) upper hlow
  · intro h
    induction h with
    | nil => rfl
    | concat _ upper low ih => rw [number?_concat, ih, Option.bind_some, digit?_digit low]; rfl

end CallWatch.Hex
