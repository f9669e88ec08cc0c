import CallWatch.Proofs.Text.Cut
import CallWatch.Text.Blank
import CallWatch.Text.Hex
import Mathlib.Data.Bool.AllAny

/-! The case of ASCII letters. A beginning in any case is a prefix up to case, and neither blanks
nor hexadecimal digits depend on it. -/

namespace CallWatch

namespace Text

/-- A character between two codes has a place behind the first of them. -/
theorem exists_place (low count : Nat) {c : Char} (hlow : low ≤ c.toNat)
    (hhigh : c.toNat < low + count) : ∃ place < count, c = Char.ofNat (low + place) :=
  ⟨c.toNat - low, by omega, by rw [Nat.add_sub_cancel' hlow, Char.ofNat_toNat]⟩

theorem toLower_eq_self_or_mem (c : Char) :
    c.toLower = c ∨ c ∈ "ABCDEFGHIJKLMNOPQRSTUVWXYZ".toList := by
  unfold Char.toLower
  split
  case isTrue h =>
    right
    have hletter : ∀ place < 26, Char.ofNat (65 + place) ∈ "ABCDEFGHIJKLMNOPQRSTUVWXYZ".toList := by
      decide
    obtain ⟨place, hplace, hc⟩ := exists_place 65 26 h.1 (Nat.lt_succ_of_le h.2)
    exact hc ▸ hletter place hplace
  case isFalse => exact .inl rfl

theorem eq_colon_of_toLower {c : Char} (h : c.toLower = ':') : c = ':' := by
  rcases toLower_eq_self_or_mem c with hc | hc
  · rw [← hc, h]
  · have hletter : ∀ d ∈ "ABCDEFGHIJKLMNOPQRSTUVWXYZ".toList, d.toLower ≠ ':' :=
      List.all_iff_forall_prop.mp (by decide)
    exact absurd h (hletter c hc)

theorem isBlank_toLower (c : Char) : isBlank c.toLower = isBlank c := by
  rcases toLower_eq_self_or_mem c with h | h
  · rw [h]
  · have hletter : ∀ d ∈ "ABCDEFGHIJKLMNOPQRSTUVWXYZ".toList, isBlank d.toLower = isBlank d :=
      List.all_iff_forall_prop.mp (by decide)
    exact hletter c h

theorem behindAnyCase?_eq_some_iff {lead text rest : List Char} :
    behindAnyCase? lead text = some rest ↔
      ∃ front, text = front ++ rest ∧ front.map Char.toLower = lead.map Char.toLower := by
  induction lead generalizing text with
  | nil =>
    rw [behindAnyCase?, Option.some.injEq]
    constructor
    · rintro rfl
      exact ⟨[], rfl, rfl⟩
    · rintro ⟨front, rfl, hfront⟩
      rw [List.map_eq_nil_iff.mp hfront, List.nil_append]
  | cons l lead ih =>
    cases text with
    | nil =>
      simp only [behindAnyCase?, reduceCtorEq, false_iff]
      rintro ⟨front, hfront, hcase⟩
      rw [List.nil_eq, List.append_eq_nil_iff] at hfront
      rw [hfront.1] at hcase
      simp at hcase
    | cons c text =>
      rw [behindAnyCase?]
      split
      case isTrue hc =>
        rw [ih]
        constructor
        · rintro ⟨front, rfl, hfront⟩
          exact ⟨c :: front, rfl, by rw [List.map_cons, List.map_cons, hfront, hc]⟩
        · rintro ⟨front, htext, hfront⟩
          cases front with
          | nil => simp at hfront
          | cons d front =>
            obtain ⟨rfl, rfl⟩ := List.cons.inj htext
            exact ⟨front, rfl, (List.cons.inj hfront).2⟩
      case isFalse hc =>
        simp only [reduceCtorEq, false_iff]
        rintro ⟨front, htext, hfront⟩
        cases front with
        | nil => simp at hfront
        | cons d front =>
          obtain ⟨rfl, rfl⟩ := List.cons.inj htext
          exact hc (List.cons.inj hfront).1.symm

end Text

namespace Hex

theorem digit?_toLower (c : Char) : digit? c.toLower = digit? c := by
  rcases Text.toLower_eq_self_or_mem c with h | h
  · rw [h]
  · have hletter : ∀ d ∈ "ABCDEFGHIJKLMNOPQRSTUVWXYZ".toList, digit? d.toLower = digit? d :=
      List.all_iff_forall_prop.mp (by decide)
    exact hletter c h

theorem decode?_map_toLower (digits : List Char) :
    decode? (digits.map Char.toLower) = decode? digits := by
  fun_induction decode? digits with
  | case1 => rfl
  | case2 => rfl
  | case3 high low rest ih =>
    rw [List.map_cons, List.map_cons, decode?, digit?_toLower, digit?_toLower, ih]

/-- Digits in any case read back as the bytes. -/
theorem decode?_of_map_toLower {digits : List Char} {bytes : List UInt8}
    (h : digits.map Char.toLower = encode bytes) : decode? digits = some bytes := by
  rw [← decode?_map_toLower, h, decode?_encode]

/-- What holds of the sixteen digits holds of all that is written. -/
theorem forall_mem_encode {P : Char → Prop} (h : ∀ n < 16, P (Nat.digitChar n))
    (bytes : List UInt8) : ∀ c ∈ encode bytes, P c := by
  intro c hc
  obtain ⟨b, -, hc⟩ := List.mem_flatMap.mp hc
  have hb := b.toNat_lt
  rcases List.mem_pair.mp hc with rfl | rfl
  · exact h _ (by omega)
  · exact h _ (by omega)

theorem map_toLower_encode (bytes : List UInt8) :
    (encode bytes).map Char.toLower = encode bytes := by
  have hsame := forall_mem_encode (P := fun c => c.toLower = c) (by decide) bytes
  rw [List.map_congr_left hsame, List.map_id'']
  exact fun _ => rfl

theorem length_encode (bytes : List UInt8) : (encode bytes).length = 2 * bytes.length := by
  induction bytes with
  | nil => rfl
  | cons b bytes ih =>
    rw [encode, List.flatMap_cons, List.length_append, List.length_cons, Nat.mul_succ, ← ih,
      Nat.add_comm]
    rfl

end Hex

end CallWatch
