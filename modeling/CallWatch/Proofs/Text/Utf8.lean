import CallWatch.Text.Utf8
import Mathlib.Data.UInt

/-! Texts read back from their bytes. The automaton goes through the bytes of a character without a
fault and gives the character at the last of them, so the bytes of a text give the text. -/

namespace CallWatch.Utf8

section Steps

variable {n : Nat} {o : Open} {rest : List UInt8}

theorem toNat_ofNat_of_lt (h : n < 256) : (UInt8.ofNat n).toNat = n :=
  UInt8.toNat_ofNat_of_lt' h

theorem pieces_single (h : n < 0x80) :
    pieces none (UInt8.ofNat n :: rest) = some (Char.ofNat n) :: pieces none rest := by
  have hn := toNat_ofNat_of_lt (show n < 256 by omega)
  simp [pieces, step, start, UInt8.lt_iff_toNat_lt, hn, h]

/-- The first byte of a sequence of two bytes opens it. -/
theorem pieces_pair (hlow : 0xC2 ≤ n) (hhigh : n < 0xE0) :
    pieces none (UInt8.ofNat n :: rest) = pieces (some ⟨0, 0x80, 0xBF, n - 0xC0⟩) rest := by
  have hn := toNat_ofNat_of_lt (show n < 256 by omega)
  simp [pieces, step, start, UInt8.lt_iff_toNat_lt, hn, hhigh, show ¬n < 0x80 by omega,
    show ¬n < 0xC2 by omega]

theorem pieces_triple (hlow : 0xE0 ≤ n) (hhigh : n < 0xF0) :
    pieces none (UInt8.ofNat n :: rest) =
      pieces (some ⟨1, if n = 0xE0 then 0xA0 else 0x80, if n = 0xED then 0x9F else 0xBF,
        n - 0xE0⟩) rest := by
  have hn := toNat_ofNat_of_lt (show n < 256 by omega)
  simp [pieces, step, start, UInt8.lt_iff_toNat_lt, ← UInt8.toNat_inj, hn, hhigh,
    show ¬n < 0x80 by omega, show ¬n < 0xC2 by omega, show ¬n < 0xE0 by omega]

theorem pieces_quadruple (hlow : 0xF0 ≤ n) (hhigh : n < 0xF5) :
    pieces none (UInt8.ofNat n :: rest) =
      pieces (some ⟨2, if n = 0xF0 then 0x90 else 0x80, if n = 0xF4 then 0x8F else 0xBF,
        n - 0xF0⟩) rest := by
  have hn := toNat_ofNat_of_lt (show n < 256 by omega)
  simp [pieces, step, start, UInt8.lt_iff_toNat_lt, ← UInt8.toNat_inj, hn, hhigh,
    show ¬n < 0x80 by omega, show ¬n < 0xC2 by omega, show ¬n < 0xE0 by omega,
    show ¬n < 0xF0 by omega]

variable {later bits : Nat} {low high : UInt8}

/-- A byte between the bounds of an open sequence adds its six bits. -/
theorem pieces_more (hlow : low.toNat ≤ n) (hhigh : n ≤ high.toNat) :
    pieces (some ⟨later + 1, low, high, bits⟩) (UInt8.ofNat n :: rest) =
      pieces (some ⟨later, 0x80, 0xBF, 64 * bits + (n - 0x80)⟩) rest := by
  have hn := toNat_ofNat_of_lt (show n < 256 from hhigh.trans_lt high.toNat_lt)
  simp [pieces, step, UInt8.le_iff_toNat_le, hn, hlow, hhigh]

theorem pieces_last (hlow : low.toNat ≤ n) (hhigh : n ≤ high.toNat) :
    pieces (some ⟨0, low, high, bits⟩) (UInt8.ofNat n :: rest) =
      some (Char.ofNat (64 * bits + (n - 0x80))) :: pieces none rest := by
  have hn := toNat_ofNat_of_lt (show n < 256 from hhigh.trans_lt high.toNat_lt)
  simp [pieces, step, UInt8.le_iff_toNat_le, hn, hlow, hhigh]

end Steps

/-- The bytes of a character give the character. -/
theorem pieces_utf8EncodeChar (c : Char) (rest : List UInt8) :
    pieces none (String.utf8EncodeChar c ++ rest) = some c :: pieces none rest := by
  have hvalid : c.val.toNat < 0xD800 ∨ 0xDFFF < c.val.toNat ∧ c.val.toNat < 0x110000 := c.valid
  have hc : Char.ofNat c.val.toNat = c := c.ofNat_toNat
  simp only [String.utf8EncodeChar]
  generalize c.val.toNat = n at hvalid hc
  -- The bounds of a second byte keep the long forms of short codes and the surrogates out.
  split
  · rw [List.singleton_append, pieces_single (by omega), hc]
  split
  · have hbits : 64 * (n / 64 % 32 + 192 - 0xC0) + (n % 64 + 128 - 0x80) = n := by omega
    simp only [List.cons_append, List.nil_append]
    rw [pieces_pair (by omega) (by omega), pieces_last (by simp) (by simp; omega), hbits, hc]
  split
  · have hbits : 64 * (64 * (n / 4096 % 16 + 224 - 0xE0) + (n / 64 % 64 + 128 - 0x80)) +
        (n % 64 + 128 - 0x80) = n := by omega
    simp only [List.cons_append, List.nil_append]
    rw [pieces_triple (by omega) (by omega),
      pieces_more (by split <;> simp; omega) (by split <;> simp <;> omega),
      pieces_last (by simp) (by simp; omega), hbits, hc]
  · have hbits : 64 * (64 * (64 * (n / 262144 % 8 + 240 - 0xF0) + (n / 4096 % 64 + 128 - 0x80)) +
        (n / 64 % 64 + 128 - 0x80)) + (n % 64 + 128 - 0x80) = n := by omega
    simp only [List.cons_append, List.nil_append]
    rw [pieces_quadruple (by omega) (by omega),
      pieces_more (by split <;> simp; omega) (by split <;> simp <;> omega),
      pieces_more (by simp) (by simp; omega), pieces_last (by simp) (by simp; omega), hbits, hc]

/-- The bytes of a text give its characters and no fault. -/
theorem pieces_encode (text : List Char) : pieces none (encode text) = text.map some := by
  induction text with
  | nil => rfl
  | cons c text ih =>
    rw [encode, List.flatMap_cons, pieces_utf8EncodeChar, List.map_cons, ← ih]
    rfl

theorem decodeLossy_encode (text : List Char) : decodeLossy (encode text) = text := by
  rw [decodeLossy, pieces_encode, List.map_map]
  exact List.map_id text

theorem decode?_encode (text : List Char) : decode? (encode text) = some text := by
  rw [decode?, pieces_encode]
  induction text with
  | nil => rfl
  | cons c text ih =>
    rw [List.map_cons, List.mapM_cons, ih]
    rfl

/-- A text of ASCII characters has one byte for each. -/
theorem size_eq_length {text : List Char} (h : ∀ c ∈ text, c.toNat < 0x80) :
    size text = text.length := by
  induction text with
  | nil => rfl
  | cons c text ih =>
    have hsingle : (String.utf8EncodeChar c).length = 1 := by
      have hc : c.val.toNat ≤ 127 := Nat.le_of_lt_succ (h c List.mem_cons_self)
      rw [String.utf8EncodeChar, if_pos hc]
      rfl
    rw [size, encode, List.flatMap_cons, List.length_append, hsingle, List.length_cons,
      ← ih fun other hother => h other (List.mem_cons_of_mem c hother), Nat.add_comm]
    rfl

end CallWatch.Utf8
