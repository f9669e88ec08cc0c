import CallWatch.Event.Value
import CallWatch.Proofs.Number.Integer
import CallWatch.Proofs.Text.Utf8
import Mathlib.Data.Bool.AllAny

/-! Payloads under a limit. A payload whose text is not longer than the limit is shown as it is, and
a note of both lengths stands for any other. The digits of the lengths decide how long the note is,
so that it is short whatever the payload. -/

namespace CallWatch

/-- A character that stands for itself in a JSON string and takes one byte there. -/
def Json.IsPlain (c : Char) : Prop :=
  Json.escape c = [c] ∧ c.toNat < 0x80

instance : DecidablePred Json.IsPlain := fun c =>
  inferInstanceAs (Decidable (Json.escape c = [c] ∧ c.toNat < 0x80))

theorem Json.quoted_of_isPlain {text : List Char} (h : ∀ c ∈ text, Json.IsPlain c) :
    Json.quoted text = '"' :: text ++ ['"'] := by
  have hescape : text.flatMap Json.escape = text := by
    induction text with
    | nil => rfl
    | cons c text ih =>
      obtain ⟨hc, htext⟩ := List.forall_mem_cons.mp h
      rw [List.flatMap_cons, hc.1, ih htext]
      rfl
  rw [Json.quoted, hescape]

theorem isPlain_of_mem_decimal {n : Nat} : ∀ c ∈ decimal n, Json.IsPlain c := by
  have hdigits : ∀ c ∈ "0123456789".toList, Json.IsPlain c :=
    List.all_iff_forall_prop.mp (by decide)
  exact fun c hc => hdigits c (mem_digits_of_isDigit (isDigit_of_mem_decimal hc))

theorem length_decimal_le {n : Nat} (h : n < 2 ^ 64) : (decimal n).length ≤ 20 :=
  (Nat.length_toDigits_le_iff (by decide) (by decide)).mpr (by omega)

namespace Payload

variable {limit : Nat} {whole p : Payload}

/-- A payload shows a whole one under a limit: it is the same if the text of the whole one fits, and
otherwise it is a note of the length of that text and of the limit. -/
def Shows (limit : Nat) (p whole : Payload) : Prop :=
  whole.size ≤ limit ∧ p = whole ∨
    limit < whole.size ∧ p = ofNote ("Payload of " ++ toString whole.size ++
      " bytes exceeds limit of " ++ toString limit ++ " bytes")

theorem tooLong_eq (n limit : Nat) : tooLong n limit =
    ofNote ("Payload of " ++ toString n ++ " bytes exceeds limit of " ++ toString limit ++
      " bytes") := by
  refine congrArg ofNote (String.toList_inj.mp ?_)
  simp only [String.toList_ofList, String.toList_append, Nat.toString_eq_repr, Nat.toList_repr,
    decimal]

theorem shows_bounded (limit : Nat) (whole : Payload) :
    (whole.bounded limit).Shows limit whole := by
  unfold bounded
  split
  case isTrue hlong => exact .inr ⟨hlong, tooLong_eq whole.size limit⟩
  case isFalse hfits => exact .inl ⟨Nat.not_lt.mp hfits, rfl⟩

/-- A note of plain characters takes twelve bytes more than its text: the name of the member, the
quotation marks and the braces. -/
theorem size_ofNote {text : List Char} (h : ∀ c ∈ text, Json.IsPlain c) :
    (ofNote (String.ofList text)).size = text.length + 12 := by
  have hwrite : (ofNote (String.ofList text)).toJson.write =
      ['\x7b', '"', '_', 'n', 'o', 't', 'e', '"', ':', '"'] ++ (text ++ ['"', '\x7d']) := by
    have hmembers : (ofNote (String.ofList text)).toJson =
        .object [("_note", .string (String.ofList text))] := rfl
    have hname : Json.quoted "_note".toList = '"' :: "_note".toList ++ ['"'] :=
      Json.quoted_of_isPlain (List.all_iff_forall_prop.mp (by decide))
    have htext : Json.quoted (String.ofList text).toList = '"' :: text ++ ['"'] := by
      rw [String.toList_ofList, Json.quoted_of_isPlain h]
    rw [hmembers, Json.write, Json.writeMembers, Json.write, hname, htext]
    simp
  have hascii : ∀ c ∈ (ofNote (String.ofList text)).toJson.write, c.toNat < 0x80 := by
    have hlead : ∀ c ∈ ['\x7b', '"', '_', 'n', 'o', 't', 'e', '"', ':', '"'], c.toNat < 0x80 :=
      List.all_iff_forall_prop.mp (by decide)
    have hend : ∀ c ∈ ['"', '\x7d'], c.toNat < 0x80 := List.all_iff_forall_prop.mp (by decide)
    rw [hwrite]
    exact List.forall_mem_append.mpr
      ⟨hlead, List.forall_mem_append.mpr ⟨fun c hc => (h c hc).2, hend⟩⟩
  rw [size, Utf8.size_eq_length hascii, hwrite]
  simp only [List.length_append, List.length_cons, List.length_nil]
  omega

theorem size_tooLong (n limit : Nat) :
    (tooLong n limit).size = (decimal n).length + (decimal limit).length + 53 := by
  rw [tooLong, size_ofNote]
  · simp only [List.length_append]
    have hfront : "Payload of ".toList.length = 11 := rfl
    have hmiddle : " bytes exceeds limit of ".toList.length = 24 := rfl
    have hback : " bytes".toList.length = 6 := rfl
    omega
  · have hfront : ∀ c ∈ "Payload of ".toList, Json.IsPlain c :=
      List.all_iff_forall_prop.mp (by decide)
    have hmiddle : ∀ c ∈ " bytes exceeds limit of ".toList, Json.IsPlain c :=
      List.all_iff_forall_prop.mp (by decide)
    have hback : ∀ c ∈ " bytes".toList, Json.IsPlain c := List.all_iff_forall_prop.mp (by decide)
    simp only [List.forall_mem_append]
    exact ⟨⟨⟨⟨hfront, isPlain_of_mem_decimal⟩, hmiddle⟩, isPlain_of_mem_decimal⟩, hback⟩

/-- What is shown is not longer than the limit or than 93 bytes, which a note of two lengths of 64
bits has at most. -/
theorem Shows.size_le (h : p.Shows limit whole) (hlimit : limit < 2 ^ 64)
    (hwhole : whole.size < 2 ^ 64) : p.size ≤ max limit 93 := by
  rcases h with ⟨hfits, rfl⟩ | ⟨-, rfl⟩
  · exact hfits.trans (Nat.le_max_left limit 93)
  · have hsize := length_decimal_le hwhole
    have hlimit := length_decimal_le hlimit
    rw [← tooLong_eq, size_tooLong]
    omega

end Payload

end CallWatch
