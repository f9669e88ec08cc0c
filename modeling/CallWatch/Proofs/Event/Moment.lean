import CallWatch.Proofs.Event.Calendar
import CallWatch.Proofs.Number.Integer
import Mathlib.Data.List.DropRight

/-! The RFC 3339 text of a moment read back. A reader that knows the places of the text and the
calendar finds the moment and its offset in every text that is written (`read?_write`). -/

namespace CallWatch

namespace Timestamp

/-- A number of so many digits in front of a text, and the text behind it. -/
def number? (width : Nat) (text : List Char) : Option (Nat × List Char) :=
  let digits := text.take width
  if digits.length = width ∧ digits.all Char.isDigit then
    some (Nat.ofDigitChars 10 digits 0, text.drop width)
  else none

/-- The text behind the mark that it begins with. -/
def behind? (mark : Char) : List Char → Option (List Char)
  | [] => none
  | c :: text => if c = mark then some text else none

/-- The nanoseconds of at most nine decimal places, if there are any, and the text behind them. -/
def nanos? : List Char → Option (Fin 1000000000 × List Char)
  | '.' :: text =>
    let places := text.takeWhile Char.isDigit
    let nanos := Nat.ofDigitChars 10 places 0 * 10 ^ (9 - places.length)
    if h : 1 ≤ places.length ∧ places.length ≤ 9 ∧ nanos < 1000000000 then
      some (⟨nanos, h.2.2⟩, text.dropWhile Char.isDigit)
    else none
  | text => some (epoch.nanos, text)

/-- The offset in seconds of a zone, which is the letter Z or a sign, hours and minutes. -/
def offset? : List Char → Option Int
  | [] => none
  | sign :: text =>
    if sign = 'Z' then if text.isEmpty then some 0 else none
    else do
      let (hours, text) ← number? 2 text
      let (minutes, text) ← number? 2 (← behind? ':' text)
      if ¬(text.isEmpty ∧ hours < 24 ∧ minutes < 60) then none
      else if sign = '+' then some (hours * 3600 + minutes * 60)
      else if sign = '-' then some (-(hours * 3600 + minutes * 60))
      else none

/-- A date of the calendar, with four digits for its year, and the text behind it. -/
def date? (text : List Char) : Option (CivilDate × List Char) := do
  let (year, text) ← number? 4 text
  let (month, text) ← number? 2 (← behind? '-' text)
  let (day, text) ← number? 2 (← behind? '-' text)
  let date : CivilDate := ⟨year, month, day⟩
  if date.isValid then some (date, text) else none

/-- The seconds that a clock shows in hours, minutes and seconds, and the text behind it. -/
def clock? (text : List Char) : Option (Nat × List Char) := do
  let (hour, text) ← number? 2 text
  let (minute, text) ← number? 2 (← behind? ':' text)
  let (second, text) ← number? 2 (← behind? ':' text)
  if hour < 24 ∧ minute < 60 ∧ second < 60 then
    some (hour * 3600 + minute * 60 + second, text)
  else none

/-- The moment of an RFC 3339 text, and the offset in which it is shown. -/
def read? (text : List Char) : Option Timestamp := do
  let (date, text) ← date? text
  let (clock, text) ← clock? (← behind? 'T' text)
  let (nanos, text) ← nanos? text
  let offset ← offset? text
  return ⟨date.toDays * 86400 + clock - offset, nanos, offset⟩

/-- A moment that the format can hold: its year has at most four digits, and its offset is a number
of minutes below a day. -/
structure IsWritable (t : Timestamp) : Prop where
  year : 0 ≤ t.date.year ∧ t.date.year ≤ 9999
  belowDay : t.offset.natAbs < 86400
  minutes : t.offset.natAbs % 60 = 0

section Parts

variable {width n : Nat}

theorem length_padded (hwidth : 0 < width) (h : n < 10 ^ width) :
    (padded width n).length = width := by
  have hle : (decimal n).length ≤ width :=
    (Nat.length_toDigits_le_iff (by decide) hwidth).mpr h
  rw [padded, List.length_append, List.length_replicate, Nat.sub_add_cancel hle]

theorem isDigit_of_mem_padded {c : Char} (h : c ∈ padded width n) : c.isDigit := by
  rcases List.mem_append.mp h with hzero | hdigit
  · rw [List.eq_of_mem_replicate hzero]
    rfl
  · exact isDigit_of_mem_decimal hdigit

theorem ofDigitChars_padded (width n : Nat) : Nat.ofDigitChars 10 (padded width n) 0 = n := by
  rw [padded, Nat.ofDigitChars_append, Nat.ofDigitChars_replicate_zero, Nat.mul_zero, decimal,
    Nat.ofDigitChars_ten_toDigits]

theorem number?_padded (width : Nat) (hwidth : 0 < width) (h : n < 10 ^ width)
    (rest : List Char) :
    number? width (padded width n ++ rest) = some (n, rest) := by
  have hlength := length_padded hwidth h
  have hdigits : (padded width n).all Char.isDigit = true :=
    List.all_eq_true.mpr fun c hc => isDigit_of_mem_padded hc
  rw [number?, List.take_left' hlength, List.drop_left' hlength, if_pos ⟨hlength, hdigits⟩,
    ofDigitChars_padded]

theorem date?_padded {date : CivilDate} (valid : date.isValid = true) (low : 0 ≤ date.year)
    (high : date.year ≤ 9999) (rest : List Char) :
    date? (padded 4 date.year.toNat ++ '-' :: (padded 2 date.month ++ '-' ::
      (padded 2 date.day ++ rest))) = some (date, rest) := by
  obtain ⟨-, -, hmonth, -, hday⟩ := of_decide_eq_true valid
  have hmonthDays := CivilDate.monthDays_le date.year date.month
  have hyears := number?_padded 4 (n := date.year.toNat) (by decide) (by omega)
  have hmonths := number?_padded 2 (n := date.month) (by decide) (by omega)
  have hdays := number?_padded 2 (n := date.day) (by decide) (by omega)
  simp [date?, hyears, hmonths, hdays, behind?, Int.toNat_of_nonneg low, valid]

theorem clock?_padded {time : Nat} (h : time < 86400) (rest : List Char) :
    clock? (padded 2 (time / 3600) ++ ':' :: (padded 2 (time / 60 % 60) ++ ':' ::
      (padded 2 (time % 60) ++ rest))) = some (time, rest) := by
  have hhours := number?_padded 2 (n := time / 3600) (by decide) (by omega)
  have hminutes := number?_padded 2 (n := time / 60 % 60) (by decide) (by omega)
  have hseconds := number?_padded 2 (n := time % 60) (by decide) (by omega)
  have hlimits : time / 3600 < 24 ∧ time / 60 % 60 < 60 ∧ time % 60 < 60 := by omega
  have htime : time / 3600 * 3600 + time / 60 % 60 * 60 + time % 60 = time := by omega
  simp [clock?, hhours, hminutes, hseconds, behind?, hlimits, htime]

/-- The places of a fraction are those of the nanoseconds, but for some zeros at the end. -/
theorem exists_places (nanos : Fin 1000000000) : ∃ places : List Char,
    fraction nanos = (if places = [] then [] else '.' :: places) ∧
    (∀ c ∈ places, c.isDigit) ∧ places.length ≤ 9 ∧
    Nat.ofDigitChars 10 places 0 * 10 ^ (9 - places.length) = nanos := by
  obtain ⟨places, zeros, hplaces, hzeros, hsplit⟩ : ∃ places zeros,
      (padded 9 nanos).rdropWhile (· = '0') = places ∧ (∀ c ∈ zeros, c = '0') ∧
        places ++ zeros = padded 9 nanos :=
    ⟨_, _, rfl, fun c hc => of_decide_eq_true (List.mem_rtakeWhile_imp (p := (· = '0')) hc),
      List.rdropWhile_append_rtakeWhile⟩
  have hlength : places.length + zeros.length = 9 := by
    rw [← List.length_append, hsplit]
    exact length_padded (by decide) nanos.isLt
  refine ⟨places, ?_, ?_, by omega, ?_⟩
  · have hkept : ((padded 9 nanos).reverse.dropWhile (· = '0')).reverse = places := hplaces
    rw [fraction, hkept]
    cases places with
    | nil => rfl
    | cons first rest => rw [if_neg (List.cons_ne_nil first rest)]
  · exact fun c hc => isDigit_of_mem_padded (hsplit ▸ List.mem_append_left zeros hc)
  · have hvalue := ofDigitChars_padded 9 nanos
    rw [← hsplit, Nat.ofDigitChars_append, List.eq_replicate_length.mpr hzeros,
      Nat.ofDigitChars_replicate_zero] at hvalue
    rw [← hvalue, show 9 - places.length = zeros.length by omega, Nat.mul_comm]

theorem nanos?_fraction (nanos : Fin 1000000000) {mark : Char} (hdigit : mark.isDigit = false)
    (hpoint : mark ≠ '.') (rest : List Char) :
    nanos? (fraction nanos ++ mark :: rest) = some (nanos, mark :: rest) := by
  obtain ⟨places, hfraction, hdigits, hlength, hvalue⟩ := exists_places nanos
  rw [hfraction]
  split
  · next none =>
    obtain rfl : nanos = 0 := by
      rw [none] at hvalue
      exact Fin.ext (hvalue.symm.trans (Nat.zero_mul _))
    rw [List.nil_append, nanos?.eq_def]
    split
    · next text hmark => exact absurd (List.cons.inj hmark).1 hpoint
    · rfl
  · next some =>
    have hpos := List.length_pos_iff.mpr some
    have htake : (places ++ mark :: rest).takeWhile Char.isDigit = places := by
      rw [List.takeWhile_append_of_pos hdigits, List.takeWhile_cons_of_neg (by simp [hdigit]),
        List.append_nil]
    have hdrop : (places ++ mark :: rest).dropWhile Char.isDigit = mark :: rest := by
      rw [List.dropWhile_append_of_pos hdigits, List.dropWhile_cons_of_neg (by simp [hdigit])]
    rw [List.cons_append, nanos?]
    simp only [htake, hdrop, hvalue]
    rw [dif_pos ⟨hpos, hlength, nanos.isLt⟩]

/-- A zone begins with the letter Z or with a sign, and reads back. -/
theorem offset?_zone {offset : Int} (hday : offset.natAbs < 86400)
    (hminutes : offset.natAbs % 60 = 0) :
    offset? (zone offset) = some offset ∧
      ∃ mark rest, zone offset = mark :: rest ∧ mark.isDigit = false ∧ mark ≠ '.' := by
  unfold zone
  split
  · next hzero => exact ⟨hzero ▸ rfl, 'Z', [], rfl, rfl, by decide⟩
  · have habs : offset.natAbs = offset.natAbs / 60 * 60 := by omega
    generalize offset.natAbs / 60 = minutes at *
    have hhours := number?_padded 2 (n := minutes / 60) (by decide) (by omega)
    have hrest := number?_padded 2 (n := minutes % 60) (by decide) (by omega) []
    rw [List.append_nil] at hrest
    have hlimits : minutes / 60 < 24 ∧ minutes % 60 < 60 := by omega
    dsimp only
    split
    · refine ⟨?_, '-', _, rfl, rfl, by decide⟩
      simp [offset?, hhours, hrest, behind?, hlimits]
      omega
    · refine ⟨?_, '+', _, rfl, rfl, by decide⟩
      simp [offset?, hhours, hrest, behind?, hlimits]
      omega

end Parts

theorem IsWritable.exists_write {t : Timestamp} (h : t.IsWritable) :
    ∃ text, t.write = .ok text := by
  have hyear : ¬(t.date.year < 0 ∨ 9999 < t.date.year) := by
    obtain ⟨hlow, hhigh⟩ := h.year
    omega
  have hday : ¬24 * 3600 ≤ t.offset.natAbs := Nat.not_le.mpr h.belowDay
  exact ⟨_, by rw [write, if_neg hyear, if_neg hday, if_neg (not_not.mpr h.minutes)]⟩

theorem isWritable_of_write {t : Timestamp} {text : List Char} (h : t.write = .ok text) :
    t.IsWritable := by
  simp only [write] at h
  split at h
  · exact nomatch h
  · next hyear =>
    split at h
    · exact nomatch h
    · next hday =>
      split at h
      · exact nomatch h
      · next hminutes => exact ⟨by omega, Nat.not_le.mp hday, not_not.mp hminutes⟩

/-- A moment is read back from the text that is written for it. -/
theorem read?_write {t : Timestamp} {text : List Char} (h : t.write = .ok text) :
    read? text = some t := by
  obtain ⟨⟨hlow, hhigh⟩, hday, hminutes⟩ := isWritable_of_write h
  obtain ⟨hoffset, mark, rest, hzone, hmark⟩ := offset?_zone hday hminutes
  have hnanos := nanos?_fraction t.nanos hmark.1 hmark.2 rest
  rw [← hzone] at hnanos
  obtain ⟨hvalid, hdays⟩ : t.date.isValid = true ∧
      t.date.toDays = (t.seconds + t.offset) / 86400 := CivilDate.toDays_ofDays hlow
  have htime : ((t.seconds + t.offset) % 86400).toNat < 86400 := by omega
  simp only [write, if_neg (show ¬(t.date.year < 0 ∨ 9999 < t.date.year) by omega),
    if_neg (show ¬24 * 3600 ≤ t.offset.natAbs by omega), hminutes, ne_eq, not_true_eq_false,
    if_false, Except.ok.injEq] at h
  rw [← h]
  simp only [List.append_assoc, List.cons_append, read?, date?_padded hvalid hlow hhigh,
    clock?_padded htime, behind?, if_true, Option.bind_eq_bind, Option.bind_some, hnanos, hoffset,
    hdays]
  have hseconds : (t.seconds + t.offset) / 86400 * 86400 +
      (((t.seconds + t.offset) % 86400).toNat : Int) - t.offset = t.seconds := by omega
  rw [hseconds]
  rfl

/-- Half a second after the beginning of a leap day, an hour east. -/
example : Timestamp.write ⟨1709161200, 500000000, 3600⟩ =
    .ok "2024-02-29T00:00:00.5+01:00".toList := by
  decide +kernel

end Timestamp

end CallWatch
