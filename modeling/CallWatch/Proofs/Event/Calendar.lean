import CallWatch.Timestamp
import Mathlib.Order.Basic
import Mathlib.Tactic.IntervalCases

/-! The calendar. The days up to a date are counted by the lengths of the years and months, and the
date that is found for a day is one of the calendar and that many days away (`toDays_ofDays`). -/

namespace CallWatch

namespace CivilDate

/-- Whether a year has a 29th of February. -/
def isLeap (year : Int) : Bool :=
  year % 4 = 0 ∧ (year % 100 ≠ 0 ∨ year % 400 = 0)

def monthDays (year : Int) (month : Nat) : Nat :=
  match month with
  | 2 => if isLeap year then 29 else 28
  | 4 | 6 | 9 | 11 => 30
  | _ => 31

/-- The days from the beginning of the year 0 to that of a year. -/
def yearStart : Nat → Nat
  | 0 => 0
  | year + 1 => yearStart year + if isLeap year then 366 else 365

/-- The days from the beginning of a year to that of a month. -/
def monthStart (year : Int) : Nat → Nat
  | 0 | 1 => 0
  | month + 1 => monthStart year month + monthDays year month

/-- Whether the calendar has a date, from the year 0 on. -/
def isValid (d : CivilDate) : Bool :=
  0 ≤ d.year ∧ 1 ≤ d.month ∧ d.month ≤ 12 ∧ 1 ≤ d.day ∧ d.day ≤ monthDays d.year d.month

/-- The days from the first of January 1970 to a date. -/
def toDays (d : CivilDate) : Int :=
  (yearStart d.year.toNat + monthStart d.year d.month + d.day - 1 : Int) - yearStart 1970

theorem isLeap_iff {year : Int} :
    isLeap year = true ↔ year % 4 = 0 ∧ (year % 100 ≠ 0 ∨ year % 400 = 0) :=
  decide_eq_true_iff

theorem monthDays_le (year : Int) (month : Nat) : monthDays year month ≤ 31 := by
  unfold monthDays
  split <;> [split; skip; skip; skip; skip; skip] <;> decide

/-- The leap days before a year, from the year 0 on. -/
def leapsBefore (year : Int) : Int :=
  (year + 3) / 4 - (year + 99) / 100 + (year + 399) / 400

theorem leapsBefore_succ (year : Int) :
    leapsBefore (year + 1) = leapsBefore year + if isLeap year then 1 else 0 := by
  unfold leapsBefore
  split
  · next leap =>
    rw [isLeap_iff] at leap
    omega
  · next common =>
    rw [isLeap_iff] at common
    omega

theorem yearStart_eq (year : Nat) : (yearStart year : Int) = 365 * year + leapsBefore year := by
  induction year with
  | zero => rfl
  | succ year ih =>
    have hleaps := leapsBefore_succ year
    rw [yearStart]
    push_cast
    split at hleaps <;> split <;> first | contradiction | omega

theorem monthStart_eq (year : Int) {marchMonth : Nat} (h : marchMonth < 10) :
    monthStart year (marchMonth + 3) =
      (153 * marchMonth + 2) / 5 + if isLeap year then 60 else 59 := by
  cases leap : isLeap year <;> interval_cases marchMonth <;> simp [monthStart, monthDays, leap]

/-- The days of an era up to one of them, without the leap days. -/
def evened (day : Nat) : Nat :=
  day - day / 1460 + day / 36524 - day / 146096

/-- The day of an era with which one of its years begins. -/
def eraDay (year : Nat) : Nat :=
  365 * year + year / 4 - year / 100 + year / 400

theorem evened_mono {first last : Nat} (h : first ≤ last) (hlast : last < 146097) :
    evened first ≤ evened last := by
  induction last, h using Nat.le_induction with
  | base => exact Nat.le_refl _
  | succ day _ ih =>
    have hnext : evened day ≤ evened (day + 1) := by
      unfold evened
      omega
    exact Nat.le_trans (ih (by omega)) hnext

theorem evened_ends : ∀ year < 400, 365 * year ≤ evened (eraDay year) ∧
    evened (eraDay (year + 1) - 1) < 365 * (year + 1) ∧ 0 < eraDay (year + 1) ∧
      eraDay (year + 1) ≤ 146097 := by
  decide +kernel

/-- A day of an era lies in the year that its evened number gives. -/
theorem eraDay_le {day : Nat} (h : day < 146097) :
    evened day / 365 < 400 ∧ eraDay (evened day / 365) ≤ day ∧
      day < eraDay (evened day / 365 + 1) := by
  have hlast : evened 146096 < 365 * 400 := by decide
  have hmost := evened_mono (Nat.le_of_lt_succ h) (by decide)
  generalize hyear : evened day / 365 = year
  have hcount : year < 400 := by omega
  -- The evened numbers grow with the days: it is enough to know them where a year begins or ends.
  refine ⟨hcount, ?_, ?_⟩
  · by_contra hsooner
    cases year with
    | zero => exact hsooner (Nat.zero_le _)
    | succ before =>
      obtain ⟨-, hend, -, hbound⟩ := evened_ends before (by omega)
      have hless : evened day ≤ evened (eraDay (before + 1) - 1) :=
        evened_mono (by omega) (by omega)
      omega
  · by_contra hlater
    rcases Nat.lt_or_ge (year + 1) 400 with hnext | hfinal
    · obtain ⟨hbegin, -⟩ := evened_ends (year + 1) hnext
      have hmore : evened (eraDay (year + 1)) ≤ evened day := evened_mono (by omega) h
      omega
    · obtain rfl : year = 399 := by omega
      exact hlater h

theorem eraDay_succ {year : Nat} (h : year < 400) (era : Int) :
    eraDay (year + 1) = eraDay year + if isLeap (year + era * 400 + 1) then 366 else 365 := by
  unfold eraDay
  split
  · next leap =>
    rw [isLeap_iff] at leap
    omega
  · next common =>
    rw [isLeap_iff] at common
    omega

theorem leapsBefore_of_era (era : Int) {year : Nat} (h : year < 400) :
    365 * (year + era * 400) + leapsBefore (year + era * 400 + 1) =
      146097 * era + eraDay year + 1 := by
  unfold leapsBefore eraDay
  omega

/-- The date of a day, by the year that begins with the March before it, and by the day and the
month of that year. -/
theorem ofDays_eq (days : Int) : ∃ (marchYear : Int) (dayOfYear marchMonth : Nat),
    days + 719468 = 365 * marchYear + leapsBefore (marchYear + 1) - 1 + dayOfYear ∧
    (dayOfYear < if isLeap (marchYear + 1) then 366 else 365) ∧
    marchMonth = (5 * dayOfYear + 2) / 153 ∧
    ofDays days =
      if marchMonth < 10 then
        ⟨marchYear, marchMonth + 3, dayOfYear - (153 * marchMonth + 2) / 5 + 1⟩
      else ⟨marchYear + 1, marchMonth - 9, dayOfYear - (153 * marchMonth + 2) / 5 + 1⟩ := by
  obtain ⟨era, day, hdays, hday⟩ : ∃ (era : Int) (day : Nat),
      days + 719468 = 146097 * era + day ∧ day < 146097 :=
    ⟨(days + 719468) / 146097, ((days + 719468) % 146097).toNat, by omega, by omega⟩
  have hera : (days + 719468) / 146097 = era := by omega
  have hdayOfEra : ((days + 719468) % 146097).toNat = day := by omega
  obtain ⟨hyear, hlow, hhigh⟩ := eraDay_le hday
  have hevened : day - day / 1460 + day / 36524 - day / 146096 = evened day := rfl
  simp only [ofDays, hera, hdayOfEra, hevened]
  generalize evened day / 365 = year at *
  have hbegin : 365 * year + year / 4 - year / 100 = eraDay year := by
    unfold eraDay
    omega
  have hleaps := leapsBefore_of_era era hyear
  have hnext := eraDay_succ hyear era
  rw [hbegin]
  refine ⟨year + era * 400, day - eraDay year, _, by omega, by omega, rfl, ?_⟩
  have hlong : day - eraDay year < 366 := by
    split at hnext <;> omega
  generalize day - eraDay year = dayOfYear at *
  split
  · rw [if_neg (by omega)]
    simp
  · rw [if_pos (by omega)]

/-- The date of a day is one of the calendar, and so many days away. -/
theorem toDays_ofDays {days : Int} (h : 0 ≤ (ofDays days).year) :
    (ofDays days).isValid = true ∧ (ofDays days).toDays = days := by
  have h1970 : (yearStart 1970 : Int) = 719528 := by
    rw [yearStart_eq]
    rfl
  obtain ⟨marchYear, dayOfYear, marchMonth, hdays, hlast, hmonth, hdate⟩ := ofDays_eq days
  have hlong : dayOfYear < 366 := by
    split at hlast <;> omega
  rw [isValid, decide_eq_true_iff, toDays, h1970]
  by_cases hearly : marchMonth < 10
  · rw [if_pos hearly] at hdate
    rw [hdate] at h ⊢
    dsimp only at h ⊢
    obtain ⟨year, rfl⟩ := Int.eq_ofNat_of_zero_le h
    have hstart := yearStart_eq year
    have hleaps := leapsBefore_succ year
    clear hlast
    rw [Int.toNat_natCast, monthStart_eq year hearly]
    refine ⟨⟨h, by omega, by omega, by omega, ?_⟩, ?_⟩
    · interval_cases marchMonth <;> simp only [monthDays] <;> omega
    · cases leap : isLeap year <;>
        simp only [leap, if_true, Bool.false_eq_true, if_false] at hleaps ⊢ <;> omega
  · -- January and February belong to the year that began with the March before.
    rw [if_neg hearly] at hdate
    rw [hdate] at h ⊢
    dsimp only at h ⊢
    obtain ⟨year, hyear⟩ := Int.eq_ofNat_of_zero_le h
    have hstart := yearStart_eq year
    rw [hyear] at hdays hlast ⊢
    rw [Int.toNat_natCast]
    obtain rfl | rfl : marchMonth = 10 ∨ marchMonth = 11 := by omega
    · simp only [Nat.reduceSub, monthDays, monthStart]
      omega
    · simp only [Nat.reduceSub, monthDays, monthStart]
      cases leap : isLeap year <;>
        simp only [leap, if_true, Bool.false_eq_true, if_false] at hlast ⊢ <;> omega

end CivilDate

end CallWatch
