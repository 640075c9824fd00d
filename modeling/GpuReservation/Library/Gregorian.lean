import Mathlib.Tactic.IntervalCases
import Mathlib.Data.List.Basic

/-!
# Seconds and their UTC texts

The proleptic Gregorian calendar with its days counted from 1 January of year 1, and the text of a second in
UTC.  The text determines the second, and the reader accepts nothing which is not written so.
-/

namespace GpuReservation.Library

def isLeap (year : Nat) : Bool := year % 4 = 0 && (year % 100 ≠ 0 || year % 400 = 0)

def daysBeforeYear (year : Nat) : Nat :=
  (year - 1) * 365 + (year - 1) / 4 - (year - 1) / 100 + (year - 1) / 400

def daysInMonth (leap : Bool) : Nat → Nat
  | 2 => if leap then 29 else 28
  | 4 | 6 | 9 | 11 => 30
  | _ => 31

/-- Days of the year before a month. -/
def daysBeforeMonth (leap : Bool) (month : Nat) : Nat :=
  ((List.range' 1 (month - 1)).map (daysInMonth leap)).sum

/-- A month and a day of it, for a day of the year counted from 0: the estimate is at most one too large. -/
def monthDay (leap : Bool) (n : Nat) : Nat × Nat :=
  let estimate := (n + 50) / 32
  if n < daysBeforeMonth leap estimate then (estimate - 1, n - daysBeforeMonth leap (estimate - 1) + 1)
  else (estimate, n - daysBeforeMonth leap estimate + 1)

/-- A year and a day of it counted from 0, for a day counted from 0. -/
def yearDay (n : Nat) : Nat × Nat :=
  let n400 := n / 146097
  let n100 := n % 146097 / 36524
  let n4 := n % 146097 % 36524 / 1461
  let n1 := n % 146097 % 36524 % 1461 / 365
  let year := n400 * 400 + n100 * 100 + n4 * 4 + n1
  if n1 = 4 ∨ n100 = 4 then (year, 365)
  else (year + 1, n % 146097 % 36524 % 1461 % 365)

structure CivilDate where
  year : Nat
  month : Nat
  day : Nat
  deriving DecidableEq, Repr

/-- There is such a day. -/
structure CivilDate.Valid (d : CivilDate) : Prop where
  year : 1 ≤ d.year
  month : 1 ≤ d.month ∧ d.month ≤ 12
  day : 1 ≤ d.day ∧ d.day ≤ daysInMonth (isLeap d.year) d.month

instance (d : CivilDate) : Decidable d.Valid :=
  decidable_of_iff (1 ≤ d.year ∧ (1 ≤ d.month ∧ d.month ≤ 12) ∧
    1 ≤ d.day ∧ d.day ≤ daysInMonth (isLeap d.year) d.month)
    ⟨fun h => ⟨h.1, h.2.1, h.2.2⟩, fun h => ⟨h.year, h.month, h.day⟩⟩

/-- The days before a day. -/
def CivilDate.dayNumber (d : CivilDate) : Nat :=
  daysBeforeYear d.year + daysBeforeMonth (isLeap d.year) d.month + (d.day - 1)

def CivilDate.ofDayNumber (n : Nat) : CivilDate :=
  let leap := isLeap (yearDay n).1
  { year := (yearDay n).1
    month := (monthDay leap (yearDay n).2).1
    day := (monthDay leap (yearDay n).2).2 }

section Days

/-- Days of a year. -/
def yearLength (leap : Bool) : Nat := if leap then 366 else 365

lemma monthDay_spec (leap : Bool) : ∀ n < yearLength leap,
    1 ≤ (monthDay leap n).1 ∧ (monthDay leap n).1 ≤ 12 ∧ 1 ≤ (monthDay leap n).2 ∧
      (monthDay leap n).2 ≤ daysInMonth leap (monthDay leap n).1 ∧
      daysBeforeMonth leap (monthDay leap n).1 + ((monthDay leap n).2 - 1) = n := by
  cases leap <;> decide +kernel

lemma monthDay_daysBeforeMonth (leap : Bool) : ∀ month < 13, ∀ day < 32,
    1 ≤ month ∧ 1 ≤ day ∧ day ≤ daysInMonth leap month →
      daysBeforeMonth leap month + (day - 1) < yearLength leap ∧
        monthDay leap (daysBeforeMonth leap month + (day - 1)) = (month, day) := by
  cases leap <;> decide +kernel

lemma isLeap_iff {year : Nat} :
    isLeap year = true ↔ year % 4 = 0 ∧ (year % 100 ≠ 0 ∨ year % 400 = 0) := by
  simp [isLeap]

lemma le_yearLength (leap : Bool) : 365 ≤ yearLength leap := by cases leap <;> decide

/-- A day by the eras, centuries, spans of four years and years before it, where its year is not the
last of its era or of its span. -/
lemma daysBeforeYear_parts {a b c d : Nat} (hb : b ≤ 3) (hc : c ≤ 24) (hd : d ≤ 3) :
    daysBeforeYear (a * 400 + b * 100 + c * 4 + d + 1) = 146097 * a + 36524 * b + 1461 * c + 365 * d := by
  have hfour : (a * 400 + b * 100 + c * 4 + d) / 4 = 100 * a + 25 * b + c := by omega
  have hcentury : (a * 400 + b * 100 + c * 4 + d) / 100 = 4 * a + b := by omega
  have hera : (a * 400 + b * 100 + c * 4 + d) / 400 = a := by omega
  rw [daysBeforeYear, Nat.add_sub_cancel, hfour, hcentury, hera]
  omega

lemma yearDay_spec (n : Nat) :
    1 ≤ (yearDay n).1 ∧ (yearDay n).2 < yearLength (isLeap (yearDay n).1) ∧
      daysBeforeYear (yearDay n).1 + (yearDay n).2 = n := by
  rw [yearDay]
  obtain ⟨a, ha⟩ : ∃ a, a = n / 146097 := ⟨_, rfl⟩
  obtain ⟨b, hb⟩ : ∃ b, b = n % 146097 / 36524 := ⟨_, rfl⟩
  obtain ⟨c, hc⟩ : ∃ c, c = n % 146097 % 36524 / 1461 := ⟨_, rfl⟩
  obtain ⟨d, hd⟩ : ∃ d, d = n % 146097 % 36524 % 1461 / 365 := ⟨_, rfl⟩
  rw [← ha, ← hb, ← hc, ← hd]
  split
  · rename_i hlast
    -- the last day of a leap year: what is before the year is what is before its last year but one
    obtain ⟨b', c', d', hb', hc', hd', hparts⟩ : ∃ b' c' d', b' ≤ 3 ∧ c' ≤ 24 ∧ d' = 3 ∧
        (b * 100 + c * 4 + d = b' * 100 + c' * 4 + d' + 1 ∧ (c' ≠ 24 ∨ b' = 3)) := by
      by_cases hfour : b = 4
      · exact ⟨3, 24, 3, by omega, by omega, rfl, by omega, .inr rfl⟩
      · exact ⟨b, c, 3, by omega, by omega, rfl, by omega, by omega⟩
    obtain ⟨hsum, hspan⟩ := hparts
    have hyear : a * 400 + b * 100 + c * 4 + d = a * 400 + b' * 100 + c' * 4 + d' + 1 := by omega
    have hleap : isLeap (a * 400 + b' * 100 + c' * 4 + d' + 1) = true :=
      isLeap_iff.mpr (by omega)
    dsimp only
    rw [hyear, hleap, daysBeforeYear_parts hb' hc' (by omega)]
    refine ⟨by omega, by decide, ?_⟩
    by_cases hfour : b = 4
    · omega
    · omega
  · rename_i hlast
    have hlength := le_yearLength (isLeap (a * 400 + b * 100 + c * 4 + d + 1))
    dsimp only
    rw [daysBeforeYear_parts (by omega) (by omega) (by omega)]
    exact ⟨by omega, by omega, by omega⟩

/-- The days of a year come after those before it and before those of the next. -/
lemma daysBeforeYear_succ (year : Nat) (h : 1 ≤ year) :
    daysBeforeYear (year + 1) = daysBeforeYear year + yearLength (isLeap year) := by
  obtain ⟨y, rfl⟩ : ∃ y, year = y + 1 := ⟨year - 1, by omega⟩
  have hfour : (y + 1) / 4 = y / 4 + if (y + 1) % 4 = 0 then 1 else 0 := by split <;> omega
  have hcentury : (y + 1) / 100 = y / 100 + if (y + 1) % 100 = 0 then 1 else 0 := by split <;> omega
  have hera : (y + 1) / 400 = y / 400 + if (y + 1) % 400 = 0 then 1 else 0 := by split <;> omega
  have hle : y / 100 ≤ y / 4 := Nat.div_le_div_left (by decide) (by decide)
  rw [daysBeforeYear, daysBeforeYear, Nat.add_sub_cancel, Nat.add_sub_cancel, hfour, hcentury, hera,
    yearLength]
  by_cases h4 : (y + 1) % 4 = 0
  · by_cases h100 : (y + 1) % 100 = 0
    · by_cases h400 : (y + 1) % 400 = 0
      · rw [if_pos h4, if_pos h100, if_pos h400, if_pos (isLeap_iff.mpr ⟨h4, .inr h400⟩)]
        omega
      · rw [if_pos h4, if_pos h100, if_neg h400, if_neg fun h => (isLeap_iff.mp h).2.elim (· h100) h400]
        omega
    · have h400 : (y + 1) % 400 ≠ 0 := by omega
      rw [if_pos h4, if_neg h100, if_neg h400, if_pos (isLeap_iff.mpr ⟨h4, .inl h100⟩)]
      omega
  · have h100 : (y + 1) % 100 ≠ 0 := by omega
    have h400 : (y + 1) % 400 ≠ 0 := by omega
    rw [if_neg h4, if_neg h100, if_neg h400, if_neg fun h => h4 (isLeap_iff.mp h).1]
    omega

lemma daysBeforeYear_mono {year year' : Nat} (h : 1 ≤ year) (hle : year ≤ year') :
    daysBeforeYear year ≤ daysBeforeYear year' := by
  induction year', hle using Nat.le_induction with
  | base => exact le_refl _
  | succ year' hle ih =>
    rw [daysBeforeYear_succ year' (by omega)]
    omega

lemma yearDay_unique {year day n : Nat} (hyear : 1 ≤ year) (hday : day < yearLength (isLeap year))
    (hn : daysBeforeYear year + day = n) : yearDay n = (year, day) := by
  obtain ⟨hyear', hday', hn'⟩ := yearDay_spec n
  have hsame : (yearDay n).1 = year := by
    rcases lt_trichotomy (yearDay n).1 year with hlt | heq | hlt
    · have hmono := daysBeforeYear_mono (by omega) (Nat.succ_le_of_lt hlt)
      rw [Nat.succ_eq_add_one, daysBeforeYear_succ _ hyear'] at hmono
      omega
    · exact heq
    · have hmono := daysBeforeYear_mono (by omega) (Nat.succ_le_of_lt hlt)
      rw [Nat.succ_eq_add_one, daysBeforeYear_succ _ hyear] at hmono
      omega
  rw [hsame] at hn'
  exact Prod.ext hsame (by omega)

lemma CivilDate.valid_ofDayNumber (n : Nat) : (CivilDate.ofDayNumber n).Valid := by
  obtain ⟨hyear, hday, -⟩ := yearDay_spec n
  obtain ⟨hmonth, hmonth', hday, hday', -⟩ := monthDay_spec _ _ hday
  exact ⟨hyear, ⟨hmonth, hmonth'⟩, hday, hday'⟩

/-- A day is found again by its number. -/
lemma CivilDate.dayNumber_ofDayNumber (n : Nat) : (CivilDate.ofDayNumber n).dayNumber = n := by
  obtain ⟨-, hday, hn⟩ := yearDay_spec n
  obtain ⟨-, -, -, -, hsum⟩ := monthDay_spec _ _ hday
  rw [CivilDate.dayNumber, CivilDate.ofDayNumber]
  dsimp only
  omega

lemma daysInMonth_le (leap : Bool) (month : Nat) : daysInMonth leap month ≤ 31 := by
  rw [daysInMonth.eq_def]
  split
  · split <;> decide
  all_goals decide

lemma CivilDate.ofDayNumber_dayNumber {d : CivilDate} (h : d.Valid) :
    CivilDate.ofDayNumber d.dayNumber = d := by
  have hle := daysInMonth_le (isLeap d.year) d.month
  obtain ⟨hlt, hmonth⟩ := monthDay_daysBeforeMonth (isLeap d.year) d.month (by have := h.month; omega)
    d.day (by have := h.day; omega) ⟨h.month.1, h.day⟩
  have hyear : yearDay d.dayNumber =
      (d.year, daysBeforeMonth (isLeap d.year) d.month + (d.day - 1)) :=
    yearDay_unique h.year hlt (by rw [CivilDate.dayNumber]; omega)
  rw [CivilDate.ofDayNumber, hyear]
  dsimp only
  rw [hmonth]

end Days

section Text

def twoDigits (n : Nat) : List Char := [(n / 10).digitChar, (n % 10).digitChar]

def dateChars (century year month day : Nat) : List Char :=
  twoDigits century ++ twoDigits year ++ '-' :: twoDigits month ++ '-' :: twoDigits day

def clockChars (hour minute second : Nat) : List Char :=
  twoDigits hour ++ ':' :: twoDigits minute ++ ':' :: twoDigits second

/-- The day number of 1 January 1970. -/
def epochDay : Nat := 719162

/-- The text of a second since 1970, `YYYY-MM-DDTHH:MM:SSZ`. -/
def isoChars (second : Int) : List Char :=
  let d := CivilDate.ofDayNumber (second / 86400 + epochDay).toNat
  let ofDay := (second % 86400).toNat
  dateChars (d.year / 100) (d.year % 100) d.month d.day ++
    'T' :: (clockChars (ofDay / 3600) (ofDay / 60 % 60) (ofDay % 60) ++ ['Z'])

def readDigit (c : Char) : Option Nat :=
  if '0' ≤ c ∧ c ≤ '9' then some (c.toNat - 48) else none

def readTwo : List Char → Option (Nat × List Char)
  | a :: b :: l => (readDigit a).bind fun m => (readDigit b).map fun n => (10 * m + n, l)
  | _ => none

def expect (c : Char) : List Char → Option (List Char)
  | a :: l => if a = c then some l else none
  | [] => none

/-- A day and a time of day, as a second since 1970, if there is such a second. -/
def secondOf (d : CivilDate) (hour minute second : Nat) : Option Int :=
  if d.Valid ∧ hour < 24 ∧ minute < 60 ∧ second < 60 then
    some (((d.dayNumber : Int) - epochDay) * 86400 + (hour * 3600 + minute * 60 + second : Nat))
  else none

/-- Century, year of it, month and day. -/
def readDate (l : List Char) : Option ((Nat × Nat × Nat × Nat) × List Char) := do
  let (century, l) ← readTwo l
  let (year, l) ← readTwo l
  let l ← expect '-' l
  let (month, l) ← readTwo l
  let l ← expect '-' l
  let (day, l) ← readTwo l
  return ((century, year, month, day), l)

/-- Hour, minute and second. -/
def readClock (l : List Char) : Option ((Nat × Nat × Nat) × List Char) := do
  let (hour, l) ← readTwo l
  let l ← expect ':' l
  let (minute, l) ← readTwo l
  let l ← expect ':' l
  let (second, l) ← readTwo l
  return ((hour, minute, second), l)

def readIso (l : List Char) : Option Int := do
  let ((century, year, month, day), l) ← readDate l
  let l ← expect 'T' l
  let ((hour, minute, second), l) ← readClock l
  let l ← expect 'Z' l
  if l = [] then secondOf ⟨100 * century + year, month, day⟩ hour minute second else none

/-- `HH:MM`, in seconds. -/
def readHourMinute (l : List Char) : Option Int := do
  let (hour, l) ← readTwo l
  let l ← expect ':' l
  let (minute, l) ← readTwo l
  if l = [] ∧ hour < 24 ∧ minute < 60 then some (hour * 3600 + minute * 60 : Nat) else none

/-- An offset from UTC, in seconds. -/
def readOffset : List Char → Option Int
  | '+' :: l => readHourMinute l
  | '-' :: l => (readHourMinute l).map Neg.neg
  | _ => none

/-- A second of the clock, and its offset: `YYYY-MM-DDTHH:MM:SS+HH:MM`. -/
def readIsoOffset (l : List Char) : Option (Int × Int) := do
  let second ← readIso (l.take 19 ++ ['Z'])
  let offset ← readOffset (l.drop 19)
  return (second, offset)

/-- The seconds of the years 1 to 9999. -/
def inCalendar (second : Int) : Prop :=
  0 ≤ second / 86400 + epochDay ∧
    (CivilDate.ofDayNumber (second / 86400 + epochDay).toNat).year ≤ 9999

instance (second : Int) : Decidable (inCalendar second) := inferInstanceAs (Decidable (_ ∧ _))

lemma readDigit_eq_some_iff {c : Char} {n : Nat} :
    readDigit c = some n ↔ n < 10 ∧ c = n.digitChar := by
  rw [readDigit]
  constructor
  · intro h
    split at h
    · rename_i hc
      cases h
      have hlo : 48 ≤ c.toNat := hc.1
      have hhi : c.toNat ≤ 57 := hc.2
      refine ⟨by omega, Char.toNat_inj.mp ?_⟩
      rw [Nat.toNat_digitChar_of_lt_ten (by omega)]
      omega
    · cases h
  · rintro ⟨hn, rfl⟩
    interval_cases n <;> rfl

lemma readTwo_eq_some_iff {l l' : List Char} {n : Nat} :
    readTwo l = some (n, l') ↔ n < 100 ∧ l = twoDigits n ++ l' := by
  rw [readTwo.eq_def]
  constructor
  · intro h
    split at h
    · obtain ⟨a, ha, hrest⟩ := Option.bind_eq_some_iff.mp h
      obtain ⟨b, hb, hread⟩ := Option.map_eq_some_iff.mp hrest
      obtain ⟨ha, rfl⟩ := readDigit_eq_some_iff.mp ha
      obtain ⟨hb, rfl⟩ := readDigit_eq_some_iff.mp hb
      cases hread
      have hdiv : (10 * a + b) / 10 = a := by omega
      have hmod : (10 * a + b) % 10 = b := by omega
      refine ⟨by omega, ?_⟩
      rw [twoDigits, hdiv, hmod]
      rfl
    · cases h
  · rintro ⟨hn, rfl⟩
    have hdiv := readDigit_eq_some_iff.mpr ⟨show n / 10 < 10 by omega, rfl⟩
    have hmod := readDigit_eq_some_iff.mpr ⟨show n % 10 < 10 by omega, rfl⟩
    simp only [twoDigits, List.cons_append, List.nil_append, hdiv, hmod, Option.bind_some,
      Option.map_some]
    rw [show 10 * (n / 10) + n % 10 = n by omega]

lemma expect_eq_some_iff {c : Char} {l l' : List Char} : expect c l = some l' ↔ l = c :: l' := by
  cases l with
  | nil => simp [expect]
  | cons a l =>
    rw [expect]
    by_cases ha : a = c <;> simp [ha]

lemma secondOf_eq_some_iff {d : CivilDate} {hour minute second : Nat} {s : Int} :
    secondOf d hour minute second = some s ↔
      d = CivilDate.ofDayNumber (s / 86400 + epochDay).toNat ∧ 0 ≤ s / 86400 + epochDay ∧
        hour = (s % 86400).toNat / 3600 ∧ minute = (s % 86400).toNat / 60 % 60 ∧
          second = (s % 86400).toNat % 60 := by
  rw [secondOf]
  constructor
  · intro h
    split at h
    · rename_i hvalid
      obtain ⟨hd, hhour, hminute, hsecond⟩ := hvalid
      rw [Option.some.injEq] at h
      have hday : s / 86400 + epochDay = d.dayNumber := by omega
      have hofDay : (s % 86400).toNat = hour * 3600 + minute * 60 + second := by omega
      rw [hday, hofDay, Int.toNat_natCast, CivilDate.ofDayNumber_dayNumber hd]
      exact ⟨rfl, by omega, by omega, by omega, by omega⟩
    · cases h
  · rintro ⟨rfl, hday, rfl, rfl, rfl⟩
    rw [if_pos ⟨CivilDate.valid_ofDayNumber _, by omega, by omega, by omega⟩,
      CivilDate.dayNumber_ofDayNumber, Option.some.injEq]
    omega

lemma readDate_eq_some_iff {l l' : List Char} {century year month day : Nat} :
    readDate l = some ((century, year, month, day), l') ↔
      (century < 100 ∧ year < 100 ∧ month < 100 ∧ day < 100) ∧
        l = dateChars century year month day ++ l' := by
  simp only [readDate, Option.bind_eq_bind, Option.bind_eq_some_iff, Prod.exists, readTwo_eq_some_iff,
    expect_eq_some_iff, Option.pure_def, Option.some.injEq, Prod.mk.injEq]
  constructor
  · rintro ⟨_, _, ⟨hcentury, rfl⟩, _, _, ⟨hyear, rfl⟩, _, rfl, _, _, ⟨hmonth, rfl⟩, _, rfl, _, _,
      ⟨hday, rfl⟩, ⟨rfl, rfl, rfl, rfl⟩, rfl⟩
    exact ⟨⟨hcentury, hyear, hmonth, hday⟩, by simp [dateChars]⟩
  · rintro ⟨⟨hcentury, hyear, hmonth, hday⟩, rfl⟩
    exact ⟨_, _, ⟨hcentury, by simp only [dateChars, List.append_assoc, List.cons_append]⟩, _, _,
      ⟨hyear, rfl⟩, _, rfl, _, _, ⟨hmonth, rfl⟩, _, rfl, _, _, ⟨hday, rfl⟩, ⟨rfl, rfl, rfl, rfl⟩, rfl⟩

lemma readClock_eq_some_iff {l l' : List Char} {hour minute second : Nat} :
    readClock l = some ((hour, minute, second), l') ↔
      (hour < 100 ∧ minute < 100 ∧ second < 100) ∧ l = clockChars hour minute second ++ l' := by
  simp only [readClock, Option.bind_eq_bind, Option.bind_eq_some_iff, Prod.exists, readTwo_eq_some_iff,
    expect_eq_some_iff, Option.pure_def, Option.some.injEq, Prod.mk.injEq]
  constructor
  · rintro ⟨_, _, ⟨hhour, rfl⟩, _, rfl, _, _, ⟨hminute, rfl⟩, _, rfl, _, _, ⟨hsecond, rfl⟩,
      ⟨rfl, rfl, rfl⟩, rfl⟩
    exact ⟨⟨hhour, hminute, hsecond⟩, by simp [clockChars]⟩
  · rintro ⟨⟨hhour, hminute, hsecond⟩, rfl⟩
    exact ⟨_, _, ⟨hhour, by simp only [clockChars, List.append_assoc, List.cons_append]⟩, _, rfl, _, _,
      ⟨hminute, rfl⟩, _, rfl, _, _, ⟨hsecond, rfl⟩, ⟨rfl, rfl, rfl⟩, rfl⟩

/-- The reader accepts the texts which are written, and reads off each the second it was written for. -/
theorem readIso_eq_some_iff {l : List Char} {s : Int} :
    readIso l = some s ↔ inCalendar s ∧ l = isoChars s := by
  simp only [readIso, Option.bind_eq_bind, Option.bind_eq_some_iff, Prod.exists, readDate_eq_some_iff,
    readClock_eq_some_iff, expect_eq_some_iff]
  constructor
  · rintro ⟨century, year, month, day, _, ⟨hdate, rfl⟩, _, rfl, hour, minute, second, _, ⟨hclock, rfl⟩,
      l, rfl, h⟩
    split at h
    · rename_i hl
      obtain ⟨hday, hcal, rfl, rfl, rfl⟩ := secondOf_eq_some_iff.mp h
      have hyears : (CivilDate.ofDayNumber (s / 86400 + epochDay).toNat).year = 100 * century + year := by
        rw [← hday]
      have hcentury : (100 * century + year) / 100 = century := by omega
      have hyear : (100 * century + year) % 100 = year := by omega
      rw [inCalendar, isoChars, ← hday, hl]
      dsimp only
      rw [hcentury, hyear]
      exact ⟨⟨hcal, by omega⟩, rfl⟩
    · cases h
  · rintro ⟨⟨hcal, hyear⟩, rfl⟩
    have hvalid := CivilDate.valid_ofDayNumber (s / 86400 + epochDay).toNat
    have hmonth := hvalid.month
    have hday := hvalid.day
    have hdays := daysInMonth_le (isLeap (CivilDate.ofDayNumber (s / 86400 + epochDay).toNat).year)
      (CivilDate.ofDayNumber (s / 86400 + epochDay).toNat).month
    refine ⟨_, _, _, _, _, ⟨⟨?_, ?_, ?_, ?_⟩, rfl⟩, _, rfl, _, _, _, _, ⟨⟨?_, ?_, ?_⟩, rfl⟩, _, rfl, ?_⟩
    all_goals try omega
    rw [if_pos rfl, secondOf_eq_some_iff, Nat.div_add_mod]
    exact ⟨rfl, hcal, rfl, rfl, rfl⟩

end Text

end GpuReservation.Library
