import Mathlib.Algebra.Ring.Nat
import Stencil.Calendar.Moment

/-!
# Counting days

The ordinal number of a date and the instant of a moment are the places that they have in
the calendar: different dates have different numbers, the numbers are those from one to
the last day of the year 9999, and the functions that lead back from numbers to dates and
from instants to moments are inverse to these counts.
-/

namespace Stencil

namespace Calendar

variable {year later : Nat}

theorem isLeap_iff : isLeap year = true ↔ 4 ∣ year ∧ (¬ 100 ∣ year ∨ 400 ∣ year) := by
  simp [isLeap, Nat.dvd_iff_mod_eq_zero]

theorem sum_monthLengths (year : Nat) :
    (monthLengths year).sum = if isLeap year = true then 366 else 365 := by
  rw [monthLengths]
  split <;> rfl

theorem daysBeforeYear_succ (some : 1 ≤ year) :
    daysBeforeYear (year + 1) = daysBeforeYear year + (monthLengths year).sum := by
  obtain ⟨past, rfl⟩ := Nat.exists_eq_add_of_le' some
  have ofHundred : 100 ∣ past + 1 → 4 ∣ past + 1 := Nat.dvd_trans (by decide)
  have ofFourHundred : 400 ∣ past + 1 → 100 ∣ past + 1 := Nat.dvd_trans (by decide)
  have atMost : past / 100 ≤ past / 4 := Nat.div_le_div_left (by decide) (by decide)
  simp only [daysBeforeYear, Nat.add_sub_cancel, sum_monthLengths, isLeap_iff, Nat.succ_div]
  by_cases four : 4 ∣ past + 1
  · by_cases hundred : 100 ∣ past + 1
    · by_cases fourHundred : 400 ∣ past + 1
      · simp only [four, hundred, fourHundred, if_true, not_true, false_or, and_self]
        omega
      · simp only [four, hundred, fourHundred, if_true, if_false, not_true, or_self, and_false]
        omega
    · simp only [four, hundred, mt ofFourHundred hundred, if_true, if_false, not_false_iff, true_or,
        and_self]
      omega
  · simp only [four, mt ofHundred four, mt ofFourHundred (mt ofHundred four), if_false, false_and]
    omega

theorem daysBeforeYear_mono (some : 1 ≤ year) (notAfter : year ≤ later) :
    daysBeforeYear year ≤ daysBeforeYear later := by
  induction notAfter with
  | refl => exact Nat.le_refl _
  | @step later notAfter ih =>
      rw [Nat.succ_eq_add_one, daysBeforeYear_succ (Nat.le_trans some notAfter)]
      exact Nat.le_trans ih (Nat.le_add_right _ _)

/-- The days before the first of a month in its year. -/
def daysBeforeMonth (year month : Nat) : Nat :=
  ((monthLengths year).take (month - 1)).sum

section Months

variable {month : Nat}

theorem daysBeforeMonth_succ (some : 1 ≤ month) :
    daysBeforeMonth year (month + 1) = daysBeforeMonth year month + daysInMonth year month := by
  obtain ⟨index, rfl⟩ := Nat.exists_eq_add_of_le' some
  rw [daysBeforeMonth, daysBeforeMonth, daysInMonth, Nat.add_sub_cancel, Nat.add_sub_cancel,
    List.take_add_one, List.sum_append, List.getD_eq_getElem?_getD]
  cases (monthLengths year)[index]? <;> rfl

theorem daysBeforeMonth_mono {next : Nat} (some : 1 ≤ month) (notAfter : month ≤ next) :
    daysBeforeMonth year month ≤ daysBeforeMonth year next := by
  induction notAfter with
  | refl => exact Nat.le_refl _
  | @step next notAfter ih =>
      rw [Nat.succ_eq_add_one, daysBeforeMonth_succ (Nat.le_trans some notAfter)]
      exact Nat.le_trans ih (Nat.le_add_right _ _)

theorem add_le_daysBeforeMonth {day next : Nat} (some : 1 ≤ month)
    (inMonth : day ≤ daysInMonth year month) (before : month < next) :
    daysBeforeMonth year month + day ≤ daysBeforeMonth year next := by
  have further : daysBeforeMonth year (month + 1) ≤ daysBeforeMonth year next :=
    daysBeforeMonth_mono (Nat.le_succ_of_le some) before
  rw [daysBeforeMonth_succ some] at further
  omega

end Months

theorem add_le_daysBeforeYear {days : Nat} (some : 1 ≤ year)
    (inYear : days ≤ (monthLengths year).sum) (before : year < later) :
    daysBeforeYear year + days ≤ daysBeforeYear later := by
  have further : daysBeforeYear (year + 1) ≤ daysBeforeYear later :=
    daysBeforeYear_mono (Nat.le_succ_of_le some) before
  rw [daysBeforeYear_succ some] at further
  omega

section Cycles

variable {cycles centuries quads years : Nat}

theorem daysBeforeYear_cycles (fewCenturies : centuries ≤ 3) (fewQuads : quads ≤ 24)
    (fewYears : years ≤ 3) :
    daysBeforeYear (cycles * 400 + centuries * 100 + quads * 4 + years + 1) =
      cycles * 146097 + centuries * 36524 + quads * 1461 + years * 365 := by
  have byFour : (cycles * 400 + centuries * 100 + quads * 4 + years) / 4 =
      cycles * 100 + centuries * 25 + quads := by omega
  have byHundred : (cycles * 400 + centuries * 100 + quads * 4 + years) / 100 =
      cycles * 4 + centuries := by omega
  have byFourHundred : (cycles * 400 + centuries * 100 + quads * 4 + years) / 400 = cycles := by
    omega
  rw [daysBeforeYear, Nat.add_sub_cancel, byFour, byHundred, byFourHundred]
  omega

theorem isLeap_cycles (fewQuads : quads ≤ 24)
    (lasting : centuries = 3 ∨ quads ≠ 24) :
    isLeap (cycles * 400 + centuries * 100 + quads * 4 + 3 + 1) = true := by
  rw [isLeap_iff]
  omega

end Cycles

end Calendar

namespace Date

open Calendar

theorem ordinal_eq (date : Date) :
    date.ordinal =
      daysBeforeYear date.year + daysBeforeMonth date.year date.month + date.day := by
  have folded : ∀ (lengths : List Nat) (days : Nat),
      lengths.foldl (· + ·) days = days + lengths.sum := by
    intro lengths days
    induction lengths generalizing days with
    | nil => rfl
    | cons length lengths ih => rw [List.foldl_cons, ih, List.sum_cons, Nat.add_assoc]
  rw [ordinal, folded, daysBeforeMonth]

/-- The walk along the months ends at the one in which the day lies. -/
theorem walkMonths_spec {lengths : List Nat} {past : Nat} (inside : past < lengths.sum)
    (month : Nat) :
    ∃ index day, walkMonths month past lengths = (month + index, day) ∧ index < lengths.length ∧
      (1 ≤ day ∧ day ≤ lengths.getD index 0) ∧ (lengths.take index).sum + day = past + 1 := by
  induction lengths generalizing month past with
  | nil => exact absurd inside (Nat.not_lt_zero past)
  | cons length later ih =>
      rw [walkMonths]
      split
      · next within =>
          exact ⟨0, past + 1, rfl, Nat.zero_lt_succ _, ⟨Nat.le_add_left 1 past, within⟩, by simp⟩
      · next beyond =>
          rw [List.sum_cons] at inside
          obtain ⟨index, day, walked, listed, valid, reached⟩ :=
            ih (show past - length < later.sum by omega) (month + 1)
          refine ⟨index + 1, day, ?_, Nat.succ_lt_succ listed, by simpa using valid, ?_⟩
          · rw [walked, Nat.add_assoc, Nat.add_comm 1]
          · rw [List.take_succ_cons, List.sum_cons]
            omega

/-- Taking off the cycles leads to the year in which the day lies, whether or not that is
in the calendar. -/
theorem ofOrdinal?_year (past : Nat) :
    ∃ year inYear, 1 ≤ year ∧ inYear < (monthLengths year).sum ∧
      daysBeforeYear year + inYear = past ∧
      ofOrdinal? (past + 1 : Nat) =
        let (month, day) := walkMonths 1 inYear (monthLengths year)
        ofFields? year month day := by
  let cycles := past / 146097
  let inCycle := past % 146097
  let centuries := min 3 (inCycle / 36524)
  let inCentury := inCycle - centuries * 36524
  let quads := inCentury / 1461
  let inQuad := inCentury % 1461
  let years := min 3 (inQuad / 365)
  let inYear := inQuad - years * 365
  let year := cycles * 400 + centuries * 100 + quads * 4 + years + 1
  have fewCenturies : centuries ≤ 3 := Nat.min_le_left _ _
  have fewQuads : quads ≤ 24 := by omega
  have fewYears : years ≤ 3 := Nat.min_le_left _ _
  have before : daysBeforeYear year =
      cycles * 146097 + centuries * 36524 + quads * 1461 + years * 365 :=
    daysBeforeYear_cycles fewCenturies fewQuads fewYears
  have inside : inYear < (monthLengths year).sum := by
    rw [sum_monthLengths]
    -- Only the last year of four is left with a day number 366, and then it is a leap year.
    by_cases short : inYear < 365
    · split <;> omega
    · have last : years = 3 := by omega
      have leap : isLeap (cycles * 400 + centuries * 100 + quads * 4 + 3 + 1) = true :=
        isLeap_cycles fewQuads (by omega)
      rw [show isLeap year = true by rwa [← last] at leap, if_pos rfl]
      omega
  have positive : ¬ ((past + 1 : Nat) : Int) < 1 := by omega
  refine ⟨year, inYear, Nat.le_add_left _ _, inside, by omega, ?_⟩
  rw [ofOrdinal?, if_neg positive, Int.toNat_natCast, Nat.add_sub_cancel]

/-- The fields that a number leads to make up that day, whether or not it lies in the
calendar. -/
theorem ofOrdinal?_spec (past : Nat) :
    ∃ year month day, 1 ≤ year ∧ (1 ≤ month ∧ month ≤ 12) ∧
      (1 ≤ day ∧ day ≤ daysInMonth year month) ∧
      daysBeforeYear year + daysBeforeMonth year month + day = past + 1 ∧
      ofOrdinal? (past + 1 : Nat) = ofFields? year month day := by
  obtain ⟨year, inYear, some, inside, reached, found⟩ := ofOrdinal?_year past
  obtain ⟨index, day, walked, listed, valid, counted⟩ := walkMonths_spec inside 1
  have months : (monthLengths year).length = 12 := rfl
  rw [walked] at found
  refine ⟨year, 1 + index, day, some, by omega, ?_, ?_, found⟩
  · rwa [daysInMonth, Nat.add_sub_cancel_left]
  · rw [daysBeforeMonth, Nat.add_sub_cancel_left]
    omega

section Order

variable (date : Date) {other : Date}

theorem dayOfYear_le :
    daysBeforeMonth date.year date.month + date.day ≤ (monthLengths date.year).sum :=
  add_le_daysBeforeMonth date.valid.2.1.1 date.valid.2.2.2 (Nat.lt_succ_of_le date.valid.2.1.2)

theorem daysBeforeYear_lt_ordinal : daysBeforeYear date.year < date.ordinal := by
  have first := date.valid.2.2.1
  rw [ordinal_eq]
  omega

variable {date}

theorem ordinal_le_daysBeforeYear {later : Nat} (before : date.year < later) :
    date.ordinal ≤ daysBeforeYear later := by
  rw [ordinal_eq, Nat.add_assoc]
  exact add_le_daysBeforeYear date.valid.1.1 date.dayOfYear_le before

theorem ordinal_lt_of_year (earlier : date.year < other.year) : date.ordinal < other.ordinal :=
  Nat.lt_of_le_of_lt (ordinal_le_daysBeforeYear earlier) other.daysBeforeYear_lt_ordinal

theorem ordinal_lt_of_month (sameYear : date.year = other.year)
    (earlier : date.month < other.month) : date.ordinal < other.ordinal := by
  have upTo := add_le_daysBeforeMonth date.valid.2.1.1 date.valid.2.2.2 earlier
  have first := other.valid.2.2.1
  rw [ordinal_eq, ordinal_eq, ← sameYear]
  omega

theorem ordinal_injective : Function.Injective ordinal := by
  intro date other same
  have sameYear : date.year = other.year := by
    rcases Nat.lt_trichotomy date.year other.year with earlier | equal | later
    · exact absurd same (Nat.ne_of_lt (ordinal_lt_of_year earlier))
    · exact equal
    · exact absurd same (Nat.ne_of_gt (ordinal_lt_of_year later))
  have sameMonth : date.month = other.month := by
    rcases Nat.lt_trichotomy date.month other.month with earlier | equal | later
    · exact absurd same (Nat.ne_of_lt (ordinal_lt_of_month sameYear earlier))
    · exact equal
    · exact absurd same (Nat.ne_of_gt (ordinal_lt_of_month sameYear.symm later))
  have sameDay : date.day = other.day := by
    rw [ordinal_eq, ordinal_eq, sameYear, sameMonth] at same
    exact Nat.add_left_cancel same
  cases date
  cases other
  cases sameYear
  cases sameMonth
  cases sameDay
  rfl

end Order

def lastOrdinal : Nat := 3652059

theorem ordinal_le_lastOrdinal (date : Date) : date.ordinal ≤ lastOrdinal :=
  ordinal_le_daysBeforeYear (Nat.lt_succ_of_le date.valid.1.2)

/-- Every number up to that of the last day is the number of a date. -/
theorem exists_ofOrdinal? {number : Int} (positive : 1 ≤ number) (inside : number ≤ lastOrdinal) :
    ∃ date : Date, ofOrdinal? number = some date ∧ (date.ordinal : Int) = number := by
  obtain ⟨past, rfl⟩ : ∃ past : Nat, number = (past + 1 : Nat) := ⟨(number - 1).toNat, by omega⟩
  obtain ⟨year, month, day, first, exists_month, inMonth, counted, found⟩ := ofOrdinal?_spec past
  have inCalendar : year ≤ 9999 := by
    by_contra beyond
    have far : daysBeforeYear 10000 ≤ daysBeforeYear year :=
      daysBeforeYear_mono (by decide) (Nat.lt_of_not_le beyond)
    have last : daysBeforeYear 10000 = lastOrdinal := rfl
    omega
  have valid := And.intro (And.intro first inCalendar) (And.intro exists_month inMonth)
  refine ⟨⟨year, month, day, valid⟩, ?_, ?_⟩
  · rw [found]
    exact dif_pos valid
  · rw [ordinal_eq]
    exact congrArg Int.ofNat counted

/-- A number leads to the date that has it, and to none if no date has it. -/
theorem ofOrdinal?_eq_some_iff {number : Int} {date : Date} :
    ofOrdinal? number = some date ↔ (date.ordinal : Int) = number := by
  constructor
  · intro found
    have positive : 1 ≤ number := by
      by_contra early
      rw [ofOrdinal?, if_pos (Int.lt_of_not_ge early)] at found
      exact absurd found (by simp)
    obtain ⟨past, rfl⟩ : ∃ past : Nat, number = (past + 1 : Nat) := ⟨(number - 1).toNat, by omega⟩
    obtain ⟨year, month, day, _, _, _, counted, fields⟩ := ofOrdinal?_spec past
    rw [fields, ofFields?] at found
    split at found
    · cases found
      rw [ordinal_eq]
      exact congrArg Int.ofNat counted
    · exact absurd found (by simp)
  · rintro rfl
    have first := date.daysBeforeYear_lt_ordinal
    have last := date.ordinal_le_lastOrdinal
    obtain ⟨same, found, counted⟩ := exists_ofOrdinal? (show 1 ≤ (date.ordinal : Int) by omega)
      (Int.ofNat_le.mpr last)
    rw [found, ordinal_injective (Int.ofNat_inj.mp counted)]

end Date

namespace Clock

theorem sinceMidnight_lt (clock : Clock) : clock.sinceMidnight < dayLength := by
  have valid := clock.valid
  rw [sinceMidnight, dayLength]
  omega

theorem ofFields?_sinceMidnight {rest : Nat} (inside : rest < dayLength) :
    ∃ clock : Clock, clock.sinceMidnight = rest ∧
      ofFields? (rest / 1000000 / 3600) (rest / 1000000 / 60 % 60) (rest / 1000000 % 60)
        (rest % 1000000) = some clock := by
  rw [dayLength] at inside
  have valid : rest / 1000000 / 3600 < 24 ∧ rest / 1000000 / 60 % 60 < 60 ∧
      rest / 1000000 % 60 < 60 ∧ rest % 1000000 < 1000000 := by omega
  refine ⟨⟨_, _, _, _, valid⟩, ?_, dif_pos valid⟩
  simp only [sinceMidnight]
  omega

theorem sinceMidnight_injective : Function.Injective sinceMidnight := by
  intro clock other same
  have valid := clock.valid
  have other_valid := other.valid
  simp only [sinceMidnight] at same
  have sameFields : clock.hour = other.hour ∧ clock.minute = other.minute ∧
      clock.second = other.second ∧ clock.microsecond = other.microsecond := by omega
  obtain ⟨hour, minute, second, microsecond⟩ := sameFields
  cases clock
  cases other
  cases hour
  cases minute
  cases second
  cases microsecond
  rfl

end Clock

namespace Moment

variable {moment : Moment} {instant : Int}

/-- The first instant that the calendar no longer reaches. -/
def endOfCalendar : Int := Date.lastOrdinal * dayLength

theorem instant_bounds (moment : Moment) : 0 ≤ moment.instant ∧ moment.instant < endOfCalendar := by
  have first := moment.date.daysBeforeYear_lt_ordinal
  have last := moment.date.ordinal_le_lastOrdinal
  have inDay := moment.clock.sinceMidnight_lt
  rw [Moment.instant, endOfCalendar]
  rw [dayLength] at *
  omega

theorem ofInstant?_spec (instant : Int) :
    ∃ clock : Clock, (clock.sinceMidnight : Int) = instant % dayLength ∧
      ofInstant? instant =
        (Date.ofOrdinal? (instant / dayLength + 1)).map fun date => ⟨date, clock⟩ := by
  have positive : (0 : Int) < dayLength := by decide
  have quotient : instant.fdiv dayLength = instant / dayLength :=
    Int.fdiv_eq_ediv_of_nonneg _ (Int.le_of_lt positive)
  have remainder : instant.fmod dayLength = instant % dayLength :=
    Int.fmod_eq_emod_of_nonneg _ (Int.le_of_lt positive)
  have nonnegative := Int.emod_nonneg instant (Int.ne_of_gt positive)
  have inside := Int.emod_lt_of_pos instant positive
  obtain ⟨clock, since, found⟩ :=
    Clock.ofFields?_sinceMidnight (show (instant % dayLength).toNat < dayLength by omega)
  refine ⟨clock, by omega, ?_⟩
  rw [ofInstant?, quotient, remainder, found]
  cases Date.ofOrdinal? (instant / dayLength + 1) <;> rfl

/-- An instant leads to the moment that has it, and to none if no moment has it. -/
theorem ofInstant?_eq_some_iff : ofInstant? instant = some moment ↔ moment.instant = instant := by
  obtain ⟨clock, since, found⟩ := ofInstant?_spec instant
  have inDay := moment.clock.sinceMidnight_lt
  have split := Int.mul_ediv_add_emod instant dayLength
  rw [found, Option.map_eq_some_iff]
  constructor
  · rintro ⟨date, day, rfl⟩
    rw [Date.ofOrdinal?_eq_some_iff] at day
    rw [Moment.instant, day, since, Int.add_sub_cancel, Int.mul_comm, split]
  · intro same
    have first := moment.date.daysBeforeYear_lt_ordinal
    have day : (moment.date.ordinal : Int) = instant / dayLength + 1 := by
      rw [← same, Moment.instant]
      rw [dayLength] at *
      omega
    have time : clock = moment.clock := by
      apply Clock.sinceMidnight_injective
      rw [Moment.instant, day, Int.add_sub_cancel, Int.mul_comm] at same
      omega
    exact ⟨moment.date, Date.ofOrdinal?_eq_some_iff.mpr day, by rw [time]⟩

theorem ofInstant?_eq_none_iff :
    ofInstant? instant = none ↔ instant < 0 ∨ endOfCalendar ≤ instant := by
  constructor
  · intro missing
    by_contra inside
    obtain ⟨clock, since, found⟩ := ofInstant?_spec instant
    have positive : 1 ≤ instant / dayLength + 1 := by
      rw [dayLength]
      omega
    have notAfter : instant / dayLength + 1 ≤ Date.lastOrdinal := by
      rw [endOfCalendar, dayLength] at *
      omega
    obtain ⟨date, day, _⟩ := Date.exists_ofOrdinal? positive notAfter
    rw [found, day] at missing
    exact absurd missing (by simp)
  · intro outside
    rw [Option.eq_none_iff_forall_ne_some]
    intro moment found
    have bounds := moment.instant_bounds
    rw [ofInstant?_eq_some_iff.mp found] at bounds
    omega

end Moment

end Stencil
