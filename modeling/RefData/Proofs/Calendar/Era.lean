import Mathlib.Tactic.IntervalCases
import RefData.Calendar
set_option autoImplicit false

namespace RefData.Date

def monthStart (month : Int) : Int := (153 * month + 2) / 5

-- Where a day stands: in an era of 400 years, in one of its centuries, in a cycle of four years, in
-- a year of the cycle and in a month of the year. Years start in March, so that the leap day is the
-- last of the last year of a cycle. The last cycle of a century has none, unless it ends the era.
structure Position where
  era : Int
  century : Int
  cycle : Int
  year : Int
  month : Int
  day : Int
  century_mem : 0 ≤ century ∧ century < 4
  cycle_mem : 0 ≤ cycle ∧ cycle < 25
  year_mem : 0 ≤ year ∧ year < 4
  month_mem : 0 ≤ month ∧ month < 12
  day_mem : 0 ≤ day ∧ monthStart month + day < monthStart (month + 1)
  leap : monthStart month + day < 365 ∨
    monthStart month + day = 365 ∧ year = 3 ∧ (cycle < 24 ∨ century = 3)

namespace Position

variable (p : Position)

def dayOfYear : Int := monthStart p.month + p.day

def yearOfEra : Int := 100 * p.century + 4 * p.cycle + p.year

def dayOfEra : Int := 36524 * p.century + 1461 * p.cycle + 365 * p.year + p.dayOfYear

def days : Int := p.era * 146097 + p.dayOfEra - 719468

def date : Date :=
  if p.month < 10 then ⟨p.yearOfEra + p.era * 400, (p.month + 3).toNat, (p.day + 1).toNat⟩
  else ⟨p.yearOfEra + p.era * 400 + 1, (p.month - 9).toNat, (p.day + 1).toNat⟩

theorem dayOfYear_mem : 0 ≤ p.dayOfYear ∧
    (p.dayOfYear < 365 ∨ p.dayOfYear = 365 ∧ p.year = 3 ∧ (p.cycle < 24 ∨ p.century = 3)) := by
  have months := p.month_mem
  have days := p.day_mem
  refine ⟨?_, p.leap⟩
  unfold dayOfYear monthStart
  omega

theorem yearOfEra_mem : 0 ≤ p.yearOfEra ∧ p.yearOfEra < 400 := by
  have centuries := p.century_mem
  have cycles := p.cycle_mem
  have years := p.year_mem
  unfold yearOfEra
  omega

theorem dayOfEra_mem : 0 ≤ p.dayOfEra ∧ p.dayOfEra < 146097 := by
  have centuries := p.century_mem
  have cycles := p.cycle_mem
  have years := p.year_mem
  have days := p.dayOfYear_mem
  unfold dayOfEra
  omega

theorem dayOfEra_eq :
    p.dayOfEra = p.yearOfEra * 365 + p.yearOfEra / 4 - p.yearOfEra / 100 + p.dayOfYear := by
  have cycle := p.cycle_mem
  have year := p.year_mem
  have cycles : p.yearOfEra / 4 = 25 * p.century + p.cycle := by unfold yearOfEra; omega
  have centuries : p.yearOfEra / 100 = p.century := by unfold yearOfEra; omega
  rw [cycles, centuries, dayOfEra, yearOfEra]
  omega

-- The leap days before a day are taken off its number, and the day itself if it is one. What is
-- left counts years of 365 days.
theorem yearOfEra_of_dayOfEra :
    (p.dayOfEra - p.dayOfEra / 1460 + p.dayOfEra / 36524 - p.dayOfEra / 146096) / 365 =
      p.yearOfEra := by
  have centuries := p.century_mem
  have cycles := p.cycle_mem
  have years := p.year_mem
  have days := p.dayOfYear_mem
  have inCentury : ∃ rest, p.dayOfEra = 36524 * p.century + rest ∧ 0 ≤ rest ∧
      (rest < 36524 ∨ rest = 36524 ∧ p.century = 3) :=
    ⟨1461 * p.cycle + 365 * p.year + p.dayOfYear, by unfold dayOfEra; omega, by omega, by omega⟩
  have century : p.dayOfEra / 36524 - p.dayOfEra / 146096 = p.century := by
    obtain ⟨rest, same, first, last⟩ := inCentury
    omega
  have leapDays : p.dayOfEra / 1460 = 25 * p.century + p.cycle ∧ p.dayOfYear < 365 ∨
      p.dayOfEra / 1460 = 25 * p.century + p.cycle + 1 ∧ 0 < p.dayOfYear := by
    unfold dayOfEra
    omega
  rw [Int.add_sub_assoc, century]
  unfold dayOfEra yearOfEra at *
  omega

theorem month_of_dayOfYear : (5 * p.dayOfYear + 2) / 153 = p.month := by
  have days := p.day_mem
  unfold dayOfYear monthStart at *
  omega

theorem ofDays_days : ofDays p.days = p.date := by
  have within := p.dayOfEra_mem
  have months := p.month_mem
  have count : p.days + 719468 = p.era * 146097 + p.dayOfEra := by unfold days; omega
  have era : (p.era * 146097 + p.dayOfEra).fdiv 146097 = p.era := by
    rw [Int.fdiv_eq_ediv_of_nonneg _ (by decide)]
    omega
  have inEra : p.era * 146097 + p.dayOfEra - p.era * 146097 = p.dayOfEra := by omega
  have inYear : p.dayOfEra - (365 * p.yearOfEra + p.yearOfEra / 4 - p.yearOfEra / 100) =
      p.dayOfYear := by
    rw [p.dayOfEra_eq]
    omega
  have inMonth : p.dayOfYear - (153 * p.month + 2) / 5 = p.day := by
    unfold dayOfYear monthStart
    omega
  simp only [ofDays, count, era, inEra, p.yearOfEra_of_dayOfEra, inYear, p.month_of_dayOfYear,
    inMonth, date]
  split
  · rw [if_neg (by omega), Int.add_zero]
  · rw [if_pos (by omega)]

theorem toDays_date : toDays p.date = p.days := by
  have months := p.month_mem
  have years := p.yearOfEra_mem
  have days := p.day_mem
  have era : (p.yearOfEra + p.era * 400).fdiv 400 = p.era := by
    rw [Int.fdiv_eq_ediv_of_nonneg _ (by decide)]
    omega
  have day : ((p.day + 1).toNat : Int) = p.day + 1 := by omega
  unfold date
  split
  · have month : ((p.month + 3).toNat : Int) = p.month + 3 := by omega
    simp only [toDays, if_neg (show ¬ (p.month + 3).toNat ≤ 2 by omega), era, month, day,
      Position.days, p.dayOfEra_eq, dayOfYear, monthStart, Int.add_sub_cancel]
    omega
  · have month : ((p.month - 9).toNat : Int) = p.month - 9 := by omega
    simp only [toDays, if_pos (show (p.month - 9).toNat ≤ 2 by omega), era, month, day,
      Position.days, p.dayOfEra_eq, dayOfYear, monthStart, Int.add_sub_cancel, Int.sub_add_cancel]
    omega

theorem exists_days (n : Int) : ∃ p : Position, p.days = n := by
  let dayOfEra := (n + 719468) % 146097
  let century := min (dayOfEra / 36524) 3
  let dayOfCentury := dayOfEra - 36524 * century
  let cycle := dayOfCentury / 1461
  let dayOfCycle := dayOfCentury - 1461 * cycle
  let year := min (dayOfCycle / 365) 3
  let dayOfYear := dayOfCycle - 365 * year
  let month := (5 * dayOfYear + 2) / 153
  have days : 0 ≤ dayOfYear ∧
      (dayOfYear < 365 ∨ dayOfYear = 365 ∧ year = 3 ∧ (cycle < 24 ∨ century = 3)) := by omega
  refine ⟨⟨(n + 719468) / 146097, century, cycle, year, month, dayOfYear - monthStart month,
    by omega, by omega, by omega, by omega, ?_, by omega⟩, ?_⟩
  · unfold monthStart
    omega
  · simp only [Position.days, Position.dayOfEra, Position.dayOfYear]
    omega

end Position

theorem isLeapYear_iff (y : Int) :
    isLeapYear y = true ↔ y % 4 = 0 ∧ (y % 100 ≠ 0 ∨ y % 400 = 0) := by
  simp [isLeapYear]

theorem month_fits {y shifted : Int} {m day : Nat} (months : 0 ≤ shifted ∧ shifted < 12)
    (same : (m : Int) = if shifted < 10 then shifted + 3 else shifted - 9)
    (days : 1 ≤ day ∧ day ≤ daysInMonth y m) :
    monthStart shifted + (day - 1) < monthStart (shifted + 1) ∧
      (monthStart shifted + (day - 1) < 365 ∨
        monthStart shifted + (day - 1) = 365 ∧ m = 2 ∧ isLeapYear y = true) := by
  unfold daysInMonth at days
  unfold monthStart
  by_cases february : m = 2
  · have last : shifted = 11 := by omega
    rw [if_pos february] at days
    cases leap : isLeapYear y <;> simp only [leap, if_true, Bool.false_eq_true, if_false] at days
    · omega
    · simp only [last, february, and_self, and_true]
      omega
  · rw [if_neg february] at days
    obtain ⟨first, last⟩ := months
    split at days <;> interval_cases shifted <;> omega

structure IsCivil (d : Date) : Prop where
  month : 1 ≤ d.month ∧ d.month ≤ 12
  day : 1 ≤ d.day ∧ d.day ≤ daysInMonth d.year d.month

theorem isValid_iff {d : Date} :
    d.isValid = true ↔ (minYear ≤ d.year ∧ d.year ≤ maxYear) ∧ d.IsCivil := by
  simp only [isValid, Bool.and_eq_true, decide_eq_true_eq]
  constructor
  · rintro ⟨⟨⟨⟨years, first⟩, last⟩, firstDay⟩, lastDay⟩
    exact ⟨years, ⟨first, last⟩, firstDay, lastDay⟩
  · rintro ⟨years, ⟨first, last⟩, firstDay, lastDay⟩
    exact ⟨⟨⟨⟨years, first⟩, last⟩, firstDay⟩, lastDay⟩

theorem IsCivil.exists_position {d : Date} (civil : d.IsCivil) : ∃ p : Position, p.date = d := by
  obtain ⟨y, m, day⟩ := d
  obtain ⟨month, days⟩ := civil
  dsimp only at month days
  by_cases early : m ≤ 2
  · have fits := @month_fits y (m + 9) m day (by omega) (by omega) days
    rw [isLeapYear_iff] at fits
    refine ⟨⟨(y - 1) / 400, (y - 1) % 400 / 100, (y - 1) % 100 / 4, (y - 1) % 4, m + 9, day - 1,
      by omega, by omega, by omega, by omega, ⟨by omega, fits.1⟩, by omega⟩, ?_⟩
    simp only [Position.date, Position.yearOfEra, if_neg (show ¬ (m : Int) + 9 < 10 by omega)]
    congr <;> omega
  · have fits := @month_fits y (m - 3) m day (by omega) (by omega) days
    refine ⟨⟨y / 400, y % 400 / 100, y % 100 / 4, y % 4, m - 3, day - 1,
      by omega, by omega, by omega, by omega, ⟨by omega, fits.1⟩, by omega⟩, ?_⟩
    simp only [Position.date, Position.yearOfEra, if_pos (show (m : Int) - 3 < 10 by omega)]
    congr <;> omega

theorem Position.isCivil_date (p : Position) : p.date.IsCivil := by
  obtain ⟨era, century, cycle, year, month, day, centuries, cycles, years, months, days, leap⟩ := p
  unfold monthStart at days leap
  obtain ⟨first, last⟩ := months
  suffices (1 ≤ _ ∧ _) ∧ 1 ≤ _ ∧ _ from ⟨this.1, this.2⟩
  simp only [date, yearOfEra]
  by_cases february : month = 11
  · have leapYear := isLeapYear_iff (100 * century + 4 * cycle + year + era * 400 + 1)
    subst february
    simp only [show ¬ (11 : Int) < 10 by decide, if_false, daysInMonth]
    cases isLeap : isLeapYear (100 * century + 4 * cycle + year + era * 400 + 1) <;>
      simp [isLeap] at leapYear ⊢ <;> omega
  · simp only [daysInMonth]
    split <;> interval_cases month <;> simp <;> omega

theorem toDays_ofDays (n : Int) : toDays (ofDays n) = n := by
  obtain ⟨p, rfl⟩ := Position.exists_days n
  rw [p.ofDays_days, p.toDays_date]

theorem ofDays_toDays {d : Date} (civil : d.IsCivil) : ofDays d.toDays = d := by
  obtain ⟨p, rfl⟩ := civil.exists_position
  rw [p.toDays_date, p.ofDays_days]

theorem Position.days_eq (p : Position) {y : Int} (same : y = p.yearOfEra + p.era * 400) :
    p.days = 365 * y + y / 4 - y / 100 + y / 400 + p.dayOfYear - 719468 := by
  have within := p.yearOfEra_mem
  have cycles : y / 4 = p.yearOfEra / 4 + p.era * 100 := by omega
  have centuries : y / 100 = p.yearOfEra / 100 + p.era * 4 := by omega
  have eras : y / 400 = p.era := by omega
  rw [Position.days, p.dayOfEra_eq, cycles, centuries, eras]
  omega

theorem Position.year_mem_iff (p : Position) : minYear ≤ p.date.year ∧ p.date.year ≤ maxYear ↔
    -96465292 ≤ p.days ∧ p.days ≤ 95026236 := by
  have months := p.month_mem
  have days := p.dayOfYear_mem
  have january : p.month < 10 ↔ p.dayOfYear < 306 := by
    have fits := p.day_mem
    unfold dayOfYear monthStart at *
    omega
  obtain ⟨y, same⟩ : ∃ y, y = p.yearOfEra + p.era * 400 := ⟨_, rfl⟩
  have count := p.days_eq same
  -- At the limits the leap days before a year are counted with the year given.
  have limits : y < -262144 ∨ y = -262144 ∨ y = -262143 ∨ -262143 < y ∧ y < 262141 ∨
      y = 262141 ∨ y = 262142 ∨ 262142 < y := by omega
  unfold minYear maxYear
  by_cases early : p.month < 10
  · have year : p.date.year = y := by simp only [date, if_pos early, same]
    rw [year]
    rcases limits with h | h | h | h | h | h | h <;> omega
  · have year : p.date.year = y + 1 := by simp only [date, if_neg early, same]
    rw [year]
    rcases limits with h | h | h | h | h | h | h <;> omega

theorem isValid_ofDays_iff (n : Int) :
    (ofDays n).isValid = true ↔ toDays ⟨minYear, 1, 1⟩ ≤ n ∧ n ≤ toDays ⟨maxYear, 12, 31⟩ := by
  obtain ⟨p, rfl⟩ := Position.exists_days n
  rw [p.ofDays_days, isValid_iff, p.year_mem_iff]
  exact and_iff_left p.isCivil_date

end RefData.Date
