import Mathlib.Tactic.IntervalCases
import Relational.Calendar

/-!
# Moments and their numbers

A day is counted from the first of March of year zero, so that the leap day is the last day of its
year. Different days have different numbers, hence a moment without an offset is determined by its
microseconds. A moment with an offset is determined up to its offset only, and so is the span from
which its digest is made.
-/

namespace Relational

/-! ### Days -/

/-- The number of a month in a year that begins in March, from zero on. -/
def marchMonth (month : Nat) : Int := if month ≤ 2 then month + 9 else month - 3

/-- The year of a day if years begin in March. -/
def Date.marchYear (d : Date) : Int := if d.month ≤ 2 then d.year - 1 else d.year

/-- The days before a year that begins in March. -/
def yearStart (y : Int) : Int := 365 * y + y / 4 - y / 100 + y / 400

/-- The days of a year before a month of it. -/
def monthStart (m : Int) : Int := (153 * m + 2) / 5

theorem Date.dayNumber_eq (d : Date) : d.dayNumber =
    yearStart d.marchYear + monthStart (marchMonth d.month) + (d.day - 1) := by
  unfold Date.dayNumber Relational.dayNumber yearStart monthStart marchYear marchMonth
  simp only [Int.fdiv_eq_ediv_of_nonneg _ (show (0 : Int) ≤ 4 by decide),
    Int.fdiv_eq_ediv_of_nonneg _ (show (0 : Int) ≤ 100 by decide),
    Int.fdiv_eq_ediv_of_nonneg _ (show (0 : Int) ≤ 400 by decide),
    Int.fdiv_eq_ediv_of_nonneg _ (show (0 : Int) ≤ 5 by decide)]

theorem yearStart_le {y z : Int} (h : y ≤ z) : yearStart y ≤ yearStart z := by
  unfold yearStart
  omega

theorem monthStart_le {m n : Int} (h : m ≤ n) : monthStart m ≤ monthStart n := by
  unfold monthStart
  omega

/-- A year that begins in March has its leap day at its end. -/
theorem yearStart_succ (y : Int) :
    yearStart (y + 1) = yearStart y + if isLeapYear (y + 1) = true then 366 else 365 := by
  unfold yearStart isLeapYear
  simp only [Bool.and_eq_true, Bool.or_eq_true, bne_iff_ne, beq_iff_eq]
  split <;> omega

/-- The length of a month other than February does not depend on the year. -/
theorem monthStart_succ {month : Nat} (low : 1 ≤ month) (high : month ≤ 12) (h : month ≠ 2) :
    monthStart (marchMonth month) + (if month ∈ [4, 6, 9, 11] then 30 else 31) ≤
      monthStart (marchMonth month + 1) ∧
    monthStart (marchMonth month + 1) ≤ 337 := by
  interval_cases month <;> first | exact absurd rfl h | decide

theorem marchMonth_bounds {month : Nat} (low : 1 ≤ month) (high : month ≤ 12) :
    0 ≤ marchMonth month ∧ marchMonth month ≤ 11 ∧ 0 ≤ monthStart (marchMonth month) := by
  unfold marchMonth monthStart
  split <;> omega

/-- A day lies within its month and, in the last month, within its year. -/
theorem Date.day_bounds {d : Date} (valid : d.isValid = true) :
    (marchMonth d.month < 11 →
      monthStart (marchMonth d.month) + d.day ≤ monthStart (marchMonth d.month + 1)) ∧
    yearStart d.marchYear + monthStart (marchMonth d.month) + d.day ≤
      yearStart (d.marchYear + 1) := by
  obtain ⟨year, month, day⟩ := d
  simp only [isValid, Bool.and_eq_true, decide_eq_true_eq] at valid
  obtain ⟨⟨⟨⟨-, low⟩, high⟩, first⟩, last⟩ := valid
  dsimp only [marchYear]
  by_cases february : month = 2
  · subst february
    simp only [daysOfMonth, if_pos] at last
    refine ⟨fun before => absurd before (by decide), ?_⟩
    have start : monthStart (marchMonth 2) = 337 := by decide
    rw [yearStart_succ, start, if_pos le_rfl, Int.sub_add_cancel]
    split at last <;> rename_i leap
    · rw [if_pos leap]
      omega
    · rw [if_neg leap]
      omega
  · obtain ⟨length, year_end⟩ := monthStart_succ low high february
    simp only [daysOfMonth, if_neg february] at last
    have within : monthStart (marchMonth month) + day ≤ monthStart (marchMonth month + 1) := by
      split at last <;> rename_i short
      · rw [if_pos short] at length
        omega
      · rw [if_neg short] at length
        omega
    refine ⟨fun _ => within, ?_⟩
    rw [yearStart_succ]
    split <;> split <;> omega

theorem Date.month_bounds {d : Date} (valid : d.isValid = true) :
    1 ≤ d.month ∧ d.month ≤ 12 ∧ 1 ≤ d.day := by
  simp only [isValid, Bool.and_eq_true, decide_eq_true_eq] at valid
  exact ⟨valid.1.1.1.2, valid.1.1.2, valid.1.2⟩

/-- A day of an earlier month, or of an earlier year, has a smaller number. -/
theorem Date.dayNumber_lt {d e : Date} (hd : d.isValid = true) (he : e.isValid = true)
    (h : d.marchYear < e.marchYear ∨
      d.marchYear = e.marchYear ∧ marchMonth d.month < marchMonth e.month) :
    d.dayNumber < e.dayNumber := by
  obtain ⟨month, year⟩ := day_bounds hd
  obtain ⟨low, high, first⟩ := month_bounds he
  obtain ⟨-, last, start⟩ := marchMonth_bounds low high
  rw [dayNumber_eq, dayNumber_eq]
  rcases h with before | ⟨same, before⟩
  · have := yearStart_le (Int.add_one_le_of_lt before)
    omega
  · have := monthStart_le (Int.add_one_le_of_lt before)
    have := month (by omega)
    rw [same]
    omega

/-- Different days have different numbers. -/
theorem Date.eq_of_dayNumber_eq {d e : Date} (hd : d.isValid = true) (he : e.isValid = true)
    (h : d.dayNumber = e.dayNumber) : d = e := by
  have year : d.marchYear = e.marchYear := by
    have := mt (fun before => dayNumber_lt hd he (.inl before)) (by omega)
    have := mt (fun before => dayNumber_lt he hd (.inl before)) (by omega)
    omega
  have month : marchMonth d.month = marchMonth e.month := by
    have := mt (fun before => dayNumber_lt hd he (.inr ⟨year, before⟩)) (by omega)
    have := mt (fun before => dayNumber_lt he hd (.inr ⟨year.symm, before⟩)) (by omega)
    omega
  rw [dayNumber_eq, dayNumber_eq, year, month] at h
  obtain ⟨low, high, -⟩ := month_bounds hd
  obtain ⟨low', high', -⟩ := month_bounds he
  obtain ⟨y, m, day⟩ := d
  obtain ⟨y', m', day'⟩ := e
  dsimp only [marchYear, marchMonth] at *
  obtain rfl : m = m' := by
    split at month <;> split at month <;> omega
  obtain rfl : y = y' := by
    split at year <;> omega
  obtain rfl : day = day' := by omega
  rfl

/-! ### Times of day -/

namespace ClockTime

theorem bounds {t : ClockTime} (valid : t.isValid = true) :
    t.hour < 24 ∧ t.minute < 60 ∧ t.second < 60 ∧ t.microsecond < 1000000 := by
  simp only [isValid, Bool.and_eq_true, decide_eq_true_eq] at valid
  exact ⟨valid.1.1.1, valid.1.1.2, valid.1.2, valid.2⟩

/-- Different times of day have different microseconds. -/
theorem eq_of_microseconds_eq {s t : ClockTime} (hs : s.isValid = true) (ht : t.isValid = true)
    (h : s.microseconds = t.microseconds) : s = t := by
  have := bounds hs
  have := bounds ht
  obtain ⟨hour, minute, second, microsecond⟩ := s
  obtain ⟨hour', minute', second', microsecond'⟩ := t
  simp only [microseconds] at *
  simp only [mk.injEq]
  omega

theorem microseconds_lt {t : ClockTime} (valid : t.isValid = true) :
    t.microseconds < 86400000000 := by
  have := bounds valid
  unfold microseconds
  omega

end ClockTime

/-! ### Moments -/

namespace DateTime

/-- Whether the day and the time of day exist. -/
def isValid (t : DateTime) : Bool := t.date.isValid && t.clock.isValid

/-- Without an offset, different moments have different instants. -/
theorem eq_of_instant_eq {s t : DateTime} (hs : s.isValid = true) (ht : t.isValid = true)
    (naive : s.offset = none) (naive' : t.offset = none) (h : s.instant = t.instant) : s = t := by
  obtain ⟨date, clock⟩ := Bool.and_eq_true_iff.mp hs
  obtain ⟨date', clock'⟩ := Bool.and_eq_true_iff.mp ht
  have := ClockTime.microseconds_lt clock
  have := ClockTime.microseconds_lt clock'
  simp only [instant, naive, naive', Option.getD_none] at h
  have days : s.date = t.date := Date.eq_of_dayNumber_eq date date' (by omega)
  have times : s.clock = t.clock :=
    ClockTime.eq_of_microseconds_eq clock clock' (by rw [days] at h; omega)
  obtain ⟨d, c, o⟩ := s
  obtain ⟨d', c', o'⟩ := t
  simp_all only

end DateTime

/-- A span is determined by its length. -/
theorem spanParts_eq {days days' microseconds microseconds' : Int}
    (h : days * 86400000000 + microseconds = days' * 86400000000 + microseconds') :
    spanParts days microseconds = spanParts days' microseconds' := by
  simp only [spanParts, Int.fdiv_eq_ediv_of_nonneg _ (show (0 : Int) ≤ 86400000000 by decide),
    Int.fdiv_eq_ediv_of_nonneg _ (show (0 : Int) ≤ 1000000 by decide),
    Int.fmod_eq_emod_of_nonneg _ (show (0 : Int) ≤ 86400000000 by decide),
    Int.fmod_eq_emod_of_nonneg _ (show (0 : Int) ≤ 1000000 by decide), List.cons.injEq, and_true]
  omega

end Relational
