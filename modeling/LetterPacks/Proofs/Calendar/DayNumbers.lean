import LetterPacks.Proofs.Calendar.WrittenDate
import Mathlib.Order.Monotone.Basic

/-!
# Day numbers

The days of the calendar are numbered one after the other, so that a date tells its number and a
number tells its date (`dayNumber_injective`).  The day after a date has the next number, and only
the last day of the calendar has none behind it.  So a date is some days later than another just
when its number is larger by as many (`addDays?_eq_some_iff`), and the calendar goes that far unless
the number passes that of its last day (`addDays?_eq_none_iff`).
-/

namespace LetterPacks

def daysBeforeMonth (year : Int) : Nat → Nat
  | 0 => 0
  | month + 1 => daysBeforeMonth year month + daysInMonth year month

/-- The days before a year, counted from the first day of the year nought. -/
def daysBeforeYear (year : Int) : Int :=
  365 * year + ((year - 1) / 4 - (year - 1) / 100 + (year - 1) / 400)

namespace Date

def dayOfYear (date : Date) : Nat :=
  daysBeforeMonth date.year date.month + date.day

def dayNumber (date : Date) : Int :=
  daysBeforeYear date.year + date.dayOfYear

def last : Date :=
  ⟨lastYear, 12, 31, by decide⟩

end Date

private theorem daysBeforeMonth_thirteen (year : Int) :
    daysBeforeMonth year 13 = if isLeapYear year then 366 else 365 := by
  simp only [daysBeforeMonth, daysInMonth]
  split <;> rfl

private theorem daysBeforeYear_succ (year : Int) :
    daysBeforeYear (year + 1) = daysBeforeYear year + daysBeforeMonth year 13 := by
  rw [daysBeforeMonth_thirteen]
  unfold daysBeforeYear
  by_cases leap : isLeapYear year = true
  · rw [if_pos leap]
    simp only [isLeapYear, Bool.and_eq_true, Bool.or_eq_true, decide_eq_true_eq] at leap
    omega
  · rw [if_neg leap]
    simp only [isLeapYear, Bool.and_eq_true, Bool.or_eq_true, decide_eq_true_eq] at leap
    omega

private theorem daysBeforeYear_mono {first last : Int} (ordered : first ≤ last) :
    daysBeforeYear first ≤ daysBeforeYear last := by
  obtain ⟨years, rfl⟩ := Int.le.dest ordered
  induction years with
  | zero =>
      rw [Int.natCast_zero, Int.add_zero]
  | succ years ih =>
      have longer := daysBeforeYear_succ (first + years)
      rw [Int.natCast_succ, ← Int.add_assoc]
      omega

private theorem daysBeforeMonth_mono (year : Int) : Monotone (daysBeforeMonth year) :=
  monotone_nat_of_le_succ fun _ => Nat.le_add_right _ _

namespace Date

variable {date later next : Date} {days : Nat}

private theorem day_bounds (date : Date) :
    1 ≤ date.day ∧ date.day ≤ daysInMonth date.year date.month := by
  have isDay := date.isDay
  simp only [isCalendarDay, Bool.and_eq_true, decide_eq_true_eq] at isDay
  exact ⟨isDay.1.2, isDay.2⟩

private theorem dayOfYear_le (date : Date) {month : Nat} (behind : date.month < month) :
    date.dayOfYear ≤ daysBeforeMonth date.year month := by
  have inMonth := date.day_bounds.2
  calc date.dayOfYear
      ≤ daysBeforeMonth date.year (date.month + 1) := Nat.add_le_add_left inMonth _
    _ ≤ daysBeforeMonth date.year month := daysBeforeMonth_mono date.year behind

private theorem dayNumber_le (date : Date) {year : Int} (behind : date.year < year) :
    date.dayNumber ≤ daysBeforeYear year := by
  have inYear : date.dayOfYear ≤ daysBeforeMonth date.year 13 :=
    date.dayOfYear_le (Nat.lt_succ_of_le date.bounds.2.1.2)
  calc date.dayNumber
      ≤ daysBeforeYear date.year + daysBeforeMonth date.year 13 := by
        rw [dayNumber]
        omega
    _ = daysBeforeYear (date.year + 1) := (daysBeforeYear_succ date.year).symm
    _ ≤ daysBeforeYear year := daysBeforeYear_mono behind

private theorem daysBeforeYear_lt_dayNumber
    (date : Date) : daysBeforeYear date.year < date.dayNumber := by
  have one := date.day_bounds.1
  rw [dayNumber, dayOfYear]
  omega

private theorem year_eq_of_dayNumber_eq (same : date.dayNumber = later.dayNumber) :
    date.year = later.year := by
  have start := date.daysBeforeYear_lt_dayNumber
  have startLater := later.daysBeforeYear_lt_dayNumber
  rcases lt_trichotomy date.year later.year with before | equal | behind
  · have passed := date.dayNumber_le before
    omega
  · exact equal
  · have passed := later.dayNumber_le behind
    omega

private theorem month_eq_of_dayOfYear_eq
    (sameYear : date.year = later.year) (same : date.dayOfYear = later.dayOfYear) :
    date.month = later.month := by
  have one := date.day_bounds.1
  have oneLater := later.day_bounds.1
  rcases lt_trichotomy date.month later.month with before | equal | behind
  · have passed := date.dayOfYear_le before
    rw [same, sameYear, dayOfYear] at passed
    omega
  · exact equal
  · have passed := later.dayOfYear_le behind
    rw [← same, ← sameYear, dayOfYear] at passed
    omega

private theorem dayNumber_injective : Function.Injective dayNumber := by
  intro date later same
  have sameYear := year_eq_of_dayNumber_eq same
  have sameDayOfYear : date.dayOfYear = later.dayOfYear := by
    rw [dayNumber, dayNumber, sameYear] at same
    omega
  have sameMonth := month_eq_of_dayOfYear_eq sameYear sameDayOfYear
  have sameDay : date.day = later.day := by
    rw [dayOfYear, dayOfYear, sameYear, sameMonth] at sameDayOfYear
    omega
  cases date
  cases later
  simp only at sameYear sameMonth sameDay
  subst sameYear sameMonth sameDay
  rfl

private theorem dayNumber_le_last (date : Date) : date.dayNumber ≤ last.dayNumber := by
  have passed := date.dayNumber_le (Int.lt_add_one_of_le date.bounds.1.2)
  have ends : daysBeforeYear (lastYear + 1) = last.dayNumber := by decide
  exact ends ▸ passed

private theorem ofParts?_eq_some_iff {year : Int} {month day : Nat} :
    ofParts? year month day = some date ↔
      date.year = year ∧ date.month = month ∧ date.day = day := by
  constructor
  · intro found
    unfold ofParts? at found
    split at found
    · obtain rfl := Option.some.inj found
      exact ⟨rfl, rfl, rfl⟩
    · cases found
  · rintro ⟨rfl, rfl, rfl⟩
    exact ofParts?_parts date

private theorem ofParts?_eq_none_iff {year : Int} {month day : Nat} :
    ofParts? year month day = none ↔ isCalendarDay year month day = false := by
  unfold ofParts?
  split
  · next isDay => simp [isDay]
  · next noDay => simpa using noDay

private theorem dayNumber_of_tomorrow? (followed : date.tomorrow? = some next) :
    next.dayNumber = date.dayNumber + 1 := by
  have inMonth := date.day_bounds.2
  unfold tomorrow? at followed
  split at followed
  · obtain ⟨year, month, day⟩ := ofParts?_eq_some_iff.1 followed
    rw [dayNumber, dayNumber, dayOfYear, dayOfYear, year, month, day]
    omega
  · next ended =>
      have lastDay : date.day = daysInMonth date.year date.month := by omega
      split at followed
      · obtain ⟨year, month, day⟩ := ofParts?_eq_some_iff.1 followed
        rw [dayNumber, dayNumber, dayOfYear, dayOfYear, year, month, day, daysBeforeMonth, lastDay]
        omega
      · next december =>
          have lastMonth : date.month = 12 := by
            have atMost := date.bounds.2.1.2
            omega
          have whole : date.dayOfYear = daysBeforeMonth date.year 13 := by
            rw [dayOfYear, lastDay, lastMonth]
            rfl
          obtain ⟨year, month, day⟩ := ofParts?_eq_some_iff.1 followed
          have first : daysBeforeMonth (date.year + 1) 1 = 0 := rfl
          rw [dayNumber, dayNumber, whole, dayOfYear, year, month, day, first,
            daysBeforeYear_succ]
          omega

private theorem daysInMonth_pos {year : Int} {month : Nat} (one : 1 ≤ month) (twelve : month ≤ 12) :
    1 ≤ daysInMonth year month := by
  unfold daysInMonth
  split
  · split <;> decide
  all_goals grind

private theorem eq_last_of_tomorrow?_eq_none (ended : date.tomorrow? = none) : date = last := by
  obtain ⟨⟨firstYear_le, le_lastYear⟩, ⟨oneMonth, lastMonth⟩, _⟩ := date.bounds
  obtain ⟨oneDay, inMonth⟩ := date.day_bounds
  unfold tomorrow? at ended
  split at ended
  · next within =>
      rw [ofParts?_eq_none_iff, Bool.eq_false_iff] at ended
      refine absurd ?_ ended
      simp only [isCalendarDay, Bool.and_eq_true, decide_eq_true_eq]
      omega
  · next lastDay =>
      split at ended
      · next within =>
          have days : 1 ≤ daysInMonth date.year (date.month + 1) :=
            daysInMonth_pos (Nat.le_add_left 1 date.month) within
          rw [ofParts?_eq_none_iff, Bool.eq_false_iff] at ended
          refine absurd ?_ ended
          simp only [isCalendarDay, Bool.and_eq_true, decide_eq_true_eq]
          omega
      · next december =>
          have sameMonth : date.month = 12 := by omega
          have sameDay : date.day = 31 := by
            rw [sameMonth] at lastDay inMonth
            change ¬ date.day < 31 at lastDay
            change date.day ≤ 31 at inMonth
            omega
          have sameYear : date.year = lastYear := by
            by_contra earlier
            rw [ofParts?_eq_none_iff, Bool.eq_false_iff] at ended
            refine absurd ?_ ended
            have days : daysInMonth (date.year + 1) 1 = 31 := rfl
            simp only [isCalendarDay, Bool.and_eq_true, decide_eq_true_eq, days]
            omega
          cases date
          simp only at sameYear sameMonth sameDay
          subst sameYear sameMonth sameDay
          rfl

private theorem dayNumber_of_addDays? (reached : date.addDays? days = some later) :
    later.dayNumber = date.dayNumber + days := by
  induction days generalizing later with
  | zero =>
      obtain rfl := Option.some.inj reached
      exact (Int.add_zero _).symm
  | succ days ih =>
      obtain ⟨between, earlier, followed⟩ := Option.bind_eq_some_iff.1 reached
      rw [dayNumber_of_tomorrow? followed, ih earlier]
      omega

theorem exists_addDays? (within : date.dayNumber + days ≤ last.dayNumber) :
    ∃ later, date.addDays? days = some later := by
  induction days with
  | zero =>
      exact ⟨date, rfl⟩
  | succ days ih =>
      obtain ⟨between, earlier⟩ := ih (by omega)
      cases followed : between.tomorrow? with
      | some later =>
          exact ⟨later, Option.bind_eq_some_iff.2 ⟨between, earlier, followed⟩⟩
      | none =>
          have counted := dayNumber_of_addDays? earlier
          rw [eq_last_of_tomorrow?_eq_none followed] at counted
          omega

theorem addDays?_eq_some_iff :
    date.addDays? days = some later ↔ later.dayNumber = date.dayNumber + days := by
  constructor
  · exact dayNumber_of_addDays?
  · intro counted
    obtain ⟨reached, found⟩ := exists_addDays? (counted ▸ later.dayNumber_le_last)
    have same : reached.dayNumber = later.dayNumber :=
      (dayNumber_of_addDays? found).trans counted.symm
    rw [found, dayNumber_injective same]

/-- The calendar ends before some days have passed exactly when the number would be larger than that
of its last day. -/
theorem addDays?_eq_none_iff :
    date.addDays? days = none ↔ last.dayNumber < date.dayNumber + days := by
  constructor
  · intro ended
    by_contra within
    obtain ⟨later, found⟩ := exists_addDays? (Int.not_lt.1 within)
    cases ended.symm.trans found
  · intro passed
    cases found : date.addDays? days with
    | none =>
        rfl
    | some later =>
        have counted := dayNumber_of_addDays? found
        have bounded := later.dayNumber_le_last
        omega

theorem dayNumber_add_le_last_iff (few : days ≤ 31) :
    date.dayNumber + days ≤ last.dayNumber ↔
      (date.year = lastYear → date.month = 12 → date.day + days ≤ 31) := by
  have ends : last.dayNumber =
      daysBeforeYear lastYear + (daysBeforeMonth lastYear 12 + 31 : Nat) := rfl
  by_cases lastOne : date.year = lastYear
  · by_cases december : date.month = 12
    · rw [ends, dayNumber, dayOfYear, lastOne, december]
      omega
    · have earlier : date.month < 12 := lt_of_le_of_ne date.bounds.2.1.2 december
      have passed := date.dayOfYear_le earlier
      refine iff_of_true ?_ fun _ same => absurd same december
      rw [ends, dayNumber]
      rw [lastOne] at passed ⊢
      omega
  · have earlier : date.year < lastYear := lt_of_le_of_ne date.bounds.1.2 lastOne
    have passed := date.dayNumber_le earlier
    refine iff_of_true ?_ fun same => absurd same lastOne
    rw [ends]
    omega

end Date

end LetterPacks
