import Mathlib.Data.Nat.Init
import Mathlib.Logic.Function.Iterate
import Mathlib.Tactic.IntervalCases

/-!
# The Gregorian calendar

The calendar is the rule for the day after a date (`Calendar.Date.next`) and for
the second after a time (`Calendar.DateTime.next`). A date cannot be built that
is not one.

Days are counted from the first of March of the year 0
(`Calendar.Date.dayNumber`): a leap day is then the last of its year, and the
months before it begin at a line's places rounded down. Each day counts one
more than the day before (`Calendar.Date.dayNumber_next`), and each second is one
more of the day (`Calendar.DateTime.iterate_next`).
-/

namespace Calendar

/-- Every fourth year, of the full centuries every fourth. -/
def IsLeap (year : ℕ) : Prop := year % 4 = 0 ∧ (year % 100 ≠ 0 ∨ year % 400 = 0)

instance : DecidablePred IsLeap := fun _ => inferInstanceAs (Decidable (_ ∧ _))

/-- The days of a month. -/
def daysIn (year month : ℕ) : ℕ :=
  if month = 2 then if IsLeap year then 29 else 28
  else if month = 4 ∨ month = 6 ∨ month = 9 ∨ month = 11 then 30 else 31

theorem daysIn_pos (year month : ℕ) : 0 < daysIn year month := by
  unfold daysIn
  split_ifs <;> decide

theorem daysIn_le (year month : ℕ) : daysIn year month ≤ 31 := by
  unfold daysIn
  split_ifs <;> decide

/-- **A date.** -/
@[ext]
structure Date where
  year : ℕ
  month : ℕ
  day : ℕ
  month_pos : 0 < month
  month_le : month ≤ 12
  day_pos : 0 < day
  day_le : day ≤ daysIn year month
  deriving DecidableEq

namespace Date

/-- **The day after.** -/
def next (t : Date) : Date :=
  if h : t.day < daysIn t.year t.month then
    { t with day := t.day + 1, day_pos := Nat.succ_pos _, day_le := h }
  else if h : t.month < 12 then
    ⟨t.year, t.month + 1, 1, Nat.succ_pos _, h, Nat.one_pos, daysIn_pos _ _⟩
  else ⟨t.year + 1, 1, 1, Nat.one_pos, by decide, Nat.one_pos, daysIn_pos _ _⟩

/-! ## Days from March -/

/-- The year a date is in, where years begin in March. -/
def marchYear (t : Date) : ℕ := if t.month ≤ 2 then t.year - 1 else t.year

/-- The months since March. -/
def marchMonth (t : Date) : ℕ := (t.month + 9) % 12

/-- The days before a year that begins in March. -/
def daysBefore (marchYear : ℕ) : ℕ :=
  365 * marchYear + marchYear / 4 - marchYear / 100 + marchYear / 400

/-- The days of such a year before a month. -/
def daysBeforeMonth (marchMonth : ℕ) : ℕ := (153 * marchMonth + 2) / 5

/-- The days of such a year before a date. -/
def dayOfYear (t : Date) : ℕ := daysBeforeMonth t.marchMonth + (t.day - 1)

/-- The days since the first of March of the year 0. -/
def dayNumber (t : Date) : ℕ := daysBefore t.marchYear + t.dayOfYear

/-- Counting up to a multiple counts one more. -/
theorem succ_div_eq (y k : ℕ) : (y + 1) / k = y / k + if (y + 1) % k = 0 then 1 else 0 := by
  rw [Nat.succ_div]
  simp only [Nat.dvd_iff_mod_eq_zero]

/-- A year that begins in March has the leap day of the next. -/
theorem daysBefore_succ (y : ℕ) :
    daysBefore (y + 1) = daysBefore y + 365 + if IsLeap (y + 1) then 1 else 0 := by
  have hfew : y / 100 ≤ y / 4 := Nat.div_le_div_left (by decide) (by decide)
  have hcentury : (y + 1) % 100 = 0 → (y + 1) % 4 = 0 := by omega
  have hcycle : (y + 1) % 400 = 0 → (y + 1) % 100 = 0 := by omega
  unfold daysBefore
  rw [succ_div_eq y 4, succ_div_eq y 100, succ_div_eq y 400]
  by_cases hfour : (y + 1) % 4 = 0
  · by_cases hhundred : (y + 1) % 100 = 0
    · rw [if_pos hfour, if_pos hhundred]
      by_cases hfourHundred : (y + 1) % 400 = 0
      · rw [if_pos hfourHundred, if_pos (show IsLeap (y + 1) from ⟨hfour, .inr hfourHundred⟩)]
        omega
      · rw [if_neg hfourHundred,
          if_neg fun h : IsLeap (y + 1) => h.2.elim (· hhundred) hfourHundred]
        omega
    · rw [if_pos hfour, if_neg hhundred, if_neg (mt hcycle hhundred),
        if_pos (show IsLeap (y + 1) from ⟨hfour, .inl hhundred⟩)]
      omega
  · rw [if_neg hfour, if_neg (mt hcentury hfour), if_neg (mt hcycle (mt hcentury hfour)),
      if_neg fun h : IsLeap (y + 1) => hfour h.1]
    clear hfour hcentury hcycle
    omega

theorem daysBefore_mono : Monotone daysBefore :=
  monotone_nat_of_le_succ fun y => by
    rw [daysBefore_succ]
    omega

/-- **All months but February** have the days their places in a year from March
leave them. -/
theorem daysBeforeMonth_next (y : ℕ) {m : ℕ} (hpos : 0 < m) (hle : m ≤ 12) (hm : m ≠ 2) :
    daysBeforeMonth ((m % 12 + 1 + 9) % 12)
      = daysBeforeMonth ((m + 9) % 12) + daysIn y m := by
  unfold daysBeforeMonth daysIn
  interval_cases m
  all_goals first | rfl | exact absurd rfl hm

/-- **What the day after is**: in the same month, the first of the next, or the
first of a year. -/
theorem next_cases (t : Date) :
    (t.day < daysIn t.year t.month
        ∧ t.next.year = t.year ∧ t.next.month = t.month ∧ t.next.day = t.day + 1)
      ∨ (t.day = daysIn t.year t.month ∧ t.month < 12
        ∧ t.next.year = t.year ∧ t.next.month = t.month + 1 ∧ t.next.day = 1)
      ∨ (t.day = daysIn t.year t.month ∧ t.month = 12
        ∧ t.next.year = t.year + 1 ∧ t.next.month = 1 ∧ t.next.day = 1) := by
  have hle := t.day_le
  have hmonth := t.month_le
  unfold next
  split_ifs with hday hyear
  · exact .inl ⟨hday, rfl, rfl, rfl⟩
  · exact .inr (.inl ⟨by omega, hyear, rfl, rfl, rfl⟩)
  · exact .inr (.inr ⟨by omega, by omega, rfl, rfl, rfl⟩)

/-- **A month ends where the next begins**, February at the latest. -/
theorem dayOfYear_lt_daysBeforeMonth (t : Date) :
    t.dayOfYear < daysBeforeMonth (t.marchMonth + 1) := by
  have hpos := t.day_pos
  have hle := t.day_le
  have hmpos := t.month_pos
  have hmle := t.month_le
  unfold dayOfYear marchMonth
  by_cases hfeb : t.month = 2
  · rw [hfeb] at hle ⊢
    show 337 + (t.day - 1) < 367
    have hmost : daysIn t.year 2 ≤ 29 := by
      rw [daysIn, if_pos rfl]
      split_ifs <;> decide
    omega
  · have hmonths := daysBeforeMonth_next t.year hmpos hmle hfeb
    rw [show (t.month % 12 + 1 + 9) % 12 = (t.month + 9) % 12 + 1 by omega] at hmonths
    omega

/-- **A year from March** has a day more where its February has. -/
theorem dayOfYear_le {t : Date} (h : 0 < t.year) :
    t.dayOfYear < 365 ∨ t.dayOfYear = 365 ∧ IsLeap (t.marchYear + 1) := by
  by_cases hfeb : t.month = 2
  · have hpos := t.day_pos
    have hle := t.day_le
    unfold dayOfYear marchMonth marchYear
    rw [hfeb] at hle ⊢
    rw [if_pos (le_refl 2), Nat.sub_add_cancel h]
    show 337 + (t.day - 1) < 365 ∨ 337 + (t.day - 1) = 365 ∧ IsLeap t.year
    have hmost : daysIn t.year 2 = if IsLeap t.year then 29 else 28 := rfl
    by_cases hleap : IsLeap t.year
    · rw [if_pos hleap] at hmost
      by_cases hlast : t.day = 29
      · exact .inr ⟨by omega, hleap⟩
      · exact .inl (by omega)
    · rw [if_neg hleap] at hmost
      exact .inl (by omega)
  · have hlt := t.dayOfYear_lt_daysBeforeMonth
    have hmpos := t.month_pos
    have hmle := t.month_le
    have hmonth : t.marchMonth ≤ 10 := by
      unfold marchMonth
      omega
    unfold daysBeforeMonth at hlt
    exact .inl (by omega)

theorem year_next_pos {t : Date} (h : 0 < t.year) : 0 < t.next.year := by
  rcases t.next_cases with ⟨-, hy, -⟩ | ⟨-, -, hy, -⟩ | ⟨-, -, hy, -⟩ <;> omega

/-- **Each day counts one more.** -/
theorem dayNumber_next {t : Date} (h : 0 < t.year) : t.next.dayNumber = t.dayNumber + 1 := by
  have hpos := t.day_pos
  unfold dayNumber dayOfYear marchYear marchMonth
  rcases t.next_cases with ⟨-, hy, hm, hd⟩ | ⟨hend, hlt, hy, hm, hd⟩ | ⟨hend, hdec, hy, hm, hd⟩
  · rw [hy, hm, hd]
    omega
  · rw [hy, hm, hd]
    by_cases hfeb : t.month = 2
    · -- the year from March ends with February
      obtain ⟨y, hyear⟩ := Nat.exists_eq_succ_of_ne_zero h.ne'
      have hyears := daysBefore_succ y
      rw [hfeb, hyear] at hend ⊢
      show daysBefore (y + 1) + (0 + (1 - 1)) = daysBefore y + (337 + (t.day - 1)) + 1
      rw [hend, hyears]
      show _ = daysBefore y + (337 + ((if IsLeap (y + 1) then 29 else 28) - 1)) + 1
      split_ifs <;> omega
    · have hmonths := daysBeforeMonth_next t.year t.month_pos t.month_le hfeb
      rw [Nat.mod_eq_of_lt hlt, ← hend] at hmonths
      rw [hmonths]
      by_cases hjan : t.month ≤ 2
      · rw [if_pos hjan, if_pos (by omega)]
        omega
      · rw [if_neg hjan, if_neg (by omega)]
        omega
  · have hmonths := daysBeforeMonth_next t.year t.month_pos t.month_le (by omega)
    rw [← hend, hdec] at hmonths
    rw [hy, hm, hd, hdec, if_pos (by decide), if_neg (by decide), Nat.add_sub_cancel]
    have htwelve : daysBeforeMonth ((1 + 9) % 12) = daysBeforeMonth ((12 + 9) % 12) + t.day :=
      hmonths
    omega

theorem year_iterate_pos {t : Date} (h : 0 < t.year) (n : ℕ) : 0 < (next^[n] t).year := by
  induction n with
  | zero => exact h
  | succ n ih =>
    rw [Function.iterate_succ_apply']
    exact year_next_pos ih

/-- **So many days later** it is so many more. -/
theorem dayNumber_iterate {t : Date} (h : 0 < t.year) (n : ℕ) :
    (next^[n] t).dayNumber = t.dayNumber + n := by
  induction n with
  | zero => rfl
  | succ n ih => rw [Function.iterate_succ_apply', dayNumber_next (year_iterate_pos h n), ih,
      Nat.add_assoc]

/-- **The days of a year** come after those before its January. -/
theorem le_dayNumber_of_lt_year {t : Date} {y : ℕ} (h : y < t.year) :
    daysBefore y + daysBeforeMonth 10 ≤ t.dayNumber := by
  have hmpos := t.month_pos
  have hmle := t.month_le
  unfold dayNumber dayOfYear marchYear marchMonth
  by_cases hjan : t.month ≤ 2
  · rw [if_pos hjan]
    have hyears := daysBefore_mono (show y ≤ t.year - 1 by omega)
    unfold daysBeforeMonth
    omega
  · rw [if_neg hjan]
    have hyears := daysBefore_mono (show y + 1 ≤ t.year from h)
    have hyear : daysBefore y + 365 ≤ daysBefore (y + 1) := by
      rw [daysBefore_succ]
      omega
    have hten : daysBeforeMonth 10 = 306 := rfl
    omega

end Date

/-! ## Times of a day -/

/-- **A time**: a date, and the hour, minute and second of it. -/
@[ext]
structure DateTime where
  date : Date
  hour : ℕ
  minute : ℕ
  second : ℕ
  hour_lt : hour < 24
  minute_lt : minute < 60
  second_lt : second < 60
  deriving DecidableEq

namespace DateTime

/-- **The second after.** -/
def next (t : DateTime) : DateTime :=
  if h : t.second + 1 < 60 then { t with second := t.second + 1, second_lt := h }
  else if h : t.minute + 1 < 60 then
    { t with minute := t.minute + 1, second := 0, minute_lt := h, second_lt := by decide }
  else if h : t.hour + 1 < 24 then ⟨t.date, t.hour + 1, 0, 0, h, by decide, by decide⟩
  else ⟨t.date.next, 0, 0, 0, by decide, by decide, by decide⟩

/-- The time so many seconds after the midnight a date begins with. -/
def ofSeconds (start : Date) (n : ℕ) : DateTime where
  date := Date.next^[n / 86400] start
  hour := n % 86400 / 3600
  minute := n % 86400 % 3600 / 60
  second := n % 86400 % 60
  hour_lt := by omega
  minute_lt := by omega
  second_lt := by omega

theorem ofSeconds_succ (start : Date) (n : ℕ) :
    ofSeconds start (n + 1) = (ofSeconds start n).next := by
  have hsecond : (ofSeconds start n).second = n % 86400 % 60 := rfl
  have hminute : (ofSeconds start n).minute = n % 86400 % 3600 / 60 := rfl
  have hhour : (ofSeconds start n).hour = n % 86400 / 3600 := rfl
  have hdate : (n + 1) / 86400 = n / 86400 → (ofSeconds start (n + 1)).date
      = (ofSeconds start n).date := fun h => congrArg (fun k => Date.next^[k] start) h
  unfold next
  split_ifs with hs hm hh
  · refine DateTime.ext (hdate (by omega)) ?_ ?_ ?_
    · show (n + 1) % 86400 / 3600 = n % 86400 / 3600
      omega
    · show (n + 1) % 86400 % 3600 / 60 = n % 86400 % 3600 / 60
      omega
    · show (n + 1) % 86400 % 60 = n % 86400 % 60 + 1
      omega
  · refine DateTime.ext (hdate (by omega)) ?_ ?_ ?_
    · show (n + 1) % 86400 / 3600 = n % 86400 / 3600
      omega
    · show (n + 1) % 86400 % 3600 / 60 = n % 86400 % 3600 / 60 + 1
      omega
    · show (n + 1) % 86400 % 60 = 0
      omega
  · refine DateTime.ext (hdate (by omega)) ?_ ?_ ?_
    · show (n + 1) % 86400 / 3600 = n % 86400 / 3600 + 1
      omega
    · show (n + 1) % 86400 % 3600 / 60 = 0
      omega
    · show (n + 1) % 86400 % 60 = 0
      omega
  · -- the day is over
    have hlast : n % 86400 = 86399 := by omega
    refine DateTime.ext ?_ ?_ ?_ ?_
    · show Date.next^[(n + 1) / 86400] start = (Date.next^[n / 86400] start).next
      rw [show (n + 1) / 86400 = n / 86400 + 1 by omega, Function.iterate_succ_apply']
    · show (n + 1) % 86400 / 3600 = 0
      omega
    · show (n + 1) % 86400 % 3600 / 60 = 0
      omega
    · show (n + 1) % 86400 % 60 = 0
      omega

/-- **The rule for the second after, again and again**, is dividing by the length
of days, hours and minutes. -/
theorem iterate_next (start : Date) (n : ℕ) :
    next^[n] (ofSeconds start 0) = ofSeconds start n := by
  induction n with
  | zero => rfl
  | succ n ih => rw [Function.iterate_succ_apply', ih, ofSeconds_succ]

/-- The numbers of a time, the largest first. -/
def fields (t : DateTime) : List ℕ :=
  [t.date.year, t.date.month, t.date.day, t.hour, t.minute, t.second]

/-- **The second after comes after**, in the order of the numbers. -/
theorem fields_lt_fields_next (t : DateTime) : t.fields < t.next.fields := by
  unfold next fields
  split_ifs with hs hm hh
  · simp [List.cons_lt_cons_iff]
  · simp [List.cons_lt_cons_iff]
  · simp [List.cons_lt_cons_iff]
  · simp only [List.cons_lt_cons_iff]
    rcases t.date.next_cases with ⟨-, hy, hm, hd⟩ | ⟨-, -, hy, hm, hd⟩ | ⟨-, -, hy, hm, hd⟩
    · rw [hy, hm, hd]
      omega
    · rw [hy, hm, hd]
      omega
    · rw [hy, hm, hd]
      omega

end DateTime

end Calendar
