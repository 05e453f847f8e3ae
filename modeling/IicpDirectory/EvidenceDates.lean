import IicpDirectory.Foundations.Calendar
import IicpDirectory.Foundations.FixedWidth
import Mathlib.Algebra.Order.SuccPred
import Mathlib.Data.Nat.SuccPred
import Mathlib.Data.String.Basic

/-!
# The dates of the replica list

The list of replicas says when each was registered and when the list was made.
The directory has milliseconds since 1970, and turns them into a text with no
library: the day by the arithmetic of eras of 146097 days, the time by division.

Here the text is that of the calendar, which is a rule for the day after and the
second after and nothing else (`DirectoryEvidence.ms_to_iso8601_calendar`). The
numbers of the source are unsigned, and a difference that is below zero is
nothing. Sums cannot leave 64 bits, since there are `2 ^ 64` seconds at most.
-/

open Calendar

namespace DirectoryEvidence

/-- A difference of unsigned numbers. -/
def checkedSub (a b : ℕ) : Option ℕ := if b ≤ a then some (a - b) else none

/-- **`days_to_ymd`**: the date so many days after the first of January 1970. -/
def daysToYmd (days : ℕ) : Option (ℕ × ℕ × ℕ) := do
  let days := days + 719468 -- since the first of March of the year 0
  let era := days / 146097
  let doe := days % 146097
  let noFourths ← checkedSub doe (doe / 1460)
  let noLeaps ← checkedSub (noFourths + doe / 36524) (doe / 146096)
  let yoe := noLeaps / 365
  let y := yoe + era * 400
  let before ← checkedSub (365 * yoe + yoe / 4) (yoe / 100)
  let doy ← checkedSub doe before
  let mp := (5 * doy + 2) / 153
  let behind ← checkedSub doy ((153 * mp + 2) / 5)
  let d := behind + 1
  let m ← if mp < 10 then some (mp + 3) else checkedSub mp 9
  let y := if m ≤ 2 then y + 1 else y
  return (y, m, d)

/-- `{n:0width}`: a number, with zeros before it. -/
def zeroPadded (width n : ℕ) : String := String.ofList ((Nat.toDigits 10 n).leftpad width '0')

/-- **`ms_to_iso8601`**, of milliseconds since 1970. -/
def msToIso8601 (ms : Int64) : Option String := do
  let s := (ms / 1000).toUInt64.toNat
  let days := s / 86400
  let time := s % 86400
  let (y, mo, d) ← daysToYmd days
  let h := time / 3600
  let mi := time % 3600 / 60
  let se := time % 60
  return zeroPadded 4 y ++ "-" ++ zeroPadded 2 mo ++ "-" ++ zeroPadded 2 d ++ "T"
    ++ zeroPadded 2 h ++ ":" ++ zeroPadded 2 mi ++ ":" ++ zeroPadded 2 se ++ "Z"

theorem checkedSub_of_le {a b : ℕ} (h : b ≤ a) : checkedSub a b = some (a - b) := if_pos h

/-! ## The date of a day -/

/-- **The year within an era**, of its centuries, its fourth years and what is
left: a day too many at the end of a fourth year is taken back. -/
theorem yearOfEra_eq {c q r doy : ℕ} (hc : c < 4) (hq : q < 25) (hr : r < 4)
    (hdoy : doy < 365 ∨ doy = 365 ∧ r = 3 ∧ (q < 24 ∨ c = 3)) {doe : ℕ}
    (hdoe : doe = 36524 * c + 1461 * q + 365 * r + doy) :
    doe / 1460 ≤ doe ∧ doe / 146096 ≤ doe - doe / 1460 + doe / 36524
      ∧ (doe - doe / 1460 + doe / 36524 - doe / 146096) / 365 = 100 * c + 4 * q + r := by
  have hcentury : doe / 36524 = c + doe / 146096 := by
    by_cases hend : c = 3 ∧ q = 24 ∧ r = 3 ∧ doy = 365
    · obtain ⟨rfl, rfl, rfl, rfl⟩ := hend
      subst hdoe
      decide
    · have hzero : doe / 146096 = 0 := by omega
      omega
  have hfourth : doe / 1460 = 25 * c + q + (24 * c + q + 365 * r + doy) / 1460 := by omega
  have hvalue : doe - doe / 1460 + doe / 36524 - doe / 146096
      = 365 * (100 * c + 4 * q + r) + (doy - (24 * c + q + 365 * r + doy) / 1460) := by
    omega
  have hback : doy - (24 * c + q + 365 * r + doy) / 1460 < 365 := by omega
  refine ⟨by omega, by omega, ?_⟩
  rw [hvalue]
  omega

/-- **The days of an era before a year.** -/
theorem daysBeforeYear_eq {c q r : ℕ} (hq : q < 25) (hr : r < 4) :
    (100 * c + 4 * q + r) / 100 ≤ 365 * (100 * c + 4 * q + r) + (100 * c + 4 * q + r) / 4
      ∧ 365 * (100 * c + 4 * q + r) + (100 * c + 4 * q + r) / 4 - (100 * c + 4 * q + r) / 100
        = 36524 * c + 1461 * q + 365 * r := by
  omega

/-- **The month of a day**, months being counted from March. -/
theorem month_of_dayOfYear (t : Date) : (5 * t.dayOfYear + 2) / 153 = t.marchMonth := by
  have hlt := t.dayOfYear_lt_daysBeforeMonth
  have hle : Date.daysBeforeMonth t.marchMonth ≤ t.dayOfYear := Nat.le_add_right _ _
  unfold Date.daysBeforeMonth at hlt hle
  omega

/-- The parts of a year: eras, centuries, fourth years, and years. -/
theorem exists_parts (y : ℕ) : ∃ e c q r, c < 4 ∧ q < 25 ∧ r < 4
    ∧ y = 400 * e + 100 * c + 4 * q + r :=
  ⟨y / 400, y % 400 / 100, y % 100 / 4, y % 4, by omega, by omega, by omega, by omega⟩

/-- **The arithmetic of eras** gives the date back. -/
theorem daysToYmd_eq {t : Date} (h : 0 < t.year) {days : ℕ}
    (hdays : days + 719468 = t.dayNumber) :
    daysToYmd days = some (t.year, t.month, t.day) := by
  unfold daysToYmd
  rw [hdays]
  -- the number of the day is kept as one, so that nothing counts up to it
  obtain ⟨n, hn⟩ : ∃ n, n = t.dayNumber := ⟨_, rfl⟩
  rw [← hn]
  obtain ⟨e, c, q, r, hc, hq, hr, hyear⟩ := exists_parts t.marchYear
  have hlast : t.dayOfYear < 365 ∨ t.dayOfYear = 365 ∧ r = 3 ∧ (q < 24 ∨ c = 3) := by
    refine (Date.dayOfYear_le h).imp_right fun ⟨hdoy, hleap⟩ => ⟨hdoy, ?_⟩
    unfold IsLeap at hleap
    omega
  have hsum : n = 146097 * e + (36524 * c + 1461 * q + 365 * r + t.dayOfYear) := by
    rw [hn, Date.dayNumber, Date.daysBefore, hyear]
    omega
  have hera : n / 146097 = e := by omega
  have hdoe : n % 146097 = 36524 * c + 1461 * q + 365 * r + t.dayOfYear := by omega
  obtain ⟨hfourths, hleaps, hyoe⟩ := yearOfEra_eq hc hq hr hlast hdoe
  obtain ⟨hfew, hyears⟩ := daysBeforeYear_eq hq hr (c := c)
  have hbefore : 36524 * c + 1461 * q + 365 * r ≤ n % 146097 := by omega
  have hdoy : n % 146097 - (36524 * c + 1461 * q + 365 * r) = t.dayOfYear := by omega
  have hmp := month_of_dayOfYear t
  have hmonth : (153 * t.marchMonth + 2) / 5 ≤ t.dayOfYear := Nat.le_add_right _ _
  have hd : t.dayOfYear - (153 * t.marchMonth + 2) / 5 + 1 = t.day := by
    have hpos := t.day_pos
    unfold Date.dayOfYear Date.daysBeforeMonth
    omega
  simp only [Option.bind_eq_bind, checkedSub_of_le hfourths, checkedSub_of_le hleaps,
    Option.bind_some, hyoe, checkedSub_of_le hfew, hyears, checkedSub_of_le hbefore, hdoy, hmp,
    checkedSub_of_le hmonth, hd, hera]
  have hmpos := t.month_pos
  have hmle := t.month_le
  unfold Date.marchMonth
  unfold Date.marchYear at hyear
  -- January and February are of the year before, from March
  by_cases hjan : t.month ≤ 2
  · have hmarch : (t.month + 9) % 12 = t.month + 9 := by omega
    rw [if_pos hjan] at hyear
    rw [hmarch, if_neg (by omega), checkedSub_of_le (by omega), Option.bind_some,
      Nat.add_sub_cancel, if_pos hjan, show 100 * c + 4 * q + r + e * 400 + 1 = t.year by omega]
    rfl
  · have hmarch : (t.month + 9) % 12 + 3 = t.month := by omega
    rw [if_neg hjan] at hyear
    rw [if_pos (by omega), hmarch, if_neg hjan,
      show 100 * c + 4 * q + r + e * 400 = t.year by omega]
    rfl

/-! ## The text of a time -/

/-- The first of January 1970. -/
def unixEpoch : Date :=
  ⟨1970, 1, 1, Nat.one_pos, Nat.le_of_ble_eq_true rfl, Nat.one_pos, daysIn_pos _ _⟩

/-- **The date of a day**: the day after, so many times, since 1970. -/
def dateOf (days : ℕ) : Date := Date.next^[days] unixEpoch

/-- **The time of a second**: the second after, so many times, since 1970. -/
def timeOf (seconds : ℕ) : DateTime := DateTime.next^[seconds] (.ofSeconds unixEpoch 0)

/-- `YYYY-MM-DDThh:mm:ssZ`. -/
def isoShape : List (ℕ × Char) :=
  [(4, '-'), (2, '-'), (2, 'T'), (2, ':'), (2, ':'), (2, 'Z')]

/-- **A time as a text.** -/
def isoText (t : DateTime) : String := String.ofList (FixedWidth.render isoShape t.fields)

/-- **`days_to_ymd` is the calendar**, on every day. -/
theorem daysToYmd_dateOf (days : ℕ) :
    daysToYmd days = some ((dateOf days).year, (dateOf days).month, (dateOf days).day) := by
  refine daysToYmd_eq (Date.year_iterate_pos (by decide) days) ?_
  rw [Date.dayNumber_iterate (by decide), Nat.add_comm]
  rfl

/-- **The last second of the year 9999** is before the year 10000. -/
theorem year_timeOf {seconds : ℕ} (h : seconds ≤ 253402300799) :
    (timeOf seconds).date.year < 10 ^ 4 := by
  have hnumber := Date.dayNumber_iterate (t := unixEpoch) (by decide) (seconds / 86400)
  have hepoch : unixEpoch.dayNumber = 719468 := rfl
  rw [timeOf, DateTime.iterate_next]
  show (Date.next^[seconds / 86400] unixEpoch).year < 10 ^ 4
  by_contra hyear
  have hlate := Date.le_dayNumber_of_lt_year (Nat.le_of_not_lt hyear : 9999 + 1 ≤ _)
  have hend : Date.daysBefore 9999 + Date.daysBeforeMonth 10 = 3652365 := by decide
  omega

theorem fits_fields {t : DateTime} (h : t.date.year < 10 ^ 4) :
    FixedWidth.Fits isoShape t.fields := by
  have hmonth := t.date.month_le
  have hday := t.date.day_le.trans (daysIn_le _ _)
  have hhour := t.hour_lt
  have hminute := t.minute_lt
  have hsecond := t.second_lt
  exact ⟨h, by omega, by omega, by omega, by omega, by omega, trivial⟩

/-- The whole seconds of a time that is not before 1970. -/
theorem toNat_seconds {ms : Int64} (h : 0 ≤ ms.toInt) :
    (ms / 1000).toUInt64.toNat = (ms.toInt / 1000).toNat := by
  have hdiv : (ms / 1000).toInt = ms.toInt / 1000 := by
    rw [Int64.toInt_div_of_ne_right _ _ (by decide)]
    exact Int.tdiv_eq_ediv_of_nonneg h
  have hpos : 0 ≤ ms / 1000 := by
    rw [Int64.le_iff_toInt_le, hdiv]
    exact Int.ediv_nonneg h (by decide)
  rw [Int64.toNat_toUInt64_of_le hpos, ← hdiv]
  rfl

theorem zeroPadded_eq {width n : ℕ} (hwidth : 0 < width) (h : n < 10 ^ width) :
    zeroPadded width n = String.ofList (FixedWidth.digits width n) := by
  rw [zeroPadded, FixedWidth.leftpad_toDigits hwidth h]

/-- **What is printed is the text of the time.** -/
theorem msToIso8601_eq {ms : Int64} (h : 0 ≤ ms.toInt) (hlast : ms.toInt ≤ 253402300799999) :
    msToIso8601 ms = some (isoText (timeOf (ms.toInt / 1000).toNat)) := by
  obtain ⟨s, hs⟩ : ∃ s, s = (ms.toInt / 1000).toNat := ⟨_, rfl⟩
  have hfits := fits_fields (year_timeOf (show s ≤ 253402300799 by omega))
  have htime : timeOf s = .ofSeconds unixEpoch s := DateTime.iterate_next unixEpoch s
  rw [htime] at hfits
  obtain ⟨hyear, hmonth, hday, hhour, hminute, hsecond, -⟩ := hfits
  unfold msToIso8601
  rw [toNat_seconds h, ← hs, htime]
  simp only [daysToYmd_dateOf, Option.bind_eq_bind, Option.bind_some]
  rw [zeroPadded_eq (n := (dateOf (s / 86400)).year) (by decide) hyear,
    zeroPadded_eq (n := (dateOf (s / 86400)).month) (by decide) hmonth,
    zeroPadded_eq (n := (dateOf (s / 86400)).day) (by decide) hday,
    zeroPadded_eq (n := s % 86400 / 3600) (by decide) hhour,
    zeroPadded_eq (n := s % 86400 % 3600 / 60) (by decide) hminute,
    zeroPadded_eq (n := s % 86400 % 60) (by decide) hsecond]
  refine congrArg some (String.toList_inj.mp ?_)
  simp only [String.toList_append, String.toList_ofList, isoText, List.append_assoc]
  rfl

/-- **Texts are in the order of their times**, second by second. -/
theorem isoText_strictMonoOn :
    StrictMonoOn (fun seconds => isoText (timeOf seconds)) (Set.Iic 253402300799) := by
  refine strictMonoOn_of_lt_add_one Set.ordConnected_Iic fun seconds _ hmem hnext => ?_
  have hstep : timeOf (seconds + 1) = (timeOf seconds).next := Function.iterate_succ_apply' _ _ _
  unfold isoText
  rw [String.lt_iff_toList_lt, String.toList_ofList, String.toList_ofList]
  refine FixedWidth.render_lt_render (fits_fields (year_timeOf hmem))
    (fits_fields (year_timeOf hnext)) ?_
  rw [hstep]
  exact (timeOf seconds).fields_lt_fields_next

/-- **The dates of the replica list are those of the calendar**, up to the last
millisecond of the year 9999: the day is the date of the day, and no difference
is below zero; the text is that of the second; and of two texts the one that
is less is that of the earlier second. -/
theorem ms_to_iso8601_calendar (ms : Int64) (h : 0 ≤ ms.toInt)
    (hlast : ms.toInt ≤ 253402300799999) :
    (∃ date, date = dateOf ((ms / 1000).toUInt64.toNat / 86400)
        ∧ daysToYmd ((ms / 1000).toUInt64.toNat / 86400) = some (date.year, date.month, date.day)
        ∧ 1 ≤ date.month ∧ date.month ≤ 12
        ∧ 1 ≤ date.day ∧ date.day ≤ daysIn date.year date.month)
      ∧ msToIso8601 ms = some (isoText (timeOf (ms.toInt / 1000).toNat))
      ∧ ∀ ms' : Int64, 0 ≤ ms'.toInt → ms'.toInt ≤ 253402300799999 →
        ∃ text text', msToIso8601 ms = some text ∧ msToIso8601 ms' = some text'
          ∧ (text < text' ↔ ms.toInt / 1000 < ms'.toInt / 1000) := by
  refine ⟨⟨_, rfl, daysToYmd_dateOf _, (dateOf _).month_pos, (dateOf _).month_le,
    (dateOf _).day_pos, (dateOf _).day_le⟩, msToIso8601_eq h hlast, fun ms' h' hlast' => ?_⟩
  refine ⟨_, _, msToIso8601_eq h hlast, msToIso8601_eq h' hlast', ?_⟩
  have horder := isoText_strictMonoOn.lt_iff_lt
    (show (ms.toInt / 1000).toNat ∈ Set.Iic 253402300799 by rw [Set.mem_Iic]; omega)
    (show (ms'.toInt / 1000).toNat ∈ Set.Iic 253402300799 by rw [Set.mem_Iic]; omega)
  refine horder.trans ?_
  omega

/-- The leap day of a century that has one, at its last second. -/
theorem ms_to_iso8601_calendar_leap_day :
    0 ≤ (951868799999 : Int64).toInt ∧ (951868799999 : Int64).toInt ≤ 253402300799999
      ∧ msToIso8601 951868799999 = some "2000-02-29T23:59:59Z"
      ∧ msToIso8601 951868799999
        = some (isoText (timeOf ((951868799999 : Int64).toInt / 1000).toNat)) :=
  ⟨by decide, by decide, by decide +kernel,
    (ms_to_iso8601_calendar 951868799999 (by decide) (by decide)).2.1⟩

end DirectoryEvidence
