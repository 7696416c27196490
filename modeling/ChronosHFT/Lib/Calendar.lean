import Mathlib

/-!
# Dates of instants

The date of an instant in UTC: the day it falls on, in the proleptic Gregorian calendar, and its
text `YYYY-MM-DD`.  Different days have different texts, so the instants of one text are an
interval (`utcDate_convex`).

Years are counted from March on the way, so that the leap day is the last of a year.
-/

namespace ChronosHFT.Calendar

/-! ## Days -/

/-- The year of a day and its place in the year, of days counted from the first of March of the
year zero.  A year begins in March. -/
def marchDay (n : ℤ) : ℤ × ℤ :=
  let quad := n / 146097
  let rest := n % 146097
  let century := min 3 (rest / 36524)
  let rest := rest - 36524 * century
  let leap := rest / 1461
  let rest := rest % 1461
  let single := min 3 (rest / 365)
  (400 * quad + 100 * century + 4 * leap + single, rest - 365 * single)

/-- The day again. -/
def ofMarchDay (day : ℤ × ℤ) : ℤ :=
  146097 * (day.1 / 400) + 36524 * (day.1 % 400 / 100) + 1461 * (day.1 % 100 / 4) +
    365 * (day.1 % 4) + day.2

theorem ofMarchDay_marchDay (n : ℤ) : ofMarchDay (marchDay n) = n := by
  unfold ofMarchDay marchDay
  dsimp only
  -- the four counts one after the other, each with its range
  have hcentury : 0 ≤ min 3 (n % 146097 / 36524) ∧ min 3 (n % 146097 / 36524) ≤ 3 ∧
      0 ≤ n % 146097 - 36524 * min 3 (n % 146097 / 36524) ∧
      n % 146097 - 36524 * min 3 (n % 146097 / 36524) ≤ 36524 := by omega
  generalize hc : min 3 (n % 146097 / 36524) = century at *
  generalize hr : n % 146097 - 36524 * century = rest at *
  have hsingle : 0 ≤ min 3 (rest % 1461 / 365) ∧ min 3 (rest % 1461 / 365) ≤ 3 := by omega
  generalize min 3 (rest % 1461 / 365) = single at *
  have hquad : (400 * (n / 146097) + 100 * century + 4 * (rest / 1461) + single) / 400 =
      n / 146097 := by omega
  have hmod : (400 * (n / 146097) + 100 * century + 4 * (rest / 1461) + single) % 400 / 100 =
      century := by omega
  have hleap : (400 * (n / 146097) + 100 * century + 4 * (rest / 1461) + single) % 100 / 4 =
      rest / 1461 := by omega
  have hlast : (400 * (n / 146097) + 100 * century + 4 * (rest / 1461) + single) % 4 =
      single := by omega
  rw [hquad, hmod, hleap, hlast]
  omega

theorem marchDay_day (n : ℤ) : 0 ≤ (marchDay n).2 ∧ (marchDay n).2 ≤ 365 := by
  unfold marchDay
  dsimp only
  omega

/-- A date of the calendar. -/
structure Date where
  year : ℤ
  month : ℤ
  day : ℤ
  deriving DecidableEq, Repr

/-- The date of a day, counted from the first of January 1970. -/
def Date.ofDays (n : ℤ) : Date :=
  let (year, day) := marchDay (n + 719468)
  let month := (5 * day + 2) / 153
  { year := if month < 10 then year else year + 1
    month := if month < 10 then month + 3 else month - 9
    day := day - (153 * month + 2) / 5 + 1 }

/-- Different days have different dates. -/
theorem Date.ofDays_injective : Function.Injective Date.ofDays := by
  intro a b h
  have ha := marchDay_day (a + 719468)
  have hb := marchDay_day (b + 719468)
  have hra := ofMarchDay_marchDay (a + 719468)
  have hrb := ofMarchDay_marchDay (b + 719468)
  unfold ofDays at h
  generalize marchDay (a + 719468) = x at *
  generalize marchDay (b + 719468) = y at *
  obtain ⟨x, dx⟩ := x
  obtain ⟨y, dy⟩ := y
  simp only [Date.mk.injEq] at h ha hb
  obtain ⟨h1, h2, h3⟩ := h
  have hd : dx = dy := by omega
  subst hd
  have hy : x = y := by omega
  subst hy
  omega

theorem Date.ofDays_bounds (n : ℤ) : 1 ≤ (Date.ofDays n).month ∧ (Date.ofDays n).month ≤ 12 ∧
    1 ≤ (Date.ofDays n).day ∧ (Date.ofDays n).day ≤ 31 := by
  have h := marchDay_day (n + 719468)
  unfold ofDays
  dsimp only
  omega

example : Date.ofDays 19782 = ⟨2024, 2, 29⟩ := by decide

/-! ## Texts -/

/-- The last digit of a number. -/
def digit (n : ℤ) : Char := Char.ofNat (48 + (n % 10).toNat)

theorem digit_eq {a b : ℤ} (h : digit a = digit b) : a % 10 = b % 10 := by
  have hten : ∀ x y : Fin 10, Char.ofNat (48 + x) = Char.ofNat (48 + y) → x = y := by decide
  have hx : (a % 10).toNat < 10 := by omega
  have hy : (b % 10).toNat < 10 := by omega
  have hsame := Fin.mk.inj (hten ⟨_, hx⟩ ⟨_, hy⟩ h)
  omega

/-- The text of a date: four digits of the year, two of the month and two of the day. -/
def Date.isoformat (date : Date) : String :=
  String.ofList
    [digit (date.year / 1000), digit (date.year / 100), digit (date.year / 10), digit date.year,
      '-', digit (date.month / 10), digit date.month, '-', digit (date.day / 10), digit date.day]

/-- A date that can be written. -/
structure Date.Writable (date : Date) : Prop where
  year : 0 ≤ date.year ∧ date.year ≤ 9999
  month : 0 ≤ date.month ∧ date.month ≤ 99
  day : 0 ≤ date.day ∧ date.day ≤ 99

theorem Date.isoformat_injective {first second : Date} (hfirst : first.Writable)
    (hsecond : second.Writable) (h : first.isoformat = second.isoformat) : first = second := by
  have hlist := String.ofList_injective h
  simp only [List.cons.injEq, and_true, true_and] at hlist
  obtain ⟨h₁, h₂, h₃, h₄, h₅, h₆, h₇, h₈⟩ := hlist
  replace h₁ := digit_eq h₁
  replace h₂ := digit_eq h₂
  replace h₃ := digit_eq h₃
  replace h₄ := digit_eq h₄
  replace h₅ := digit_eq h₅
  replace h₆ := digit_eq h₆
  replace h₇ := digit_eq h₇
  replace h₈ := digit_eq h₈
  obtain ⟨⟨hy₁, hy₂⟩, ⟨hm₁, hm₂⟩, hd₁, hd₂⟩ := hfirst
  obtain ⟨⟨hy₁', hy₂'⟩, ⟨hm₁', hm₂'⟩, hd₁', hd₂'⟩ := hsecond
  cases first
  cases second
  simp only at *
  congr 1 <;> omega

/-! ## Instants -/

/-- The nearest whole number, the even one of two. -/
def roundHalfEven (x : ℚ) : ℤ :=
  if x - ⌊x⌋ < 1 / 2 ∨ x - ⌊x⌋ = 1 / 2 ∧ ⌊x⌋ % 2 = 0 then ⌊x⌋ else ⌊x⌋ + 1

theorem roundHalfEven_mono : Monotone roundHalfEven := by
  intro x y hle
  have hrange : ∀ z : ℚ, ⌊z⌋ ≤ roundHalfEven z ∧ roundHalfEven z ≤ ⌊z⌋ + 1 := by
    intro z
    unfold roundHalfEven
    split <;> omega
  rcases (Int.floor_le_floor hle).lt_or_eq with hlt | heq
  · have hx := (hrange x).2
    have hy := (hrange y).1
    omega
  · -- on one whole number the fractions decide
    unfold roundHalfEven
    rw [heq]
    by_cases hy : y - ⌊y⌋ < 1 / 2 ∨ y - ⌊y⌋ = 1 / 2 ∧ ⌊y⌋ % 2 = 0
    · rw [if_pos hy, if_pos]
      rcases hy with hy | ⟨hy, heven⟩
      · exact .inl (by linarith)
      · rcases lt_or_eq_of_le (show x - ⌊y⌋ ≤ 1 / 2 by linarith) with hx | hx
        · exact .inl hx
        · exact .inr ⟨hx, heven⟩
    · rw [if_neg hy]
      split <;> omega

/-- The day of an instant, in seconds since 1970, which is first rounded to microseconds. -/
def utcDay (instant : ℚ) : ℤ := roundHalfEven (instant * 1000000) / 86400000000

theorem utcDay_mono : Monotone utcDay := by
  intro first second h
  have hround := roundHalfEven_mono
    (mul_le_mul_of_nonneg_right h (by norm_num : (0 : ℚ) ≤ 1000000))
  unfold utcDay
  omega

/-- `datetime.fromtimestamp(instant, tz=timezone.utc).date().isoformat()`; it raises outside the
years one to 9999. -/
def utcDate (instant : ℚ) : Option String :=
  let date := Date.ofDays (utcDay instant)
  if 1 ≤ date.year ∧ date.year ≤ 9999 then some date.isoformat else none

variable {first instant second : ℚ} {date : String}

/-- **Instants of one date** are on one day. -/
theorem utcDay_of_utcDate (h : utcDate first = some date)
    (h' : utcDate second = some date) : utcDay first = utcDay second := by
  have hwritable : ∀ {n}, 1 ≤ (Date.ofDays n).year ∧ (Date.ofDays n).year ≤ 9999 →
      (Date.ofDays n).Writable := by
    intro n hyear
    obtain ⟨hm₁, hm₂, hd₁, hd₂⟩ := Date.ofDays_bounds n
    exact ⟨⟨by omega, hyear.2⟩, ⟨by omega, by omega⟩, by omega, by omega⟩
  unfold utcDate at h h'
  dsimp only at h h'
  split at h
  case isFalse => cases h
  split at h'
  case isFalse => cases h'
  rename_i hyear hyear'
  refine Date.ofDays_injective (Date.isoformat_injective (hwritable hyear) (hwritable hyear') ?_)
  exact (Option.some.inj h).trans (Option.some.inj h').symm

/-- The date is that of the day. -/
theorem utcDate_of_utcDay (h : utcDay first = utcDay second) :
    utcDate first = utcDate second := by
  unfold utcDate
  rw [h]

theorem utcDate_ne_empty (instant : ℚ) : utcDate instant ≠ some "" := by
  intro h
  unfold utcDate at h
  dsimp only at h
  split at h
  · have hlength := congrArg String.length (Option.some.inj h)
    simp [Date.isoformat] at hlength
  · cases h

/-- **The instants of one date are an interval.** -/
theorem utcDate_convex {last : ℚ} (hfirst : first ≤ instant)
    (hlast : instant ≤ last) (h : utcDate first = some date) (h' : utcDate last = some date) :
    utcDate instant = some date := by
  have hday : utcDay first = utcDay last := utcDay_of_utcDate h h'
  have hsame : utcDay instant = utcDay first :=
    le_antisymm ((utcDay_mono hlast).trans hday.ge) (utcDay_mono hfirst)
  exact (utcDate_of_utcDay hsame).trans h

/-! ## Milliseconds -/

/-- The first millisecond of the day of an instant. -/
def dayStartMs (instant : ℚ) : ℤ := utcDay instant * 86400000

/-- The milliseconds of an instant, which is first rounded to microseconds. -/
def roundedMs (instant : ℚ) : ℤ := roundHalfEven (instant * 1000000) / 1000

theorem roundedMs_mono : Monotone roundedMs := by
  intro first second h
  have hround := roundHalfEven_mono
    (mul_le_mul_of_nonneg_right h (by norm_num : (0 : ℚ) ≤ 1000000))
  unfold roundedMs
  omega

theorem dayStartMs_mono : Monotone dayStartMs := by
  intro first second h
  have hday := utcDay_mono h
  unfold dayStartMs
  omega

theorem roundHalfEven_intCast (n : ℤ) : roundHalfEven n = n := by
  unfold roundHalfEven
  simp

/-- The day of a number of milliseconds. -/
theorem utcDay_ms (ms : ℤ) : utcDay ((ms : ℚ) / 1000) = ms / 86400000 := by
  have hmicro : (ms : ℚ) / 1000 * 1000000 = ((ms * 1000 : ℤ) : ℚ) := by
    push_cast
    ring
  unfold utcDay
  rw [hmicro, roundHalfEven_intCast]
  omega

theorem utcDay_roundedMs (instant : ℚ) : roundedMs instant / 86400000 = utcDay instant := by
  unfold roundedMs utcDay
  omega

/-- **The milliseconds of a day** up to an instant of it begin with its first. -/
theorem utcDate_ms_iff (h : utcDate instant = some date) {ms : ℤ}
    (hms : ms ≤ roundedMs instant) :
    utcDate ((ms : ℚ) / 1000) = some date ↔ dayStartMs instant ≤ ms := by
  have hday := utcDay_roundedMs instant
  constructor
  · intro hdate
    have hsame := utcDay_of_utcDate hdate h
    rw [utcDay_ms] at hsame
    unfold dayStartMs
    omega
  · intro hle
    have hsame : utcDay ((ms : ℚ) / 1000) = utcDay instant := by
      rw [utcDay_ms]
      unfold dayStartMs at hle
      omega
    rw [utcDate_of_utcDay hsame, h]

end ChronosHFT.Calendar
