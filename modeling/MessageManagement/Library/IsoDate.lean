/-
This file defines the time values of the JavaScript `Date`, their ISO text and its
parsing.

A time value counts milliseconds from the epoch and is bounded. Its ISO text gives
the civil date of its day, counted in eras of 400 years that start on March 1,
and the time of day. Parsing reads the ISO text back; every other text is left to
the runtime, which is a parameter.
-/

import MessageManagement.Library.Text

/-! ### Time values -/

/-- The largest time value, 100 million days from the epoch. -/
def MAX_TIME_VALUE : Int := 8640000000000000

/-- A valid `Date`: a time value within the bounds. -/
structure JsDate where
  ms : Int
  lower : -MAX_TIME_VALUE ≤ ms
  upper : ms ≤ MAX_TIME_VALUE
deriving DecidableEq

theorem JsDate.ext_ms {first second : JsDate} (same : first.ms = second.ms) : first = second := by
  cases first
  cases second
  simp only [JsDate.mk.injEq]
  exact same

/-- The date of a number of milliseconds, if it is within the bounds. -/
def JsDate.ofMs (ms : Int) : Option JsDate :=
  if lower : -MAX_TIME_VALUE ≤ ms then
    if upper : ms ≤ MAX_TIME_VALUE then some ⟨ms, lower, upper⟩ else none
  else none

theorem JsDate.ofMs_ms (date : JsDate) : JsDate.ofMs date.ms = some date := by
  rw [JsDate.ofMs, dif_pos date.lower, dif_pos date.upper]

/-! ### The civil calendar -/

def MS_PER_DAY : Int := 86400000

/-- The days of an era of 400 years. -/
def DAYS_PER_ERA : Int := 146097

/-- The days from March 1 of the year 0 to the epoch. -/
def DAYS_TO_EPOCH : Int := 719468

structure CivilDate where
  year : Int
  month : Int
  day : Int

/-- The year of an era, counted from March, that a day of the era lies in. The last century of
an era is a day longer than the others, as is the last year of four. -/
def yearOfEra (dayOfEra : Int) : Int :=
  let century := min (dayOfEra / 36524) 3
  let dayOfCentury := dayOfEra - 36524 * century
  100 * century + 4 * (dayOfCentury / 1461) + min (dayOfCentury % 1461 / 365) 3

/-- The first day of a year of an era. -/
def firstDayOfYear (year : Int) : Int := 365 * year + year / 4 - year / 100

/-- The date of a day of a year counted from March. -/
def civilInYear (year dayOfYear : Int) : CivilDate :=
  let month := (5 * dayOfYear + 2) / 153
  { year := if month < 10 then year else year + 1
    month := if month < 10 then month + 3 else month - 9
    day := dayOfYear - (153 * month + 2) / 5 + 1 }

def civilOfDays (days : Int) : CivilDate :=
  let era := (days + DAYS_TO_EPOCH) / DAYS_PER_ERA
  let dayOfEra := (days + DAYS_TO_EPOCH) % DAYS_PER_ERA
  let year := yearOfEra dayOfEra
  civilInYear (year + era * 400) (dayOfEra - firstDayOfYear year)

def daysOfCivil (civil : CivilDate) : Int :=
  let year := if civil.month ≤ 2 then civil.year - 1 else civil.year
  let month := if civil.month ≤ 2 then civil.month + 9 else civil.month - 3
  let dayOfYear := (153 * month + 2) / 5 + civil.day - 1
  year / 400 * DAYS_PER_ERA + firstDayOfYear (year % 400) + dayOfYear - DAYS_TO_EPOCH

/-- A day of an era lies in one of its years. -/
theorem yearOfEra_bounds {dayOfEra : Int} (nonneg : 0 ≤ dayOfEra)
    (small : dayOfEra < DAYS_PER_ERA) :
    0 ≤ yearOfEra dayOfEra ∧ yearOfEra dayOfEra < 400 ∧
      0 ≤ dayOfEra - firstDayOfYear (yearOfEra dayOfEra) ∧
      dayOfEra - firstDayOfYear (yearOfEra dayOfEra) < 366 := by
  unfold DAYS_PER_ERA at small
  unfold firstDayOfYear yearOfEra
  dsimp only
  generalize chosen : min (dayOfEra / 36524) 3 = century
  generalize quad : (dayOfEra - 36524 * century) / 1461 = four
  generalize day : (dayOfEra - 36524 * century) % 1461 = dayOfFour
  generalize last : min (dayOfFour / 365) 3 = year
  have inCentury : 0 ≤ dayOfEra - 36524 * century ∧ dayOfEra - 36524 * century < 36525 := by omega
  have split : dayOfEra = 36524 * century + 1461 * four + dayOfFour := by omega
  have bounds : 0 ≤ century ∧ century ≤ 3 ∧ 0 ≤ four ∧ four ≤ 24 ∧ 0 ≤ year ∧ year ≤ 3 := by omega
  have quarter : (100 * century + 4 * four + year) / 4 = 25 * century + four := by omega
  have hundredth : (100 * century + 4 * four + year) / 100 = century := by omega
  rw [quarter, hundredth]
  omega

theorem daysOfCivil_civilInYear (year : Int) {dayOfYear : Int} (nonneg : 0 ≤ dayOfYear)
    (small : dayOfYear < 366) :
    daysOfCivil (civilInYear year dayOfYear) =
      year / 400 * DAYS_PER_ERA + firstDayOfYear (year % 400) + dayOfYear - DAYS_TO_EPOCH := by
  unfold daysOfCivil civilInYear
  dsimp only
  by_cases early : (5 * dayOfYear + 2) / 153 < 10
  · have shifted : ¬ (5 * dayOfYear + 2) / 153 + 3 ≤ 2 := by omega
    simp only [if_pos early, if_neg shifted]
    omega
  · have shifted : (5 * dayOfYear + 2) / 153 - 9 ≤ 2 := by omega
    simp only [if_neg early, if_pos shifted, add_sub_cancel_right]
    omega

/-- The days of a civil date are counted back. -/
theorem daysOfCivil_civilOfDays (days : Int) : daysOfCivil (civilOfDays days) = days := by
  have nonneg := Int.emod_nonneg (days + DAYS_TO_EPOCH) (show DAYS_PER_ERA ≠ 0 by decide)
  have small := Int.emod_lt_of_pos (days + DAYS_TO_EPOCH) (show 0 < DAYS_PER_ERA by decide)
  have whole := Int.mul_ediv_add_emod (days + DAYS_TO_EPOCH) DAYS_PER_ERA
  obtain ⟨yearNonneg, yearSmall, dayNonneg, daySmall⟩ := yearOfEra_bounds nonneg small
  unfold civilOfDays
  rw [daysOfCivil_civilInYear _ dayNonneg daySmall]
  have eraOf : ∀ year era : Int, 0 ≤ year → year < 400 → (year + era * 400) / 400 = era := by
    intro year era _ _
    omega
  have yearOf : ∀ year era : Int, 0 ≤ year → year < 400 → (year + era * 400) % 400 = year := by
    intro year era _ _
    omega
  rw [eraOf _ _ yearNonneg yearSmall, yearOf _ _ yearNonneg yearSmall, mul_comm]
  omega

theorem civilInYear_bounds (year : Int) {dayOfYear : Int} (nonneg : 0 ≤ dayOfYear)
    (small : dayOfYear < 366) :
    1 ≤ (civilInYear year dayOfYear).month ∧ (civilInYear year dayOfYear).month ≤ 12 ∧
      1 ≤ (civilInYear year dayOfYear).day ∧ (civilInYear year dayOfYear).day ≤ 31 ∧
      year ≤ (civilInYear year dayOfYear).year ∧
      (civilInYear year dayOfYear).year ≤ year + 1 := by
  unfold civilInYear
  dsimp only
  split
  · omega
  · omega

/-- The fields of the civil date of a time value are in range. -/
theorem civilOfDays_bounds {days : Int} (lower : -100000000 ≤ days) (upper : days ≤ 100000000) :
    1 ≤ (civilOfDays days).month ∧ (civilOfDays days).month ≤ 12 ∧
      1 ≤ (civilOfDays days).day ∧ (civilOfDays days).day ≤ 31 ∧
      -1000000 < (civilOfDays days).year ∧ (civilOfDays days).year < 1000000 := by
  have nonneg := Int.emod_nonneg (days + DAYS_TO_EPOCH) (show DAYS_PER_ERA ≠ 0 by decide)
  have small := Int.emod_lt_of_pos (days + DAYS_TO_EPOCH) (show 0 < DAYS_PER_ERA by decide)
  obtain ⟨yearNonneg, yearSmall, dayNonneg, daySmall⟩ := yearOfEra_bounds nonneg small
  have bounds := civilInYear_bounds (yearOfEra ((days + DAYS_TO_EPOCH) % DAYS_PER_ERA) +
    (days + DAYS_TO_EPOCH) / DAYS_PER_ERA * 400) dayNonneg daySmall
  have era : -1000 ≤ (days + DAYS_TO_EPOCH) / DAYS_PER_ERA ∧
      (days + DAYS_TO_EPOCH) / DAYS_PER_ERA ≤ 1000 := by
    unfold DAYS_TO_EPOCH DAYS_PER_ERA
    omega
  obtain ⟨monthLower, monthUpper, dayLower, dayUpper, yearLower, yearUpper⟩ := bounds
  refine ⟨monthLower, monthUpper, dayLower, dayUpper, ?_, ?_⟩
  · unfold civilOfDays
    dsimp only
    omega
  · unfold civilOfDays
    dsimp only
    omega

/-! ### Decimal fields -/

/-- The character of a decimal digit. -/
def digitUnit (digit : Nat) : UInt16 := (0x30 + digit).toUInt16

/-- The last `width` decimal digits of a number. -/
def digits : Nat → Nat → JsString
  | 0, _ => []
  | width + 1, value => digits width (value / 10) ++ [digitUnit (value % 10)]

/-- The number that decimal digits denote. -/
def digitsValue (text : JsString) : Nat :=
  text.foldl (fun value unit => value * 10 + (unit.toNat - 0x30)) 0

theorem toNat_digitUnit {digit : Nat} (small : digit < 10) :
    (digitUnit digit).toNat = 0x30 + digit := by
  show (0x30 + digit) % 65536 = 0x30 + digit
  omega

theorem length_digits (width value : Nat) : (digits width value).length = width := by
  induction width generalizing value with
  | zero => rfl
  | succ width inductionHypothesis =>
    rw [digits, List.length_append, inductionHypothesis, List.length_singleton]

theorem digitsValue_digits {width value : Nat} (small : value < 10 ^ width) :
    digitsValue (digits width value) = value := by
  induction width generalizing value with
  | zero =>
    rw [pow_zero, Nat.lt_one_iff] at small
    rw [small]
    rfl
  | succ width inductionHypothesis =>
    have shorter : value / 10 < 10 ^ width := by
      rw [pow_succ] at small
      exact Nat.div_lt_of_lt_mul (by rw [mul_comm]; exact small)
    have front := inductionHypothesis shorter
    have last := toNat_digitUnit (Nat.mod_lt value (show 0 < 10 by decide))
    rw [digitsValue] at front ⊢
    rw [digits, List.foldl_append, front, List.foldl_cons, List.foldl_nil, last]
    omega

theorem digits_head (width value : Nat) :
    ∃ rest, digits (width + 1) value = digitUnit (value / 10 ^ width % 10) :: rest := by
  induction width generalizing value with
  | zero => exact ⟨[], by rw [pow_zero, Nat.div_one]; rfl⟩
  | succ width inductionHypothesis =>
    obtain ⟨rest, front⟩ := inductionHypothesis (value / 10)
    refine ⟨rest ++ [digitUnit (value % 10)], ?_⟩
    rw [digits, front, List.cons_append, Nat.div_div_eq_div_mul, pow_succ', mul_comm]

/-! ### ISO text -/

/-- The year of an ISO text: four digits, or a sign and six. -/
def isoYear (year : Int) : JsString :=
  if 0 ≤ year ∧ year < 10000 then digits 4 year.toNat
  else if year < 0 then 0x2D :: digits 6 (-year).toNat
  else 0x2B :: digits 6 year.toNat

/-- The ISO text after the year. -/
def isoRest (month day time : Nat) : JsString :=
  [0x2D] ++ digits 2 month ++ [0x2D] ++ digits 2 day ++ [0x54] ++ digits 2 (time / 3600000) ++
    [0x3A] ++ digits 2 (time / 60000 % 60) ++ [0x3A] ++ digits 2 (time / 1000 % 60) ++ [0x2E] ++
    digits 3 (time % 1000) ++ [0x5A]

/-- `date.toISOString()`. -/
def JsDate.toISOString (date : JsDate) : JsString :=
  let civil := civilOfDays (date.ms / MS_PER_DAY)
  isoYear civil.year ++
    isoRest civil.month.toNat civil.day.toNat (date.ms % MS_PER_DAY).toNat

/-- The time value that the fields of an ISO text denote, the year read already. -/
def isoRestValue (year : Int) (rest : JsString) : Int :=
  daysOfCivil
      { year
        month := digitsValue ((rest.drop 1).take 2)
        day := digitsValue ((rest.drop 4).take 2) } * MS_PER_DAY +
    ((digitsValue ((rest.drop 7).take 2) * 3600000 + digitsValue ((rest.drop 10).take 2) * 60000 +
      digitsValue ((rest.drop 13).take 2) * 1000 + digitsValue ((rest.drop 16).take 3) : Nat) : Int)

/-- The time value that the fields of a text denote if it is an ISO text. -/
def isoValue : JsString → Int
  | [] => 0
  | unit :: rest =>
    if unit = 0x2D then isoRestValue (-(digitsValue (rest.take 6))) (rest.drop 6)
    else if unit = 0x2B then isoRestValue (digitsValue (rest.take 6)) (rest.drop 6)
    else isoRestValue (digitsValue ((unit :: rest).take 4)) ((unit :: rest).drop 4)

/-- `new Date(text)`: the date whose ISO text this is; what another text denotes is up to the
runtime. -/
def JsDate.parse (runtime : JsString → Option JsDate) (text : JsString) : Option JsDate :=
  match JsDate.ofMs (isoValue text) with
  | some date => if date.toISOString = text then some date else runtime text
  | none => runtime text

theorem isoRestValue_isoRest (year : Int) {month day time : Nat} (shortMonth : month < 100)
    (shortDay : day < 100) (inDay : time < 86400000) :
    isoRestValue year (isoRest month day time) =
      daysOfCivil { year, month := month, day := day } * MS_PER_DAY + time := by
  have two : ∀ value, digits 2 value = [digitUnit (value / 10 % 10), digitUnit (value % 10)] :=
    fun _ => rfl
  have three : ∀ value, digits 3 value =
      [digitUnit (value / 10 / 10 % 10), digitUnit (value / 10 % 10), digitUnit (value % 10)] :=
    fun _ => rfl
  have monthValue := digitsValue_digits (show month < 10 ^ 2 from shortMonth)
  have dayValue := digitsValue_digits (show day < 10 ^ 2 from shortDay)
  have hourValue := digitsValue_digits (show time / 3600000 < 10 ^ 2 by omega)
  have minuteValue := digitsValue_digits (show time / 60000 % 60 < 10 ^ 2 by omega)
  have secondValue := digitsValue_digits (show time / 1000 % 60 < 10 ^ 2 by omega)
  have msValue := digitsValue_digits (show time % 1000 < 10 ^ 3 by omega)
  rw [two] at monthValue dayValue hourValue minuteValue secondValue
  rw [three] at msValue
  unfold isoRestValue isoRest
  simp only [two, three, List.cons_append, List.nil_append, List.drop_succ_cons, List.drop_zero,
    List.take_succ_cons, List.take_zero, monthValue, dayValue, hourValue, minuteValue, secondValue,
    msValue]
  omega

theorem isoValue_toISOString (date : JsDate) : isoValue date.toISOString = date.ms := by
  have lower := date.lower
  have upper := date.upper
  unfold MAX_TIME_VALUE at lower upper
  have days : -100000000 ≤ date.ms / MS_PER_DAY ∧ date.ms / MS_PER_DAY ≤ 100000000 := by
    unfold MS_PER_DAY
    omega
  have time : 0 ≤ date.ms % MS_PER_DAY ∧ date.ms % MS_PER_DAY < 86400000 := by
    unfold MS_PER_DAY
    omega
  obtain ⟨monthLower, monthUpper, dayLower, dayUpper, yearLower, yearUpper⟩ :=
    civilOfDays_bounds days.1 days.2
  have counted := daysOfCivil_civilOfDays (date.ms / MS_PER_DAY)
  have whole := Int.mul_ediv_add_emod date.ms MS_PER_DAY
  have rest := fun year => isoRestValue_isoRest year
    (show (civilOfDays (date.ms / MS_PER_DAY)).month.toNat < 100 by omega)
    (show (civilOfDays (date.ms / MS_PER_DAY)).day.toNat < 100 by omega)
    (show (date.ms % MS_PER_DAY).toNat < 86400000 by omega)
  have fields : isoRestValue (civilOfDays (date.ms / MS_PER_DAY)).year
      (isoRest (civilOfDays (date.ms / MS_PER_DAY)).month.toNat
        (civilOfDays (date.ms / MS_PER_DAY)).day.toNat (date.ms % MS_PER_DAY).toNat) = date.ms := by
    rw [rest, Int.toNat_of_nonneg (by omega), Int.toNat_of_nonneg (by omega),
      Int.toNat_of_nonneg time.1]
    show daysOfCivil (civilOfDays (date.ms / MS_PER_DAY)) * MS_PER_DAY + _ = _
    rw [counted, mul_comm]
    exact whole
  unfold JsDate.toISOString isoYear
  dsimp only
  split
  · rename_i plain
    obtain ⟨tail, head⟩ := digits_head 3 (civilOfDays (date.ms / MS_PER_DAY)).year.toNat
    have small : (civilOfDays (date.ms / MS_PER_DAY)).year.toNat / 10 ^ 3 % 10 < 10 :=
      Nat.mod_lt _ (by decide)
    generalize (civilOfDays (date.ms / MS_PER_DAY)).year.toNat / 10 ^ 3 % 10 = digit at head small
    have length := length_digits 4 (civilOfDays (date.ms / MS_PER_DAY)).year.toNat
    have value := digitsValue_digits
      (show (civilOfDays (date.ms / MS_PER_DAY)).year.toNat < 10 ^ 4 by omega)
    have unit := toNat_digitUnit small
    have notMinus : digitUnit digit ≠ 0x2D := by
      intro same
      rw [same] at unit
      have : (0x2D : UInt16).toNat = 0x2D := rfl
      omega
    have notPlus : digitUnit digit ≠ 0x2B := by
      intro same
      rw [same] at unit
      have : (0x2B : UInt16).toNat = 0x2B := rfl
      omega
    rw [head] at length value ⊢
    rw [List.cons_append, isoValue, if_neg notMinus, if_neg notPlus, ← List.cons_append,
      List.take_left' length, List.drop_left' length, value, Int.toNat_of_nonneg plain.1]
    exact fields
  split
  · rename_i negative
    have value := digitsValue_digits
      (show (-(civilOfDays (date.ms / MS_PER_DAY)).year).toNat < 10 ^ 6 by omega)
    have length := length_digits 6 (-(civilOfDays (date.ms / MS_PER_DAY)).year).toNat
    rw [List.cons_append, isoValue, if_pos rfl, List.take_left' length, List.drop_left' length,
      value, Int.toNat_of_nonneg (by omega), neg_neg]
    exact fields
  · rename_i plain negative
    have value := digitsValue_digits
      (show (civilOfDays (date.ms / MS_PER_DAY)).year.toNat < 10 ^ 6 by omega)
    have length := length_digits 6 (civilOfDays (date.ms / MS_PER_DAY)).year.toNat
    rw [List.cons_append, isoValue, if_neg (by decide), if_pos rfl, List.take_left' length,
      List.drop_left' length, value, Int.toNat_of_nonneg (by omega)]
    exact fields

theorem JsDate.parse_toISOString (runtime : JsString → Option JsDate) (date : JsDate) :
    JsDate.parse runtime date.toISOString = some date := by
  rw [JsDate.parse, isoValue_toISOString, JsDate.ofMs_ms]
  dsimp only
  rw [if_pos rfl]

example : (JsDate.mk 1783069200123 (by decide) (by decide)).toISOString =
    jsString "2026-07-03T09:00:00.123Z" := by
  decide +kernel
