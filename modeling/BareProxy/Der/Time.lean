import BareProxy.Der.Values

/-!
# Times

The two forms of a time in a certificate, and their reader in `asn1.rs`. The fields are numbers of at most four digits,
which `u16` and `u8` hold.
-/

namespace BareProxy.Der

def derTagUtcTime : Byte := 0x17

def derTagGeneralizedTime : Byte := 0x18

structure X509Time where
  year : Nat
  month : Nat
  day : Nat
  hour : Nat
  minute : Nat
  second : Nat
deriving DecidableEq, Repr

/-- The number that a digit stands for. -/
def digitNumber (digit : Byte) : Nat := digit.toNat - 48

def parseTwoDigits (bytes : Bytes) : Except DerError Nat := do
  ensure (bytes.length = 2 ∧ bytes.all isAsciiDigit) .invalidTime
  return digitNumber (bytes.getD 0 0) * 10 + digitNumber (bytes.getD 1 0)

def parseFourDigits (bytes : Bytes) : Except DerError Nat := do
  ensure (bytes.length = 4 ∧ bytes.all isAsciiDigit) .invalidTime
  return bytes.foldl (fun value byte => value * 10 + digitNumber byte) 0

def isLeapYear (year : Nat) : Bool := (year % 4 == 0 && year % 100 != 0) || year % 400 == 0

def daysInMonth (year month : Nat) : Nat :=
  if month ∈ [1, 3, 5, 7, 8, 10, 12] then 31
  else if month ∈ [4, 6, 9, 11] then 30
  else if month = 2 then if isLeapYear year then 29 else 28
  else 0

/-- The year and where the fields behind it begin. -/
def readYear (value : DerValue) : Except DerError (Nat × Nat) :=
  if value.tag = derTagUtcTime then do
    ensure (value.content.length = 13 ∧ value.content.getD 12 0 = 0x5a) .invalidTime
    let shortYear ← parseTwoDigits (value.content.take 2)
    return (if 50 ≤ shortYear then 1900 + shortYear else 2000 + shortYear, 2)
  else if value.tag = derTagGeneralizedTime then do
    ensure (value.content.length = 15 ∧ value.content.getD 14 0 = 0x5a) .invalidTime
    let year ← parseFourDigits (value.content.take 4)
    return (year, 4)
  else .error .invalidTime

def parseX509Time (value : DerValue) : Except DerError X509Time := do
  let (year, offset) ← readYear value
  let month ← parseTwoDigits ((value.content.drop offset).take 2)
  let day ← parseTwoDigits ((value.content.drop (offset + 2)).take 2)
  let hour ← parseTwoDigits ((value.content.drop (offset + 4)).take 2)
  let minute ← parseTwoDigits ((value.content.drop (offset + 6)).take 2)
  let second ← parseTwoDigits ((value.content.drop (offset + 8)).take 2)
  ensure (1 ≤ month ∧ month ≤ 12 ∧ hour ≤ 23 ∧ minute ≤ 59 ∧ second ≤ 59 ∧ day ≠ 0 ∧ day ≤ daysInMonth year month)
    .invalidTime
  return ⟨year, month, day, hour, minute, second⟩

/-! ### The calendar -/

/-- The months of a Gregorian year. -/
def monthLengths (year : Nat) : List Nat :=
  [31, if 4 ∣ year ∧ (100 ∣ year → 400 ∣ year) then 29 else 28, 31, 30, 31, 30, 31, 31, 30, 31, 30, 31]

/-- A second of a day that there is. -/
structure X509Time.Valid (time : X509Time) : Prop where
  month_pos : 1 ≤ time.month
  month_le : time.month ≤ 12
  day_pos : 1 ≤ time.day
  day_le : time.day ≤ (monthLengths time.year).getD (time.month - 1) 0
  hour_le : time.hour ≤ 23
  minute_le : time.minute ≤ 59
  second_le : time.second ≤ 59

inductive TimeForm where
  | utc
  | generalized
deriving DecidableEq, Repr

def twoDigits (number : Nat) : Bytes := [UInt8.ofNat (48 + number / 10), UInt8.ofNat (48 + number % 10)]

/-- Everything behind the year, in the zone Z. -/
def X509Time.fields (time : X509Time) : Bytes :=
  twoDigits time.month ++ twoDigits time.day ++ twoDigits time.hour ++ twoDigits time.minute ++ twoDigits time.second ++
    ascii "Z"

/-- A time in one of the two forms. -/
def X509Time.value (time : X509Time) : TimeForm → DerValue
  | .utc => ⟨derTagUtcTime, twoDigits (time.year % 100) ++ time.fields⟩
  | .generalized => ⟨derTagGeneralizedTime, twoDigits (time.year / 100) ++ twoDigits (time.year % 100) ++ time.fields⟩

/-- The years that a form has. Two digits are those of 1950 to 2049. -/
def TimeForm.Covers : TimeForm → X509Time → Prop
  | .utc, time => 1950 ≤ time.year ∧ time.year < 2050
  | .generalized, time => time.year < 10000

/-! ### What was written is read back -/

theorem digit_ofNat {digit : Nat} (h : digit < 10) :
    isAsciiDigit (UInt8.ofNat (48 + digit)) = true ∧ digitNumber (UInt8.ofNat (48 + digit)) = digit := by
  interval_cases digit <;> decide

theorem twoDigits_facts {number : Nat} (h : number < 100) :
    (twoDigits number).all isAsciiDigit = true ∧ digitNumber ((twoDigits number).getD 0 0) = number / 10 ∧
      digitNumber ((twoDigits number).getD 1 0) = number % 10 := by
  obtain ⟨htens, htensValue⟩ := digit_ofNat (show number / 10 < 10 by omega)
  obtain ⟨hones, honesValue⟩ := digit_ofNat (show number % 10 < 10 by omega)
  refine ⟨?_, htensValue, honesValue⟩
  rw [twoDigits, List.all_cons, List.all_cons, List.all_nil, htens, hones]
  rfl

theorem parseTwoDigits_twoDigits {number : Nat} (h : number < 100) : parseTwoDigits (twoDigits number) = .ok number := by
  obtain ⟨hdigits, htens, hones⟩ := twoDigits_facts h
  rw [parseTwoDigits, ensure_of ⟨rfl, hdigits⟩, ok_bind, htens, hones, pure_eq_ok, Nat.div_add_mod']

theorem parseFourDigits_twoDigits {high low : Nat} (hhigh : high < 100) (hlow : low < 100) :
    parseFourDigits (twoDigits high ++ twoDigits low) = .ok (high * 100 + low) := by
  obtain ⟨hdigits, hthousands, hhundreds⟩ := twoDigits_facts hhigh
  obtain ⟨hdigits', htens, hones⟩ := twoDigits_facts hlow
  have hall : (twoDigits high ++ twoDigits low).all isAsciiDigit = true := by
    rw [List.all_append, hdigits, hdigits']
    rfl
  have hfold : (twoDigits high ++ twoDigits low).foldl (fun value byte => value * 10 + digitNumber byte) 0 =
      (((0 * 10 + digitNumber ((twoDigits high).getD 0 0)) * 10 + digitNumber ((twoDigits high).getD 1 0)) * 10 +
        digitNumber ((twoDigits low).getD 0 0)) * 10 + digitNumber ((twoDigits low).getD 1 0) := rfl
  rw [parseFourDigits, ensure_of ⟨rfl, hall⟩, ok_bind, hfold, hthousands, hhundreds, htens, hones, pure_eq_ok]
  congr 1
  omega

/-- The calendar of the code is the Gregorian one. -/
theorem daysInMonth_eq {year month : Nat} (hpos : 1 ≤ month) (hle : month ≤ 12) :
    daysInMonth year month = (monthLengths year).getD (month - 1) 0 := by
  have hleap : (isLeapYear year = true) ↔ 4 ∣ year ∧ (100 ∣ year → 400 ∣ year) := by
    simp only [isLeapYear, Bool.or_eq_true, Bool.and_eq_true, beq_iff_eq, bne_iff_ne]
    omega
  interval_cases month <;> simp [daysInMonth, monthLengths, hleap]

theorem X509Time.Valid.fields_lt {time : X509Time} (h : time.Valid) :
    time.month < 100 ∧ time.day < 100 ∧ time.hour < 100 ∧ time.minute < 100 ∧ time.second < 100 := by
  have hlength : ∀ month < 12, (monthLengths time.year).getD month 0 ≤ 31 := by
    intro month hmonth
    interval_cases month <;> simp [monthLengths]
    split <;> decide
  have hday := h.day_le.trans (hlength (time.month - 1) (by have := h.month_le; have := h.month_pos; omega))
  obtain ⟨-, hmonth, -, -, hhour, hminute, hsecond⟩ := h
  omega

/-- The fields behind a year of any length. -/
theorem parseX509Time_fields {value : DerValue} {time : X509Time} (year : Bytes) (h : time.Valid)
    (hcontent : value.content = year ++ time.fields) (hyear : readYear value = .ok (time.year, year.length)) :
    parseX509Time value = .ok time := by
  obtain ⟨hmonth, hday, hhour, hminute, hsecond⟩ := h.fields_lt
  have hfields (offset : Nat) : value.content.drop (year.length + offset) = time.fields.drop offset := by
    rw [← List.drop_drop, hcontent, List.drop_left]
  have hmonth' : (value.content.drop year.length).take 2 = twoDigits time.month := by rw [hcontent, List.drop_left]; rfl
  have hday' : (value.content.drop (year.length + 2)).take 2 = twoDigits time.day := by rw [hfields]; rfl
  have hhour' : (value.content.drop (year.length + 4)).take 2 = twoDigits time.hour := by rw [hfields]; rfl
  have hminute' : (value.content.drop (year.length + 6)).take 2 = twoDigits time.minute := by rw [hfields]; rfl
  have hsecond' : (value.content.drop (year.length + 8)).take 2 = twoDigits time.second := by rw [hfields]; rfl
  rw [parseX509Time, hyear, ok_bind]
  dsimp only
  rw [hmonth', parseTwoDigits_twoDigits hmonth, ok_bind, hday', parseTwoDigits_twoDigits hday, ok_bind, hhour',
    parseTwoDigits_twoDigits hhour, ok_bind, hminute', parseTwoDigits_twoDigits hminute, ok_bind, hsecond',
    parseTwoDigits_twoDigits hsecond, ok_bind, ensure_of]
  · rfl
  · rw [daysInMonth_eq h.month_pos h.month_le]
    exact ⟨h.month_pos, h.month_le, h.hour_le, h.minute_le, h.second_le, Nat.pos_iff_ne_zero.1 h.day_pos, h.day_le⟩

/-- A valid time is read back from either form that has its year. -/
theorem parseX509Time_value {time : X509Time} (h : time.Valid) {form : TimeForm} (hcovers : form.Covers time) :
    parseX509Time (time.value form) = .ok time := by
  cases form with
  | utc =>
      obtain ⟨hlow, hhigh⟩ := hcovers
      apply parseX509Time_fields (twoDigits (time.year % 100)) h rfl
      show readYear ⟨derTagUtcTime, twoDigits (time.year % 100) ++ time.fields⟩ = _
      rw [readYear, if_pos rfl]
      dsimp only
      have hfront : (twoDigits (time.year % 100) ++ time.fields).take 2 = twoDigits (time.year % 100) := rfl
      rw [ensure_of ⟨rfl, rfl⟩, ok_bind, hfront, parseTwoDigits_twoDigits (by omega), ok_bind, pure_eq_ok]
      congr 2
      split <;> omega
  | generalized =>
      have hyear : time.year < 10000 := hcovers
      apply parseX509Time_fields (twoDigits (time.year / 100) ++ twoDigits (time.year % 100)) h rfl
      show readYear ⟨derTagGeneralizedTime, twoDigits (time.year / 100) ++ twoDigits (time.year % 100) ++ time.fields⟩ = _
      have hform : derTagGeneralizedTime ≠ derTagUtcTime := by decide
      rw [readYear, if_neg hform, if_pos rfl]
      dsimp only
      have hfront : (twoDigits (time.year / 100) ++ twoDigits (time.year % 100) ++ time.fields).take 4 =
          twoDigits (time.year / 100) ++ twoDigits (time.year % 100) := rfl
      rw [ensure_of ⟨rfl, rfl⟩, ok_bind, hfront, parseFourDigits_twoDigits (by omega) (by omega), ok_bind, pure_eq_ok]
      congr 2
      omega

end BareProxy.Der
