/-
  File:      MatriXpost/Core/Chrono.lean
  Subject:   WALL-CLOCK TIMES AND THEIR TEXTS, as chrono reads and writes them.

  A `NaiveDateTime` carries the proof that its fields form a date and a time of day (a second
  may run past its nanoseconds: a leap second), and is ordered field by field.

  * `parseFromStr` reads `%Y-%m-%d %H:%M:%S`: numbers may lack their zero padding, white space
    may stand before a number, the year may carry a sign. `format` writes that form;
  * `toRfc3339` and `parseFromRfc3339` are the texts of the `updated_at` columns;
  * `parse_format`, `format_le`: for years 0 to 9999 the written form is read back, and texts
    compare as the times do; `parse_toRfc3339`: a column text is read back exactly for these
    years. `toRfc3339_lt`: column texts compare as the times do, whatever the number of digits
    after the point.
-/
import MatriXpost.Core.Text
import Mathlib.Data.Prod.Lex
import Mathlib.Data.Int.Order.Basic

namespace MatriXpost

/-! ## 1. Civil times -/

/-- Leap years of the proleptic Gregorian calendar. -/
def isLeapYear (year : Int) : Bool :=
  year % 4 = 0 && (year % 100 ≠ 0 || year % 400 = 0)

def daysInMonth (year : Int) (month : Nat) : Nat :=
  match month with
  | 2 => if isLeapYear year then 29 else 28
  | 4 | 6 | 9 | 11 => 30
  | _ => 31

/-- The fields form a date chrono can hold and a time of day; only a second 59 may be leap. -/
def validFields (year : Int) (month day hour minute second nano : Nat) : Bool :=
  -262143 ≤ year && year ≤ 262142 && 1 ≤ month && month ≤ 12 && 1 ≤ day &&
    day ≤ daysInMonth year month && hour ≤ 23 && minute ≤ 59 && second ≤ 59 &&
    (nano < 1000000000 || (second = 59 && nano < 2000000000))

/-- `chrono::NaiveDateTime`. -/
@[ext] structure NaiveDateTime where
  year : Int
  month : Nat
  day : Nat
  hour : Nat
  minute : Nat
  second : Nat
  nano : Nat
  valid : validFields year month day hour minute second nano = true
deriving DecidableEq, Repr

/-- `chrono::DateTime<Utc>`, by its fields in UTC. -/
abbrev DateTime := NaiveDateTime

namespace NaiveDateTime

/-- The fields in their order. -/
def key (t : NaiveDateTime) : Int ×ₗ Nat ×ₗ Nat ×ₗ Nat ×ₗ Nat ×ₗ Nat ×ₗ Nat :=
  toLex (t.year, toLex (t.month, toLex (t.day, toLex (t.hour, toLex (t.minute,
    toLex (t.second, t.nano))))))

theorem key_injective : Function.Injective key := by
  intro a b h
  simp only [key, toLex_inj, Prod.mk.injEq] at h
  obtain ⟨h₁, h₂, h₃, h₄, h₅, h₆, h₇⟩ := h
  exact NaiveDateTime.ext h₁ h₂ h₃ h₄ h₅ h₆ h₇

/-- Earlier and later, field by field. -/
instance : LinearOrder NaiveDateTime := LinearOrder.lift' key key_injective

theorem lt_iff_key {a b : NaiveDateTime} : a < b ↔ key a < key b := Iff.rfl

def ofFields? (year : Int) (month day hour minute second nano : Nat) : Option NaiveDateTime :=
  if h : validFields year month day hour minute second nano = true then
    some ⟨year, month, day, hour, minute, second, nano, h⟩
  else none

theorem ofFields?_self (t : NaiveDateTime) :
    ofFields? t.year t.month t.day t.hour t.minute t.second t.nano = some t := by
  rw [ofFields?, dif_pos t.valid]

theorem bounds (t : NaiveDateTime) :
    1 ≤ t.month ∧ t.month ≤ 12 ∧ 1 ≤ t.day ∧ t.day ≤ 31 ∧ t.hour ≤ 23 ∧ t.minute ≤ 59 ∧
      t.second ≤ 59 ∧ (t.nano < 1000000000 ∨ t.second = 59 ∧ t.nano < 2000000000) := by
  have h := t.valid
  simp only [validFields, Bool.and_eq_true, Bool.or_eq_true, decide_eq_true_eq] at h
  have hd : daysInMonth t.year t.month ≤ 31 := by
    unfold daysInMonth
    split
    · split <;> omega
    all_goals omega
  omega

/-- The second as it is written: 60 in a leap second. -/
def writtenSecond (t : NaiveDateTime) : Nat := t.second + t.nano / 1000000000

/-- A written second, 60 standing for a leap second. -/
def ofWritten? (year : Int) (month day hour minute second nano : Nat) : Option NaiveDateTime :=
  if second = 60 then ofFields? year month day hour minute 59 (nano + 1000000000)
  else if second ≤ 59 then ofFields? year month day hour minute second nano
  else none

theorem ofWritten?_self (t : NaiveDateTime) :
    ofWritten? t.year t.month t.day t.hour t.minute t.writtenSecond (t.nano % 1000000000) =
      some t := by
  have hb := t.bounds
  unfold ofWritten? writtenSecond
  by_cases hleap : t.nano < 1000000000
  · have hdiv : t.nano / 1000000000 = 0 := Nat.div_eq_of_lt hleap
    rw [hdiv, Nat.add_zero, Nat.mod_eq_of_lt hleap, if_neg (by omega), if_pos (by omega)]
    exact ofFields?_self t
  · have hdiv : t.nano / 1000000000 = 1 := by omega
    have hs : t.second = 59 := by omega
    have hn : t.nano % 1000000000 + 1000000000 = t.nano := by omega
    rw [hdiv, hs, if_pos rfl, hn]
    have hself := ofFields?_self t
    rwa [hs] at hself

end NaiveDateTime

/-! ## 2. `%Y-%m-%d %H:%M:%S` -/

/-- A literal of the format. -/
def literal (c : Char) : List Char → Option (List Char)
  | [] => none
  | x :: rest => if x = c then some rest else none

/-- `%Y`: with a sign any number of digits, else at most four. -/
def scanYear (s : List Char) : Option (Int × List Char) :=
  match trimStart s with
  | '-' :: rest => (scanNumber 1 rest.length rest).map fun (n, r) => (-(n : Int), r)
  | '+' :: rest => (scanNumber 1 rest.length rest).map fun (n, r) => ((n : Int), r)
  | rest => (scanNumber 1 4 rest).map fun (n, r) => ((n : Int), r)

/-- A two-digit field, white space before it and its zero padding optional. -/
def scanField (s : List Char) : Option (Nat × List Char) := scanNumber 1 2 (trimStart s)

/-- `NaiveDateTime::parse_from_str(value, "%Y-%m-%d %H:%M:%S")`. -/
def NaiveDateTime.parseFromStr (value : String) : Option NaiveDateTime := do
  let (year, s) ← scanYear value.toList
  let s ← literal '-' s
  let (month, s) ← scanField s
  let s ← literal '-' s
  let (day, s) ← scanField s
  -- The blank of the format stands for any white space, none included.
  let s := trimStart s
  let (hour, s) ← scanField s
  let s ← literal ':' s
  let (minute, s) ← scanField s
  let s ← literal ':' s
  let (second, s) ← scanField s
  if s ≠ [] then none
  else ofWritten? year month day hour minute second 0

/-- The year of a written time: four digits, or a sign and at least four. -/
def writeYear (year : Int) : List Char :=
  if 0 ≤ year ∧ year ≤ 9999 then padded 4 year.toNat
  else
    (if year < 0 then '-' else '+') ::
      (if year.natAbs ≤ 9999 then padded 4 year.natAbs else Nat.toDigits 10 year.natAbs)

def writeDate (t : NaiveDateTime) : List Char :=
  writeYear t.year ++ '-' :: padded 2 t.month ++ '-' :: padded 2 t.day

def writeTime (t : NaiveDateTime) : List Char :=
  padded 2 t.hour ++ ':' :: padded 2 t.minute ++ ':' :: padded 2 t.writtenSecond

/-- `value.format("%Y-%m-%d %H:%M:%S")`. -/
def NaiveDateTime.format (t : NaiveDateTime) : String :=
  String.ofList (writeDate t ++ ' ' :: writeTime t)

/-! ## 3. RFC 3339 -/

/-- `SecondsFormat::AutoSi`. -/
def writeFraction (nano : Nat) : List Char :=
  if nano = 0 then []
  else if nano % 1000000 = 0 then '.' :: padded 3 (nano / 1000000)
  else if nano % 1000 = 0 then '.' :: padded 6 (nano / 1000)
  else '.' :: padded 9 nano

/-- `DateTime<Utc>::to_rfc3339`. -/
def DateTime.toRfc3339 (t : DateTime) : String :=
  String.ofList (writeDate t ++ 'T' :: (writeTime t ++
    (writeFraction (t.nano % 1000000000) ++ ['+', '0', '0', ':', '0', '0'])))

/-- `DateTime<Utc>` as serde writes it: the offset is a `Z`. -/
def DateTime.toIso8601 (t : DateTime) : String :=
  String.ofList (writeDate t ++ 'T' :: (writeTime t ++
    (writeFraction (t.nano % 1000000000) ++ ['Z'])))

/-- `scan::nanosecond`: up to nine digits scaled, the digits after them skipped. -/
def scanNanosecond (s : List Char) : Option (Nat × List Char) :=
  (scanNumber 1 9 s).map fun (n, rest) =>
    (n * 10 ^ (9 - (s.length - rest.length)), rest.dropWhile isDigit)

/-- The optional fraction of a second. -/
def scanFraction : List Char → Option (Nat × List Char)
  | '.' :: rest => scanNanosecond rest
  | s => some (0, s)

/-- `scan::timezone_offset` with a colon: minutes east of UTC. -/
def scanOffset : List Char → Option (Int × List Char)
  | [] => none
  | c :: rest =>
    if c = 'Z' ∨ c = 'z' then some (0, rest)
    else if c = '+' ∨ c = '-' ∨ c = '−' then do
      let (hours, rest) ← scanNumber 2 2 rest
      let rest ← literal ':' rest
      let (minutes, rest) ← scanNumber 2 2 rest
      if 60 ≤ minutes ∨ 24 ≤ hours then none
      else some (if c = '+' then (hours * 60 + minutes : Int) else -(hours * 60 + minutes : Int),
        rest)
    else none

/-- The day after, as year, month and day. -/
def nextDay (year : Int) (month day : Nat) : Int × Nat × Nat :=
  if day < daysInMonth year month then (year, month, day + 1)
  else if month < 12 then (year, month + 1, 1)
  else (year + 1, 1, 1)

/-- The day before. -/
def previousDay (year : Int) (month day : Nat) : Int × Nat × Nat :=
  if 1 < day then (year, month, day - 1)
  else if 1 < month then (year, month - 1, daysInMonth year (month - 1))
  else (year - 1, 12, 31)

/-- `with_timezone(&Utc)` for a local time at `offset` minutes east, less than a day. -/
def toUtc (t : NaiveDateTime) (offset : Int) : Option NaiveDateTime :=
  let total : Int := t.hour * 60 + t.minute - offset
  let (year, month, day) :=
    if total < 0 then previousDay t.year t.month t.day
    else if 1440 ≤ total then nextDay t.year t.month t.day
    else (t.year, t.month, t.day)
  let minutes := (total % 1440).toNat
  NaiveDateTime.ofFields? year month day (minutes / 60) (minutes % 60) t.second t.nano

/-- `DateTime::parse_from_rfc3339(value)` in UTC. -/
def DateTime.parseFromRfc3339 (value : String) : Option DateTime := do
  let (year, s) ← scanNumber 4 4 value.toList
  let s ← literal '-' s
  let (month, s) ← scanNumber 2 2 s
  let s ← literal '-' s
  let (day, s) ← scanNumber 2 2 s
  let s ← (literal 'T' s <|> literal 't' s <|> literal ' ' s)
  let (hour, s) ← scanNumber 2 2 s
  let s ← literal ':' s
  let (minute, s) ← scanNumber 2 2 s
  let s ← literal ':' s
  let (second, s) ← scanNumber 2 2 s
  let (nano, s) ← scanFraction s
  let (offset, s) ← scanOffset s
  if s ≠ [] then none
  else
    let t ← NaiveDateTime.ofWritten? year month day hour minute second nano
    toUtc t offset

/-! ## 4. What is written is read back -/

theorem literal_cons (c : Char) (rest : List Char) : literal c (c :: rest) = some rest := by
  simp [literal]

theorem scanField_padded {n : Nat} (hn : n < 100) (rest : List Char) :
    scanField (padded 2 n ++ rest) = some (n, rest) := by
  rw [scanField, trimStart_padded]
  exact scanNumber_padded (by omega) (le_refl 2) (by omega) (by unfold i64Max; omega) (.inl rfl)

theorem scanNumber_two {n : Nat} (hn : n < 100) (rest : List Char) :
    scanNumber 2 2 (padded 2 n ++ rest) = some (n, rest) :=
  scanNumber_padded (le_refl 2) (le_refl 2) (by omega) (by unfold i64Max; omega) (.inl rfl)

theorem scanYear_padded {n : Nat} (hn : n < 10000) (rest : List Char) :
    scanYear (padded 4 n ++ rest) = some ((n : Int), rest) := by
  have hscan : scanNumber 1 4 (padded 4 n ++ rest) = some (n, rest) :=
    scanNumber_padded (by omega) (le_refl 4) (by omega) (by unfold i64Max; omega) (.inl rfl)
  obtain ⟨c, cs, h, hc⟩ := padded_cons 3 n
  unfold scanYear
  rw [trimStart_padded]
  rw [h] at hscan ⊢
  split
  · rename_i heq
    cases heq
    cases hc
  · rename_i heq
    cases heq
    cases hc
  · rw [hscan]
    rfl

/-- The years a four-digit text can write. -/
def NaiveDateTime.FourDigitYear (t : NaiveDateTime) : Prop := 0 ≤ t.year ∧ t.year ≤ 9999

instance (t : NaiveDateTime) : Decidable t.FourDigitYear := inferInstanceAs (Decidable (_ ∧ _))

theorem writeYear_of_fourDigit {t : NaiveDateTime} (h : t.FourDigitYear) :
    writeYear t.year = padded 4 t.year.toNat := by
  rw [writeYear, if_pos (show 0 ≤ t.year ∧ t.year ≤ 9999 from h)]

theorem NaiveDateTime.FourDigitYear.toNat_lt {t : NaiveDateTime} (h : t.FourDigitYear) :
    t.year.toNat < 10000 := by
  unfold NaiveDateTime.FourDigitYear at h
  omega

theorem writtenSecond_le (t : NaiveDateTime) : t.writtenSecond ≤ 60 := by
  have hb := t.bounds
  unfold NaiveDateTime.writtenSecond
  omega

/-- **The canonical text of a whole second of the years 0 to 9999 is read back.** -/
theorem parse_format {t : NaiveDateTime} (hy : t.FourDigitYear) (hn : t.nano % 1000000000 = 0) :
    NaiveDateTime.parseFromStr t.format = some t := by
  have hb := t.bounds
  have hs := writtenSecond_le t
  have hyear := hy.toNat_lt
  have hcast : ((t.year.toNat : Nat) : Int) = t.year := Int.toNat_of_nonneg hy.1
  unfold NaiveDateTime.parseFromStr NaiveDateTime.format writeDate writeTime
  rw [String.toList_ofList, writeYear_of_fourDigit hy]
  simp only [List.append_assoc, List.cons_append, scanYear_padded hyear, Option.bind_eq_bind,
    Option.bind_some, literal_cons]
  rw [scanField_padded (by omega)]
  simp only [Option.bind_some, literal_cons]
  rw [scanField_padded (by omega)]
  simp only [Option.bind_some]
  have hblank : trimStart (' ' :: (padded 2 t.hour ++ ':' :: (padded 2 t.minute ++
      ':' :: padded 2 t.writtenSecond))) = padded 2 t.hour ++ ':' :: (padded 2 t.minute ++
      ':' :: padded 2 t.writtenSecond) := by
    rw [trimStart, List.dropWhile_cons_of_pos (by decide)]
    exact trimStart_padded 1 _ _
  rw [hblank, scanField_padded (by omega)]
  simp only [Option.bind_some, literal_cons]
  rw [scanField_padded (by omega)]
  simp only [Option.bind_some, literal_cons]
  have hlast := scanField_padded (n := t.writtenSecond) (by omega) []
  rw [List.append_nil] at hlast
  rw [hlast]
  simp only [Option.bind_some, ne_eq, not_true_eq_false, if_false, hcast]
  rw [← hn]
  exact NaiveDateTime.ofWritten?_self t

theorem scanNanosecond_padded {w m : Nat} {c : Char} (hc : isDigit c = false) (hw : 1 ≤ w)
    (hw' : w ≤ 9) (hm : m < 10 ^ w) (rest : List Char) :
    scanNanosecond (padded w m ++ c :: rest) = some (m * 10 ^ (9 - w), c :: rest) := by
  have hle : 10 ^ w ≤ 10 ^ 9 := Nat.pow_le_pow_right (by omega) hw'
  have hscan : scanNumber 1 9 (padded w m ++ c :: rest) = some (m, c :: rest) :=
    scanNumber_padded hw hw' hm (by unfold i64Max; omega) (.inr (by simp [hc]))
  have hlen : (padded w m ++ c :: rest).length - (c :: rest).length = w := by simp
  have hdrop : (c :: rest).dropWhile isDigit = c :: rest :=
    List.dropWhile_cons_of_neg (by simp [hc])
  rw [scanNanosecond, hscan, Option.map_some]
  simp only [hlen, hdrop]

/-- **The fraction of a second is read back, whatever its number of digits.** -/
theorem scanFraction_write {n : Nat} {c : Char} (hc : isDigit c = false) (hpoint : c ≠ '.')
    (hn : n < 1000000000) (rest : List Char) :
    scanFraction (writeFraction n ++ c :: rest) = some (n, c :: rest) := by
  unfold writeFraction
  split
  · rename_i h
    rw [h]
    unfold scanFraction
    split
    · rename_i rest' he
      cases he
      exact absurd rfl hpoint
    · rfl
  split
  · rw [List.cons_append, scanFraction,
      scanNanosecond_padded hc (by omega) (by omega) (by omega)]
    congr 2
    omega
  split
  · rw [List.cons_append, scanFraction,
      scanNanosecond_padded hc (by omega) (by omega) (by omega)]
    congr 2
    omega
  · rw [List.cons_append, scanFraction,
      scanNanosecond_padded hc (by omega) (by omega) (by omega)]
    congr 2
    omega

theorem toUtc_zero (t : NaiveDateTime) : toUtc t 0 = some t := by
  have hb := t.bounds
  have h₁ : ¬ ((t.hour : Int) * 60 + t.minute - 0 < 0) := by omega
  have h₂ : ¬ (1440 ≤ (t.hour : Int) * 60 + t.minute - 0) := by omega
  have hm : (((t.hour : Int) * 60 + t.minute - 0) % 1440).toNat = t.hour * 60 + t.minute := by
    omega
  have hh : (t.hour * 60 + t.minute) / 60 = t.hour := by omega
  have hmin : (t.hour * 60 + t.minute) % 60 = t.minute := by omega
  unfold toUtc
  simp only [if_neg h₁, if_neg h₂, hm, hh, hmin]
  exact NaiveDateTime.ofFields?_self t

/-- A time of the years 0 to 9999 is read back before every spelling of a zero offset. -/
theorem parse_zeroOffset {t : DateTime} {c : Char} {rest : List Char} (hy : t.FourDigitYear)
    (hc : isDigit c = false) (hpoint : c ≠ '.') (hoffset : scanOffset (c :: rest) = some (0, [])) :
    DateTime.parseFromRfc3339 (String.ofList (writeDate t ++ 'T' :: (writeTime t ++
      (writeFraction (t.nano % 1000000000) ++ c :: rest)))) = some t := by
  have hb := t.bounds
  have hs := writtenSecond_le t
  have hyear := hy.toNat_lt
  have hcast : ((t.year.toNat : Nat) : Int) = t.year := Int.toNat_of_nonneg hy.1
  have hfour (rest : List Char) :
      scanNumber 4 4 (padded 4 t.year.toNat ++ rest) = some (t.year.toNat, rest) :=
    scanNumber_padded (le_refl 4) (le_refl 4) (by omega) (by unfold i64Max; omega) (.inl rfl)
  have hnano : t.nano % 1000000000 < 1000000000 := Nat.mod_lt _ (by omega)
  unfold DateTime.parseFromRfc3339 writeDate writeTime
  rw [String.toList_ofList, writeYear_of_fourDigit hy]
  simp only [List.append_assoc, List.cons_append, hfour, Option.bind_eq_bind, Option.bind_some,
    literal_cons]
  rw [scanNumber_two (by omega)]
  simp only [Option.bind_some, literal_cons]
  rw [scanNumber_two (by omega)]
  simp only [Option.bind_some, literal_cons, Option.orElse_eq_orElse, Option.orElse]
  rw [scanNumber_two (by omega)]
  simp only [Option.bind_some, literal_cons]
  rw [scanNumber_two (by omega)]
  simp only [Option.bind_some, literal_cons]
  rw [scanNumber_two (by omega)]
  simp only [Option.bind_some, scanFraction_write hc hpoint hnano]
  simp only [hoffset, Option.bind_some, ne_eq, not_true_eq_false, if_false, hcast,
    NaiveDateTime.ofWritten?_self, toUtc_zero]

/-- **A column text of the years 0 to 9999 is read back.** -/
theorem parse_toRfc3339 {t : DateTime} (hy : t.FourDigitYear) :
    DateTime.parseFromRfc3339 (DateTime.toRfc3339 t) = some t :=
  parse_zeroOffset hy (by decide) (by decide) (by decide)

/-- **And so is the text of a JSON document.** -/
theorem parse_toIso8601 {t : DateTime} (hy : t.FourDigitYear) :
    DateTime.parseFromRfc3339 (DateTime.toIso8601 t) = some t :=
  parse_zeroOffset hy (by decide) (by decide) (by decide)

/-- **A column text of any other year is refused.** -/
theorem parse_toRfc3339_none {t : DateTime} (hy : ¬ t.FourDigitYear) :
    DateTime.parseFromRfc3339 (DateTime.toRfc3339 t) = none := by
  have hno : ¬ (0 ≤ t.year ∧ t.year ≤ 9999) := hy
  have hscan (c : Char) (hc : isDigit c = false) (rest : List Char) :
      scanNumber 4 4 (c :: rest) = none := by
    simp [scanNumber, hc]
  unfold DateTime.parseFromRfc3339 DateTime.toRfc3339 writeDate
  rw [String.toList_ofList, writeYear, if_neg hno]
  by_cases hneg : t.year < 0
  · simp only [if_pos hneg, List.append_assoc, List.cons_append]
    rw [hscan '-' (by decide)]
    rfl
  · simp only [if_neg hneg, List.append_assoc, List.cons_append]
    rw [hscan '+' (by decide)]
    rfl

/-! ## 5. Texts and times in one order -/

theorem padded_cons_lt {w m n : Nat} {x : Char} {c d : List Char} (hm : m < 10 ^ w)
    (hn : n < 10 ^ w) :
    padded w m ++ x :: c < padded w n ++ x :: d ↔ m < n ∨ m = n ∧ c < d := by
  rw [append_lt_append (by simp), padded_lt hm hn, padded_inj hm hn, List.cons_lt_cons_iff]
  simp

/-- **Canonical texts of the years 0 to 9999 compare as their times do.** -/
theorem format_lt {a b : NaiveDateTime} (ha : a.FourDigitYear) (hb : b.FourDigitYear)
    (hna : a.nano % 1000000000 = 0) (hnb : b.nano % 1000000000 = 0) :
    a.format < b.format ↔ a < b := by
  have ba := a.bounds
  have bb := b.bounds
  have sa := writtenSecond_le a
  have sb := writtenSecond_le b
  unfold NaiveDateTime.FourDigitYear at ha hb
  rw [String.lt_iff_toList_lt, NaiveDateTime.format, NaiveDateTime.format, String.toList_ofList,
    String.toList_ofList]
  unfold writeDate writeTime
  rw [writeYear_of_fourDigit ha, writeYear_of_fourDigit hb]
  simp only [List.append_assoc, List.cons_append]
  rw [padded_cons_lt (by omega) (by omega), padded_cons_lt (by omega) (by omega),
    padded_cons_lt (by omega) (by omega), padded_cons_lt (by omega) (by omega),
    padded_cons_lt (by omega) (by omega), padded_lt (by omega) (by omega)]
  rw [NaiveDateTime.lt_iff_key]
  simp only [NaiveDateTime.key, Prod.Lex.toLex_lt_toLex]
  unfold NaiveDateTime.writtenSecond
  omega

theorem format_le {a b : NaiveDateTime} (ha : a.FourDigitYear) (hb : b.FourDigitYear)
    (hna : a.nano % 1000000000 = 0) (hnb : b.nano % 1000000000 = 0) :
    a.format ≤ b.format ↔ a ≤ b := by
  rw [← not_lt, ← not_lt, format_lt hb ha hnb hna]

/-- A sign comes before every digit. -/
theorem sign_lt_padded (w n : Nat) (c d : List Char) : '+' :: c < padded (w + 1) n ++ d := by
  obtain ⟨x, xs, h, hx⟩ := padded_cons w n
  rw [h, List.cons_append, List.cons_lt_cons_iff]
  simp only [isDigit, Bool.and_eq_true, decide_eq_true_eq] at hx
  exact Or.inl (lt_of_lt_of_le (by decide) hx.1)

/-- A number, and a larger one written with `k` more digits after the point. -/
theorem fewer_digits_lt {w k m n : Nat} {c d : List Char} (hm : m < 10 ^ w)
    (hn : n < 10 ^ (w + k)) (h : m * 10 ^ k < n) :
    padded w m ++ '+' :: c < padded (w + k) n ++ d := by
  have hpos : 0 < 10 ^ k := Nat.pow_pos (by omega)
  have hdiv : n / 10 ^ k < 10 ^ w := by
    rw [Nat.div_lt_iff_lt_mul hpos, ← Nat.pow_add]
    exact hn
  have hle : m ≤ n / 10 ^ k := (Nat.le_div_iff_mul_le hpos).mpr h.le
  rw [padded_add, List.append_assoc, append_lt_append (by simp), padded_lt hm hdiv,
    padded_inj hm hdiv]
  rcases hle.lt_or_eq with hlt | heq
  · exact Or.inl hlt
  · refine Or.inr ⟨heq, ?_⟩
    cases k with
    | zero =>
      rw [Nat.pow_zero, Nat.div_one] at heq
      omega
    | succ k => exact sign_lt_padded k n c d

/-- A number with `k` more digits after the point, and a larger one without them. -/
theorem more_digits_lt {w k m n : Nat} {c d : List Char} (hn : n < 10 ^ w)
    (h : m < n * 10 ^ k) : padded (w + k) m ++ c < padded w n ++ d := by
  have hpos : 0 < 10 ^ k := Nat.pow_pos (by omega)
  have hlt : m / 10 ^ k < n := (Nat.div_lt_iff_lt_mul hpos).mpr h
  rw [padded_add, List.append_assoc, append_lt_append (by simp), padded_lt (by omega) hn]
  exact Or.inl hlt

/-- **Digits after the point compare as the numbers do, whatever their counts.** -/
theorem digits_lt {w w' k k' m n : Nat} {c d : List Char} (hw : w + k = w' + k')
    (hm : m < 10 ^ w) (hn : n < 10 ^ w') (h : m * 10 ^ k < n * 10 ^ k') :
    padded w m ++ '+' :: c < padded w' n ++ '+' :: d := by
  rcases Nat.le_total w w' with hle | hle
  · obtain ⟨j, rfl⟩ := Nat.exists_eq_add_of_le hle
    obtain rfl : k = j + k' := by omega
    rw [Nat.pow_add, ← Nat.mul_assoc] at h
    exact fewer_digits_lt hm hn (Nat.lt_of_mul_lt_mul_right h)
  · obtain ⟨j, rfl⟩ := Nat.exists_eq_add_of_le hle
    obtain rfl : k' = j + k := by omega
    rw [Nat.pow_add, ← Nat.mul_assoc] at h
    exact more_digits_lt hn (Nat.lt_of_mul_lt_mul_right h)

/-- A fraction is a point and three, six or nine digits that lose nothing. -/
theorem writeFraction_eq {n : Nat} (hn : n < 1000000000) (h : n ≠ 0) :
    ∃ w k m, w + k = 9 ∧ m < 10 ^ w ∧ n = m * 10 ^ k ∧ writeFraction n = '.' :: padded w m := by
  unfold writeFraction
  rw [if_neg h]
  by_cases h₃ : n % 1000000 = 0
  · exact ⟨3, 6, n / 1000000, rfl, by omega, by omega, by rw [if_pos h₃]⟩
  · rw [if_neg h₃]
    by_cases h₆ : n % 1000 = 0
    · exact ⟨6, 3, n / 1000, rfl, by omega, by omega, by rw [if_pos h₆]⟩
    · exact ⟨9, 0, n, rfl, by omega, by omega, by rw [if_neg h₆]⟩

/-- A larger fraction of a second has a larger text: where one ends, its sign meets a point or a
    digit. -/
theorem writeFraction_lt_of_lt {m n : Nat} (hn : n < 1000000000) (h : m < n) (c : List Char) :
    writeFraction m ++ '+' :: c < writeFraction n ++ '+' :: c := by
  obtain ⟨w', k', b, hw', hb, hnb, hwrite⟩ := writeFraction_eq hn (by omega)
  rw [hwrite, List.cons_append]
  by_cases hm : m = 0
  · subst hm
    rw [writeFraction, if_pos rfl, List.nil_append, List.cons_lt_cons_iff]
    exact Or.inl (by decide)
  · obtain ⟨w, k, a, hw, ha, hma, hwrite⟩ := writeFraction_eq (show m < 1000000000 by omega) hm
    rw [hwrite, List.cons_append, List.cons_lt_cons_iff]
    refine Or.inr ⟨rfl, digits_lt (by rw [hw, hw']) ha hb ?_⟩
    rw [← hma, ← hnb]
    exact h

/-- **Fractions of a second compare as their texts do.** -/
theorem writeFraction_lt {m n : Nat} (hm : m < 1000000000) (hn : n < 1000000000) (c : List Char) :
    writeFraction m ++ '+' :: c < writeFraction n ++ '+' :: c ↔ m < n := by
  constructor
  · intro hlt
    by_contra hle
    rcases Nat.lt_or_eq_of_le (Nat.le_of_not_lt hle) with h | h
    · exact lt_asymm hlt (writeFraction_lt_of_lt hm h c)
    · rw [h] at hlt
      exact lt_irrefl _ hlt
  · intro h
    exact writeFraction_lt_of_lt hn h c

/-- **Column texts of the years 0 to 9999 compare as their times do.** -/
theorem toRfc3339_lt {a b : DateTime} (ha : a.FourDigitYear) (hb : b.FourDigitYear) :
    DateTime.toRfc3339 a < DateTime.toRfc3339 b ↔ a < b := by
  have ba := a.bounds
  have bb := b.bounds
  have sa := writtenSecond_le a
  have sb := writtenSecond_le b
  have na : a.nano % 1000000000 < 1000000000 := Nat.mod_lt _ (by omega)
  have nb : b.nano % 1000000000 < 1000000000 := Nat.mod_lt _ (by omega)
  unfold NaiveDateTime.FourDigitYear at ha hb
  rw [String.lt_iff_toList_lt, DateTime.toRfc3339, DateTime.toRfc3339, String.toList_ofList,
    String.toList_ofList]
  unfold writeDate writeTime
  rw [writeYear_of_fourDigit ha, writeYear_of_fourDigit hb]
  simp only [List.append_assoc, List.cons_append]
  rw [padded_cons_lt (by omega) (by omega), padded_cons_lt (by omega) (by omega),
    padded_cons_lt (by omega) (by omega), padded_cons_lt (by omega) (by omega),
    padded_cons_lt (by omega) (by omega), append_lt_append (by simp),
    padded_lt (by omega) (by omega), padded_inj (by omega) (by omega), writeFraction_lt na nb]
  rw [NaiveDateTime.lt_iff_key]
  simp only [NaiveDateTime.key, Prod.Lex.toLex_lt_toLex]
  unfold NaiveDateTime.writtenSecond
  omega

theorem toRfc3339_le {a b : DateTime} (ha : a.FourDigitYear) (hb : b.FourDigitYear) :
    DateTime.toRfc3339 a ≤ DateTime.toRfc3339 b ↔ a ≤ b := by
  rw [← not_lt, ← not_lt, toRfc3339_lt hb ha]

/-- **Equal texts exactly for equal times.** -/
theorem toRfc3339_inj {a b : DateTime} (ha : a.FourDigitYear) (hb : b.FourDigitYear) :
    DateTime.toRfc3339 a = DateTime.toRfc3339 b ↔ a = b := by
  rw [le_antisymm_iff, le_antisymm_iff, toRfc3339_le ha hb, toRfc3339_le hb ha]

end MatriXpost
