/-
  File:      MatriXpost/Core/Text.lean
  Subject:   THE TEXT FUNCTIONS OF THE STANDARD LIBRARY THE CORE CRATE USES, AND FIXED-WIDTH
             DECIMALS.

  * `trim`, `isBlank`, `toAsciiLowercase` follow `str::trim`, `trim().is_empty()` and
    `str::to_ascii_lowercase`: white space is Unicode White_Space.
  * `padded w n` writes `n` with `w` digits, `scanNumber` reads between `min` and `max` of them.
    Reading back what was written is `scanNumber_padded`; two texts of one width compare as
    their numbers do (`padded_lt`).
-/
import Mathlib.Data.List.Lex
import Mathlib.Data.List.TakeWhile
import Mathlib.Data.String.Basic
import Mathlib.Order.Lattice

namespace MatriXpost

/-! ## 1. White space and case -/

/-- `char::is_whitespace`: Unicode White_Space. -/
def isWhitespace (c : Char) : Bool :=
  let n := c.toNat
  (0x09 ≤ n && n ≤ 0x0d) || n == 0x20 || n == 0x85 || n == 0xa0 || n == 0x1680 ||
    (0x2000 ≤ n && n ≤ 0x200a) || n == 0x2028 || n == 0x2029 || n == 0x202f || n == 0x205f ||
    n == 0x3000

/-- `str::trim_start`, on characters. -/
def trimStart (s : List Char) : List Char := s.dropWhile isWhitespace

/-- `str::trim`. -/
def trim (s : String) : String :=
  String.ofList (trimStart (trimStart s.toList).reverse).reverse

/-- `value.trim().is_empty()`. -/
def isBlank (s : String) : Bool := s.toList.all isWhitespace

/-- `value.split_once(separator)`: what stands before and after its first occurrence. -/
def splitOnce (separator : Char) (value : String) : Option (String × String) :=
  match value.toList.dropWhile (· ≠ separator) with
  | [] => none
  | _ :: rest => some (String.ofList (value.toList.takeWhile (· ≠ separator)), String.ofList rest)

/-- `char::to_ascii_lowercase`. -/
def asciiLower (c : Char) : Char :=
  if 'A' ≤ c ∧ c ≤ 'Z' then Char.ofNat (c.toNat + 32) else c

/-- `str::to_ascii_lowercase`. -/
def toAsciiLowercase (s : String) : String := String.ofList (s.toList.map asciiLower)

/-! ## 2. Decimals -/

/-- `char::is_ascii_digit`. -/
def isDigit (c : Char) : Bool := '0' ≤ c && c ≤ '9'

/-- The digit of a number below ten. -/
def digit (n : Nat) : Char := Char.ofNat (48 + n % 10)

/-- The value of a digit. -/
def digitValue (c : Char) : Nat := c.toNat - 48

/-- `n` with exactly `w` decimal digits, as `{:0w}` writes it when it fits. -/
def padded : Nat → Nat → List Char
  | 0, _ => []
  | w + 1, n => padded w (n / 10) ++ [digit n]

/-- The number a list of digits writes. -/
def decimal (ds : List Char) : Nat := ds.foldl (fun n c => 10 * n + digitValue c) 0

/-- The largest `i64`, above which the scanner gives up. -/
def i64Max : Nat := 9223372036854775807

/-- `scan::number`: at least `min` and at most `max` digits, and what follows them. -/
def scanNumber (min max : Nat) (s : List Char) : Option (Nat × List Char) :=
  let ds := (s.take max).takeWhile isDigit
  if ds.length < min ∨ i64Max < decimal ds then none
  else some (decimal ds, s.drop ds.length)

/-! ## 3. Reading back what was written -/

/-- The ten digits: each is one, and stands 48 above its value. -/
theorem digit_below_ten : ∀ m : Fin 10, isDigit (Char.ofNat (48 + m.val)) = true ∧
    (Char.ofNat (48 + m.val)).toNat = 48 + m.val := by decide

theorem isDigit_digit (n : Nat) : isDigit (digit n) = true :=
  (digit_below_ten ⟨n % 10, Nat.mod_lt _ (by omega)⟩).1

theorem toNat_digit (n : Nat) : (digit n).toNat = 48 + n % 10 :=
  (digit_below_ten ⟨n % 10, Nat.mod_lt _ (by omega)⟩).2

theorem digitValue_digit (n : Nat) : digitValue (digit n) = n % 10 := by
  rw [digitValue, toNat_digit]
  omega

@[simp] theorem length_padded (w n : Nat) : (padded w n).length = w := by
  induction w generalizing n with
  | zero => rfl
  | succ w ih => simp [padded, ih]

theorem isDigit_padded (w n : Nat) : ∀ c ∈ padded w n, isDigit c = true := by
  induction w generalizing n with
  | zero => simp [padded]
  | succ w ih =>
    intro c hc
    rw [padded, List.mem_append, List.mem_singleton] at hc
    rcases hc with hc | rfl
    · exact ih _ c hc
    · exact isDigit_digit n

theorem padded_cons (w n : Nat) : ∃ c cs, padded (w + 1) n = c :: cs ∧ isDigit c = true := by
  cases h : padded (w + 1) n with
  | nil => simp [padded] at h
  | cons c cs =>
    have hmem : c ∈ padded (w + 1) n := by
      rw [h]
      exact List.mem_cons_self
    exact ⟨c, cs, rfl, isDigit_padded (w + 1) n c hmem⟩

theorem isWhitespace_of_isDigit {c : Char} (h : isDigit c = true) : isWhitespace c = false := by
  simp only [isDigit, Bool.and_eq_true, decide_eq_true_eq] at h
  have h₁ : 48 ≤ c.toNat := h.1
  have h₂ : c.toNat ≤ 57 := h.2
  simp only [isWhitespace, Bool.or_eq_false_iff, Bool.and_eq_false_iff, decide_eq_false_iff_not,
    beq_eq_false_iff_ne]
  omega

/-- A text that begins with a digit has no white space to skip. -/
theorem trimStart_padded (w n : Nat) (rest : List Char) :
    trimStart (padded (w + 1) n ++ rest) = padded (w + 1) n ++ rest := by
  obtain ⟨c, cs, h, hc⟩ := padded_cons w n
  rw [h]
  simp [trimStart, isWhitespace_of_isDigit hc]

theorem decimal_append (ds : List Char) (c : Char) :
    decimal (ds ++ [c]) = 10 * decimal ds + digitValue c := by
  simp [decimal]

theorem decimal_padded (w n : Nat) : decimal (padded w n) = n % 10 ^ w := by
  induction w generalizing n with
  | zero => simp [padded, decimal, Nat.mod_one]
  | succ w ih =>
    rw [padded, decimal_append, ih, digitValue_digit, Nat.pow_succ, Nat.mul_comm (10 ^ w) 10,
      Nat.mod_mul]
    omega

/-- The digits of a text that goes on with something else, or whose width is the maximum. -/
theorem takeWhile_padded {w max n : Nat} {rest : List Char} (hw : w ≤ max)
    (hrest : w = max ∨ ∀ c ∈ rest.head?, isDigit c = false) :
    ((padded w n ++ rest).take max).takeWhile isDigit = padded w n := by
  rw [List.take_append, length_padded, List.take_of_length_le (by simp [hw]),
    List.takeWhile_append_of_pos (isDigit_padded w n)]
  suffices h : (rest.take (max - w)).takeWhile isDigit = [] by rw [h, List.append_nil]
  rcases hrest with rfl | hrest
  · simp
  · cases rest with
    | nil => simp
    | cons c cs =>
      have hc := hrest c rfl
      cases max - w with
      | zero => rfl
      | succ k => simp [hc]

/-- **A scanned number of the written width is the number written.** -/
theorem scanNumber_padded {w min max n : Nat} {rest : List Char} (hmin : min ≤ w) (hw : w ≤ max)
    (hn : n < 10 ^ w) (hmax : n ≤ i64Max)
    (hrest : w = max ∨ ∀ c ∈ rest.head?, isDigit c = false) :
    scanNumber min max (padded w n ++ rest) = some (n, rest) := by
  have hd : decimal (padded w n) = n := by rw [decimal_padded, Nat.mod_eq_of_lt hn]
  simp only [scanNumber, takeWhile_padded hw hrest, length_padded, hd]
  rw [if_neg (by omega), List.drop_left' (length_padded w n)]

/-! ## 4. Order -/

/-- Two texts with heads of one length compare by the heads first. -/
theorem append_lt_append {α : Type*} [LinearOrder α] {a b c d : List α}
    (h : a.length = b.length) : a ++ c < b ++ d ↔ a < b ∨ (a = b ∧ c < d) := by
  induction a generalizing b with
  | nil =>
    cases b with
    | nil => simp
    | cons _ _ => cases h
  | cons x xs ih =>
    cases b with
    | nil => cases h
    | cons y ys =>
      rw [List.length_cons, List.length_cons] at h
      rw [List.cons_append, List.cons_append, List.cons_lt_cons_iff, List.cons_lt_cons_iff,
        ih (Nat.succ.inj h)]
      constructor
      · intro h
        obtain hlt | ⟨rfl, hlt | ⟨rfl, hlt⟩⟩ := h
        · exact .inl (.inl hlt)
        · exact .inl (.inr ⟨rfl, hlt⟩)
        · exact .inr ⟨rfl, hlt⟩
      · intro h
        obtain (hlt | ⟨rfl, hlt⟩) | ⟨he, hlt⟩ := h
        · exact .inl hlt
        · exact .inr ⟨rfl, .inl hlt⟩
        · cases he
          exact .inr ⟨rfl, .inr ⟨rfl, hlt⟩⟩

theorem digit_lt {m n : Nat} : digit m < digit n ↔ m % 10 < n % 10 := by
  rw [Char.lt_def, UInt32.lt_iff_toNat_lt]
  change (digit m).toNat < (digit n).toNat ↔ _
  rw [toNat_digit, toNat_digit]
  omega

theorem padded_inj {w m n : Nat} (hm : m < 10 ^ w) (hn : n < 10 ^ w) :
    padded w m = padded w n ↔ m = n := by
  constructor
  · intro h
    have := congrArg decimal h
    rwa [decimal_padded, decimal_padded, Nat.mod_eq_of_lt hm, Nat.mod_eq_of_lt hn] at this
  · rintro rfl
    rfl

/-- **Texts of one width compare as their numbers do.** -/
theorem padded_lt {w m n : Nat} (hm : m < 10 ^ w) (hn : n < 10 ^ w) :
    padded w m < padded w n ↔ m < n := by
  induction w generalizing m n with
  | zero =>
    rw [Nat.pow_zero] at hm hn
    simp [padded]
    omega
  | succ w ih =>
    rw [Nat.pow_succ] at hm hn
    rw [padded, padded, append_lt_append (by simp), ih (by omega) (by omega),
      padded_inj (by omega) (by omega), List.cons_lt_cons_iff, digit_lt]
    simp
    omega

/-- The first digits write the quotient, the others the number again. -/
theorem padded_add (w k n : Nat) : padded (w + k) n = padded w (n / 10 ^ k) ++ padded k n := by
  induction k generalizing n with
  | zero => simp [padded]
  | succ k ih =>
    have hdiv : n / 10 / 10 ^ k = n / 10 ^ (k + 1) := by
      rw [Nat.div_div_eq_div_mul, Nat.pow_succ, Nat.mul_comm]
    rw [← Nat.add_assoc, padded, padded, ih, hdiv, List.append_assoc]

end MatriXpost
