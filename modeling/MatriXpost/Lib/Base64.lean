/-
  File:      MatriXpost/Lib/Base64.lean
  Subject:   STANDARD PADDED BASE64, over bytes. Nothing here names a program.

  `encode` writes, `decode` reads, `Text` is the grammar of what is written, without the condition
  that the bits left over in the last group be zero.

  * `encode_text`: what `encode` writes is in the grammar;
  * `decode_encode`: and reads back;
  * `Text.head`: a group that is not the last is four digits;
  * `shifted_first`, `shifted_second`, `shifted_third`: the bytes of a group, computed by shifts;
  * `text_iff`, `decode_eq_bits`: the grammar and the decoder, said of the whole text.
-/
import Mathlib.Algebra.Ring.Nat
import Mathlib.Data.List.Basic

namespace MatriXpost.PaddedBase64

/-! ## 1. Digits -/

/-- `=`. -/
def pad : UInt8 := 61

/-- A byte of the alphabet: a letter, a figure, `+` or `/`. -/
def inAlphabet (b : UInt8) : Bool :=
  (65 ≤ b && b ≤ 90) || (97 ≤ b && b ≤ 122) || (48 ≤ b && b ≤ 57) || b == 43 || b == 47

/-- The byte a value below 64 is written as. -/
def digit (n : Nat) : UInt8 :=
  if n < 26 then (n + 65).toUInt8
  else if n < 52 then (n + 71).toUInt8
  else if n < 62 then (n - 4).toUInt8
  else if n = 62 then 43
  else 47

/-- The value a byte of the alphabet stands for. -/
def value (b : UInt8) : Nat :=
  if 65 ≤ b && b ≤ 90 then b.toNat - 65
  else if 97 ≤ b && b ≤ 122 then b.toNat - 71
  else if 48 ≤ b && b ≤ 57 then b.toNat + 4
  else if b == 43 then 62
  else if b == 47 then 63
  else 0

theorem inAlphabet_digit {n : Nat} (h : n < 64) : inAlphabet (digit n) = true := by
  revert h
  revert n
  decide

theorem value_digit {n : Nat} (h : n < 64) : value (digit n) = n := by
  revert h
  revert n
  decide

theorem digit_ne_pad {n : Nat} (h : n < 64) : digit n ≠ pad := by
  revert h
  revert n
  decide

/-- What holds of the 256 bytes holds of every byte. -/
theorem forall_byte {p : UInt8 → Prop} (h : ∀ n : Fin 256, p (UInt8.ofFin n)) (b : UInt8) : p b :=
  h b.toFin

theorem value_lt (b : UInt8) : value b < 64 := by
  revert b
  exact forall_byte (by decide +kernel)

theorem inAlphabet_ne_pad {b : UInt8} (h : inAlphabet b = true) : b ≠ pad := by
  intro he
  rw [he] at h
  cases h

/-! ## 2. Texts -/

/-- Groups of four digits, the last of which may end in one or two `=`. -/
inductive Text : List UInt8 → Prop
  | nil : Text []
  | padded₁ {a b c : UInt8} : inAlphabet a = true → inAlphabet b = true → inAlphabet c = true →
      Text [a, b, c, pad]
  | padded₂ {a b : UInt8} : inAlphabet a = true → inAlphabet b = true → Text [a, b, pad, pad]
  | group {a b c d : UInt8} {rest : List UInt8} : inAlphabet a = true → inAlphabet b = true →
      inAlphabet c = true → inAlphabet d = true → Text rest → Text (a :: b :: c :: d :: rest)

theorem Text.length_mod {text : List UInt8} (h : Text text) : text.length % 4 = 0 := by
  induction h with
  | nil => simp
  | padded₁ => simp
  | padded₂ => simp
  | @group a b c d rest _ _ _ _ _ ih =>
    simp only [List.length_cons]
    omega

/-- All bytes of a text are digits or `=`. -/
theorem Text.all {text : List UInt8} (h : Text text) :
    ∀ b ∈ text, inAlphabet b = true ∨ b = pad := by
  induction h with
  | nil =>
    intro b hb
    cases hb
  | padded₁ ha hb hc =>
    intro x hx
    simp only [List.mem_cons, List.not_mem_nil, or_false] at hx
    rcases hx with rfl | rfl | rfl | rfl
    · exact .inl ha
    · exact .inl hb
    · exact .inl hc
    · exact .inr rfl
  | padded₂ ha hb =>
    intro x hx
    simp only [List.mem_cons, List.not_mem_nil, or_false] at hx
    rcases hx with rfl | rfl | rfl | rfl
    · exact .inl ha
    · exact .inl hb
    · exact .inr rfl
    · exact .inr rfl
  | group ha hb hc hd _ ih =>
    intro x hx
    simp only [List.mem_cons] at hx
    rcases hx with rfl | rfl | rfl | rfl | hx
    · exact .inl ha
    · exact .inl hb
    · exact .inl hc
    · exact .inl hd
    · exact ih x hx

/-- A group that is not the last is four digits, and a text goes on after it. -/
theorem Text.head {a b c d : UInt8} {rest : List UInt8} (h : Text (a :: b :: c :: d :: rest))
    (hne : rest ≠ []) : inAlphabet a = true ∧ inAlphabet b = true ∧ inAlphabet c = true ∧
      inAlphabet d = true ∧ Text rest := by
  cases h with
  | padded₁ => exact absurd rfl hne
  | padded₂ => exact absurd rfl hne
  | group ha hb hc hd hrest => exact ⟨ha, hb, hc, hd, hrest⟩

/-! ## 3. The encoder -/

/-- The standard encoder: three bytes become four digits, what is left over is padded. -/
def encode : List UInt8 → List UInt8
  | [] => []
  | [x] => [digit (x.toNat / 4), digit (x.toNat % 4 * 16), pad, pad]
  | [x, y] =>
    [digit (x.toNat / 4), digit (x.toNat % 4 * 16 + y.toNat / 16), digit (y.toNat % 16 * 4), pad]
  | x :: y :: z :: rest =>
    digit (x.toNat / 4) :: digit (x.toNat % 4 * 16 + y.toNat / 16) ::
      digit (y.toNat % 16 * 4 + z.toNat / 64) :: digit (z.toNat % 64) :: encode rest

/-- **What is encoded is a text.** -/
theorem encode_text (data : List UInt8) : Text (encode data) := by
  induction data using encode.induct with
  | case1 => exact .nil
  | case2 x =>
    have hx := x.toNat_lt
    exact .padded₂ (inAlphabet_digit (by omega)) (inAlphabet_digit (by omega))
  | case3 x y =>
    have hx := x.toNat_lt
    have hy := y.toNat_lt
    exact .padded₁ (inAlphabet_digit (by omega)) (inAlphabet_digit (by omega))
      (inAlphabet_digit (by omega))
  | case4 x y z rest ih =>
    have hx := x.toNat_lt
    have hy := y.toNat_lt
    have hz := z.toNat_lt
    exact .group (inAlphabet_digit (by omega)) (inAlphabet_digit (by omega))
      (inAlphabet_digit (by omega)) (inAlphabet_digit (by omega)) ih

/-! ## 4. The decoder -/

/-- The bytes of a text: three a group, one less for each `=` at its end. -/
def decode : List UInt8 → List UInt8
  | a :: b :: c :: d :: rest =>
    let first := (value a * 4 + value b / 16).toUInt8
    let second := (value b % 16 * 16 + value c / 4).toUInt8
    let third := (value c % 4 * 64 + value d).toUInt8
    if c = pad then [first]
    else if d = pad then [first, second]
    else first :: second :: third :: decode rest
  | _ => []

theorem toUInt8_eq {n : Nat} {b : UInt8} (h : n = b.toNat) : n.toUInt8 = b := by
  rw [h]
  exact UInt8.ofNat_toNat

/-- **What was encoded is read back.** -/
theorem decode_encode (data : List UInt8) : decode (encode data) = data := by
  induction data using encode.induct with
  | case1 => rfl
  | case2 x =>
    have hx := x.toNat_lt
    have first : (x.toNat / 4 * 4 + x.toNat % 4 * 16 / 16).toUInt8 = x := toUInt8_eq (by omega)
    rw [encode, decode, if_pos rfl, value_digit (by omega), value_digit (by omega), first]
  | case3 x y =>
    have hx := x.toNat_lt
    have hy := y.toNat_lt
    have first : (x.toNat / 4 * 4 + (x.toNat % 4 * 16 + y.toNat / 16) / 16).toUInt8 = x :=
      toUInt8_eq (by omega)
    have second : ((x.toNat % 4 * 16 + y.toNat / 16) % 16 * 16 + y.toNat % 16 * 4 / 4).toUInt8
        = y := toUInt8_eq (by omega)
    rw [encode, decode, if_neg (digit_ne_pad (by omega)), if_pos rfl, value_digit (by omega),
      value_digit (by omega), value_digit (by omega), first, second]
  | case4 x y z rest ih =>
    have hx := x.toNat_lt
    have hy := y.toNat_lt
    have hz := z.toNat_lt
    have first : (x.toNat / 4 * 4 + (x.toNat % 4 * 16 + y.toNat / 16) / 16).toUInt8 = x :=
      toUInt8_eq (by omega)
    have second : ((x.toNat % 4 * 16 + y.toNat / 16) % 16 * 16 +
        (y.toNat % 16 * 4 + z.toNat / 64) / 4).toUInt8 = y := toUInt8_eq (by omega)
    have third : ((y.toNat % 16 * 4 + z.toNat / 64) % 4 * 64 + z.toNat % 64).toUInt8 = z :=
      toUInt8_eq (by omega)
    rw [encode, decode, if_neg (digit_ne_pad (by omega)), if_neg (digit_ne_pad (by omega)),
      value_digit (by omega), value_digit (by omega), value_digit (by omega),
      value_digit (by omega), first, second, third, ih]

/-- Four bytes of a text give at most three. -/
theorem length_decode_le (text : List UInt8) : (decode text).length * 4 ≤ text.length * 3 := by
  induction text using decode.induct with
  | case1 a b d rest =>
    simp only [decode, if_true, List.length_cons, List.length_nil]
    omega
  | case2 a b c rest hc =>
    simp only [decode, if_neg hc, if_true, List.length_cons, List.length_nil]
    omega
  | case3 a b c d rest hc hd ih =>
    simp only [decode, if_neg hc, if_neg hd, List.length_cons]
    omega
  | case4 => simp [decode]

/-! ## 5. The bytes of a group, by shifts -/

theorem toNat_toUInt8 {n : Nat} (h : n < 256) : n.toUInt8.toNat = n := by
  rw [Nat.toUInt8, UInt8.toNat_ofNat']
  exact Nat.mod_eq_of_lt h

/-- Two bytes whose bits do not meet are added by `or`. -/
theorem or_eq_add {x y : UInt8} {high low k : Nat} (hx : x.toNat = high * 2 ^ k)
    (hy : y.toNat = low) (hlow : low < 2 ^ k) : x ||| y = (high * 2 ^ k + low).toUInt8 := by
  have h : 2 ^ k * high + low = 2 ^ k * high ||| low := Nat.two_pow_add_eq_or_of_lt hlow high
  symm
  refine toUInt8_eq ?_
  rw [UInt8.toNat_or, hx, hy, Nat.mul_comm, h]

/-- Six bits, then the high two of the next six. -/
theorem shifted_first {a b : Nat} (ha : a < 64) (hb : b < 64) :
    (a.toUInt8 <<< 2) ||| (b.toUInt8 >>> 4) = (a * 4 + b / 16).toUInt8 := by
  refine or_eq_add (k := 2) ?_ ?_ (by omega)
  · rw [UInt8.toNat_shiftLeft, toNat_toUInt8 (by omega)]
    show a <<< 2 % 256 = _
    rw [Nat.shiftLeft_eq]
    omega
  · rw [UInt8.toNat_shiftRight, toNat_toUInt8 (by omega)]
    exact Nat.shiftRight_eq_div_pow b 4

/-- The low four bits, then the high four of the next six. -/
theorem shifted_second {b c : Nat} (hb : b < 64) (hc : c < 64) :
    (b.toUInt8 <<< 4) ||| (c.toUInt8 >>> 2) = (b % 16 * 16 + c / 4).toUInt8 := by
  refine or_eq_add (k := 4) ?_ ?_ (by omega)
  · rw [UInt8.toNat_shiftLeft, toNat_toUInt8 (by omega)]
    show b <<< 4 % 256 = _
    rw [Nat.shiftLeft_eq]
    omega
  · rw [UInt8.toNat_shiftRight, toNat_toUInt8 (by omega)]
    exact Nat.shiftRight_eq_div_pow c 2

/-- The low two bits, then the last six. -/
theorem shifted_third {c d : Nat} (hc : c < 64) (hd : d < 64) :
    (c.toUInt8 <<< 6) ||| d.toUInt8 = (c % 4 * 64 + d).toUInt8 := by
  refine or_eq_add (k := 6) ?_ (toNat_toUInt8 (by omega)) (by omega)
  rw [UInt8.toNat_shiftLeft, toNat_toUInt8 (by omega)]
  show c <<< 6 % 256 = _
  rw [Nat.shiftLeft_eq]
  omega

/-! ## 6. The grammar of the whole text -/

/-- Digits with their padding behind them, in groups of four. -/
theorem text_of_digits : ∀ {digits : List UInt8} {padding : Nat}, padding ≤ 2 →
    (∀ b ∈ digits, inAlphabet b = true) →
    (digits ++ List.replicate padding pad).length % 4 = 0 →
    Text (digits ++ List.replicate padding pad)
  | [], padding, hpadding, _, hmod => by
    have hnone : padding = 0 := by
      simp only [List.nil_append, List.length_replicate] at hmod
      omega
    rw [hnone]
    exact .nil
  | [_], padding, hpadding, _, hmod => by
    simp only [List.length_append, List.length_replicate, List.length_singleton] at hmod
    omega
  | [a, b], padding, hpadding, hdigits, hmod => by
    have htwo : padding = 2 := by
      simp only [List.length_append, List.length_replicate, List.length_cons,
        List.length_nil] at hmod
      omega
    rw [htwo]
    exact .padded₂ (hdigits a (by simp)) (hdigits b (by simp))
  | [a, b, c], padding, hpadding, hdigits, hmod => by
    have hone : padding = 1 := by
      simp only [List.length_append, List.length_replicate, List.length_cons,
        List.length_nil] at hmod
      omega
    rw [hone]
    exact .padded₁ (hdigits a (by simp)) (hdigits b (by simp)) (hdigits c (by simp))
  | a :: b :: c :: d :: rest, padding, hpadding, hdigits, hmod => by
    have hrest : (rest ++ List.replicate padding pad).length % 4 = 0 := by
      simp only [List.length_append, List.length_cons] at hmod ⊢
      omega
    have hothers : ∀ x ∈ rest, inAlphabet x = true := fun x hx => hdigits x (by simp [hx])
    exact .group (hdigits a (by simp)) (hdigits b (by simp)) (hdigits c (by simp))
      (hdigits d (by simp)) (text_of_digits hpadding hothers hrest)

/-- A text is digits and at most two `=` behind them. -/
theorem Text.digits {text : List UInt8} (h : Text text) :
    ∃ digits padding, text = digits ++ List.replicate padding pad ∧ padding ≤ 2 ∧
      ∀ b ∈ digits, inAlphabet b = true := by
  induction h with
  | nil => exact ⟨[], 0, rfl, Nat.zero_le _, fun b hb => absurd hb List.not_mem_nil⟩
  | @padded₁ a b c ha hb hc => exact ⟨[a, b, c], 1, rfl, by omega, by simp [ha, hb, hc]⟩
  | @padded₂ a b ha hb => exact ⟨[a, b], 2, rfl, by omega, by simp [ha, hb]⟩
  | @group a b c d rest ha hb hc hd _ ih =>
    obtain ⟨digits, padding, rfl, hpadding, hdigits⟩ := ih
    refine ⟨a :: b :: c :: d :: digits, padding, rfl, hpadding, ?_⟩
    simpa [ha, hb, hc, hd] using hdigits

/-- **The grammar, without its groups.** -/
theorem text_iff {text : List UInt8} : Text text ↔
    text.length % 4 = 0 ∧ ∃ digits padding, text = digits ++ List.replicate padding pad ∧
      padding ≤ 2 ∧ ∀ b ∈ digits, inAlphabet b = true := by
  constructor
  · intro h
    exact ⟨h.length_mod, h.digits⟩
  · intro h
    obtain ⟨hmod, digits, padding, rfl, hpadding, hdigits⟩ := h
    exact text_of_digits hpadding hdigits hmod

/-! ## 7. The bits of the digits -/

/-- The six bits of a digit, the highest first. -/
def bits (b : UInt8) : List Nat :=
  [value b / 32 % 2, value b / 16 % 2, value b / 8 % 2, value b / 4 % 2, value b / 2 % 2,
    value b % 2]

/-- The byte of these bits, the highest first. -/
def byteOf (bits : List Nat) : UInt8 := (bits.foldl (fun n bit => 2 * n + bit) 0).toUInt8

/-- The bytes of a stream of bits: bits left over at its end are ignored. -/
def bytesOf : List Nat → List UInt8
  | b₀ :: b₁ :: b₂ :: b₃ :: b₄ :: b₅ :: b₆ :: b₇ :: rest =>
    byteOf [b₀, b₁, b₂, b₃, b₄, b₅, b₆, b₇] :: bytesOf rest
  | _ => []

/-- The first byte of a group: six bits and two. -/
theorem first_bits (a b : UInt8) :
    byteOf [value a / 32 % 2, value a / 16 % 2, value a / 8 % 2, value a / 4 % 2, value a / 2 % 2,
      value a % 2, value b / 32 % 2, value b / 16 % 2] = (value a * 4 + value b / 16).toUInt8 := by
  have ha := value_lt a
  have hb := value_lt b
  simp only [byteOf, List.foldl_cons, List.foldl_nil]
  congr 1
  omega

/-- The second byte: four bits and four. -/
theorem second_bits (b c : UInt8) :
    byteOf [value b / 8 % 2, value b / 4 % 2, value b / 2 % 2, value b % 2, value c / 32 % 2,
      value c / 16 % 2, value c / 8 % 2, value c / 4 % 2]
      = (value b % 16 * 16 + value c / 4).toUInt8 := by
  have hb := value_lt b
  have hc := value_lt c
  simp only [byteOf, List.foldl_cons, List.foldl_nil]
  congr 1
  omega

/-- The third byte: two bits and six. -/
theorem third_bits (c d : UInt8) :
    byteOf [value c / 2 % 2, value c % 2, value d / 32 % 2, value d / 16 % 2, value d / 8 % 2,
      value d / 4 % 2, value d / 2 % 2, value d % 2] = (value c % 4 * 64 + value d).toUInt8 := by
  have hc := value_lt c
  have hd := value_lt d
  simp only [byteOf, List.foldl_cons, List.foldl_nil]
  congr 1
  omega

/-- **Decoding group by group reads the bits of all digits, eight at a time.** -/
theorem decode_eq_bits : ∀ {digits : List UInt8} {padding : Nat}, padding ≤ 2 →
    (∀ b ∈ digits, inAlphabet b = true) →
    (digits ++ List.replicate padding pad).length % 4 = 0 →
    decode (digits ++ List.replicate padding pad) = bytesOf (digits.flatMap bits)
  | [], padding, hpadding, _, hmod => by
    have hnone : padding = 0 := by
      simp only [List.nil_append, List.length_replicate] at hmod
      omega
    rw [hnone]
    rfl
  | [_], padding, hpadding, _, hmod => by
    simp only [List.length_append, List.length_replicate, List.length_singleton] at hmod
    omega
  | [a, b], padding, hpadding, hdigits, hmod => by
    have htwo : padding = 2 := by
      simp only [List.length_append, List.length_replicate, List.length_cons,
        List.length_nil] at hmod
      omega
    rw [htwo]
    show [(value a * 4 + value b / 16).toUInt8] = [byteOf _]
    rw [← first_bits a b]
  | [a, b, c], padding, hpadding, hdigits, hmod => by
    have hone : padding = 1 := by
      simp only [List.length_append, List.length_replicate, List.length_cons,
        List.length_nil] at hmod
      omega
    have hc := inAlphabet_ne_pad (hdigits c (by simp))
    rw [hone]
    show decode [a, b, c, pad] = [byteOf _, byteOf _]
    rw [decode, if_neg hc, if_pos rfl, ← first_bits a b, ← second_bits b c]
  | a :: b :: c :: d :: rest, padding, hpadding, hdigits, hmod => by
    have hrest : (rest ++ List.replicate padding pad).length % 4 = 0 := by
      simp only [List.length_append, List.length_cons] at hmod ⊢
      omega
    have hothers : ∀ x ∈ rest, inAlphabet x = true := fun x hx => hdigits x (by simp [hx])
    have hc := inAlphabet_ne_pad (hdigits c (by simp))
    have hd := inAlphabet_ne_pad (hdigits d (by simp))
    have ih := decode_eq_bits hpadding hothers hrest
    show decode (a :: b :: c :: d :: (rest ++ List.replicate padding pad)) =
      byteOf _ :: byteOf _ :: byteOf _ :: bytesOf (rest.flatMap bits)
    rw [decode, if_neg hc, if_neg hd, ih, ← first_bits a b, ← second_bits b c, ← third_bits c d]

end MatriXpost.PaddedBase64
