/-
  File:      MatriXpost/Runner/TerminalQrPng.lean
  Subject:   THE TWO VALIDATORS OF A QR CODE'S IMAGE: the runner's, over a screenshot it took, and
             the protocol's, over the response a client got.

  Sources: `webdriver/terminal_qr.rs` (`validate_png_base64`), `runner/protocol.rs`
  (`terminal_qr_png_base64_is_valid`, `base64_value`).

  The protocol's validator decodes: it accepts exactly the padded base64 whose bytes begin with
  the PNG signature (`terminalQrPngBase64IsValid_iff`). The runner's compares a textual prefix,
  which is the signature encoded ALONE, with its padding: eight bytes do not fill the third group,
  so an image that goes on after its signature encodes otherwise, and a text that goes on after
  the prefix has padding inside. The two agree on one accepted text (`validators_agree_iff`).
-/
import MatriXpost.Lib.Base64
import Mathlib.Data.List.Infix
import Mathlib.Tactic.Tauto

namespace MatriXpost

open PaddedBase64 (pad inAlphabet value encode decode)

/-! ## 1. The two validators -/

/-- The bytes of a `&str`. -/
def utf8 (v : String) : List UInt8 := v.toByteArray.data.toList

/-- `TERMINAL_QR_LOGIN_PNG_BASE64_MAX_BYTES`. -/
def terminalQrLoginPngBase64MaxBytes : Nat := 1048576

/-- `PNG_SIGNATURE`. -/
def pngSignature : List UInt8 := [137, 80, 78, 71, 13, 10, 26, 10]

/-- `PNG_PREFIX_BASE64`. -/
def pngPrefixBase64 : String := "iVBORw0KGgo="

/-- `u8::is_ascii_alphanumeric`. -/
def isAsciiAlphanumeric (b : UInt8) : Bool :=
  (65 ≤ b && b ≤ 90) || (97 ≤ b && b ≤ 122) || (48 ≤ b && b ≤ 57)

/-- `validate_png_base64` of the runner. -/
def validatePngBase64 (v : String) : Except String Unit :=
  let bytes := utf8 v
  if bytes.length < (utf8 pngPrefixBase64).length
      || bytes.length > terminalQrLoginPngBase64MaxBytes
      || bytes.length % 4 != 0
      || !(utf8 pngPrefixBase64).isPrefixOf bytes
      || !bytes.all (fun b => isAsciiAlphanumeric b || (b == 43 || b == 47 || b == 61)) then
    .error "WebDriver element screenshot was not a bounded PNG"
  else .ok ()

/-- `base64_value`. -/
def base64Value (byte : UInt8) : Option UInt8 :=
  if 65 ≤ byte && byte ≤ 90 then some (byte - 65)
  else if 97 ≤ byte && byte ≤ 122 then some (byte - 97 + 26)
  else if 48 ≤ byte && byte ≤ 57 then some (byte - 48 + 52)
  else if byte == 43 then some 62
  else if byte == 47 then some 63
  else none

/-- A byte after the first padding that is not padding. -/
def paddingInside (bytes : List UInt8) : Bool := (bytes.dropWhile (· != pad)).any (· != pad)

/-- What `c` and `d` of a chunk are read as: padding is zero bits. -/
def paddedValue (byte : UInt8) : Option UInt8 := if byte == pad then some 0 else base64Value byte

/-- One round of the loop over chunks: the bytes the chunk decodes to, `none` where the validator
    returns false. `last` is `index + 1 == bytes.len() / 4`. -/
def decodeChunk (last : Bool) (c₀ c₁ c₂ c₃ : UInt8) : Option (List UInt8) := do
  let a ← base64Value c₀
  let b ← base64Value c₁
  let padding := ([c₂, c₃].filter (· == pad)).length
  if padding > 2 || (padding > 0 && !last) || (padding == 2 && c₂ != pad) then none
  else
    let c ← paddedValue c₂
    let d ← paddedValue c₃
    some ([(a <<< 2) ||| (b >>> 4), (b <<< 4) ||| (c >>> 2), (c <<< 6) ||| d].take (3 - padding))

/-- The loop over chunks: `signature` holds the bytes written so far, at most eight. -/
def signatureLoop (chunks : Nat) : Nat → List UInt8 → List UInt8 → Option (List UInt8)
  | index, signature, c₀ :: c₁ :: c₂ :: c₃ :: rest => do
    let decoded ← decodeChunk (index + 1 == chunks) c₀ c₁ c₂ c₃
    signatureLoop chunks (index + 1) ((signature ++ decoded).take 8) rest
  | _, signature, _ => some signature

/-- `terminal_qr_png_base64_is_valid` of the protocol. -/
def terminalQrPngBase64IsValid (v : String) : Bool :=
  let bytes := utf8 v
  if bytes.length < 12 || bytes.length > terminalQrLoginPngBase64MaxBytes
      || bytes.length % 4 != 0 then false
  else if paddingInside bytes then false
  else signatureLoop (bytes.length / 4) 0 [] bytes == some pngSignature

/-! ## 2. What a chunk decodes to -/

theorem base64Value_eq (b : UInt8) :
    base64Value b = if inAlphabet b then some (value b).toUInt8 else none := by
  revert b
  exact PaddedBase64.forall_byte (by decide +kernel)

theorem base64Value_some {b x : UInt8} (h : base64Value b = some x) :
    inAlphabet b = true ∧ x = (value b).toUInt8 := by
  rw [base64Value_eq] at h
  split at h
  · exact ⟨‹_›, (Option.some.inj h).symm⟩
  · cases h

theorem base64Value_digit {b : UInt8} (h : inAlphabet b = true) :
    base64Value b = some (value b).toUInt8 := by rw [base64Value_eq, if_pos h]

/-- The bytes of a chunk, before the cut at its padding. -/
theorem decoded_bytes (a b c d : UInt8) :
    [((value a).toUInt8 <<< 2) ||| ((value b).toUInt8 >>> 4),
      ((value b).toUInt8 <<< 4) ||| ((value c).toUInt8 >>> 2),
      ((value c).toUInt8 <<< 6) ||| (value d).toUInt8] =
    [(value a * 4 + value b / 16).toUInt8, (value b % 16 * 16 + value c / 4).toUInt8,
      (value c % 4 * 64 + value d).toUInt8] := by
  rw [PaddedBase64.shifted_first (PaddedBase64.value_lt a) (PaddedBase64.value_lt b),
    PaddedBase64.shifted_second (PaddedBase64.value_lt b) (PaddedBase64.value_lt c),
    PaddedBase64.shifted_third (PaddedBase64.value_lt c) (PaddedBase64.value_lt d)]

theorem paddedValue_eq {c : UInt8} (h : inAlphabet c = true ∨ c = pad) :
    paddedValue c = some (value c).toUInt8 := by
  rcases h with h | rfl
  · rw [paddedValue, if_neg (by simpa using PaddedBase64.inAlphabet_ne_pad h), base64Value_digit h]
  · rfl

theorem paddedValue_some {c x : UInt8} (h : paddedValue c = some x) :
    inAlphabet c = true ∨ c = pad := by
  by_cases hp : c = pad
  · exact .inr hp
  · rw [paddedValue, if_neg (by simpa using hp)] at h
    exact .inl (base64Value_some h).1

/-- A chunk of two digits and two bytes that are digits or padding: what it decodes to, where its
    padding is allowed. -/
theorem decodeChunk_eq {c₀ c₁ c₂ c₃ : UInt8} (last : Bool) (h₀ : inAlphabet c₀ = true)
    (h₁ : inAlphabet c₁ = true) (h₂ : inAlphabet c₂ = true ∨ c₂ = pad)
    (h₃ : inAlphabet c₃ = true ∨ c₃ = pad) :
    decodeChunk last c₀ c₁ c₂ c₃ =
      let padding := ([c₂, c₃].filter (· == pad)).length
      if padding > 2 || (padding > 0 && !last) || (padding == 2 && c₂ != pad) then none
      else some ([(value c₀ * 4 + value c₁ / 16).toUInt8,
        (value c₁ % 16 * 16 + value c₂ / 4).toUInt8,
        (value c₂ % 4 * 64 + value c₃).toUInt8].take (3 - padding)) := by
  simp only [decodeChunk, base64Value_digit h₀, base64Value_digit h₁, paddedValue_eq h₂,
    paddedValue_eq h₃, Option.bind_eq_bind, Option.bind_some, decoded_bytes]

/-- Of a chunk that decodes, the first two bytes are digits and the last two digits or padding. -/
theorem decodeChunk_some {c₀ c₁ c₂ c₃ : UInt8} {last : Bool} {decoded : List UInt8}
    (h : decodeChunk last c₀ c₁ c₂ c₃ = some decoded) :
    inAlphabet c₀ = true ∧ inAlphabet c₁ = true ∧ (inAlphabet c₂ = true ∨ c₂ = pad) ∧
      (inAlphabet c₃ = true ∨ c₃ = pad) := by
  simp only [decodeChunk, Option.bind_eq_bind, Option.bind_eq_some_iff] at h
  obtain ⟨a, ha, b, hb, h⟩ := h
  split at h
  · cases h
  · simp only [Option.bind_eq_some_iff] at h
    obtain ⟨c, hc, d, hd, -⟩ := h
    exact ⟨(base64Value_some ha).1, (base64Value_some hb).1, paddedValue_some hc,
      paddedValue_some hd⟩

/-! ## 3. The loop on a text -/

/-- In padded base64 nothing but padding follows padding. -/
theorem paddingInside_text {bytes : List UInt8} (h : PaddedBase64.Text bytes) :
    paddingInside bytes = false := by
  induction h with
  | nil => rfl
  | padded₁ ha hb hc =>
    have na := PaddedBase64.inAlphabet_ne_pad ha
    have nb := PaddedBase64.inAlphabet_ne_pad hb
    have nc := PaddedBase64.inAlphabet_ne_pad hc
    simp [paddingInside, na, nb, nc]
  | padded₂ ha hb =>
    have na := PaddedBase64.inAlphabet_ne_pad ha
    have nb := PaddedBase64.inAlphabet_ne_pad hb
    simp [paddingInside, na, nb]
  | group ha hb hc hd _ ih =>
    have na := PaddedBase64.inAlphabet_ne_pad ha
    have nb := PaddedBase64.inAlphabet_ne_pad hb
    have nc := PaddedBase64.inAlphabet_ne_pad hc
    have nd := PaddedBase64.inAlphabet_ne_pad hd
    simpa [paddingInside, na, nb, nc, nd] using ih

theorem take_append_of_take {α : Type} (n : Nat) (front rest : List α) :
    (front.take n ++ rest).take n = (front ++ rest).take n := by
  simp [List.take_append, List.take_take]
  omega

/-- **On padded base64 the loop ends with the first eight bytes of what it decodes.** -/
theorem signatureLoop_text {bytes : List UInt8} (h : PaddedBase64.Text bytes) {chunks index : Nat}
    (hindex : index + bytes.length / 4 = chunks) (signature : List UInt8)
    (hsig : signature.length ≤ 8) :
    signatureLoop chunks index signature bytes = some ((signature ++ decode bytes).take 8) := by
  induction h generalizing index signature with
  | nil => simp [signatureLoop, decode, List.take_of_length_le hsig]
  | @padded₁ a b c ha hb hc =>
    have hlast : index + 1 = chunks := by simpa using hindex
    have nc := PaddedBase64.inAlphabet_ne_pad hc
    have hchunk := decodeChunk_eq true ha hb (.inl hc) (.inr (Eq.refl pad))
    simp [signatureLoop, decode, hlast, hchunk, nc]
  | @padded₂ a b ha hb =>
    have hlast : index + 1 = chunks := by simpa using hindex
    have hchunk := decodeChunk_eq true ha hb (.inr (Eq.refl pad)) (.inr (Eq.refl pad))
    simp [signatureLoop, decode, hlast, hchunk]
  | @group a b c d rest ha hb hc hd hrest ih =>
    have nc := PaddedBase64.inAlphabet_ne_pad hc
    have nd := PaddedBase64.inAlphabet_ne_pad hd
    have hchunk := decodeChunk_eq (index + 1 == chunks) ha hb (.inl hc) (.inl hd)
    have hnext : index + 1 + rest.length / 4 = chunks := by
      rw [← hindex]
      simp only [List.length_cons]
      omega
    have hround := ih hnext ((signature ++ [(value a * 4 + value b / 16).toUInt8,
      (value b % 16 * 16 + value c / 4).toUInt8, (value c % 4 * 64 + value d).toUInt8]).take 8)
      (List.length_take_le 8 _)
    rw [take_append_of_take] at hround
    simpa [signatureLoop, decode, hchunk, nc, nd] using hround

/-- A chunk with padding is the last one. -/
theorem decodeChunk_last {c₀ c₁ c₂ c₃ : UInt8} {decoded : List UInt8} {last : Bool}
    (h : decodeChunk last c₀ c₁ c₂ c₃ = some decoded) (hpad : c₂ = pad ∨ c₃ = pad) :
    last = true := by
  obtain ⟨h₀, h₁, h₂, h₃⟩ := decodeChunk_some h
  have hcount : 0 < ([c₂, c₃].filter (· == pad)).length := by
    rw [List.length_pos_iff_exists_mem]
    rcases hpad with rfl | rfl
    · exact ⟨pad, by simp⟩
    · exact ⟨pad, by simp⟩
  rw [decodeChunk_eq last h₀ h₁ h₂ h₃] at h
  cases last with
  | true => rfl
  | false => simp [hcount] at h

/-- The round of the loop that goes through, taken apart. -/
theorem signatureLoop_cons {chunks index : Nat} {signature rest out : List UInt8}
    {c₀ c₁ c₂ c₃ : UInt8}
    (h : signatureLoop chunks index signature (c₀ :: c₁ :: c₂ :: c₃ :: rest) = some out) :
    ∃ decoded, decodeChunk (index + 1 == chunks) c₀ c₁ c₂ c₃ = some decoded ∧
      signatureLoop chunks (index + 1) ((signature ++ decoded).take 8) rest = some out := by
  rw [signatureLoop, Option.bind_eq_bind, Option.bind_eq_some_iff] at h
  exact h

/-- After the last chunk nothing is left. -/
theorem rest_eq_nil {chunks index : Nat} {rest : List UInt8} {c₀ c₁ c₂ c₃ : UInt8}
    (hlast : (index + 1 == chunks) = true)
    (hindex : index + (c₀ :: c₁ :: c₂ :: c₃ :: rest).length / 4 = chunks)
    (hlength : (c₀ :: c₁ :: c₂ :: c₃ :: rest).length % 4 = 0) : rest = [] := by
  rw [beq_iff_eq] at hlast
  simp only [List.length_cons] at hindex hlength
  exact List.eq_nil_of_length_eq_zero (by omega)

/-- **The loop goes through only on padded base64.** -/
theorem text_of_signatureLoop {chunks index : Nat} {signature bytes out : List UInt8}
    (h : signatureLoop chunks index signature bytes = some out)
    (hindex : index + bytes.length / 4 = chunks) (hlength : bytes.length % 4 = 0)
    (hinside : paddingInside bytes = false) : PaddedBase64.Text bytes := by
  induction bytes using PaddedBase64.decode.induct generalizing index signature with
  | case1 c₀ c₁ c₃ rest =>
    -- two bytes of padding: nothing but padding follows the first
    obtain ⟨decoded, hchunk, -⟩ := signatureLoop_cons h
    obtain ⟨h₀, h₁, -, -⟩ := decodeChunk_some hchunk
    have hrest := rest_eq_nil (decodeChunk_last hchunk (.inl rfl)) hindex hlength
    have n₀ := PaddedBase64.inAlphabet_ne_pad h₀
    have n₁ := PaddedBase64.inAlphabet_ne_pad h₁
    have h₃ : c₃ = pad := by simpa [paddingInside, n₀, n₁, hrest] using hinside
    rw [hrest, h₃]
    exact .padded₂ h₀ h₁
  | case2 c₀ c₁ c₂ rest hc₂ =>
    obtain ⟨decoded, hchunk, -⟩ := signatureLoop_cons h
    obtain ⟨h₀, h₁, h₂, -⟩ := decodeChunk_some hchunk
    have hrest := rest_eq_nil (decodeChunk_last hchunk (.inr rfl)) hindex hlength
    rw [hrest]
    exact .padded₁ h₀ h₁ (h₂.resolve_right hc₂)
  | case3 c₀ c₁ c₂ c₃ rest hc₂ hc₃ ih =>
    obtain ⟨decoded, hchunk, hrest⟩ := signatureLoop_cons h
    obtain ⟨h₀, h₁, h₂, h₃⟩ := decodeChunk_some hchunk
    have n₀ := PaddedBase64.inAlphabet_ne_pad h₀
    have n₁ := PaddedBase64.inAlphabet_ne_pad h₁
    have hinside' : paddingInside rest = false := by
      simpa [paddingInside, n₀, n₁, hc₂, hc₃] using hinside
    simp only [List.length_cons] at hindex hlength
    exact .group h₀ h₁ (h₂.resolve_right hc₂) (h₃.resolve_right hc₃)
      (ih hrest (by omega) (by omega) hinside')
  | case4 bytes hshort =>
    rcases bytes with _ | ⟨a, _ | ⟨b, _ | ⟨c, _ | ⟨d, rest⟩⟩⟩⟩
    · exact .nil
    · cases hlength
    · cases hlength
    · cases hlength
    · exact absurd rfl (hshort a b c d rest)

/-! ## 4. What each validator accepts -/

/-- The texts the protocol accepts: padded base64, of a length it can carry, whose bytes begin
    with the PNG signature. -/
def PngText (bytes : List UInt8) : Prop :=
  bytes.length ≤ terminalQrLoginPngBase64MaxBytes ∧ PaddedBase64.Text bytes ∧
    pngSignature <+: decode bytes

/-- The texts the runner accepts: the prefix and any bytes of the alphabet or padding after it. -/
def PrefixText (bytes : List UInt8) : Prop :=
  bytes.length ≤ terminalQrLoginPngBase64MaxBytes ∧ bytes.length % 4 = 0 ∧
    utf8 pngPrefixBase64 <+: bytes ∧ ∀ b ∈ bytes, inAlphabet b = true ∨ b = pad

theorem terminalQrPngBase64IsValid_eq_true (v : String) :
    terminalQrPngBase64IsValid v = true ↔
      12 ≤ (utf8 v).length ∧ (utf8 v).length ≤ terminalQrLoginPngBase64MaxBytes ∧
        (utf8 v).length % 4 = 0 ∧ paddingInside (utf8 v) = false ∧
        signatureLoop ((utf8 v).length / 4) 0 [] (utf8 v) = some pngSignature := by
  simp [terminalQrPngBase64IsValid, and_assoc]

/-- **The protocol's validator accepts exactly the base64 of what begins with the signature.** -/
theorem terminalQrPngBase64IsValid_iff (v : String) :
    terminalQrPngBase64IsValid v = true ↔ PngText (utf8 v) := by
  have hlen : pngSignature.length = 8 := rfl
  rw [terminalQrPngBase64IsValid_eq_true]
  constructor
  · intro h
    obtain ⟨-, hmax, hmod, hinside, hloop⟩ := h
    have htext := text_of_signatureLoop hloop (Nat.zero_add _) hmod hinside
    rw [signatureLoop_text htext (Nat.zero_add _) [] (Nat.zero_le _)] at hloop
    have hsigned : (decode (utf8 v)).take 8 = pngSignature := Option.some.inj hloop
    refine ⟨hmax, htext, ?_⟩
    rw [← hsigned]
    exact List.take_prefix 8 _
  · intro h
    obtain ⟨hmax, htext, hsignature⟩ := h
    have hlength := hsignature.length_le
    have hdecode := PaddedBase64.length_decode_le (utf8 v)
    have hsigned : pngSignature = (decode (utf8 v)).take 8 := List.prefix_iff_eq_take.mp hsignature
    have hmod := htext.length_mod
    refine ⟨by omega, hmax, hmod, paddingInside_text htext, ?_⟩
    rw [signatureLoop_text htext (Nat.zero_add _) [] (Nat.zero_le _), List.nil_append, ← hsigned]

theorem alphabet_eq (b : UInt8) :
    (isAsciiAlphanumeric b || (b == 43 || b == 47 || b == 61)) = true ↔
      inAlphabet b = true ∨ b = pad := by
  revert b
  exact PaddedBase64.forall_byte (by decide +kernel)

theorem validatePngBase64_eq_ok (v : String) :
    validatePngBase64 v = .ok () ↔
      (utf8 pngPrefixBase64).length ≤ (utf8 v).length ∧
        (utf8 v).length ≤ terminalQrLoginPngBase64MaxBytes ∧ (utf8 v).length % 4 = 0 ∧
        (utf8 pngPrefixBase64).isPrefixOf (utf8 v) = true ∧
        (utf8 v).all (fun b => isAsciiAlphanumeric b || (b == 43 || b == 47 || b == 61))
          = true := by
  unfold validatePngBase64
  simp only [ite_eq_right_iff, reduceCtorEq, imp_false, Bool.or_eq_true, decide_eq_true_eq,
    bne_iff_ne, Bool.not_eq_true', not_or, not_lt, gt_iff_lt, ne_eq, not_not, Bool.not_eq_false]
  tauto

/-- **The runner's validator accepts exactly the prefix and what may stand in base64.** -/
theorem validatePngBase64_iff (v : String) :
    validatePngBase64 v = .ok () ↔ PrefixText (utf8 v) := by
  have hall : (utf8 v).all (fun b => isAsciiAlphanumeric b || (b == 43 || b == 47 || b == 61))
      = true ↔ ∀ b ∈ utf8 v, inAlphabet b = true ∨ b = pad := by
    rw [List.all_eq_true]
    exact forall₂_congr fun b _ => alphabet_eq b
  rw [validatePngBase64_eq_ok, hall, List.isPrefixOf_iff_prefix]
  constructor
  · intro h
    obtain ⟨-, hmax, hmod, hstart, halphabet⟩ := h
    exact ⟨hmax, hmod, hstart, halphabet⟩
  · intro h
    obtain ⟨hmax, hmod, hstart, halphabet⟩ := h
    exact ⟨hstart.length_le, hmax, hmod, hstart, halphabet⟩

theorem utf8_pngPrefixBase64 :
    utf8 pngPrefixBase64 = [105, 86, 66, 79, 82, 119, 48, 75, 71, 103, 111, 61] := rfl

/-- Padded base64 that begins with the runner's prefix is the prefix. -/
theorem eq_prefix_of_text {bytes : List UInt8} (htext : PaddedBase64.Text bytes)
    (hstarts : utf8 pngPrefixBase64 <+: bytes) : bytes = utf8 pngPrefixBase64 := by
  obtain ⟨rest, rfl⟩ := hstarts
  rw [utf8_pngPrefixBase64] at htext ⊢
  by_cases hrest : rest = []
  · rw [hrest, List.append_nil]
  · obtain ⟨-, -, -, -, htext⟩ := htext.head (by simp)
    obtain ⟨-, -, -, -, htext⟩ := htext.head (by simp)
    obtain ⟨-, -, -, hpad, -⟩ := htext.head hrest
    cases hpad

/-- The prefix is the signature encoded. -/
theorem encode_signature : encode pngSignature = utf8 pngPrefixBase64 := by
  rw [utf8_pngPrefixBase64]
  decide

theorem pngPrefix_bounded :
    (utf8 pngPrefixBase64).length ≤ terminalQrLoginPngBase64MaxBytes := by
  rw [utf8_pngPrefixBase64, terminalQrLoginPngBase64MaxBytes]
  simp

theorem pngText_encoded : PngText (utf8 pngPrefixBase64) := by
  refine ⟨pngPrefix_bounded, ?_⟩
  rw [← encode_signature, PaddedBase64.decode_encode]
  exact ⟨PaddedBase64.encode_text _, List.prefix_refl _⟩

theorem prefixText_encoded : PrefixText (utf8 pngPrefixBase64) := by
  have htext := PaddedBase64.encode_text pngSignature
  rw [encode_signature] at htext
  exact ⟨pngPrefix_bounded, htext.length_mod, List.prefix_refl _, htext.all⟩

/-- **One text is accepted by both.** -/
theorem both_iff (bytes : List UInt8) :
    PrefixText bytes ∧ PngText bytes ↔ bytes = utf8 pngPrefixBase64 := by
  constructor
  · intro h
    obtain ⟨⟨-, -, hstarts, -⟩, -, htext, -⟩ := h
    exact eq_prefix_of_text htext hstarts
  · rintro rfl
    exact ⟨prefixText_encoded, pngText_encoded⟩

/-! ## 5. Strings of base64 -/

/-- The string whose bytes are the encoding. -/
def encodeString (data : List UInt8) : String :=
  String.ofList ((encode data).map fun b => Char.ofNat b.toNat)

/-- An ASCII byte is one byte of UTF-8. -/
theorem utf8EncodeChar_ascii (b : UInt8) :
    inAlphabet b = true ∨ b = pad → String.utf8EncodeChar (Char.ofNat b.toNat) = [b] := by
  revert b
  exact PaddedBase64.forall_byte (by decide +kernel)

theorem utf8_encodeString (data : List UInt8) : utf8 (encodeString data) = encode data := by
  have hascii := (PaddedBase64.encode_text data).all
  unfold utf8 encodeString
  rw [String.toByteArray_ofList, List.utf8Encode, List.data_toByteArray, List.toList_toArray,
    List.flatMap_map]
  generalize encode data = text at hascii ⊢
  induction text with
  | nil => rfl
  | cons b rest ih =>
    rw [List.flatMap_cons, utf8EncodeChar_ascii b (hascii b List.mem_cons_self),
      ih fun x hx => hascii x (List.mem_cons_of_mem b hx)]
    rfl

/-- **Every image that begins with the signature is accepted by the protocol's validator.** -/
theorem terminalQrPngBase64IsValid_encode {data : List UInt8} (h : pngSignature <+: data)
    (hmax : (encode data).length ≤ terminalQrLoginPngBase64MaxBytes) :
    terminalQrPngBase64IsValid (encodeString data) = true := by
  rw [terminalQrPngBase64IsValid_iff, utf8_encodeString]
  refine ⟨hmax, PaddedBase64.encode_text data, ?_⟩
  rwa [PaddedBase64.decode_encode]

/-- **The runner's validator accepts of the encoded images the signature alone.** -/
theorem validatePngBase64_encode {data : List UInt8} :
    validatePngBase64 (encodeString data) = .ok () ↔ data = pngSignature := by
  rw [validatePngBase64_iff, utf8_encodeString]
  constructor
  · intro h
    obtain ⟨-, -, hstarts, -⟩ := h
    have hbytes := eq_prefix_of_text (PaddedBase64.encode_text data) hstarts
    rw [← encode_signature] at hbytes
    rw [← PaddedBase64.decode_encode data, hbytes, PaddedBase64.decode_encode]
  · rintro rfl
    rw [encode_signature]
    exact prefixText_encoded

/-! ## 6. Where the validators agree -/

/-- **The validators agree on a string exactly if neither accepts it or it is the prefix.** -/
theorem validators_agree_iff (v : String) :
    (validatePngBase64 v = .ok () ↔ terminalQrPngBase64IsValid v = true) ↔
      utf8 v = utf8 pngPrefixBase64 ∨ (¬PrefixText (utf8 v) ∧ ¬PngText (utf8 v)) := by
  have hboth := both_iff (utf8 v)
  rw [validatePngBase64_iff, terminalQrPngBase64IsValid_iff]
  tauto

/-- **Of the encoded images with the signature the runner accepts the one that ends there; the two
    validators differ on every text that just one of the two grammars admits.** -/
theorem png_validators_agreement (data : List UInt8) (v : String) :
    (pngSignature <+: data → (encode data).length ≤ terminalQrLoginPngBase64MaxBytes →
      (validatePngBase64 (encodeString data) = .ok () ↔ data = pngSignature)) ∧
    ((validatePngBase64 v = .ok () ↔ terminalQrPngBase64IsValid v = true) ↔
      utf8 v = utf8 pngPrefixBase64 ∨ (¬PrefixText (utf8 v) ∧ ¬PngText (utf8 v))) :=
  ⟨fun _ _ => validatePngBase64_encode, validators_agree_iff v⟩

/-- The image of the command line's tests: one black pixel. -/
def staticQrPngBase64 : String :=
  "iVBORw0KGgoAAAANSUhEUgAAAAEAAAABAQAAAAA3bvkkAAAACklEQVQI12NgAAAAAgAB4iG8MwAAAABJRU5ErkJggg=="

/-- The bytes of that image. -/
def staticQrPng : List UInt8 := decode (utf8 staticQrPngBase64)

theorem staticQrPng_carried : pngSignature <+: staticQrPng ∧
    encodeString staticQrPng = staticQrPngBase64 ∧
    (encode staticQrPng).length ≤ terminalQrLoginPngBase64MaxBytes ∧
    terminalQrPngBase64IsValid staticQrPngBase64 = true ∧
    terminalQrPngBase64IsValid "iVBORw0KGgo=AAAA" = false := by decide +kernel

/-- The signature alone is accepted, and the validators agree on its text; the image is not. -/
theorem png_validators_agreement_sample :
    validatePngBase64 (encodeString pngSignature) = .ok () ∧
      (validatePngBase64 pngPrefixBase64 = .ok () ↔
        terminalQrPngBase64IsValid pngPrefixBase64 = true) ∧
      validatePngBase64 (encodeString staticQrPng) ≠ .ok () := by
  obtain ⟨hsignature, hagree⟩ := png_validators_agreement pngSignature pngPrefixBase64
  have hlong : staticQrPng ≠ pngSignature := by decide +kernel
  have himage := (png_validators_agreement staticQrPng staticQrPngBase64).1 staticQrPng_carried.1
    staticQrPng_carried.2.2.1
  exact ⟨(hsignature List.prefix_rfl (by decide)).mpr rfl, hagree.mpr (.inl rfl),
    fun hok => hlong (himage.mp hok)⟩

/-- **A QR code the protocol carries is rejected by the runner that took it, and a text the runner
    would send is rejected by the client.** -/
theorem static_qr_png_rejected :
    pngSignature <+: staticQrPng ∧ encodeString staticQrPng = staticQrPngBase64 ∧
    (encode staticQrPng).length ≤ terminalQrLoginPngBase64MaxBytes ∧
    validatePngBase64 staticQrPngBase64
      = .error "WebDriver element screenshot was not a bounded PNG" ∧
    terminalQrPngBase64IsValid staticQrPngBase64 = true ∧
    validatePngBase64 "iVBORw0KGgo=AAAA" = .ok () ∧
    terminalQrPngBase64IsValid "iVBORw0KGgo=AAAA" = false ∧
    ¬((∀ data : List UInt8, pngSignature <+: data →
        (encode data).length ≤ terminalQrLoginPngBase64MaxBytes →
        validatePngBase64 (encodeString data) = .ok ()) ∧
      ∀ v : String, validatePngBase64 v = .ok () ↔ terminalQrPngBase64IsValid v = true) := by
  have hrejected : validatePngBase64 staticQrPngBase64
      = .error "WebDriver element screenshot was not a bounded PNG" := by rfl
  obtain ⟨hsignature, hencode, hmax, hvalid, hinvalid⟩ := staticQrPng_carried
  refine ⟨hsignature, hencode, hmax, hrejected, hvalid, by rfl, hinvalid, ?_⟩
  intro h
  obtain ⟨haccepts, -⟩ := h
  have hok := haccepts staticQrPng hsignature hmax
  rw [hencode, hrejected] at hok
  cases hok

end MatriXpost
