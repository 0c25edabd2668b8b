/-
  File:      MatriXpost/Runner/TerminalQrPngChecked.lean
  Subject:   THE PROTOCOL'S VALIDATOR OF A QR CODE'S IMAGE, with every byte operation, index and
             slice of the source as one that may panic.

  Source: `runner/protocol.rs` (`terminal_qr_png_base64_is_valid`, `base64_value`).

  Here the signature is the buffer of eight bytes it is in the source, with the counter beside it.
  `terminalQrPngBase64IsValidChecked_eq`: nothing panics, and the answer is the one of
  `terminalQrPngBase64IsValid`, where the buffer is the list of what was written to it.
  `pngText_iff_grammar`: what that accepts, said of the whole text and of the bits of its digits.
-/
import MatriXpost.Lib.Checked
import MatriXpost.Runner.TerminalQrPng
import Mathlib.Data.List.TakeWhile

namespace MatriXpost

open PaddedBase64 (pad inAlphabet)

/-! ## 1. The validator, step by step -/

/-- `base64_value`. -/
def base64ValueChecked (byte : UInt8) : Checked (Option UInt8) := do
  if 65 ≤ byte && byte ≤ 90 then
    return some (← Checked.subU8 byte 65)
  else if 97 ≤ byte && byte ≤ 122 then
    return some (← Checked.addU8 (← Checked.subU8 byte 97) 26)
  else if 48 ≤ byte && byte ≤ 57 then
    return some (← Checked.addU8 (← Checked.subU8 byte 48) 52)
  else if byte == 43 then return some 62
  else if byte == 47 then return some 63
  else return none

/-- `bytes.iter().position(..)` of the first padding, and what follows it. -/
def paddingInsideChecked (bytes : List UInt8) : Checked Bool :=
  match bytes.findIdx? (· == pad) with
  | none => .ok false
  | some firstPadding => do
    return (← Checked.sliceFrom bytes firstPadding).any (· != pad)

/-- `chunk[2]` and `chunk[3]`: padding is zero bits. -/
def paddedValueChecked (byte : UInt8) : Checked (Option UInt8) :=
  if byte == pad then .ok (some 0) else base64ValueChecked byte

/-- One round of the loop over chunks, up to the bytes it decodes to; `none` where the source
    returns false. The shifts are by fewer bits than a byte has and lose bits, as in the source. -/
def decodeChunkChecked (last : Bool) (chunk : List UInt8) : Checked (Option (List UInt8)) := do
  let some a ← base64ValueChecked (← Checked.nth chunk 0) | return none
  let some b ← base64ValueChecked (← Checked.nth chunk 1) | return none
  let padding := ((chunk.drop 2).filter (· == pad)).length
  if padding > 2 || (padding > 0 && !last) || (padding == 2 && (← Checked.nth chunk 2) != pad) then
    return none
  let some c ← paddedValueChecked (← Checked.nth chunk 2) | return none
  let some d ← paddedValueChecked (← Checked.nth chunk 3) | return none
  let taken ← Checked.subUsize 3 padding
  return some ([(a <<< 2) ||| (b >>> 4), (b <<< 4) ||| (c >>> 2), (c <<< 6) ||| d].take taken)

/-- `signature` and `written`. -/
structure SignatureBuffer where
  signature : List UInt8
  written : Nat
deriving DecidableEq, Repr

/-- `[0_u8; 8]`, and nothing written. -/
def SignatureBuffer.empty : SignatureBuffer := ⟨List.replicate 8 0, 0⟩

/-- The inner loop: what finds room is written. -/
def SignatureBuffer.fill : SignatureBuffer → List UInt8 → Checked SignatureBuffer
  | buffer, [] => .ok buffer
  | buffer, byte :: rest => do
    if buffer.written < buffer.signature.length then
      let signature ← Checked.put buffer.signature buffer.written byte
      fill ⟨signature, buffer.written + 1⟩ rest
    else fill buffer rest

/-- `chunks_exact(4)`. -/
def chunksExact4 : List UInt8 → List (List UInt8)
  | c₀ :: c₁ :: c₂ :: c₃ :: rest => [c₀, c₁, c₂, c₃] :: chunksExact4 rest
  | _ => []

/-- The loop over chunks. -/
def signatureLoopChecked (chunks : Nat) :
    Nat → List (List UInt8) → SignatureBuffer → Checked (Option SignatureBuffer)
  | _, [], buffer => .ok (some buffer)
  | index, chunk :: rest, buffer => do
    let some decoded ← decodeChunkChecked (index + 1 == chunks) chunk | return none
    signatureLoopChecked chunks (index + 1) rest (← buffer.fill decoded)

/-- `terminal_qr_png_base64_is_valid`. -/
def terminalQrPngBase64IsValidChecked (v : String) : Checked Bool := do
  let bytes := utf8 v
  if bytes.length < 12 || bytes.length > terminalQrLoginPngBase64MaxBytes
      || bytes.length % 4 != 0 then
    return false
  if ← paddingInsideChecked bytes then return false
  let some buffer ← signatureLoopChecked (bytes.length / 4) 0 (chunksExact4 bytes) .empty
    | return false
  return buffer.written ≥ pngSignature.length && buffer.signature == pngSignature

/-! ## 2. Nothing panics -/

/-- **No byte of the alphabet overflows.** -/
theorem base64ValueChecked_eq (b : UInt8) : base64ValueChecked b = .ok (base64Value b) := by
  revert b
  exact PaddedBase64.forall_byte (by decide +kernel)

theorem paddedValueChecked_eq (b : UInt8) : paddedValueChecked b = .ok (paddedValue b) := by
  unfold paddedValueChecked paddedValue
  rw [base64ValueChecked_eq]
  split
  · rfl
  · rfl

/-- The position found is the length of what comes before the padding. -/
theorem drop_findIdx {bytes : List UInt8} {i : Nat} (h : bytes.findIdx? (· == pad) = some i) :
    i ≤ bytes.length ∧ bytes.drop i = bytes.dropWhile (· != pad) := by
  induction bytes generalizing i with
  | nil => cases h
  | cons byte rest ih =>
    rw [List.findIdx?_cons] at h
    by_cases hbyte : byte = pad
    · rw [if_pos (beq_iff_eq.mpr hbyte)] at h
      cases h
      exact ⟨Nat.zero_le _, by simp [hbyte]⟩
    · rw [if_neg (by simpa using hbyte), Option.map_eq_some_iff] at h
      obtain ⟨j, hj, rfl⟩ := h
      obtain ⟨hle, hdrop⟩ := ih hj
      exact ⟨Nat.succ_le_succ hle, by simpa [hbyte] using hdrop⟩

theorem paddingInsideChecked_eq (bytes : List UInt8) :
    paddingInsideChecked bytes = .ok (paddingInside bytes) := by
  unfold paddingInsideChecked paddingInside
  cases h : bytes.findIdx? (· == pad) with
  | none =>
    have hnone : ∀ b ∈ bytes, b ≠ pad := by simpa using List.findIdx?_eq_none_iff.mp h
    have hdrop : bytes.dropWhile (· != pad) = [] :=
      List.dropWhile_eq_nil_iff.mpr fun b hb => bne_iff_ne.mpr (hnone b hb)
    rw [hdrop]
    rfl
  | some i =>
    obtain ⟨hle, hdrop⟩ := drop_findIdx h
    simp only [Checked.sliceFrom_eq hle, hdrop]
    rfl

/-- **A chunk of four is decoded without a panic.** -/
theorem decodeChunkChecked_eq (last : Bool) (c₀ c₁ c₂ c₃ : UInt8) :
    decodeChunkChecked last [c₀, c₁, c₂, c₃] = .ok (decodeChunk last c₀ c₁ c₂ c₃) := by
  have hcount : ([c₂, c₃].filter (· == pad)).length ≤ 3 :=
    (List.length_filter_le _ _).trans (by simp)
  unfold decodeChunkChecked decodeChunk
  simp only [Checked.nth_zero, Checked.nth_succ, base64ValueChecked_eq, paddedValueChecked_eq,
    Checked.subUsize_eq hcount, List.drop_succ_cons, List.drop_zero, Checked.ok_bind]
  cases base64Value c₀ with
  | none => rfl
  | some a =>
    cases base64Value c₁ with
    | none => rfl
    | some b =>
      simp only [Option.bind_eq_bind, Option.bind_some]
      split
      · rfl
      · cases paddedValue c₂ with
        | none => rfl
        | some c =>
          cases paddedValue c₃ with
          | none => rfl
          | some d => rfl

/-! ## 3. The buffer and the list of what was written -/

/-- The buffer after these bytes, none of them too many. -/
def SignatureBuffer.of (bytes : List UInt8) : SignatureBuffer :=
  ⟨bytes ++ List.replicate (8 - bytes.length) 0, bytes.length⟩

theorem SignatureBuffer.of_length {bytes : List UInt8} (h : bytes.length ≤ 8) :
    (SignatureBuffer.of bytes).signature.length = 8 := by
  simp only [SignatureBuffer.of, List.length_append, List.length_replicate]
  omega

/-- A byte that finds room is written behind the others. -/
theorem SignatureBuffer.put_of {bytes : List UInt8} (h : bytes.length < 8) (byte : UInt8) :
    Checked.put (SignatureBuffer.of bytes).signature bytes.length byte
      = .ok (SignatureBuffer.of (bytes ++ [byte])).signature := by
  have hlen := SignatureBuffer.of_length h.le
  rw [Checked.put_eq (by omega)]
  have hroom : 8 - bytes.length = (8 - (bytes ++ [byte]).length) + 1 := by
    simp only [List.length_append, List.length_singleton]
    omega
  simp only [SignatureBuffer.of]
  rw [hroom, List.replicate_succ, List.set_append_right _ _ (Nat.le_refl _), Nat.sub_self,
    List.set_cons_zero, List.append_assoc, List.singleton_append]

/-- **Filling writes inside the buffer, and the buffer then holds the first eight bytes.** -/
theorem SignatureBuffer.fill_of {bytes : List UInt8} (h : bytes.length ≤ 8)
    (decoded : List UInt8) :
    (SignatureBuffer.of bytes).fill decoded = .ok (.of ((bytes ++ decoded).take 8)) := by
  induction decoded generalizing bytes with
  | nil =>
    rw [SignatureBuffer.fill, List.append_nil, List.take_of_length_le h]
  | cons byte rest ih =>
    rw [SignatureBuffer.fill, SignatureBuffer.of_length h]
    by_cases hroom : bytes.length < 8
    · have hnext : (bytes ++ [byte]).length ≤ 8 := by
        rw [List.length_append, List.length_singleton]
        omega
      have hwritten := ih hnext
      rw [List.append_assoc, List.singleton_append] at hwritten
      rw [← hwritten]
      show (if bytes.length < 8 then _ else _) = _
      rw [if_pos hroom]
      show (do let signature ← Checked.put _ bytes.length byte; _) = _
      rw [SignatureBuffer.put_of hroom, Checked.ok_bind]
      simp [SignatureBuffer.of]
    · have hfull : bytes.length = 8 := by omega
      show (if bytes.length < 8 then _ else _) = _
      rw [if_neg hroom, ih h]
      congr 2
      rw [List.take_append_of_le_length hfull.ge, List.take_append_of_le_length hfull.ge]

/-- **The loop over chunks never panics, and does what the loop over bytes does.** -/
theorem signatureLoopChecked_eq (chunks index : Nat) {written : List UInt8}
    (h : written.length ≤ 8) (bytes : List UInt8) :
    signatureLoopChecked chunks index (chunksExact4 bytes) (.of written)
      = .ok ((signatureLoop chunks index written bytes).map .of) := by
  induction bytes using chunksExact4.induct generalizing index written with
  | case1 c₀ c₁ c₂ c₃ rest ih =>
    rw [chunksExact4, signatureLoopChecked, signatureLoop, decodeChunkChecked_eq, Checked.ok_bind]
    cases decodeChunk (index + 1 == chunks) c₀ c₁ c₂ c₃ with
    | none => rfl
    | some decoded =>
      show (SignatureBuffer.fill _ decoded >>= _) = _
      rw [SignatureBuffer.fill_of h, Checked.ok_bind]
      exact ih (index + 1) (List.length_take_le 8 _)
  | case2 bytes hshort =>
    rw [chunksExact4, signatureLoop]
    · rfl
    · exact hshort
    · exact hshort

/-- The buffer is the signature, and full, where the bytes written are the signature. -/
theorem SignatureBuffer.of_eq_signature {written : List UInt8} (h : written.length ≤ 8) :
    (decide ((SignatureBuffer.of written).written ≥ pngSignature.length)
      && (SignatureBuffer.of written).signature == pngSignature) = (written == pngSignature) := by
  have hlen : pngSignature.length = 8 := rfl
  rw [hlen, SignatureBuffer.of]
  by_cases hfull : written.length = 8
  · simp [hfull]
  · have hne : written ≠ pngSignature := fun he => hfull (by rw [he, hlen])
    have hshort : ¬ 8 ≤ written.length := by omega
    simp [hshort, hne]

/-- The list of what was written never grows past the buffer. -/
theorem signatureLoop_length {chunks index : Nat} {written bytes out : List UInt8}
    (h : written.length ≤ 8) (hloop : signatureLoop chunks index written bytes = some out) :
    out.length ≤ 8 := by
  induction bytes using chunksExact4.induct generalizing index written with
  | case1 c₀ c₁ c₂ c₃ rest ih =>
    obtain ⟨decoded, -, hrest⟩ := signatureLoop_cons hloop
    exact ih (List.length_take_le 8 _) hrest
  | case2 bytes hshort =>
    rw [signatureLoop] at hloop
    · cases hloop
      exact h
    · exact hshort

/-- **On no text does the validator panic; it answers as `terminalQrPngBase64IsValid` does.** -/
theorem terminalQrPngBase64IsValidChecked_eq (v : String) :
    terminalQrPngBase64IsValidChecked v = .ok (terminalQrPngBase64IsValid v) := by
  unfold terminalQrPngBase64IsValidChecked terminalQrPngBase64IsValid
  simp only [paddingInsideChecked_eq, Checked.ok_bind]
  split
  · rfl
  · split
    · rfl
    · have hempty : SignatureBuffer.empty = .of [] := rfl
      rw [hempty, signatureLoopChecked_eq _ _ (Nat.zero_le _), Checked.ok_bind]
      cases hloop : signatureLoop ((utf8 v).length / 4) 0 [] (utf8 v) with
      | none => rfl
      | some written =>
        have hlen := signatureLoop_length (Nat.zero_le _) hloop
        simp only [Option.map_some, Checked.pure_eq, SignatureBuffer.of_eq_signature hlen]
        rfl

/-! ## 4. The grammar -/

/-- The texts to be accepted, said of the whole text: a length that is a multiple of four between
    12 and the bound, digits and at most two `=` behind them, and bits that begin with the
    signature. -/
def PngGrammar (bytes : List UInt8) : Prop :=
  bytes.length % 4 = 0 ∧ 12 ≤ bytes.length ∧ bytes.length ≤ terminalQrLoginPngBase64MaxBytes ∧
    ∃ digits padding, bytes = digits ++ List.replicate padding pad ∧ padding ≤ 2 ∧
      (∀ b ∈ digits, inAlphabet b = true) ∧
      pngSignature <+: PaddedBase64.bytesOf (digits.flatMap PaddedBase64.bits)

/-- **What `PngText` says group by group, `PngGrammar` says of the whole text.** -/
theorem pngText_iff_grammar (bytes : List UInt8) : PngText bytes ↔ PngGrammar bytes := by
  constructor
  · intro h
    obtain ⟨hmax, htext, hsignature⟩ := h
    have hlength : 8 ≤ (PaddedBase64.decode bytes).length := hsignature.length_le
    have hdecode := PaddedBase64.length_decode_le bytes
    obtain ⟨hmod, digits, padding, rfl, hpadding, hdigits⟩ := PaddedBase64.text_iff.mp htext
    rw [PaddedBase64.decode_eq_bits hpadding hdigits hmod] at hsignature
    exact ⟨hmod, by omega, hmax, digits, padding, rfl, hpadding, hdigits, hsignature⟩
  · intro h
    obtain ⟨hmod, -, hmax, digits, padding, rfl, hpadding, hdigits, hsignature⟩ := h
    refine ⟨hmax, PaddedBase64.text_iff.mpr ⟨hmod, digits, padding, rfl, hpadding, hdigits⟩, ?_⟩
    rwa [PaddedBase64.decode_eq_bits hpadding hdigits hmod]

/-- **The validator never panics and accepts exactly its grammar.** -/
theorem png_validator_grammar (v : String) :
    ∃ accepted, terminalQrPngBase64IsValidChecked v = .ok accepted ∧
      (accepted = true ↔ PngGrammar (utf8 v)) :=
  ⟨terminalQrPngBase64IsValid v, terminalQrPngBase64IsValidChecked_eq v,
    (terminalQrPngBase64IsValid_iff v).trans (pngText_iff_grammar (utf8 v))⟩

end MatriXpost
