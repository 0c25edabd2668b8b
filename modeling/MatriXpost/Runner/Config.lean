/-
  File:      MatriXpost/Runner/Config.lean
  Subject:   DECLARED LOCAL RUNNERS: addresses, credential-like terms, and the check of a
             declaration.

  Source: `runner/provider/config.rs`. The fields of a declaration are public and it may be
  deserialized, so a `ProviderRunner` is any value, checked or not.

  * `ProviderRunner.validate` is the check a caller may skip;
  * `ProviderRunner.loopbackTcpAddress` is the accessor the login adapters read the endpoint
    from. It answers loopback addresses only, whatever the declaration (`loopback_of_address`);
  * `containsCredentialLikeTerm` looks for seven terms in any ASCII case
    (`containsCredentialLikeTerm_iff`).
-/
import MatriXpost.Core.Request
import Mathlib.Data.List.Infix

namespace MatriXpost

/-! ## 1. Addresses -/

/-- `std::net::SocketAddr`. -/
inductive SocketAddr where
  | v4 (a b c d : UInt8) (port : UInt16)
  | v6 (segments : Vector UInt16 8) (port : UInt16) (flowinfo scopeId : UInt32)
deriving DecidableEq

/-- `address.ip().is_loopback()`: 127.0.0.0/8 and ::1. -/
def SocketAddr.isLoopback : SocketAddr → Bool
  | .v4 a _ _ _ _ => a = 127
  | .v6 segments _ _ _ => segments = #v[0, 0, 0, 0, 0, 0, 0, 1]

/-! ## 2. Credential-like terms -/

def credentialLikeTerms : List String :=
  ["cookie", "token", "password", "secret", "session", "authorization", "credential"]

/-- `value.contains(needle)`. -/
def containsText (value needle : String) : Bool := needle.toList <:+: value.toList

def containsCredentialLikeTerm (value : String) : Bool :=
  credentialLikeTerms.any fun needle => containsText (toAsciiLowercase value) needle

/-- **The terms are found in every ASCII case.** -/
theorem containsCredentialLikeTerm_iff {value : String} :
    containsCredentialLikeTerm value = true ↔
      ∃ spelling : String, toAsciiLowercase spelling ∈ credentialLikeTerms ∧
        containsText value spelling = true := by
  unfold containsCredentialLikeTerm containsText
  simp only [List.any_eq_true, decide_eq_true_eq]
  constructor
  · intro h
    obtain ⟨needle, hterm, before, after, happend⟩ := h
    -- The spelling that stands at the place where the term was found.
    have hsplit : value.toList.map asciiLower = before ++ needle.toList ++ after := by
      rw [happend, toAsciiLowercase, String.toList_ofList]
    rw [List.append_assoc] at hsplit
    obtain ⟨b, rest, hvalue, -, hrest⟩ := List.map_eq_append_iff.mp hsplit
    obtain ⟨spelling, a, hsplit', hspelling, -⟩ := List.map_eq_append_iff.mp hrest
    refine ⟨String.ofList spelling, ?_, b, a, ?_⟩
    · rw [toAsciiLowercase, String.toList_ofList, hspelling, String.ofList_toList]
      exact hterm
    · rw [String.toList_ofList, hvalue, hsplit', List.append_assoc]
  · intro h
    obtain ⟨spelling, hterm, before, after, happend⟩ := h
    refine ⟨toAsciiLowercase spelling, hterm, before.map asciiLower, after.map asciiLower, ?_⟩
    simp only [toAsciiLowercase, String.toList_ofList, ← happend, List.map_append]

/-! ## 3. Declarations -/

/-- How a runner is to be reached. -/
inductive RunnerTransport where
  | unixSocket (path : PathBuf)
  | namedPipe (name : String)
  | tcp (address : SocketAddr)
deriving DecidableEq

/-- A declared local runner of one platform. -/
structure ProviderRunner where
  platform : Platform
  transport : RunnerTransport
deriving DecidableEq

inductive ProviderRunnerConfigError where
  | duplicatePlatform (platform : Platform)
  | unixSocketPathMustBeAbsolute
  | namedPipeMustBeLocal
  | tcpMustBeLoopback
  | credentialLikeEndpoint
  | invalidArgument
deriving DecidableEq, Repr

/-- `path.is_absolute()`. -/
def PathBuf.isAbsolute : PathBuf → Bool
  | .utf8 text => text.toList.head? = some '/'
  | .other first _ => first = 0x2f

/-- `path.to_string_lossy()`, as far as its ASCII characters go: every other byte of a path that
    is no text becomes a replacement character. -/
def PathBuf.toStringLossy : PathBuf → String
  | .utf8 text => text
  | .other first rest => String.ofList ((first :: rest).map fun b =>
      if b < 0x80 then Char.ofNat b.toNat else Char.ofNat 0xfffd)

/-- `reject_credential_like_endpoint`. -/
def rejectCredentialLikeEndpoint (value : String) : Except ProviderRunnerConfigError Unit :=
  if containsCredentialLikeTerm value ||
      value.toList.any (fun c => c = '@' || c = '?' || c = '#') then
    .error .credentialLikeEndpoint
  else .ok ()

namespace ProviderRunner

/-- Validates that this is a local, credential-free runner declaration. -/
def validate (runner : ProviderRunner) : Except ProviderRunnerConfigError Unit :=
  match runner.transport with
  | .unixSocket path =>
    if path.isAbsolute then rejectCredentialLikeEndpoint path.toStringLossy
    else .error .unixSocketPathMustBeAbsolute
  | .namedPipe name =>
    if "\\\\.\\pipe\\".toList <+: name.toList then rejectCredentialLikeEndpoint name
    else .error .namedPipeMustBeLocal
  | .tcp address => if address.isLoopback then .ok () else .error .tcpMustBeLoopback

/-- The configured loopback endpoint, if the declaration can use the local HTTP protocol. -/
def loopbackTcpAddress (runner : ProviderRunner) : Option SocketAddr :=
  match runner.transport with
  | .tcp address => if address.isLoopback then some address else none
  | .unixSocket _ | .namedPipe _ => none

/-- **The accessor answers loopback addresses only, however the declaration was made.** -/
theorem loopback_of_address {runner : ProviderRunner} {address : SocketAddr}
    (h : runner.loopbackTcpAddress = some address) : address.isLoopback = true := by
  unfold loopbackTcpAddress at h
  split at h
  · split at h
    · cases h
      assumption
    · cases h
  · cases h
  · cases h

end ProviderRunner

end MatriXpost
