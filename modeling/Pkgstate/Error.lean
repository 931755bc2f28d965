import Pkgstate.Base.Keyed

/-!
# Typed failures

The exception classes of `error.h`, `digest.h` and `publication_codec.h`. Every
class but `state_publication_codec_error` derives from `pkgstate::error`, which
is what the decoders' `catch (const error&)` clauses translate.
-/

namespace Pkgstate

open Wire

/-- `digest_error_code`. -/
inductive DigestErrorCode
  | invalidFormat
  | unsupportedVersion
  | unsupportedAlgorithm
  | invalidLength
  | invalidHex
deriving DecidableEq

/-- `state_publication_codec_error_code`. -/
inductive StatePublicationCodecErrorCode
  | limitExceeded
  | invalidMagic
  | unsupportedVersion
  | truncated
  | trailingData
  | checksumMismatch
  | invalidValue
  | expectedSnapshotMismatch
  | requestMismatch
  | actualPriorMismatch
  | identityMismatch
deriving DecidableEq

/-- A thrown exception with the message it was constructed from. `outOfRange` is
an access past the end of a container, which the source leaves undefined. -/
inductive Failure
  | identityError (message : Bytes)
  | digestError (code : DigestErrorCode) (message : Bytes)
  | pathError (message : Bytes)
  | stateError (message : Bytes)
  | storeError (message : Bytes)
  | statePublicationCodecError (code : StatePublicationCodecErrorCode) (message : Bytes)
  | outOfRange
deriving DecidableEq

/-- A text as its C string shows it: the bytes in front of the first NUL. -/
def cString (text : Bytes) : Bytes :=
  text.takeWhile (· ≠ 0)

/-- The text that `what()` of an exception derived from `pkgstate::error` points
at; `none` for the others, which a `catch (const error&)` clause lets through. -/
def Failure.what? : Failure → Option Bytes
  | .identityError message => some (cString message)
  | .digestError _ message => some (cString message)
  | .pathError message => some (cString message)
  | .stateError message => some (cString message)
  | .storeError message => some (cString message)
  | .statePublicationCodecError _ _ => none
  | .outOfRange => none

/-- The checks shared by the texts that must stay on one line: not empty, and
neither NUL nor a line separator in them. -/
def requireLineSafe (text : Bytes) (whenEmpty whenBroken : String) : Except Failure Unit :=
  if text = [] then .error (.stateError (ascii whenEmpty))
  else if text.any fun byte => byte == 0 || byte == 10 || byte == 13 then
    .error (.stateError (ascii whenBroken))
  else .ok ()

/-- Neither empty nor broken by NUL, LF or CR. -/
def LineSafe (text : Bytes) : Prop :=
  text ≠ [] ∧ ∀ byte ∈ text, byte ≠ 0 ∧ byte ≠ 10 ∧ byte ≠ 13

theorem requireLineSafe_iff {text : Bytes} {whenEmpty whenBroken : String} :
    requireLineSafe text whenEmpty whenBroken = .ok () ↔ LineSafe text := by
  by_cases empty : text = []
  · simp [requireLineSafe, LineSafe, empty]
  · simp [requireLineSafe, LineSafe, empty, and_assoc]

end Pkgstate
