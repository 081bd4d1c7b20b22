import Mathlib.Data.Nat.Notation

/-! Request tokens and completions (`mocha-ril.h`, `mocha-ril.c`). No request is ever entered into
the table of `ril_request_register`, because `ril_request_get_id` has no caller. So
`ril_request_complete` always passes its arguments on to `OnRequestComplete`. -/
namespace Mocha.Ril

/-- `RIL_Token`, an opaque pointer. -/
abbrev RilToken := ℕ

def rilTokenNull : RilToken := 0x00
def rilTokenDataWaiting : RilToken := 0xff

/-- The token that comes with a request. -/
abbrev RequestToken := { t : RilToken // t ≠ rilTokenNull }

/-- The members of `RIL_Errno` that the modelled handlers use. -/
inductive RilErrno
  | success
  | radioNotAvailable
  | genericFailure
  | passwordIncorrect
  | requestNotSupported
  | opNotAllowedBeforeRegToNw
  | smsSendFailRetry
  | illegalSimOrMe
deriving DecidableEq, Repr

/-- A call of `ril_request_complete`; `none` for a null response. -/
structure Completion (ρ : Type) where
  token : RilToken
  errno : RilErrno
  response : Option ρ
deriving DecidableEq

end Mocha.Ril
