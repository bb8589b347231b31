import NodeIdentity.Api.Status

/-!
# Failures

Failures of the calls that a reconciliation makes: which call, on which object, and the cause below
it.  The cause decides whether the call is worth repeating soon.
-/

namespace NodeIdentity

/-- The cause of a failed call. -/
inductive Cause
  /-- A failure outside of the exchange with the API server. -/
  | other (words : String)
  /-- The server answered with a failure. -/
  | api (status : ApiStatus)
  /-- The server could not be reached. -/
  | service (words : String)
  /-- The request was refused before it was sent. -/
  | invalidRequest (words : String)
  /-- The address of the request has a character that none may have. -/
  | invalidAddress
  /-- The address of the request has more bytes than one may have. -/
  | addressTooLong
  | unreadable (detail : Unreadable)
  | readEvents (words : String)
  | tlsRequired
  | lineTooLong
  /-- A list has more pages than can be counted, so it is not known what it comes to. -/
  | uncountablePages
deriving DecidableEq, Repr

namespace Cause

/-- The cause in words. -/
def message : Cause → String
  | .other words => words
  | .api status =>
      "ApiError: " ++ status.message ++ ": " ++ status.reason ++ " (" ++ status.describe ++ ")"
  | .service words => "ServiceError: " ++ words
  | .invalidRequest words => "Failed to build request: failed to validate request: " ++ words
  | .invalidAddress =>
      "Failed to build request: failed to build request: invalid uri character"
  | .addressTooLong => "Failed to build request: failed to build request: uri too long"
  | .unreadable detail => "Error deserializing response: " ++ detail.message
  | .readEvents words => "Error reading events stream: " ++ words
  | .tlsRequired => "TLS required but no TLS stack selected"
  | .lineTooLong => "Error finding newline character"
  | .uncountablePages => "attempt to add with overflow"

/-- Whether the cause arose in the exchange with the API server. -/
def isExchange : Cause → Bool
  | .other _ | .uncountablePages => false
  | _ => true

/-- Whether the server refused a write because the object had changed, or existed. -/
def isConflict : Cause → Bool
  | .api status => status.code = 409
  | _ => false

/-- Whether the call may well succeed when it is made again soon. -/
def isRetryable : Cause → Bool
  | .api status =>
      status.code = 409 || status.code = 429 || (500 ≤ status.code && status.code < 600)
  | .service _ | .other _ => true
  | _ => false

theorem isRetryable_of_isConflict {cause : Cause} (h : cause.isConflict = true) :
    cause.isRetryable = true := by
  cases cause <;> simp_all [isConflict, isRetryable]

end Cause

/-- A failed call: what it was to do, on which object, and the cause. -/
inductive NetworkError
  | list (kind ns : String) (cause : Cause)
  | get (kind ns name : String) (cause : Cause)
  | persist (kind ns name : String) (cause : Cause)
  | statusUpdate (kind ns name : String) (cause : Cause)
deriving DecidableEq, Repr

namespace NetworkError

/-- The category under which a failed call is counted. -/
def category : NetworkError → String
  | .list .. => "list_error"
  | .get .. => "get_error"
  | .persist .. => "persist_error"
  | .statusUpdate .. => "status_error"

/-- The kind of the object of a failed call. -/
def kind : NetworkError → String
  | .list kind .. | .get kind .. | .persist kind .. | .statusUpdate kind .. => kind

/-- The cause of a failed call. -/
def cause : NetworkError → Cause
  | .list _ _ cause | .get _ _ _ cause | .persist _ _ _ cause | .statusUpdate _ _ _ cause => cause

/-- A failed call in words. -/
def message : NetworkError → String
  | .list kind ns cause =>
      "failed to list " ++ kind ++ " in namespace " ++ ns ++ ": " ++ cause.message
  | .get kind ns name cause =>
      "failed to get " ++ kind ++ " " ++ ns ++ "/" ++ name ++ ": " ++ cause.message
  | .persist kind ns name cause =>
      "failed to create or patch " ++ kind ++ " " ++ ns ++ "/" ++ name ++ ": " ++ cause.message
  | .statusUpdate kind ns name cause =>
      "failed to update status of " ++ kind ++ " " ++ ns ++ "/" ++ name ++ ": " ++ cause.message

/-- Whether the call failed because the object had changed, or existed. -/
def isConflict (e : NetworkError) : Bool :=
  e.cause.isConflict

/-- Whether the call may well succeed when it is made again soon. -/
def isRetryable (e : NetworkError) : Bool :=
  e.cause.isRetryable

/-- Seconds until a failed reconciliation is tried again: soon, if that may well succeed. -/
def requeueSeconds (e : NetworkError) : Nat :=
  if e.isRetryable then 30 else 120

end NetworkError

end NodeIdentity
