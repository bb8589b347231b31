import NodeIdentity.Format.Record

/-!
# Statuses of requests

What an API server reports of a request that it did not fulfil, how that is read from an answer, and
how it is described in full.  Every part of a status may be missing.
-/

namespace NodeIdentity

/-- Whether a server reports a success or a failure. -/
inductive StatusSummary
  | success
  | failure
deriving DecidableEq, Repr

/-- What a server says of a list: its version, and how it goes on. -/
structure ListMeta where
  /-- The token for the next page. -/
  token : Option String := none
  /-- How many objects are left for further pages. -/
  remaining : Option Int64 := none
  resourceVersion : Option String := none
  selfLink : Option String := none
deriving DecidableEq, Repr, Inhabited

/-- One of the causes of a failure. -/
structure StatusCause where
  reason : String
  message : String
  field : String
deriving DecidableEq, Repr

/-- What a failure is about. -/
structure StatusDetails where
  name : String
  group : String
  kind : String
  uid : String
  causes : List StatusCause
  /-- How long to wait before the request is made again. -/
  retrySeconds : Nat
deriving DecidableEq, Repr

/-- What an API server reports of a request it did not fulfil. -/
structure ApiStatus where
  summary : Option StatusSummary := none
  code : Nat := 0
  message : String := ""
  metadata : Option ListMeta := none
  reason : String := ""
  details : Option StatusDetails := none
deriving DecidableEq, Repr

/-! ## Reading -/

/-- Natural numbers below a bound. -/
def Format.natural (bound : Nat) : Format Nat :=
  let decode : Json → Except Mismatch Nat
    | .int value =>
        if 0 ≤ value ∧ value < bound then .ok value.toNat else .error (.outOfRange value .w32)
    | found => .error (.wrongKind found (.integer .w32))
  { schema := .integer .w32 {}
    encode := fun value => .int value
    decode := decode
    scan := .scalar decode }

/-- The summary as it is written. -/
def StatusSummary.name : StatusSummary → String
  | .success => "Success"
  | .failure => "Failure"

/-- How summaries are written and read. -/
def StatusSummary.format : Format StatusSummary :=
  let decode : Json → Except Mismatch StatusSummary
    | .str "Success" => .ok .success
    | .str "Failure" => .ok .failure
    | found => .error (.wrongKind found .text)
  { schema := .text {}
    encode := fun summary => .str summary.name
    decode := decode
    scan := .choice decode }

/-- How the metadata of lists is written and read. -/
def ListMeta.format : Format ListMeta :=
  .plainRecord "ListMeta" ((Fields.start ListMeta.mk)
    |>.and (.optional "continue" none .text ListMeta.token true)
    |>.and (.optional "remainingItemCount" none .int64 ListMeta.remaining true)
    |>.and (.optional "resourceVersion" none .text ListMeta.resourceVersion true)
    |>.and (.optional "selfLink" none .text ListMeta.selfLink true))

/-- How causes are written and read. -/
def StatusCause.format : Format StatusCause :=
  .record "StatusCause" ((Fields.start StatusCause.mk)
    |>.and (.defaulted "reason" none .text "" StatusCause.reason)
    |>.and (.defaulted "message" none .text "" StatusCause.message)
    |>.and (.defaulted "field" none .text "" StatusCause.field))

/-- How details are written and read. -/
def StatusDetails.format : Format StatusDetails :=
  .record "StatusDetails" ((Fields.start StatusDetails.mk)
    |>.and (.defaulted "name" none .text "" StatusDetails.name)
    |>.and (.defaulted "group" none .text "" StatusDetails.group)
    |>.and (.defaulted "kind" none .text "" StatusDetails.kind)
    |>.and (.defaulted "uid" none .text "" StatusDetails.uid)
    |>.and (.defaulted "causes" none (.list StatusCause.format) [] StatusDetails.causes)
    |>.and (.defaulted "retryAfterSeconds" none (.natural (Nat.pow 2 32)) 0
      StatusDetails.retrySeconds))

/-- How statuses are written and read. -/
def ApiStatus.format : Format ApiStatus :=
  .record "Status" ((Fields.start ApiStatus.mk)
    |>.and (.optional "status" none StatusSummary.format ApiStatus.summary true)
    |>.and (.defaulted "code" none (.natural (Nat.pow 2 16)) 0 ApiStatus.code)
    |>.and (.defaulted "message" none .text "" ApiStatus.message)
    |>.and (.optional "metadata" none ListMeta.format ApiStatus.metadata true)
    |>.and (.defaulted "reason" none .text "" ApiStatus.reason)
    |>.and (.optional "details" none StatusDetails.format ApiStatus.details true))

/-! ## Description -/

namespace Description

/-- A record with all its fields in words. -/
def record (name : String) (fields : List (String × String)) : String :=
  name ++ " \x7b " ++ ", ".intercalate (fields.map (fun field => field.1 ++ ": " ++ field.2)) ++
    " \x7d"

/-- A part that may be missing in words. -/
def part {α : Type} (describe : α → String) : Option α → String
  | none => "None"
  | some value => "Some(" ++ describe value ++ ")"

/-- A list in words. -/
def list {α : Type} (describe : α → String) (values : List α) : String :=
  "[" ++ ", ".intercalate (values.map describe) ++ "]"

end Description

/-- The metadata of a list with all its parts in words. -/
def ListMeta.describe (metadata : ListMeta) : String :=
  Description.record "ListMeta"
    [("continue_", Description.part Text.quoted metadata.token),
      ("remaining_item_count", Description.part (fun n => toString n.toInt) metadata.remaining),
      ("resource_version", Description.part Text.quoted metadata.resourceVersion),
      ("self_link", Description.part Text.quoted metadata.selfLink)]

/-- A cause with all its parts in words. -/
def StatusCause.describe (cause : StatusCause) : String :=
  Description.record "StatusCause"
    [("reason", Text.quoted cause.reason), ("message", Text.quoted cause.message),
      ("field", Text.quoted cause.field)]

/-- Details with all their parts in words. -/
def StatusDetails.describe (details : StatusDetails) : String :=
  Description.record "StatusDetails"
    [("name", Text.quoted details.name), ("group", Text.quoted details.group),
      ("kind", Text.quoted details.kind), ("uid", Text.quoted details.uid),
      ("causes", Description.list StatusCause.describe details.causes),
      ("retry_after_seconds", toString details.retrySeconds)]

/-- A status with all its parts in words. -/
def ApiStatus.describe (status : ApiStatus) : String :=
  Description.record "Status"
    [("status", Description.part StatusSummary.name status.summary),
      ("code", toString status.code), ("message", Text.quoted status.message),
      ("metadata", Description.part ListMeta.describe status.metadata),
      ("reason", Text.quoted status.reason),
      ("details", Description.part StatusDetails.describe status.details)]

end NodeIdentity
