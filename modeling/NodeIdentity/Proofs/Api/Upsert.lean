import NodeIdentity.Proofs.Api.Requests
import NodeIdentity.Proofs.Resource.Encoding

/-!
# Upserts over an API server

An upsert is a read and, behind it, one of three ways to go on: create, replace, or leave the object
as it is.
-/

namespace NodeIdentity.Client

variable {σ τ : Type}

/-- The object that an upsert starts from where there is none. -/
def fresh (ns name : String) (blank : σ) : Resource σ τ where
  metadata := { name := some name, ns := some ns }
  spec := blank
  status := none

/-- How an upsert goes on behind its read. -/
def upsertBehind (type : ResourceType σ τ) (ns name : String) (blank : σ)
    (change : Resource σ τ → Resource σ τ) :
    Except Cause (Resource σ τ) → ApiScript (Except Cause UpsertOutcome)
  | .ok current =>
      if type.needsWrite current (change current) then
        (sendNamed type.format name (replaceRequest type ns name (change current))).bind
          (fun reading => .done (reading.map (fun _ => .updated)))
      else .done (.ok .unchanged)
  | .error cause =>
      if saysAbsent cause then
        (send type.format (createRequest type ns (change (fresh ns name blank)))).run.bind
          (fun reading => .done (reading.map (fun _ => .created)))
      else .done (.error cause)

theorem getOptional_run (type : ResourceType σ τ) {ns name : String}
    (accepted : refusal? name (readRequest type.kind ns name) = none) :
    (getOptional type ns name).run =
      .send (readRequest type.kind ns name).outgoing (fun answer =>
        .done
          (match readAnswer type.format answer with
          | .ok resource => .ok (some resource)
          | .error cause => if saysAbsent cause then .ok none else .error cause)) := by
  show (get type ns name).run.bind _ = _
  rw [get_run, sendNamed, accepted]
  rfl

/-- A write whose answer matters only for whether it failed. -/
theorem writeThen_run {α : Type} {action : ApiAction α} (outcome : UpsertOutcome) :
    (do
      let _ ← action
      pure outcome : ApiAction UpsertOutcome).run =
      action.run.bind (fun reading => .done (reading.map (fun _ => outcome))) := by
  show action.run.bind _ = _
  refine congrArg action.run.bind (funext (fun reading => ?_))
  cases reading <;> rfl

theorem saysAbsent_of_fault {request : ApiRequest} {cause : Cause}
    (fault : request.fault? = some cause) : saysAbsent cause = false := by
  unfold ApiRequest.fault? at fault
  dsimp only at fault
  split at fault
  · cases fault
    rfl
  · split at fault <;> cases fault
    rfl

/-- Why a request is not sent says nothing about whether there is an object. -/
theorem saysAbsent_of_refused {name : String} {request : ApiRequest} {cause : Cause}
    (refused : refusal? name request = some cause) : saysAbsent cause = false := by
  unfold refusal? at refused
  split at refused
  · cases refused
    rfl
  · exact saysAbsent_of_fault refused

/-- An upsert of an object that cannot be addressed fails before it sends anything. -/
theorem createOrReplace_refused (type : ResourceType σ τ) {ns name : String} (blank : σ)
    (change : Resource σ τ → Resource σ τ) {cause : Cause}
    (refused : refusal? name (readRequest type.kind ns name) = some cause) :
    (createOrReplace type ns name blank change).run = .done (.error cause) := by
  have hcause : saysAbsent cause = false := saysAbsent_of_refused refused
  show ((get type ns name).run.bind _).bind _ = _
  rw [get_run, sendNamed, refused]
  simp only [ApiScript.bind, hcause]
  rfl

/-- An upsert that can be addressed sends its read, and goes on by what it reads. -/
theorem createOrReplace_run (type : ResourceType σ τ) {ns name : String} (blank : σ)
    (change : Resource σ τ → Resource σ τ)
    (accepted : refusal? name (readRequest type.kind ns name) = none) :
    (createOrReplace type ns name blank change).run =
      .send (readRequest type.kind ns name).outgoing (fun answer =>
        upsertBehind type ns name blank change (readAnswer type.format answer)) := by
  show (getOptional type ns name).run.bind _ = _
  rw [getOptional_run type accepted]
  refine congrArg (ApiScript.send _) (funext (fun answer => ?_))
  dsimp only
  generalize readAnswer type.format answer = reading
  cases reading with
  | ok current =>
      dsimp only [ApiScript.bind, ExceptT.bindCont, upsertBehind]
      by_cases needed : type.needsWrite current (change current) = true
      · simp only [needed, if_true]
        rw [← replace_run]
        exact writeThen_run .updated
      · simp only [needed]
        rfl
  | error cause =>
      unfold upsertBehind
      by_cases absent : saysAbsent cause = true
      · simp only [absent, if_true]
        exact writeThen_run .created
      · simp only [absent]
        rfl

end NodeIdentity.Client
