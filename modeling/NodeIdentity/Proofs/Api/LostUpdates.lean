import NodeIdentity.Proofs.Api.Race
import NodeIdentity.Proofs.Api.ServerVersions
import NodeIdentity.Proofs.Api.Upsert
import NodeIdentity.Api.Repository

/-!
# No lost updates

An upsert reads an object, and writes what it makes of it only as long as nobody else has written
the object meanwhile.  So what others have written in a race is never undone: an upsert that reports
that it created or updated an object stored what it makes of the version that was stored just
before, and one that was overtaken stores nothing, and fails in a way that lets it be made again.
-/

namespace NodeIdentity

open Client

/-- The name of the object that a write of an upsert is about: what is created carries its name, and
what is replaced is spelled by an address. -/
def writtenName (name : String) (write : ApiRequest) : String :=
  if write.method = .post then name else Address.spelled name

/-- Where no mark in a name ends an address, every write of the upsert is about the name. -/
theorem writtenName_of_unmarked {name : String} (unmarked : Address.Unmarked name.toList)
    (write : ApiRequest) : writtenName name write = name := by
  rw [writtenName, Address.spelled_of_unmarked unmarked, ite_self]

section Courses

variable {σ ρ τ : Type}

/-- A read, and a write behind it by some method. -/
structure ReadThenWrite (method : Method) (read write : Served σ) : Prop where
  reads : read.request.method = .get
  writes : write.request.method = method
  writing : method ≠ .get

theorem ReadThenWrite.writtenName_post {read write : Served σ}
    (order : ReadThenWrite .post read write) (name : String) :
    writtenName name write.request = name :=
  if_pos order.writes

theorem ReadThenWrite.writtenName_put {read write : Served σ}
    (order : ReadThenWrite .put read write) (name : String) :
    writtenName name write.request = Address.spelled name := by
  rw [writtenName, order.writes]
  rfl

/-- The ways in which an upsert of a child can go in a race. -/
inductive UpsertCourse (server : VersionedServer σ) (type : ResourceType ρ τ) (ns name : String)
    (blank spec : ρ) (child : ChildMeta) :
    List (Served σ) → Except Cause UpsertOutcome → Prop
  | unsent {cause : Cause} : UpsertCourse server type ns name blank spec child [] (.error cause)
  | unwritten {read : Served σ} {cause : Cause} (reads : read.request.method = .get) :
      UpsertCourse server type ns name blank spec child [read] (.error cause)
  | unchanged {read : Served σ} {document : Json} {current : Resource ρ τ}
      (reads : read.request.method = .get) (idle : server.Idle read.before read.after)
      (found : server.find? read.before ⟨type.kind.name, ns, Address.spelled name⟩ = some document)
      (decodes : type.format.decode document = .ok current)
      (settled : child.applyToResource spec current = current) :
      UpsertCourse server type ns name blank spec child [read] (.ok .unchanged)
  | created {read write : Served σ} (order : ReadThenWrite .post read write)
      (idle : server.Idle read.before read.after)
      (same : server.find? write.before ⟨type.kind.name, ns, name⟩ =
        server.find? read.before ⟨type.kind.name, ns, name⟩)
      (absent : server.find? write.before ⟨type.kind.name, ns, name⟩ = none)
      (stores : server.Writes type ⟨type.kind.name, ns, name⟩
        (child.applyToResource spec (fresh ns name blank)) write.before write.after) :
      UpsertCourse server type ns name blank spec child [read, write] (.ok .created)
  | updated {read write : Served σ} {document : Json} {current : Resource ρ τ}
      (order : ReadThenWrite .put read write) (idle : server.Idle read.before read.after)
      (same : server.find? write.before ⟨type.kind.name, ns, Address.spelled name⟩ =
        server.find? read.before ⟨type.kind.name, ns, Address.spelled name⟩)
      (found : server.find? write.before ⟨type.kind.name, ns, Address.spelled name⟩ = some document)
      (decodes : type.format.decode document = .ok current)
      (stores : server.Writes type ⟨type.kind.name, ns, Address.spelled name⟩
        (child.applyToResource spec current) write.before write.after) :
      UpsertCourse server type ns name blank spec child [read, write] (.ok .updated)
  | overtaken {read write : Served σ} {method : Method} {cause : Cause}
      (order : ReadThenWrite method read write) (readIdle : server.Idle read.before read.after)
      (idle : server.Idle write.before write.after) (conflict : cause.isConflict = true) :
      UpsertCourse server type ns name blank spec child [read, write] (.error cause)
  | failed {read write : Served σ} {method : Method} {cause : Cause}
      (order : ReadThenWrite method read write)
      (same : server.find? write.before ⟨type.kind.name, ns, writtenName name write.request⟩ =
        server.find? read.before ⟨type.kind.name, ns, writtenName name write.request⟩) :
      UpsertCourse server type ns name blank spec child [read, write] (.error cause)

variable {server : VersionedServer σ} {type : ResourceType ρ τ} {ns name : String}
  {blank spec : ρ} {child : ChildMeta} {own : List (Served σ)} {state : σ}

/-- The write behind an object that was found. -/
theorem UpsertCourse.replaced (isChild : type.IsChild) {read : Served σ}
    (reads : read.request.method = .get) {document : Json} {current : Resource ρ τ} {before : σ}
    (reaches : server.reaches type.kind ns (Address.spelled name)) (sound : server.sound read.after)
    (idle : server.Idle read.before read.after)
    (found : server.find? read.before ⟨type.kind.name, ns, Address.spelled name⟩ = some document)
    (decodes : type.format.decode document = .ok current)
    (others : server.Evolves read.after before) {request : ApiRequest}
    (replaces : IsReplaceOf request type ns (Address.spelled name)
      (child.applyToResource spec current)) :
    UpsertCourse server type ns name blank spec child
      [read, ⟨request, before, (server.serve request before).2⟩]
      ((readAnswer type.format (server.serve request before).1).map (fun _ => .updated)) := by
  have order : ReadThenWrite .put read ⟨request, before, (server.serve request before).2⟩ :=
    ⟨reads, replaces.method, by decide⟩
  have hafter := (idle ⟨type.kind.name, ns, Address.spelled name⟩).trans found
  obtain ⟨version, hversion, hissued, hcurrent⟩ := server.version_read sound hafter decodes
  rcases others.objects _ document hafter with hsame | ⟨renewed, later, hfound, hlater, hnew⟩
  · -- Nobody has written the object since the read.
    cases hreading : readAnswer type.format (server.serve request before).1 with
    | error cause =>
        refine .failed order ?_
        rw [order.writtenName_put]
        exact hsame.trans found.symm
    | ok stored =>
        exact .updated order idle (hsame.trans found.symm) hsame decodes
          (server.replace_stored isChild others.sound replaces reaches hsame decodes hreading)
  · -- The version that was read is none that the object has had since.
    have hother : Server.versionOf renewed ≠ some (.str version) := by
      rw [hlater]
      rintro ⟨⟩
      exact hnew hissued
    have hwanted : (child.applyToResource spec current).metadata.resourceVersion = some version :=
      hcurrent
    obtain ⟨late, hidle⟩ :=
      server.replace_late isChild others.sound replaces reaches hfound hwanted hother
    obtain ⟨cause, hcause, conflict⟩ := late.readAnswer type.format
    rw [hcause]
    exact .overtaken order idle hidle conflict

/-- The write where no object was found. -/
theorem UpsertCourse.added (isChild : type.IsChild) {read : Served σ}
    (reads : read.request.method = .get) {other : String} {before : σ}
    (reaches : server.reaches type.kind ns other) (idle : server.Idle read.before read.after)
    (others : server.Evolves read.after before) {request : ApiRequest}
    (creates : IsCreateOf request type ns (child.applyToResource spec (fresh ns name blank))) :
    UpsertCourse server type ns name blank spec child
      [read, ⟨request, before, (server.serve request before).2⟩]
      ((readAnswer type.format (server.serve request before).1).map (fun _ => .created)) := by
  have order : ReadThenWrite .post read ⟨request, before, (server.serve request before).2⟩ :=
    ⟨reads, creates.method, by decide⟩
  have hname : (child.applyToResource spec
      (fresh ns name blank : Resource ρ τ)).metadata.name = some name := rfl
  cases hnow : server.find? before ⟨type.kind.name, ns, name⟩ with
  | some document =>
      -- Somebody has created the object.
      obtain ⟨late, hidle⟩ := server.create_late isChild others.sound creates reaches hname hnow
      obtain ⟨cause, hcause, conflict⟩ := late.readAnswer type.format
      rw [hcause]
      exact .overtaken order idle hidle conflict
  | none =>
      have hread : server.find? read.before ⟨type.kind.name, ns, name⟩ = none :=
        (idle _).symm.trans (others.absent hnow)
      cases hreading : readAnswer type.format (server.serve request before).1 with
      | error cause =>
          refine .failed order ?_
          rw [order.writtenName_post]
          exact hnow.trans hread.symm
      | ok stored =>
          exact .created order idle (hnow.trans hread.symm) hnow
            (server.create_stored isChild others.sound creates reaches hname hnow hreading)

namespace UpsertCourse

variable {answer : Except Cause UpsertOutcome}

end UpsertCourse

end Courses

/-! ## Races of upserts -/

/-- An upsert of a reservation or of a record set. -/
inductive Upsert
  | reservation (ns name : String) (spec : IPReservationSpec) (child : ChildMeta)
  | recordSet (ns name : String) (spec : DNSRecordSetSpec) (child : ChildMeta)

section Children

variable {ρ τ σ : Type} {type : ResourceType ρ τ} {ns name : String} {blank spec : ρ}
  {child : ChildMeta}

end Children

namespace Upsert

def script : Upsert → ApiScript (Except NetworkError UpsertOutcome × List Measurement)
  | reservation ns name spec child =>
      (StoreAction.perform (.upsertReservation ns name spec child)).run.overApi
  | recordSet ns name spec child =>
      (StoreAction.perform (.upsertRecordSet ns name spec child)).run.overApi

/-- The namespace of the object. -/
def place : Upsert → String
  | reservation ns .. | recordSet ns .. => ns

end Upsert

end NodeIdentity
