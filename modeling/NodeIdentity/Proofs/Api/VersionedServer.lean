import NodeIdentity.Proofs.Api.PlainServer
import NodeIdentity.Proofs.Resource.Documents

/-!
# Versioned object stores

What is assumed of an API server at which many write: every object has a version, which each write
of it changes to one that it never had; nothing is deleted; and a write that was made from anything
but what is stored is refused, and stores nothing.  Reads may fail.
-/

namespace NodeIdentity

namespace Client

/-- An answer that the object is not what the request was made from. -/
def TooLate (answer : ApiAnswer) : Prop :=
  ∃ code body, answer = .response code body ∧ isFailure code = true ∧
    (statusOfFailure code body).code = 409

theorem TooLate.readAnswer {answer : ApiAnswer} (late : TooLate answer) {α : Type}
    (format : Format α) :
    ∃ cause, readAnswer format answer = .error cause ∧ cause.isConflict = true := by
  obtain ⟨code, body, rfl, failed, conflict⟩ := late
  refine ⟨.api (statusOfFailure code body), by simp [Client.readAnswer, failed], ?_⟩
  simp [Cause.isConflict, conflict]

/-- The requests that an upsert of a child may send. -/
inductive OfUpsert (request : ApiRequest) : Prop
  | read {kind : Kind} {ns name : String} (reads : IsReadOf request kind ns name)
  | create {ρ τ : Type} {type : ResourceType ρ τ} {ns : String} {resource : Resource ρ τ}
      (isChild : type.IsChild) (creates : IsCreateOf request type ns resource)
  | replace {ρ τ : Type} {type : ResourceType ρ τ} {ns name : String} {resource : Resource ρ τ}
      (isChild : type.IsChild) (replaces : IsReplaceOf request type ns name resource)

end Client

open Client

/-- A server, what it has stored, and which versions its objects have had. -/
structure VersionView (σ : Type) where
  serve : ApiRequest → σ → ApiAnswer × σ
  find? : σ → ObjectKey → Option Json
  /-- The versions that the object under a key has had so far. -/
  issued : σ → ObjectKey → String → Prop
  /-- The states that the server can be in. -/
  sound : σ → Prop

namespace VersionView

variable {σ : Type} {view : VersionView σ} {before middle after : σ}

/-- Steps that delete nothing, and change the version of every object that they write. -/
structure Evolves (view : VersionView σ) (before after : σ) : Prop where
  sound : view.sound after
  issued : ∀ key version, view.issued before key version → view.issued after key version
  objects : ∀ key document, view.find? before key = some document →
    view.find? after key = some document ∨
      ∃ renewed version, view.find? after key = some renewed ∧
        Server.versionOf renewed = some (.str version) ∧ ¬ view.issued before key version

/-- A step that stores nothing. -/
def Idle (view : VersionView σ) (before after : σ) : Prop :=
  ∀ key, view.find? after key = view.find? before key

/-- A step that stores a resource under a key, but for what servers set, and nothing else. -/
def Writes {ρ τ : Type} (view : VersionView σ) (type : ResourceType ρ τ) (key : ObjectKey)
    (resource : Resource ρ τ) (before after : σ) : Prop :=
  (∃ stored, view.find? after key = some stored ∧ type.Holds stored resource) ∧
    ∀ other, other ≠ key → view.find? after other = view.find? before other

theorem Evolves.refl (sound : view.sound before) : view.Evolves before before :=
  ⟨sound, fun _ _ h => h, fun _ _ found => Or.inl found⟩

theorem Evolves.trans (first : view.Evolves before middle) (second : view.Evolves middle after) :
    view.Evolves before after where
  sound := second.sound
  issued key version h := second.issued key version (first.issued key version h)
  objects key document found := by
    rcases first.objects key document found with hsame | ⟨renewed, version, hfound, hversion, hnew⟩
    · rcases second.objects key document hsame with hsame | ⟨renewed, version, h, hversion, hnew⟩
      · exact Or.inl hsame
      · exact Or.inr ⟨renewed, version, h, hversion,
          fun old => hnew (first.issued key version old)⟩
    · rcases second.objects key renewed hfound with hsame | ⟨again, later, h, hlater, hnewer⟩
      · exact Or.inr ⟨renewed, version, hsame, hversion, hnew⟩
      · exact Or.inr ⟨again, later, h, hlater, fun old => hnewer (first.issued key later old)⟩

/-- Nothing is deleted, so what is absent has been absent before. -/
theorem Evolves.absent (evolves : view.Evolves before after) {key : ObjectKey}
    (absent : view.find? after key = none) : view.find? before key = none := by
  cases found : view.find? before key with
  | none => rfl
  | some document =>
      rcases evolves.objects key document found with hsame | ⟨renewed, version, hfound, -⟩
      · rw [absent] at hsame
        cases hsame
      · rw [absent] at hfound
        cases hfound

end VersionView

/-- A versioned object store behind an API. -/
structure VersionedServer (σ : Type) extends VersionView σ where
  /-- Whether the address of an object leads to it. -/
  reaches : Kind → String → String → Prop
  versioned : ∀ {state key document}, sound state → find? state key = some document →
    ∃ version, Server.versionOf document = some (.str version) ∧ issued state key version
  evolves : ∀ {state request}, sound state → OfUpsert request →
    toVersionView.Evolves state (serve request state).2
  /-- An address that does not lead to an object is answered neither with one nor as if there were
  none. -/
  read_found : ∀ {ρ τ : Type} {type : ResourceType ρ τ} {state request ns name}
      {resource : Resource ρ τ},
    type.IsChild → sound state → IsReadOf request type.kind ns name →
    readAnswer type.format (serve request state).1 = .ok resource →
      reaches type.kind ns name ∧ ∃ document,
        find? state ⟨type.kind.name, ns, name⟩ = some document ∧
          type.format.decode document = .ok resource
  read_absent : ∀ {ρ τ : Type} {type : ResourceType ρ τ} {state request ns name cause},
    type.IsChild → sound state → IsReadOf request type.kind ns name →
    readAnswer type.format (serve request state).1 = .error cause → saysAbsent cause = true →
      reaches type.kind ns name ∧ find? state ⟨type.kind.name, ns, name⟩ = none
  read_idle : ∀ {state request kind ns name}, sound state → IsReadOf request kind ns name →
    toVersionView.Idle state (serve request state).2
  /-- Where an address leads to an object of a collection, that of the collection leads there. -/
  create_late : ∀ {ρ τ : Type} {type : ResourceType ρ τ} {state request ns other name document}
      {resource : Resource ρ τ},
    type.IsChild → sound state → IsCreateOf request type ns resource →
    reaches type.kind ns other → resource.metadata.name = some name →
    find? state ⟨type.kind.name, ns, name⟩ = some document →
      TooLate (serve request state).1 ∧ toVersionView.Idle state (serve request state).2
  create_stored : ∀ {ρ τ : Type} {type : ResourceType ρ τ} {state request ns other name}
      {resource read : Resource ρ τ},
    type.IsChild → sound state → IsCreateOf request type ns resource →
    reaches type.kind ns other → resource.metadata.name = some name →
    find? state ⟨type.kind.name, ns, name⟩ = none →
    readAnswer type.format (serve request state).1 = .ok read →
      toVersionView.Writes type ⟨type.kind.name, ns, name⟩ resource state (serve request state).2
  replace_late : ∀ {ρ τ : Type} {type : ResourceType ρ τ}
      {state request ns name document version} {resource : Resource ρ τ},
    type.IsChild → sound state → IsReplaceOf request type ns name resource →
    reaches type.kind ns name → find? state ⟨type.kind.name, ns, name⟩ = some document →
    resource.metadata.resourceVersion = some version →
    Server.versionOf document ≠ some (.str version) →
      TooLate (serve request state).1 ∧ toVersionView.Idle state (serve request state).2
  replace_stored : ∀ {ρ τ : Type} {type : ResourceType ρ τ} {state request ns name document}
      {current resource read : Resource ρ τ},
    type.IsChild → sound state → IsReplaceOf request type ns name resource →
    reaches type.kind ns name → find? state ⟨type.kind.name, ns, name⟩ = some document →
    type.format.decode document = .ok current →
    readAnswer type.format (serve request state).1 = .ok read →
      toVersionView.Writes type ⟨type.kind.name, ns, name⟩
        { resource with status := current.status } state (serve request state).2

namespace VersionedServer

variable {σ ρ τ : Type} {server : VersionedServer σ} {state : σ} {key : ObjectKey}
  {document : Json}

/-- What is read of an object carries the version of the object. -/
theorem version_read {type : ResourceType ρ τ} {resource : Resource ρ τ}
    (sound : server.sound state) (found : server.find? state key = some document)
    (decodes : type.format.decode document = .ok resource) :
    ∃ version, Server.versionOf document = some (.str version) ∧
      server.issued state key version ∧ resource.metadata.resourceVersion = some version := by
  obtain ⟨version, hversion, hissued⟩ := server.versioned sound found
  have object := Server.object_of_version hversion
  exact ⟨version, hversion, hissued, (Server.versionOf_iff object decodes version).2 hversion⟩

end VersionedServer

end NodeIdentity
