import NodeIdentity.Proofs.Api.Upsert
import NodeIdentity.Proofs.Resource.Chosen

/-!
# Plain object stores

What is assumed of an API server that does nothing but keep objects: it answers a read with the
stored object, or says that there is none; it stores what it is asked to create, and what it is
asked to put in the place of an object, whose status it keeps; and it lists objects in pages, cut in
whatever way.  It may set the namespace, the uid, the generation and the version of an object.
-/

namespace NodeIdentity

open Client

/-- The kinds whose objects a pass writes. -/
def Kind.isChild : Kind → Bool
  | .ipReservation | .dnsRecordSet => true
  | .nodeSet | .netConfig | .dnsService => false

/-- The kinds whose objects a pass lists. -/
def Kind.isSource : Kind → Bool
  | .netConfig | .dnsService => true
  | .nodeSet | .ipReservation | .dnsRecordSet => false

/-- The types of the resources that a pass writes. -/
inductive ResourceType.IsChild : {ρ τ : Type} → ResourceType ρ τ → Prop
  | reservation : IsChild IPReservation.type
  | recordSet : IsChild DNSRecordSet.type

namespace ResourceType.IsChild

variable {ρ τ : Type} {type : ResourceType ρ τ}

theorem lawful (isChild : type.IsChild) : type.Lawful := by
  cases isChild with
  | reservation => exact IPReservation.type_lawful
  | recordSet => exact DNSRecordSet.type_lawful

theorem kind (isChild : type.IsChild) : type.kind.isChild = true := by
  cases isChild <;> rfl

theorem reported (isChild : type.IsChild) : ∃ format, type.status = some format := by
  cases isChild <;> exact ⟨_, rfl⟩

end ResourceType.IsChild

theorem Kind.not_isSource {kind : Kind} (isChild : kind.isChild = true) :
    kind.isSource = false := by
  cases kind <;> first | rfl | cases isChild

/-- An answer that is read as a page of documents, whatever type they are read as. -/
def Client.IsPage (answer : ApiAnswer) (token : Option String) (documents : List Json) : Prop :=
  ∀ {σ τ : Type} (type : ResourceType σ τ) (items : List (Resource σ τ)),
    Format.decodeItems type.format.decode documents = .ok items →
      readAnswer (pageFormat type.format) answer = .ok ⟨token, items⟩

/--
A server lists documents page by page, from the page with a token on, in so many pages.  Its tokens
are none with which no request can be built.
-/
inductive Client.Pages {σ : Type} (serve : ApiRequest → σ → ApiAnswer × σ) (kind : Kind)
    (ns : String) : σ → Option String → List Json → Nat → σ → Prop
  | last {state : σ} {token : Option String} {documents : List Json}
      (sent : (pageRequest kind ns token).fault? = none)
      (page : IsPage (serve (pageRequest kind ns token) state).1 none documents) :
      Pages serve kind ns state token documents 1 (serve (pageRequest kind ns token) state).2
  | more {state after : σ} {token : Option String} {next : String} {documents rest : List Json}
      {count : Nat} (sent : (pageRequest kind ns token).fault? = none)
      (page : IsPage (serve (pageRequest kind ns token) state).1 (some next) documents)
      (others : Pages serve kind ns (serve (pageRequest kind ns token) state).2 (some next) rest
        count after) :
      Pages serve kind ns state token (documents ++ rest) (count + 1) after

/-- A server, and what it has stored of the namespaces that are looked at. -/
structure ServerView (σ : Type) where
  serve : ApiRequest → σ → ApiAnswer × σ
  /-- The document under a name. -/
  find? : σ → Kind → String → Option Json
  /-- The documents of a kind in the order in which they are listed. -/
  listed : σ → Kind → List Json
  /-- Others write the status of an object. -/
  report : Kind → String → Option Json → σ → σ
  /-- The namespaces that are looked at. -/
  places : String → Prop
  /-- The names that objects may have. -/
  names : String → Prop
  /-- The states that the server can be in. -/
  sound : σ → Prop

namespace ServerView

variable {σ : Type}

/-- A step after which everything is stored that was stored before. -/
structure Keeps (view : ServerView σ) (before after : σ) : Prop where
  sound : view.sound after
  objects : ∀ kind name, view.find? after kind name = view.find? before kind name
  lists : ∀ kind, view.listed after kind = view.listed before kind

/-- A step that stores a document of a kind under a name, and changes no other name or kind. -/
structure Stores (view : ServerView σ) (kind : Kind) (name : String) (document : Json)
    (before after : σ) : Prop where
  sound : view.sound after
  stored : view.find? after kind name = some document
  objects : ∀ other named, ¬ (other = kind ∧ named = name) →
    view.find? after other named = view.find? before other named
  lists : ∀ other, other ≠ kind → view.listed after other = view.listed before other

section Steps

variable {view : ServerView σ} {kind : Kind} {name : String} {document : Json}
  {before middle after : σ}

/-- What is stored already counts as stored by a step that keeps everything. -/
theorem Keeps.stores (kept : view.Keeps before after)
    (stored : view.find? before kind name = some document) :
    view.Stores kind name document before after where
  sound := kept.sound
  stored := (kept.objects kind name).trans stored
  objects other named _ := kept.objects other named
  lists other _ := kept.lists other

theorem Stores.after_keeps (stores : view.Stores kind name document middle after)
    (kept : view.Keeps before middle) : view.Stores kind name document before after where
  sound := stores.sound
  stored := stores.stored
  objects other named apart := (stores.objects other named apart).trans (kept.objects other named)
  lists other apart := (stores.lists other apart).trans (kept.lists other)

end Steps

end ServerView

/-- An answer that a document was taken over. -/
def Client.Hands (answer : ApiAnswer) (document : Json) : Prop :=
  ∃ code, isFailure code = false ∧ answer = .response code (.document document)

theorem Client.readAnswer_of_hands {α : Type} {answer : ApiAnswer} {document : Json}
    {format : Format α} {value : α} (hands : Hands answer document)
    (decodes : format.decode document = .ok value) :
    readAnswer format answer = .ok value := by
  obtain ⟨code, hcode, rfl⟩ := hands
  exact readAnswer_document hcode decodes

theorem Client.readAnswer_of_absent {α : Type} {code : Nat} {body : Body}
    (failed : isFailure code = true) (absent : (statusOfFailure code body).reason = absentReason)
    (format : Format α) :
    ∃ cause, readAnswer format (.response code body) = .error cause ∧ saysAbsent cause = true :=
  ⟨.api (statusOfFailure code body), by simp [readAnswer, failed], by simp [saysAbsent, absent]⟩

/-- A plain object store behind an API. -/
structure PlainServer (σ : Type) extends ServerView σ where
  place_plain : ∀ {ns}, places ns → Address.isPlain ns = true
  reachable : ∀ {ns name}, places ns → names name → ∀ kind, Reachable kind ns name
  get_found : ∀ {state kind ns name document}, sound state → places ns → names name →
    find? state kind name = some document →
      Hands (serve (readRequest kind ns name) state).1 document
  get_absent : ∀ {state kind ns name}, sound state → places ns → names name →
    find? state kind name = none →
      ∃ code body, isFailure code = true ∧
        (serve (readRequest kind ns name) state).1 = .response code body ∧
        (statusOfFailure code body).reason = absentReason
  get_keeps : ∀ {state kind ns name}, sound state → places ns → names name →
    toServerView.Keeps state (serve (readRequest kind ns name) state).2
  create : ∀ {ρ τ : Type} {type : ResourceType ρ τ} {state ns name} {resource : Resource ρ τ},
    type.IsChild → sound state → places ns → names name →
    resource.metadata.name = some name → find? state type.kind name = none →
      ∃ document, type.Holds document resource ∧
        Hands (serve (createRequest type ns resource) state).1 document ∧
        toServerView.Stores type.kind name document state
          (serve (createRequest type ns resource) state).2
  /-- The object that is replaced must be the one that the request was made from. -/
  replace : ∀ {ρ τ : Type} {type : ResourceType ρ τ} {state ns name document}
      {current resource : Resource ρ τ},
    type.IsChild → sound state → places ns → names name →
    find? state type.kind name = some document → type.format.decode document = .ok current →
    resource.metadata.resourceVersion = current.metadata.resourceVersion →
      ∃ stored, type.Holds stored { resource with status := current.status } ∧
        Hands (serve (replaceRequest type ns name resource) state).1 stored ∧
        toServerView.Stores type.kind name stored state
          (serve (replaceRequest type ns name resource) state).2
  /-- Pages are counted, and the count is not full before the last one. -/
  list : ∀ {state kind ns}, sound state → places ns → kind.isSource = true →
    ∃ count after, count < pageCountLimit ∧
      Pages serve kind ns state none (listed state kind) count after ∧
      toServerView.Keeps state after
  report_absent : ∀ {state kind name status}, sound state → kind.isChild = true →
    find? state kind name = none → toServerView.Keeps state (report kind name status state)
  report_found : ∀ {ρ τ : Type} {type : ResourceType ρ τ} {format : Format τ} {state name document}
      {current : Resource ρ τ} {status : Option τ},
    type.IsChild → type.status = some format → sound state →
    find? state type.kind name = some document → type.format.decode document = .ok current →
      ∃ stored, type.Holds stored { current with status := status } ∧
        toServerView.Stores type.kind name stored state
          (report type.kind name (status.map format.encode) state)

end NodeIdentity
