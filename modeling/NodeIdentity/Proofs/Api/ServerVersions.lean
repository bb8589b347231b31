import NodeIdentity.Proofs.Api.ServerAnswers
import NodeIdentity.Proofs.Api.VersionedServer

/-!
# The server as a versioned object store

Each store of an object counts the revision of the server up, and the object carries the revision as
its version.  So a server without faults never gives an object a version twice.
-/

namespace NodeIdentity.Server

open Client

/-! ## Sound states -/

/-- A document that is read as an object of its kind, if that is a kind of children. -/
def Legible (kind : String) (document : Json) : Prop :=
  ∀ {ρ τ : Type} {type : ResourceType ρ τ}, type.IsChild → type.kind.name = kind →
    ∃ resource, type.format.decode document = .ok resource

/-- A server without faults whose objects carry revisions up to its own. -/
structure IsVersioned (server : Server) : Prop where
  faultless : server.faults = []
  versions : ∀ key document, server.objects.find? key = some document →
    ∃ revision ≤ server.revision, versionOf document = some (.str (toString revision))
  legible : ∀ key document, server.objects.find? key = some document → Legible key.kind document

/-- What a server has stored, and which versions it has given. -/
def versionView : VersionView Server where
  serve := serve
  find? server key := server.objects.find? key
  issued server _ version := ∃ revision ≤ server.revision, version = toString revision
  sound := IsVersioned

variable {ρ τ : Type} {type : ResourceType ρ τ} {resource current : Resource ρ τ}
  {server after : Server} {request : ApiRequest} {kind : Kind} {ns name : String} {key : ObjectKey}
  {document : Json}

theorem toString_inj {revision other : Nat} (same : toString revision = toString other) :
    revision = other := by
  have hdigits : Nat.toDigits 10 revision = Nat.toDigits 10 other := by
    rw [← Nat.toList_repr, ← Nat.toList_repr]
    exact congrArg String.toList same
  calc
    revision = Nat.ofDigitChars 10 (Nat.toDigits 10 revision) 0 :=
      (Nat.ofDigitChars_toDigits (by decide) (by decide)).symm
    _ = Nat.ofDigitChars 10 (Nat.toDigits 10 other) 0 := by rw [hdigits]
    _ = other := Nat.ofDigitChars_toDigits (by decide) (by decide)

theorem Legible.stamp {kind : String} (legible : Legible kind document)
    (object : document = .obj document.members) (revision : Nat) :
    Legible kind (stamp document revision) := by
  intro ρ τ type isChild same
  obtain ⟨resource, decodes⟩ := legible isChild same
  exact ⟨_, decode_stamp object decodes revision⟩

/-! ## Steps -/

theorem Rests.idle (rests : Rests server after) : versionView.Idle server after :=
  rests.find?

theorem Rests.evolves (rests : Rests server after) (versioned : server.IsVersioned) :
    versionView.Evolves server after where
  sound := by
    refine ⟨rests.faults.trans versioned.faultless, ?_, ?_⟩
    · rw [rests.objects, rests.revision]
      exact versioned.versions
    · rw [rests.objects]
      exact versioned.legible
  issued := by
    rintro key version ⟨revision, bound, same⟩
    exact ⟨revision, rests.revision ▸ bound, same⟩
  objects key document found := Or.inl ((rests.idle key).trans found)

namespace Stamps

theorem versioned (stamps : Stamps server key document after) (versioned : server.IsVersioned)
    (object : document = .obj document.members) (legible : Legible key.kind document) :
    after.IsVersioned where
  faultless := stamps.faults.trans versioned.faultless
  versions other stored found := by
    rw [stamps.revision]
    rw [stamps.find?] at found
    split at found
    · cases found
      exact ⟨server.revision + 1, Nat.le_refl _, versionOf_stamp ..⟩
    · obtain ⟨revision, bound, same⟩ := versioned.versions other stored found
      exact ⟨revision, by omega, same⟩
  legible other stored found := by
    rw [stamps.find?] at found
    split at found
    · rename_i same
      cases found
      rw [same]
      exact legible.stamp object _
    · exact versioned.legible other stored found

theorem evolves (stamps : Stamps server key document after) (versioned : server.IsVersioned)
    (object : document = .obj document.members) (legible : Legible key.kind document) :
    versionView.Evolves server after where
  sound := stamps.versioned versioned object legible
  issued := by
    rintro other version ⟨revision, bound, same⟩
    have hrevision := stamps.revision
    exact ⟨revision, by omega, same⟩
  objects other stored found := by
    have hfind := stamps.find? other
    split at hfind
    · refine Or.inr ⟨_, _, hfind, versionOf_stamp .., ?_⟩
      -- The revision was counted up, so no object has had it as its version.
      rintro ⟨revision, bound, same⟩
      have hsame := toString_inj same
      omega
    · exact Or.inl (hfind.trans found)

theorem writes (stamps : Stamps server ⟨type.kind.name, ns, name⟩ document after)
    (object : document = .obj document.members)
    (decodes : type.format.decode document = .ok resource) :
    versionView.Writes type ⟨type.kind.name, ns, name⟩ resource server after where
  left := by
    have hfind := stamps.find? ⟨type.kind.name, ns, name⟩
    rw [if_pos rfl] at hfind
    exact ⟨_, hfind, stamp_holds object decodes _⟩
  right other apart := by
    have hfind := stamps.find? other
    rwa [if_neg apart] at hfind

end Stamps

/-! ## Requests -/

theorem failure_tooLate {reason message : String} (reasoned : reason ≠ "") (worded : message ≠ "") :
    TooLate (failure 409 reason message) := by
  obtain ⟨body, hbody, hstatus⟩ := failure_reads (Or.inr rfl) reasoned worded
  exact ⟨409, body, hbody, rfl, by rw [hstatus]⟩

theorem alreadyExists_tooLate (kind : Kind) (name : String) : TooLate (alreadyExists kind name) :=
  failure_tooLate (by decide) (append_ne_empty (by decide))

theorem conflict_tooLate (kind : Kind) (name : String) : TooLate (conflict kind name) :=
  failure_tooLate (by decide) (append_ne_empty (by decide))

theorem create_late (lawful : type.Lawful) (versioned : server.IsVersioned)
    (creates : IsCreateOf request type ns resource) (place : '/' ∉ ns.toList)
    (named : resource.metadata.name = some name)
    (found : server.objects.find? ⟨type.kind.name, ns, name⟩ = some document) :
    TooLate (serve request server).1 ∧ versionView.Idle server (serve request server).2 := by
  have hanswer : server.answer request = _ := answer_create lawful creates place named
  rw [found] at hanswer
  constructor
  · rw [serve_answer versioned.faultless, hanswer]
    exact alreadyExists_tooLate ..
  · refine (serve_rests versioned.faultless ?_).idle
    rw [hanswer]

theorem replace_late (lawful : type.Lawful) (versioned : server.IsVersioned)
    (replaces : IsReplaceOf request type ns name resource) (place : '/' ∉ ns.toList)
    (named : '/' ∉ name.toList) {version : String}
    (found : server.objects.find? ⟨type.kind.name, ns, name⟩ = some document)
    (made : resource.metadata.resourceVersion = some version)
    (other : versionOf document ≠ some (.str version)) :
    TooLate (serve request server).1 ∧ versionView.Idle server (serve request server).2 := by
  have hversion := (versionOf_iff (encode_object type resource)
    (lawful.format_lawful.decode_encode resource) version).1 made
  have hanswer : server.answer request = _ := answer_replace replaces place named
  unfold replace at hanswer
  simp only [found, hversion, Option.isSome_some, true_and, ne_eq, Ne.symm other, not_false_eq_true,
    if_true] at hanswer
  constructor
  · rw [serve_answer versioned.faultless, hanswer]
    exact conflict_tooLate ..
  · refine (serve_rests versioned.faultless ?_).idle
    rw [hanswer]

theorem read_none (versioned : server.IsVersioned) (reads : IsReadOf request kind ns name)
    (place : '/' ∉ ns.toList) (named : '/' ∉ name.toList)
    (absent : server.objects.find? ⟨kind.name, ns, name⟩ = none) {α : Type} (format : Format α) :
    ∃ cause, readAnswer format (serve request server).1 = .error cause ∧
      saysAbsent cause = true := by
  obtain ⟨code, body, failed, hbody, hreason⟩ :=
    serve_absent versioned.faultless reads place named absent
  rw [hbody]
  exact readAnswer_of_absent failed hreason format

theorem cut_unread (versioned : server.IsVersioned) (reads : IsReadOf request kind ns name)
    (cut : '/' ∈ ns.toList ∨ '/' ∈ name.toList) {α : Type} (format : Format α) :
    ∃ cause, readAnswer format (serve request server).1 = .error cause ∧
      saysAbsent cause = false := by
  refine ⟨.api (statusOfFailure 404 (.text "404 page not found")), ?_, by decide⟩
  rw [serve_answer versioned.faultless, answer_read_cut reads cut]
  rfl

theorem reaches_of_read (versioned : server.IsVersioned) (reads : IsReadOf request kind ns name)
    {α : Type} {format : Format α} {reading : Except Cause α}
    (read : readAnswer format (serve request server).1 = reading)
    (told : ∀ cause, reading = .error cause → saysAbsent cause = true) :
    '/' ∉ ns.toList ∧ '/' ∉ name.toList := by
  rw [← not_or]
  intro cut
  obtain ⟨cause, hcause, hsilent⟩ := cut_unread versioned reads cut format
  rw [told cause (read.symm.trans hcause)] at hsilent
  cases hsilent

theorem read_found (isChild : type.IsChild) (versioned : server.IsVersioned)
    (reads : IsReadOf request type.kind ns name)
    (read : readAnswer type.format (serve request server).1 = .ok resource) :
    ('/' ∉ ns.toList ∧ '/' ∉ name.toList) ∧ ∃ document,
      server.objects.find? ⟨type.kind.name, ns, name⟩ = some document ∧
        type.format.decode document = .ok resource := by
  have reaches := reaches_of_read versioned reads read (by rintro _ ⟨⟩)
  refine ⟨reaches, ?_⟩
  cases hfound : server.objects.find? ⟨type.kind.name, ns, name⟩ with
  | none =>
      obtain ⟨cause, hcause, -⟩ :=
        read_none versioned reads reaches.1 reaches.2 hfound type.format
      rw [hcause] at read
      cases read
  | some document =>
      obtain ⟨held, hheld⟩ := versioned.legible _ document hfound isChild rfl
      rw [serve_answer versioned.faultless, answer_read reads reaches.1 reaches.2, hfound,
        readAnswer_of_hands ⟨200, rfl, rfl⟩ hheld] at read
      cases read
      exact ⟨document, rfl, hheld⟩

theorem read_absent (isChild : type.IsChild) (versioned : server.IsVersioned)
    (reads : IsReadOf request type.kind ns name) {cause : Cause}
    (read : readAnswer type.format (serve request server).1 = .error cause)
    (absent : saysAbsent cause = true) :
    ('/' ∉ ns.toList ∧ '/' ∉ name.toList) ∧
      server.objects.find? ⟨type.kind.name, ns, name⟩ = none := by
  have reaches := reaches_of_read versioned reads read (by rintro _ ⟨⟩; exact absent)
  refine ⟨reaches, ?_⟩
  cases hfound : server.objects.find? ⟨type.kind.name, ns, name⟩ with
  | none => rfl
  | some document =>
      obtain ⟨held, hheld⟩ := versioned.legible _ document hfound isChild rfl
      rw [serve_answer versioned.faultless, answer_read reads reaches.1 reaches.2, hfound,
        readAnswer_of_hands ⟨200, rfl, rfl⟩ hheld] at read
      cases read

/-! ## The whole -/

end NodeIdentity.Server
