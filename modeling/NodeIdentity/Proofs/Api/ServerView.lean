import NodeIdentity.Proofs.Api.ServerPages

/-!
# The server as a plain object store

Looked at in one namespace, a server on which no fault waits is a plain object store, whatever the
size of its pages.
-/

namespace NodeIdentity.Server

open Client

/-- A server without faults whose pages can be counted, and whose children carry versions. -/
structure IsPlain (ns : String) (server : Server) : Prop where
  faultless : server.faults = []
  stored : ∀ (kind : Kind) (name : String) (document : Json), kind.isChild = true →
    server.objects.find? ⟨kind.name, ns, name⟩ = some document →
      document = .obj document.members ∧ ∃ version, versionOf document = some (.str version)
  short : ∀ kind : Kind, kind.isSource = true →
    (server.listed ns kind).length + 1 < pageCountLimit

/-- What a server has stored in a namespace. -/
def view (ns : String) : ServerView Server where
  serve := serve
  find? server kind name := server.objects.find? ⟨kind.name, ns, name⟩
  listed := listed ns
  report kind name status server := (server.step (.setStatus ⟨kind.name, ns, name⟩ status)).2
  places := (· = ns)
  names name := name ≠ "" ∧ Address.isPlain name = true ∧ '/' ∉ name.toList ∧
    name.utf8ByteSize ≤ nameLimit
  sound := IsPlain ns

variable {ns name : String} {kind : Kind} {server after : Server} {document : Json}

theorem keeps_of_rests (plain : server.IsPlain ns) (rests : Rests server after) :
    (view ns).Keeps server after := by
  constructor
  case sound =>
    refine ⟨rests.faults.trans plain.faultless, ?_, fun kind source => ?_⟩
    · rw [rests.objects]
      exact plain.stored
    · rw [rests.listed]
      exact plain.short kind source
  case objects => exact fun kind name => rests.find? _
  case lists => exact fun kind => rests.listed ns kind

theorem stamp_object (document : Json) (revision : Nat) :
    stamp document revision = .obj (stamp document revision).members :=
  Json.putMember_eq_obj document "metadata" (some _)

theorem stores_of_stamps (plain : server.IsPlain ns) (isChild : kind.isChild = true)
    (stamps : Stamps server ⟨kind.name, ns, name⟩ document after) :
    (view ns).Stores kind name (stamp document (server.revision + 1)) server after := by
  have hlisted (other : Kind) (apart : other ≠ kind) :
      after.listed ns other = server.listed ns other := by
    unfold listed
    rw [stamps.objects, ObjectTable.put, ObjectTable.within_setWithin,
      if_neg (fun same => apart (Kind.name_inj.1 same.1))]
  constructor
  case sound =>
    refine ⟨stamps.faults.trans plain.faultless, ?_, ?_⟩
    · intro other named found otherChild hfound
      rw [stamps.find?] at hfound
      split at hfound
      · cases hfound
        exact ⟨stamp_object .., _, versionOf_stamp ..⟩
      · exact plain.stored other named found otherChild hfound
    · intro other source
      have apart : other ≠ kind := by
        rintro rfl
        rw [Kind.not_isSource isChild] at source
        cases source
      rw [hlisted other apart]
      exact plain.short other source
  case stored =>
    exact (stamps.find? _).trans (if_pos rfl)
  case objects =>
    intro other named apart
    refine (stamps.find? _).trans (if_neg (fun same => ?_))
    rw [ObjectKey.mk.injEq] at same
    exact apart ⟨Kind.name_inj.1 same.1, same.2.2⟩
  case lists => exact hlisted

/-! ## Reads -/

theorem get_hands (plain : server.IsPlain ns) (place : '/' ∉ ns.toList) (named : '/' ∉ name.toList)
    {document : Json} (found : server.objects.find? ⟨kind.name, ns, name⟩ = some document) :
    Hands (serve (readRequest kind ns name) server).1 document := by
  rw [serve_eq plain.faultless, answer_read ⟨rfl, rfl⟩ place named, found]
  exact ⟨200, rfl, rfl⟩

/-! ## Writes -/

variable {ρ τ : Type} {type : ResourceType ρ τ} {resource current : Resource ρ τ}

theorem create_view (lawful : type.Lawful) (isChild : type.kind.isChild = true)
    (plain : server.IsPlain ns) (place : '/' ∉ ns.toList)
    (named : resource.metadata.name = some name)
    (absent : server.objects.find? ⟨type.kind.name, ns, name⟩ = none) :
    ∃ stored, type.Holds stored resource ∧
      Hands (serve (createRequest type ns resource) server).1 stored ∧
      (view ns).Stores type.kind name stored server
        (serve (createRequest type ns resource) server).2 := by
  have hanswer : server.answer (createRequest type ns resource) = _ :=
    answer_create lawful ⟨rfl, rfl, rfl⟩ place named
  rw [absent] at hanswer
  have hstamps := serve_stamps plain.faultless (congrArg Prod.snd hanswer)
  have hholds := stamp_holds (encode_object type resource)
    (lawful.format_lawful.decode_encode resource) (server.revision + 1)
  refine ⟨_, hholds, ?_, stores_of_stamps plain isChild hstamps⟩
  rw [serve_answer plain.faultless, hanswer]
  exact ⟨201, rfl, rfl⟩

theorem replace_view {format : Format τ} (lawful : type.Lawful)
    (isChild : type.kind.isChild = true) (reported : type.status = some format)
    (plain : server.IsPlain ns) (place : '/' ∉ ns.toList) (named : '/' ∉ name.toList)
    (found : server.objects.find? ⟨type.kind.name, ns, name⟩ = some document)
    (decodes : type.format.decode document = .ok current)
    (same : resource.metadata.resourceVersion = current.metadata.resourceVersion) :
    ∃ stored, type.Holds stored { resource with status := current.status } ∧
      Hands (serve (replaceRequest type ns name resource) server).1 stored ∧
      (view ns).Stores type.kind name stored server
        (serve (replaceRequest type ns name resource) server).2 := by
  obtain ⟨object, version, hversion⟩ := plain.stored type.kind name document isChild found
  have hencoded := lawful.format_lawful.decode_encode resource
  have hcurrent := (versionOf_iff object decodes version).2 hversion
  have hagree : versionOf (type.format.encode resource) = versionOf document := by
    rw [hversion]
    exact (versionOf_iff (encode_object type resource) hencoded version).1 (same.trans hcurrent)
  have hstored := decode_withStatusOf reported (encode_object type resource) hencoded object decodes
  have hanswer : server.answer (replaceRequest type ns name resource) = _ :=
    answer_replace ⟨rfl, rfl, rfl⟩ place named
  unfold replace at hanswer
  simp only [found, hagree, ne_eq, not_true_eq_false, and_false, if_false] at hanswer
  have hstamps := serve_stamps plain.faultless (congrArg Prod.snd hanswer)
  have hholds := stamp_holds (Json.putMember_eq_obj ..) hstored (server.revision + 1)
  refine ⟨_, hholds, ?_, stores_of_stamps plain isChild hstamps⟩
  rw [serve_answer plain.faultless, hanswer]
  exact ⟨200, rfl, rfl⟩

/-! ## Reports -/

theorem report_absent_view (plain : server.IsPlain ns)
    (absent : server.objects.find? ⟨kind.name, ns, name⟩ = none) (status : Option Json) :
    (view ns).Keeps server (server.step (.setStatus ⟨kind.name, ns, name⟩ status)).2 := by
  unfold step
  simp only [absent]
  exact keeps_of_rests plain ⟨rfl, rfl, rfl, rfl⟩

variable (ρ) in
theorem readField_status {format : Format τ} (lawful : format.Lawful) (status : Option τ) :
    Fields.readField (ResourceType.statusField format : Field (Resource ρ τ) (Option τ))
      (fun _ => status.map format.encode) = .ok status := by
  cases status with
  | none => rfl
  | some value => exact Field.readOrNull_encode lawful value

theorem report_found_view {format : Format τ} (lawful : type.Lawful)
    (isChild : type.kind.isChild = true) (reported : type.status = some format)
    (plain : server.IsPlain ns)
    (found : server.objects.find? ⟨type.kind.name, ns, name⟩ = some document)
    (decodes : type.format.decode document = .ok current) (status : Option τ) :
    ∃ stored, type.Holds stored { current with status := status } ∧
      (view ns).Stores type.kind name stored server
        (server.step (.setStatus ⟨type.kind.name, ns, name⟩ (status.map format.encode))).2 := by
  obtain ⟨object, -⟩ := plain.stored type.kind name document isChild found
  have hstatus := readField_status ρ (lawful.status format reported) status
  have hreads := (ResourceType.readsFrom_of_decode object decodes).withStatus reported hstatus
  have hdecodes := ResourceType.decode_putMember object decodes hreads
  unfold step
  simp only [found]
  have hholds := stamp_holds (Json.putMember_eq_obj ..) hdecodes (server.revision + 1)
  exact ⟨_, hholds, stores_of_stamps plain isChild ⟨rfl, rfl, rfl, rfl⟩⟩

/-! ## Lists -/

theorem list_view (plain : server.IsPlain ns) (addressable : Address.isPlain ns = true)
    (brief : ns.utf8ByteSize ≤ nameLimit) (place : '/' ∉ ns.toList)
    (source : kind.isSource = true) :
    ∃ count after, count < pageCountLimit ∧
      Pages serve kind ns server none (server.listed ns kind) count after ∧
        (view ns).Keeps server after := by
  have hshort := plain.short kind source
  obtain ⟨count, after, hcount, hpages, hrests⟩ :=
    pages_from kind addressable brief place plain.faultless
      (show ((none : Option String).map offsetOf).getD 0 = 0 from rfl)
      (firstRequest_accepted kind addressable brief) (by omega)
      (Nat.le_refl ((server.listed ns kind).drop 0).length)
  rw [List.drop_zero] at hcount hpages
  exact ⟨count, after, by omega, hpages, keeps_of_rests plain hrests⟩

/-! ## The whole -/

/-- A server without faults as a plain object store, in a namespace that can be addressed. -/
def plainServer (ns : String) (addressable : Address.isPlain ns = true)
    (brief : ns.utf8ByteSize ≤ nameLimit) (place : '/' ∉ ns.toList) : PlainServer Server where
  toServerView := view ns
  place_plain := by
    rintro _ rfl
    exact addressable
  reachable := by
    rintro _ name rfl ⟨named, plain, -, short⟩ kind
    refine reachable_of_short named addressable plain ?_
    unfold nameLimit at brief short
    unfold Address.byteLimit
    omega
  get_found := by
    rintro server kind _ name document plain rfl named found
    exact get_hands plain place named.2.2.1 found
  get_absent := by
    rintro server kind _ name plain rfl named absent
    exact serve_absent plain.faultless ⟨rfl, rfl⟩ place named.2.2.1 absent
  get_keeps := by
    rintro server _ _ _ plain rfl -
    exact keeps_of_rests plain (read_rests plain.faultless ⟨rfl, rfl⟩)
  create := by
    rintro ρ τ type server _ name resource isChild plain rfl - named absent
    exact create_view isChild.lawful isChild.kind plain place named absent
  replace := by
    rintro ρ τ type server _ name document current resource isChild plain rfl named found decodes
      same
    obtain ⟨format, reported⟩ := isChild.reported
    exact replace_view isChild.lawful isChild.kind reported plain place named.2.2.1 found decodes
      same
  list := by
    rintro server kind _ plain rfl source
    exact list_view plain addressable brief place source
  report_absent plain isChild absent := report_absent_view plain absent _
  report_found isChild reported plain found decodes :=
    report_found_view isChild.lawful isChild.kind reported plain found decodes _

end NodeIdentity.Server
