import NodeIdentity.Proofs.Api.Routing
import NodeIdentity.Proofs.Resource.Documents

/-!
# Answers of the server

How a server on which no fault waits answers the requests of the client, and what it stores for
them.
-/

namespace NodeIdentity

open Client

/-! ## Failures -/

namespace Server

/-- The answer that reports a failure, where reason and message are not empty. -/
theorem failure_eq (code : Nat) {reason message : String} (reasoned : reason ≠ "")
    (worded : message ≠ "") :
    failure code reason message = .response code (.document (.obj
      [("code", .int code), ("message", .str message), ("reason", .str reason),
        ("status", .str "Failure")])) := by
  have hreason : reason.isEmpty = false := by simpa using reasoned
  have hmessage : message.isEmpty = false := by simpa using worded
  unfold failure
  simp +decide only [hreason, hmessage, Json.object, List.cons_append, List.nil_append,
    List.foldl_cons, List.foldl_nil, Json.insertMember, if_true, if_false]

theorem failure_reads {code : Nat} (known : code = 404 ∨ code = 409) {reason message : String}
    (reasoned : reason ≠ "") (worded : message ≠ "") :
    ∃ body, failure code reason message = .response code body ∧
      statusOfFailure code body =
        { summary := some .failure, code := code, message := message, reason := reason } := by
  refine ⟨_, failure_eq code reasoned worded, ?_⟩
  rcases known with rfl | rfl <;> rfl

theorem append_ne_empty {first second : String} (h : second ≠ "") : first ++ second ≠ "" := by
  intro same
  exact h ((String.append_eq_empty_iff.1 same).2)

theorem notFound_reads (kind : Kind) (name : String) :
    ∃ body, notFound kind name = .response 404 body ∧
      (statusOfFailure 404 body).reason = absentReason := by
  obtain ⟨body, hbody, hstatus⟩ := failure_reads (Or.inl rfl)
    (show "NotFound" ≠ "" by decide)
    (show objectText kind name ++ " not found" ≠ "" from append_ne_empty (by decide))
  exact ⟨body, hbody, by rw [hstatus]; rfl⟩

/-! ## Requests -/

variable {server : Server} {request : ApiRequest} {kind : Kind} {ns name : String}
  {document : Json}

theorem serve_eq (faultless : server.faults = []) (request : ApiRequest) :
    serve request server =
      ((server.answer request).1,
        { (server.answer request).2 with
          exchanges := (server.answer request).2.exchanges ++
            [⟨request, (server.answer request).1⟩] }) := by
  unfold serve
  rw [faultless]
  have hsame : { server with faults := [] } = server := by rw [← faultless]
  simp only [meet, answerWith, hsame]

theorem answer_read (reads : IsReadOf request kind ns name) (place : '/' ∉ ns.toList)
    (named : '/' ∉ name.toList) :
    server.answer request =
      (match server.objects.find? ⟨kind.name, ns, name⟩ with
      | some stored => .response 200 (.document stored)
      | none => notFound kind name, server) := by
  unfold answer
  simp only [reads.method, reads.path, Route.ofPath?_objectPath kind place named]
  cases server.objects.find? ⟨kind.name, ns, name⟩ <;> rfl

/-- Where no object can be addressed, a read fails, and does not say that there is none. -/
theorem answer_read_cut (reads : IsReadOf request kind ns name)
    (cut : '/' ∈ ns.toList ∨ '/' ∈ name.toList) :
    server.answer request = (.response 404 (.text "404 page not found"), server) := by
  unfold answer
  rcases Route.ofPath?_objectPath_cut kind cut with hroute | ⟨other, place, named, hroute⟩ <;>
    simp only [reads.method, reads.path, hroute]

variable {ρ τ : Type} {type : ResourceType ρ τ} {resource current : Resource ρ τ}

theorem encode_object (type : ResourceType ρ τ) (resource : Resource ρ τ) :
    type.format.encode resource = .obj (type.format.encode resource).members := rfl

theorem ofObject_encode (lawful : type.Lawful) (named : resource.metadata.name = some name) :
    (ObjectKey.ofObject (type.format.encode resource)).name = name := by
  obtain ⟨part, hpart, hmetadata⟩ := ResourceType.exists_metadata (encode_object type resource)
    (lawful.format_lawful.decode_encode resource)
  have hname := (ObjectMeta.name_iff hmetadata name).1 named
  have hpath : (type.format.encode resource).path? ["metadata", "name"] = some (.str name) := by
    simp only [Json.path?, hpart, hname, Option.bind_some]
  unfold ObjectKey.ofObject
  rw [hpath]
  rfl

theorem answer_create_place (creates : IsCreateOf request type ns resource)
    (place : '/' ∉ ns.toList) :
    server.answer request = server.create type.kind ns (type.format.encode resource) := by
  unfold answer
  simp only [creates.method, creates.path, creates.payload, wholePayload,
    Route.ofPath?_collectionPath type.kind place, Option.map_some, Option.getD_some]

theorem answer_create (lawful : type.Lawful) (creates : IsCreateOf request type ns resource)
    (place : '/' ∉ ns.toList) (named : resource.metadata.name = some name) :
    server.answer request =
      match server.objects.find? ⟨type.kind.name, ns, name⟩ with
      | some _ => (alreadyExists type.kind name, server)
      | none =>
          let (stored, after) :=
            server.store ⟨type.kind.name, ns, name⟩ (type.format.encode resource)
          (.response 201 (.document stored), after) := by
  rw [answer_create_place creates place]
  cases hfound : server.objects.find? ⟨type.kind.name, ns, name⟩ <;>
    simp only [create, ofObject_encode lawful named, hfound]

theorem answer_replace (replaces : IsReplaceOf request type ns name resource)
    (place : '/' ∉ ns.toList) (named : '/' ∉ name.toList) :
    server.answer request = server.replace type.kind ns name (type.format.encode resource) := by
  unfold answer
  simp only [replaces.method, replaces.path, replaces.payload, wholePayload,
    Route.ofPath?_objectPath type.kind place named, Option.map_some, Option.getD_some]

/-- A step that stores nothing and counts nothing. -/
structure Rests (server after : Server) : Prop where
  objects : after.objects = server.objects
  revision : after.revision = server.revision
  pageSize : after.pageSize = server.pageSize
  faults : after.faults = server.faults

/-- A step that stores a document under a key, with a revision of its own. -/
structure Stamps (server : Server) (key : ObjectKey) (document : Json) (after : Server) : Prop where
  objects : after.objects = server.objects.put key (stamp document (server.revision + 1))
  revision : after.revision = server.revision + 1
  pageSize : after.pageSize = server.pageSize
  faults : after.faults = server.faults

variable {after : Server} {key : ObjectKey}

theorem Rests.find? (rests : Rests server after) (key : ObjectKey) :
    after.objects.find? key = server.objects.find? key := by
  rw [rests.objects]

theorem Stamps.find? (stamps : Stamps server key document after) (other : ObjectKey) :
    after.objects.find? other =
      if other = key then some (stamp document (server.revision + 1))
      else server.objects.find? other := by
  rw [stamps.objects, ObjectTable.find?_put]

theorem serve_answer (faultless : server.faults = []) (request : ApiRequest) :
    (serve request server).1 = (server.answer request).1 := by
  rw [serve_eq faultless]

theorem serve_absent (faultless : server.faults = []) (reads : IsReadOf request kind ns name)
    (place : '/' ∉ ns.toList) (named : '/' ∉ name.toList)
    (absent : server.objects.find? ⟨kind.name, ns, name⟩ = none) :
    ∃ code body, isFailure code = true ∧ (serve request server).1 = .response code body ∧
      (statusOfFailure code body).reason = absentReason := by
  obtain ⟨body, hbody, hreason⟩ := notFound_reads kind name
  rw [serve_answer faultless, answer_read reads place named, absent]
  exact ⟨404, body, rfl, hbody, hreason⟩

theorem serve_rests (faultless : server.faults = []) {request : ApiRequest}
    (same : (server.answer request).2 = server) : Rests server (serve request server).2 := by
  rw [serve_eq faultless, same]
  exact ⟨rfl, rfl, rfl, rfl⟩

theorem serve_stamps (faultless : server.faults = []) {request : ApiRequest}
    (stored : (server.answer request).2 = (server.store key document).2) :
    Stamps server key document (serve request server).2 := by
  rw [serve_eq faultless, stored]
  exact ⟨rfl, rfl, rfl, rfl⟩

theorem read_rests (faultless : server.faults = []) (reads : IsReadOf request kind ns name) :
    Rests server (serve request server).2 := by
  apply serve_rests faultless
  by_cases cut : '/' ∈ ns.toList ∨ '/' ∈ name.toList
  · rw [answer_read_cut reads cut]
  · rw [not_or] at cut
    rw [answer_read reads cut.1 cut.2]

end Server

end NodeIdentity
