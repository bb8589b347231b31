import NodeIdentity.Proofs.Api.Agreement
import NodeIdentity.Proofs.Api.Pagination

/-!
# The gates of a pass and lists in pages

A pass looks for network configurations and for name services, whose lists a server may send in
pages.  It goes on where any page has a network configuration, and with the first name service of
all pages.
-/

namespace NodeIdentity

open Client StoreScript

variable {σ α : Type} {serve : ApiRequest → σ → ApiAnswer × σ} {state after : σ}

/-! ## Lists of the gates -/

namespace ApiStore

theorem runs_listNetConfigs {ns : String} {pages : List (SentPage NetConfig)}
    (sent : CanList serve NetConfig.type ns state pages after) :
    ApiScript.Runs serve (perform (.listNetConfigs ns)) state
      (.ok (pages.flatMap (·.items)), []) after
      ((none :: pages.dropLast.map (·.token)).map (pageSent .netConfig ns)) :=
  runs_uncounted ((listsWhole serve NetConfig.type ns).complete sent)

theorem runs_listDnsServices {ns : String} {pages : List (SentPage DNSService)}
    (sent : CanList serve DNSService.type ns state pages after) :
    ApiScript.Runs serve (perform (.listDnsServices ns)) state
      (.ok (pages.flatMap (·.items)), []) after
      ((none :: pages.dropLast.map (·.token)).map (pageSent .dnsService ns)) :=
  runs_uncounted ((listsWhole serve DNSService.type ns).complete sent)

theorem serveCall_listNetConfigs {ns : String} {pages : List (SentPage NetConfig)}
    (sent : CanList serve NetConfig.type ns state pages after) :
    serveCall serve (.listNetConfigs ns) state = (.ok (pages.flatMap (·.items)), after) :=
  serveCall_eq (runs_listNetConfigs sent).run_eq

theorem serveCall_listDnsServices {ns : String} {pages : List (SentPage DNSService)}
    (sent : CanList serve DNSService.type ns state pages after) :
    serveCall serve (.listDnsServices ns) state = (.ok (pages.flatMap (·.items)), after) :=
  serveCall_eq (runs_listDnsServices sent).run_eq

end ApiStore

/-- The first object of a list that is sent in pages, on whatever page it stands. -/
def Client.firstSent (pages : List (SentPage α)) : Option α :=
  pages.findSome? (·.items.head?)

/-- Only the first name service counts. -/
theorem inspectDnsServices_flatMap (pages : List (SentPage DNSService)) :
    inspectDnsServices (pages.flatMap (·.items)) = inspectDnsServices (firstSent pages).toList := by
  unfold firstSent
  rw [← List.head?_flatMap]
  cases pages.flatMap (·.items) <;> rfl

/-- What the gates of a pass see of lists that are sent in pages. -/
structure GatesSee (serve : ApiRequest → σ → ApiAnswer × σ) (nodeSet : NodeSet) : Prop where
  /-- A network configuration is seen: the first planned node is written. -/
  configured : ∀ {state pages after node others} (updater : StatusUpdater) (now : String),
    CanList serve NetConfig.type nodeSet.place state pages after →
      planReservations nodeSet.spec = node :: others → (∃ page ∈ pages, page.items ≠ []) →
        Begins (ApiStore.serveCall serve) (runPass nodeSet updater now) state
          [nodeSet.configCall, nodeSet.writeCall node]
  /-- Where no page has any, nothing is written. -/
  unconfigured : ∀ {state pages after} (updater : StatusUpdater) (now : String),
    CanList serve NetConfig.type nodeSet.place state pages after →
      planReservations nodeSet.spec ≠ [] → (∀ page ∈ pages, page.items = []) →
        Runs (ApiStore.serveCall serve) (runPass nodeSet updater now) state
          ((PassEnding.finished .notApplicable .notApplicable).passEnd nodeSet updater now) after
          [Attempt.success nodeSet.configCall]
  /-- Behind the first stage, the first name service that is sent can hold records back. -/
  withheld : ∀ {state middle made plan reservations pages after dns} (updater : StatusUpdater)
    (now : String),
    Runs (ApiStore.serveCall serve) (ensureReservations nodeSet).run state
      (.ok (plan, reservations)) middle made → HasReservations reservations →
      CanList serve DNSService.type nodeSet.place middle pages after →
        Withheld (firstSent pages).toList reservations dns →
          Runs (ApiStore.serveCall serve) (runPass nodeSet updater now) state
            ((PassEnding.finished reservations dns).passEnd nodeSet updater now) after
            (made ++ [Attempt.success nodeSet.serviceCall])
  /-- Where the first name service that is sent serves nodes, records are written. -/
  published : ∀ {state middle made plan map pages after addresses} (updater : StatusUpdater)
    (now : String),
    Runs (ApiStore.serveCall serve) (ensureReservations nodeSet).run state
      (.ok (plan, .ready map)) middle made → map.isEmpty = false →
      CanList serve DNSService.type nodeSet.place middle pages after →
        ServesNodes (firstSent pages).toList addresses →
          Begins (ApiStore.serveCall serve) (runPass nodeSet updater now) state
            (made.map (·.request) ++
              [nodeSet.serviceCall, nodeSet.publishCall (recordSpec plan map)])

theorem runs_checkDnsService_sent {ns : String} {pages : List (SentPage DNSService)}
    (sent : CanList serve DNSService.type ns state pages after) :
    Runs (ApiStore.serveCall serve) (checkDnsService ns).run state
      (.ok (inspectDnsServices (firstSent pages).toList)) after
      [Attempt.success (.listDnsServices ns)] := by
  have hlist := Runs.perform_ok (ApiStore.serveCall_listDnsServices sent)
  rw [← inspectDnsServices_flatMap]
  exact Runs.andDone hlist rfl

theorem gatesSee (serve : ApiRequest → σ → ApiAnswer × σ) (nodeSet : NodeSet) :
    GatesSee serve nodeSet := by
  constructor
  case configured =>
    intro state pages after node others updater now sent plan found
    have hlist := Runs.perform_ok (ApiStore.serveCall_listNetConfigs sent)
    have hfound : ¬ (pages.flatMap (·.items)).isEmpty = true := by
      obtain ⟨page, member, items⟩ := found
      rw [List.isEmpty_iff, List.flatMap_eq_nil_iff]
      exact fun empty => items (empty page member)
    have hplanned : planReservations nodeSet.spec ≠ [] := by simp [plan]
    refine Begins.bind ?_ _
    rw [NodeSet.ensureReservations_planned hplanned]
    refine Begins.behind hlist ?_
    show Begins _ (ExceptT.run (if _ then _ else _)) _ _
    rw [if_neg hfound, plan]
    exact Begins.bind (Begins.bind (Begins.perform _ _) _) _
  case unconfigured =>
    intro state pages after updater now sent planned empty
    have hlist := Runs.perform_ok (ApiStore.serveCall_listNetConfigs sent)
    have hempty : (pages.flatMap (·.items)).isEmpty = true := by
      rw [List.isEmpty_iff, List.flatMap_eq_nil_iff]
      exact empty
    have hstage : Runs (ApiStore.serveCall serve) (ensureReservations nodeSet).run state
        (.ok (planReservations nodeSet.spec, .notApplicable)) after
        [Attempt.success nodeSet.configCall] := by
      rw [NodeSet.ensureReservations_planned planned]
      exact Runs.andDone hlist (if_pos hempty)
    exact Runs.bindDone hstage rfl
  case withheld =>
    intro state middle made plan reservations pages after dns updater now first reserved sent
      withheld
    have hstage := runs_ensureDnsRecords_withheld plan reserved (runs_checkDnsService_sent sent)
      withheld
    exact Runs.bind first (Runs.bindDone hstage rfl)
  case published =>
    intro state middle made plan map pages after addresses updater now first reserved sent serves
    have hreserved : HasReservations (.ready map) := reserved
    have hstage : Begins (ApiStore.serveCall serve)
        (ensureDnsRecords nodeSet plan (.ready map)).run middle
        [nodeSet.serviceCall, nodeSet.publishCall (recordSpec plan map)] := by
      rw [ensureDnsRecords_reserved nodeSet plan hreserved]
      refine Begins.behind (runs_checkDnsService_sent sent) ?_
      show Begins _ (recordsBehind nodeSet plan _ _).run _ _
      rw [recordsBehind_serves nodeSet plan map serves]
      exact Begins.bind (Begins.perform _ _) _
    exact Begins.behind first (Begins.bind hstage _)

/--
However a server cuts its lists into pages, a listing comes to all of their objects, in order and
each once, or fails with the first page that cannot be had; so the gates of a pass find what there
is on any page.
-/
theorem pages_followed (serve : ApiRequest → σ → ApiAnswer × σ) :
    (∀ {ρ τ : Type} (type : ResourceType ρ τ) (ns : String), ListsWhole serve type ns) ∧
      ∀ nodeSet, GatesSee serve nodeSet :=
  ⟨fun type ns => listsWhole serve type ns, gatesSee serve⟩

/-! ## Objects on later pages -/

/-- A network configuration on the second of three pages. -/
def networkPages : List (SentPage NetConfig) :=
  [⟨some "1", []⟩, ⟨some "2", [network]⟩, ⟨some "", []⟩]

/-- A name service that serves nodes. -/
def dnsService : DNSService where
  metadata := { name := some "dns" }
  spec := {}
  status := some
    { dnsAddresses := some ["192.0.2.53"], conditions := [MemoryStore.readyCondition "True"] }

/-- A name service on the second of two pages. -/
def servicePages : List (SentPage DNSService) :=
  [⟨some "1", []⟩, ⟨none, [dnsService]⟩]

/-- The only node of `oneNode`, as it is planned. -/
def edpmNode : PlannedNode where
  name := "edpm-0"
  hostname := "edpm-0"
  networks := [{ name := "ctlplane" }]

theorem plan_oneNode : planReservations oneNode.spec = [edpmNode] := by
  decide

def edpmReservation : IPReservation :=
  { (oneNode.childMeta .ipReservation).applyToResource { networks := edpmNode.networks }
      (Resource.named "edpm-0" {} : IPReservation) with
    status := some { conditions := [MemoryStore.readyCondition "True"] } }

/-- The reservation as it is wanted and ready, handed out to a write of it and to a read. -/
def reservationAnswers : List ApiAnswer :=
  [objectAnswer IPReservation.type edpmReservation, objectAnswer IPReservation.type edpmReservation]

theorem networkPages_continued :
    ∀ page ∈ networkPages.take 2, ∃ next, page.token = some next ∧ next ≠ "" := by
  intro page member
  rcases List.mem_pair.1 member with rfl | rfl
  · exact ⟨"1", rfl, by decide⟩
  · exact ⟨"2", rfl, by decide⟩

theorem openstack_accepted (kind : Kind) {token : Option String}
    (short : (String.ofList (Address.parameters
      (pageRequest kind "openstack" token).query)).utf8ByteSize ≤ 65000) :
    (pageRequest kind "openstack" token).fault? = none := by
  refine pageRequest_accepted (by decide) ?_
  have hplace : "openstack".utf8ByteSize = 9 := by decide
  unfold Address.byteLimit
  omega

theorem networkPages_accepted :
    ∀ asked ∈ none :: (networkPages.take 2).map (·.token),
      (pageRequest .netConfig "openstack" asked).fault? = none := by
  intro asked member
  have hasked : asked ∈ [none, some "1", some "2"] := member
  simp only [List.mem_cons, List.not_mem_nil, or_false] at hasked
  rcases hasked with rfl | rfl | rfl <;> exact openstack_accepted .netConfig (by decide)

theorem canList_networkPages (behind : List ApiAnswer) :
    CanList dealOut NetConfig.type "openstack"
      (networkPages.map (pageAnswer NetConfig.type) ++ behind) networkPages behind where
  sends := sendsWhole_dealt NetConfig.type_lawful "openstack" networkPages_continued
    networkPages_accepted (.inr rfl : (⟨some "", []⟩ : SentPage NetConfig).token = none ∨ _) behind
  short := by decide

theorem canList_servicePages :
    CanList dealOut DNSService.type "openstack" (servicePages.map (pageAnswer DNSService.type))
      servicePages [] where
  sends := by
    have hcontinued : ∀ page ∈ servicePages.take 1, ∃ next, page.token = some next ∧ next ≠ "" := by
      intro page member
      rw [List.mem_singleton.1 member]
      exact ⟨"1", rfl, by decide⟩
    have haccepted : ∀ asked ∈ none :: (servicePages.take 1).map (·.token),
        (pageRequest .dnsService "openstack" asked).fault? = none := by
      intro asked member
      have hasked : asked ∈ [none, some "1"] := member
      rcases List.mem_pair.1 hasked with rfl | rfl <;>
        exact openstack_accepted .dnsService (by decide)
    exact sendsWhole_dealt DNSService.type_lawful "openstack" hcontinued haccepted
      (.inl rfl : (⟨none, [dnsService]⟩ : SentPage DNSService).token = none ∨ _) []
  short := by decide

theorem edpm_reachable (kind : Kind) : Reachable kind oneNode.place edpmNode.name :=
  reachable_of_short (by decide) (by decide) (by decide) (by decide)

theorem edpmReservation_settled :
    (oneNode.childMeta .ipReservation).applyToResource { networks := edpmNode.networks }
      edpmReservation = edpmReservation :=
  (oneNode.childMeta .ipReservation).applyToResource_of_report _ _ _

theorem runs_write_edpm (behind : List ApiAnswer) :
    ApiScript.Runs dealOut (ApiStore.perform (oneNode.writeCall edpmNode))
      (objectAnswer IPReservation.type edpmReservation :: behind)
      (.ok .unchanged, [.childWrite "IPReservation" .unchanged]) behind
      [readRequest .ipReservation "openstack" "edpm-0"] :=
  ApiStore.runs_upsertChild (runs_createOrReplace_settled IPReservation.type_lawful
    (edpm_reachable _) {} edpmReservation_settled behind)

theorem runs_read_edpm (reservation : IPReservation) (behind : List ApiAnswer) :
    ApiScript.Runs dealOut (ApiStore.perform (oneNode.readBackCall edpmNode))
      (objectAnswer IPReservation.type reservation :: behind) (.ok reservation, []) behind
      [readRequest .ipReservation "openstack" "edpm-0"] :=
  ApiStore.runs_uncounted
    (runs_get_dealt IPReservation.type_lawful (edpm_reachable _) reservation behind)

/-- The first stage of `oneNode`, by what its calls are answered. -/
theorem runs_stage_oneNode {serve : (call : StoreCall) → σ → call.Answer × σ}
    {first second third fourth : σ} {outcome : UpsertOutcome} {reservation : IPReservation}
    (listed : serve oneNode.configCall first = (.ok [network], second))
    (written : serve (oneNode.writeCall edpmNode) second = (.ok outcome, third))
    (read : serve (oneNode.readBackCall edpmNode) third = (.ok reservation, fourth)) :
    Runs serve (ensureReservations oneNode).run first
      (.ok ([edpmNode], aggregateReservations [reservation])) fourth
      (oneNode.reservationCalls.map Attempt.success) := by
  have hplanned : planReservations oneNode.spec ≠ [] := by simp [plan_oneNode]
  have hcalls : oneNode.reservationCalls.map Attempt.success =
      [Attempt.success oneNode.configCall] ++ ([Attempt.success (oneNode.writeCall edpmNode)] ++
        [Attempt.success (oneNode.readBackCall edpmNode)]) := by
    unfold NodeSet.reservationCalls
    rw [plan_oneNode]
    rfl
  rw [hcalls, NodeSet.ensureReservations_planned hplanned, plan_oneNode]
  refine Runs.andThen (Runs.perform_ok listed) ?_
  refine Runs.andThen (Runs.andDone (Runs.perform_ok written) rfl) ?_
  exact Runs.andDone (Runs.andDone (Runs.perform_ok read) rfl) rfl

theorem stage_oneNode (behind : List ApiAnswer) :
    Runs (ApiStore.serveCall dealOut) (ensureReservations oneNode).run
      (networkPages.map (pageAnswer NetConfig.type) ++ (reservationAnswers ++ behind))
      (.ok ([edpmNode], .ready (Dict.ofList [("edpm-0", [])]))) behind
      (oneNode.reservationCalls.map Attempt.success) := by
  have hready : aggregateReservations [edpmReservation] =
      .ready (Dict.ofList [("edpm-0", [])]) := by
    decide
  rw [← hready]
  exact runs_stage_oneNode
    (ApiStore.serveCall_listNetConfigs (canList_networkPages (reservationAnswers ++ behind)))
    (ApiStore.serveCall_eq (runs_write_edpm _).run_eq)
    (ApiStore.serveCall_eq (runs_read_edpm _ _).run_eq)

/-- Objects that are not on first pages are found, behind blank pages and before blank tokens. -/
theorem openstack_pages_followed :
    let behind := reservationAnswers ++ servicePages.map (pageAnswer DNSService.type)
    let answers := networkPages.map (pageAnswer NetConfig.type) ++ behind
    let pass := runPass oneNode (.ofNodeSet oneNode) "2026-01-01T00:00:00Z"
    ApiScript.Runs dealOut (listAll NetConfig.type "openstack").run answers (.ok [network])
        behind ([none, some "1", some "2"].map (pageRequest .netConfig "openstack")) ∧
      ApiScript.Runs dealOut (listAll NetConfig.type "openstack").run
        ((networkPages.take 2).map (pageAnswer NetConfig.type))
        (.error (.service "no answer is left")) []
        ([none, some "1", some "2"].map (pageRequest .netConfig "openstack")) ∧
      Begins (ApiStore.serveCall dealOut) pass answers
        [oneNode.configCall, oneNode.writeCall edpmNode] ∧
      Begins (ApiStore.serveCall dealOut) pass answers
        (oneNode.reservationCalls ++ [oneNode.serviceCall,
          oneNode.publishCall (recordSpec [edpmNode] (Dict.ofList [("edpm-0", [])]))]) := by
  obtain ⟨lists, gates⟩ := pages_followed dealOut
  have list := lists NetConfig.type "openstack"
  have hwritten : pageSent .netConfig "openstack" = pageRequest .netConfig "openstack" :=
    funext (list.written (by decide))
  have gate := gates oneNode
  have whole := canList_networkPages
    (reservationAnswers ++ servicePages.map (pageAnswer DNSService.type))
  refine ⟨hwritten ▸ list.complete whole, ?_, ?_, ?_⟩
  · exact hwritten ▸ list.failed (sendsUpTo_dealt NetConfig.type_lawful "openstack"
      networkPages_continued networkPages_accepted) (by decide)
  · have hfound : ∃ page ∈ networkPages, page.items ≠ [] :=
      ⟨⟨some "2", [network]⟩, by simp [networkPages], by simp⟩
    exact gate.configured _ _ whole plan_oneNode hfound
  · have h := gate.published (.ofNodeSet oneNode) "2026-01-01T00:00:00Z"
      (stage_oneNode (servicePages.map (pageAnswer DNSService.type))) rfl canList_servicePages
      (show ServesNodes (firstSent servicePages).toList _ from ⟨rfl, rfl⟩)
    rwa [Attempt.map_request_success] at h

end NodeIdentity
