import NodeIdentity.Proofs.Api.PlainCalls
import NodeIdentity.Proofs.Api.Repository
import NodeIdentity.Proofs.Api.ServerView
import NodeIdentity.Proofs.Store.Lockstep
import NodeIdentity.Store.Peers

/-!
# Agreement of stores

A plain object store behind an API and a store in memory that hold the same objects, but for what
servers set, answer every call of a pass alike and then hold the same objects again.  So passes come
to the same over both, whatever passes and reports of others went before.
-/

namespace NodeIdentity

open Client StoreScript

variable {σ α : Type}

/-! ## Agreement -/

/-- A store in memory on which no call fails, and which leaves reports to others. -/
structure MemoryStore.IsPlain (store : MemoryStore) : Prop where
  faultless : ∀ request, store.faults request = none
  unserved : store.recordSetsServed = false

/-- A server holds the objects of a dictionary under their names, but for what servers set. -/
def PlainServer.HoldsAll {ρ τ : Type} (server : PlainServer σ) (type : ResourceType ρ τ)
    (state : σ) (objects : Dict (Resource ρ τ)) : Prop :=
  ∀ name, Option.Rel type.Holds (server.find? state type.kind name) (objects.get? name)

/-- A server and a store in memory hold the same objects, but for what servers set. -/
structure Agree (server : PlainServer σ) (state : σ) (store : MemoryStore) : Prop where
  sound : server.sound state
  reservations : server.HoldsAll IPReservation.type state store.reservations
  recordSets : server.HoldsAll DNSRecordSet.type state store.recordSets
  netConfigs : List.Forall₂ NetConfig.type.Holds (server.listed state .netConfig) store.netConfigs
  dnsServices :
    List.Forall₂ DNSService.type.Holds (server.listed state .dnsService) store.dnsServices

variable {server : PlainServer σ} {state after : σ} {store : MemoryStore}

namespace PlainServer.HoldsAll

variable {ρ τ : Type} {type : ResourceType ρ τ} {objects : Dict (Resource ρ τ)} {kind : Kind}
  {name : String} {document : Json} {resource : Resource ρ τ}

theorem keeps (holdsAll : server.HoldsAll type state objects) (kept : server.Keeps state after) :
    server.HoldsAll type after objects := by
  intro named
  rw [kept.objects]
  exact holdsAll named

theorem stores (holdsAll : server.HoldsAll type state objects)
    (stores : server.Stores type.kind name document state after)
    (holds : type.Holds document resource) :
    server.HoldsAll type after (objects.insert name resource) := by
  intro named
  rw [Dict.get?_insert]
  by_cases same : named = name
  · rw [if_pos same, same, stores.stored]
    exact .some holds
  · rw [if_neg same, stores.objects type.kind named (fun h => same h.2)]
    exact holdsAll named

theorem storesOther (holdsAll : server.HoldsAll type state objects)
    (stores : server.Stores kind name document state after) (apart : type.kind ≠ kind) :
    server.HoldsAll type after objects := by
  intro named
  rw [stores.objects type.kind named (fun h => apart h.1)]
  exact holdsAll named

end PlainServer.HoldsAll

namespace Agree

theorem keeps (agree : Agree server state store) (kept : server.Keeps state after) :
    Agree server after store where
  sound := kept.sound
  reservations := agree.reservations.keeps kept
  recordSets := agree.recordSets.keeps kept
  netConfigs := by
    rw [kept.lists]
    exact agree.netConfigs
  dnsServices := by
    rw [kept.lists]
    exact agree.dnsServices

theorem logs (agree : Agree server state store) (calls : List StoreCall)
    (writes : List StoreWrite) :
    Agree server state { store with calls := calls, writes := writes } :=
  ⟨agree.sound, agree.reservations, agree.recordSets, agree.netConfigs, agree.dnsServices⟩

theorem storesReservation (agree : Agree server state store) {name : String} {document : Json}
    {reservation : IPReservation} (holds : IPReservation.type.Holds document reservation)
    (stores : server.Stores .ipReservation name document state after) :
    Agree server after
      { store with reservations := store.reservations.insert name reservation } where
  sound := stores.sound
  reservations := agree.reservations.stores stores holds
  recordSets := agree.recordSets.storesOther stores (by decide)
  netConfigs := by
    rw [stores.lists .netConfig (by decide)]
    exact agree.netConfigs
  dnsServices := by
    rw [stores.lists .dnsService (by decide)]
    exact agree.dnsServices

theorem storesRecordSet (agree : Agree server state store) {name : String} {document : Json}
    {recordSet : DNSRecordSet} (holds : DNSRecordSet.type.Holds document recordSet)
    (stores : server.Stores .dnsRecordSet name document state after) :
    Agree server after { store with recordSets := store.recordSets.insert name recordSet } where
  sound := stores.sound
  reservations := agree.reservations.storesOther stores (by decide)
  recordSets := agree.recordSets.stores stores holds
  netConfigs := by
    rw [stores.lists .netConfig (by decide)]
    exact agree.netConfigs
  dnsServices := by
    rw [stores.lists .dnsService (by decide)]
    exact agree.dnsServices

end Agree

/-! ## Calls -/

/-- The calls that a server can be asked to answer. -/
def PlainServer.Addresses (server : PlainServer σ) : StoreCall → Prop
  | .listNetConfigs ns | .listDnsServices ns => server.places ns
  | .upsertReservation ns name _ _ | .getReservation ns name | .upsertRecordSet ns name _ _
  | .getRecordSet ns name => server.places ns ∧ server.names name

theorem MemoryStore.found_eq_ok {found : Option α} {value : α}
    (h : MemoryStore.found found = .ok value) : found = some value := by
  cases found with
  | none => cases h
  | some other =>
      cases h
      rfl

namespace Agree

/-- An answer over a server that is like one in memory, and leaves both in agreement. -/
def Answers (server : PlainServer σ) (request : StoreCall) (state : σ) (store : MemoryStore)
    (reply' : request.Reply) : Prop :=
  ∃ reply, (ApiStore.serveCall server.serve request state).1 = .ok reply ∧
    request.LikeReply reply reply' ∧
    Agree server (ApiStore.serveCall server.serve request state).2
      (MemoryStore.serve request store).2

theorem answers_of_run {request : StoreCall} {reply reply' : request.Reply}
    {measured : List Measurement}
    (runs : (ApiStore.perform request).run server.serve state = ((.ok reply, measured), after))
    (like : request.LikeReply reply reply')
    (agree : Agree server after (MemoryStore.serve request store).2) :
    Answers server request state store reply' := by
  unfold Answers
  rw [ApiStore.serveCall_eq runs]
  exact ⟨reply, rfl, like, agree⟩

/-- Every call that succeeds in memory is answered alike over the server. -/
theorem answers {request : StoreCall} (agree : Agree server state store) (plain : store.IsPlain)
    (addressed : server.Addresses request) {reply' : request.Reply}
    (answered : (MemoryStore.serve request store).1 = .ok reply') :
    Answers server request state store reply' := by
  have hserve := MemoryStore.serve_ok (plain.faultless request)
  rw [hserve] at answered
  cases request with
  | listNetConfigs ns =>
      obtain ⟨items, after, hrun, hsame, kept⟩ :=
        server.listAll_run NetConfig.type rfl agree.sound addressed agree.netConfigs
      cases answered
      refine answers_of_run (ApiStore.runs_uncounted ⟨hrun, rfl⟩).run_eq hsame ?_
      rw [hserve]
      exact (agree.keeps kept).logs _ _
  | listDnsServices ns =>
      obtain ⟨items, after, hrun, hsame, kept⟩ :=
        server.listAll_run DNSService.type rfl agree.sound addressed agree.dnsServices
      cases answered
      refine answers_of_run (ApiStore.runs_uncounted ⟨hrun, rfl⟩).run_eq hsame ?_
      rw [hserve]
      exact (agree.keeps kept).logs _ _
  | getReservation ns name =>
      have hfound : store.reservations.get? name = some reply' := MemoryStore.found_eq_ok answered
      have hstored := agree.reservations name
      rw [hfound] at hstored
      obtain ⟨held, after, hrun, hsame, kept⟩ :=
        server.get_stored IPReservation.type agree.sound addressed.1 addressed.2 hstored
      refine answers_of_run (ApiStore.runs_uncounted ⟨hrun, rfl⟩).run_eq hsame ?_
      rw [hserve]
      exact (agree.keeps kept).logs _ _
  | getRecordSet ns name =>
      have hfound : store.recordSets.get? name = some reply' := MemoryStore.found_eq_ok answered
      have hstored := agree.recordSets name
      rw [hfound] at hstored
      obtain ⟨held, after, hrun, hsame, kept⟩ :=
        server.get_stored DNSRecordSet.type agree.sound addressed.1 addressed.2 hstored
      refine answers_of_run (ApiStore.runs_uncounted ⟨hrun, rfl⟩).run_eq hsame ?_
      rw [hserve]
      exact (agree.keeps kept).logs _ _
  | upsertReservation ns name spec child =>
      obtain ⟨document, after, hrun, holds, stores⟩ :=
        server.createOrReplace_stores .reservation {} spec child agree.sound
          addressed.1 addressed.2 (agree.reservations name)
      cases answered
      refine answers_of_run (ApiStore.runs_upsertChild ⟨hrun, rfl⟩).run_eq rfl ?_
      rw [hserve]
      show Agree server after ((store.logCall _).upsertReservation name spec child).2
      rw [MemoryStore.upsertReservation_eq]
      exact (agree.storesReservation holds stores).logs _ _
  | upsertRecordSet ns name spec child =>
      obtain ⟨document, after, hrun, holds, stores⟩ :=
        server.createOrReplace_stores .recordSet {} spec child agree.sound
          addressed.1 addressed.2 (agree.recordSets name)
      cases answered
      refine answers_of_run (ApiStore.runs_upsertChild ⟨hrun, rfl⟩).run_eq rfl ?_
      have hafter : (store.logCall (.upsertRecordSet ns name spec child)).recordSetAfter name spec
          child = MemoryStore.wanted {} (store.recordSets.get? name) name spec child := by
        simp [MemoryStore.recordSetAfter, MemoryStore.logCall, plain.unserved]
      rw [hserve]
      show Agree server after ((store.logCall _).upsertRecordSet name spec child).2
      rw [MemoryStore.upsertRecordSet_eq, hafter]
      exact (agree.storesRecordSet holds stores).logs _ _

end Agree

theorem MemoryStore.IsPlain.serve (plain : store.IsPlain) (request : StoreCall) :
    (MemoryStore.serve request store).2.IsPlain := by
  rw [MemoryStore.serve_ok (plain.faultless request)]
  cases request with
  | upsertReservation ns name spec child =>
      show ((store.logCall _).upsertReservation name spec child).2.IsPlain
      rw [MemoryStore.upsertReservation_eq]
      exact ⟨plain.faultless, plain.unserved⟩
  | upsertRecordSet ns name spec child =>
      show ((store.logCall _).upsertRecordSet name spec child).2.IsPlain
      rw [MemoryStore.upsertRecordSet_eq]
      exact ⟨plain.faultless, plain.unserved⟩
  | listNetConfigs ns | listDnsServices ns | getReservation ns name | getRecordSet ns name =>
      exact ⟨plain.faultless, plain.unserved⟩

/-! ## Passes and reports -/

/-- Something that happens to a store: a pass over it, or a report of others. -/
inductive Turn
  | pass (nodeSet : NodeSet) (updater : StatusUpdater) (now : String)
  | reportReservation (name : String) (status : Option IPReservationStatus)
  | reportRecordSet (name : String) (status : Option DNSRecordSetStatus)

/-- What a pass shows: its result, its status but for times, and its upserts with their outcomes. -/
structure Shown where
  result : Except NetworkError PassOutcome
  status : NodeSetStatus
  upserts : List (StoreCall × UpsertOutcome)

namespace Turn

/-- A turn over a server. -/
def overServer (server : ServerView σ) : Turn → σ → List Shown × σ
  | pass nodeSet updater now, state =>
      let script := runPass nodeSet updater now
      let (ended, after) := script.overApi.run server.serve state
      ([{ result := ended.1.result
          status := ended.1.updater.status.untimed
          upserts := script.upserts (ApiStore.serveCall server.serve) state }], after)
  | reportReservation name status, state =>
      ([], server.report .ipReservation name (status.map IPReservationStatus.format.encode) state)
  | reportRecordSet name status, state =>
      ([], server.report .dnsRecordSet name (status.map DNSRecordSetStatus.format.encode) state)

/-- A turn over a store in memory. -/
def inMemory : Turn → MemoryStore → List Shown × MemoryStore
  | pass nodeSet updater now, store =>
      let script := runPass nodeSet updater now
      let (ended, after) := script.run MemoryStore.serve store
      ([{ result := ended.result
          status := ended.updater.status.untimed
          upserts := script.upserts MemoryStore.serve store }], after)
  | reportReservation name status, store => ([], store.reportReservation name status)
  | reportRecordSet name status, store => ([], store.reportRecordSet name status)

/-- Take turns in order, and collect what they show. -/
def takeAll (take : Turn → σ → List Shown × σ) : List Turn → σ → List Shown × σ
  | [], state => ([], state)
  | turn :: rest, state =>
      let (shown, middle) := take turn state
      let (others, after) := takeAll take rest middle
      (shown ++ others, after)

/-- The same turn but for times: those at which passes run, and those that statuses carry. -/
inductive Like : Turn → Turn → Prop
  | pass (nodeSet : NodeSet) {updater other : StatusUpdater}
      (same : updater.status.untimed = other.status.untimed) (now later : String) :
      Like (.pass nodeSet updater now) (.pass nodeSet other later)
  | reportReservation (name : String) (status : Option IPReservationStatus) :
      Like (.reportReservation name status) (.reportReservation name status)
  | reportRecordSet (name : String) (status : Option DNSRecordSetStatus) :
      Like (.reportRecordSet name status) (.reportRecordSet name status)

/-- A pass whose node set and planned nodes have names that objects may have. -/
def Addressed (server : ServerView σ) : Turn → Prop
  | pass nodeSet _ _ =>
      server.places nodeSet.place ∧ server.names nodeSet.name ∧
        ∀ node ∈ planReservations nodeSet.spec, server.names node.name
  | reportReservation .. | reportRecordSet .. => True

end Turn

theorem MemoryStore.reportReservation_eq (store : MemoryStore) (name : String)
    (status : Option IPReservationStatus) :
    store.reportReservation name status =
      (store.reservations.get? name).elim store (fun current =>
        { store with
          reservations := store.reservations.insert name { current with status := status } }) := by
  unfold MemoryStore.reportReservation
  cases store.reservations.get? name <;> rfl

theorem MemoryStore.reportRecordSet_eq (store : MemoryStore) (name : String)
    (status : Option DNSRecordSetStatus) :
    store.reportRecordSet name status =
      (store.recordSets.get? name).elim store (fun current =>
        { store with
          recordSets := store.recordSets.insert name { current with status := status } }) := by
  unfold MemoryStore.reportRecordSet
  cases store.recordSets.get? name <;> rfl

namespace Agree

/-- A report of others on an object of a kind that passes write, over the server and in memory. -/
theorem reports {ρ τ : Type} {type : ResourceType ρ τ} {format : Format τ}
    (agree : Agree server state store) (isChild : type.IsChild) (name : String)
    (reported : type.status = some format) {objects : Dict (Resource ρ τ)}
    (holdsAll : server.HoldsAll type state objects) (put : Dict (Resource ρ τ) → MemoryStore)
    (puts : ∀ {document resource after}, type.Holds document resource →
      server.Stores type.kind name document state after →
        Agree server after (put (objects.insert name resource)))
    (status : Option τ) :
    Agree server (server.report type.kind name (status.map format.encode) state)
      ((objects.get? name).elim store
        (fun current => put (objects.insert name { current with status := status }))) := by
  have hstored := holdsAll name
  cases hmemory : objects.get? name with
  | none =>
      rw [hmemory] at hstored
      exact agree.keeps (server.report_keeps isChild agree.sound _ hstored)
  | some current =>
      rw [hmemory] at hstored
      obtain ⟨document, holds, stores⟩ :=
        server.report_stores isChild reported agree.sound status hstored
      exact puts holds stores

theorem reportsReservation (agree : Agree server state store) (name : String)
    (status : Option IPReservationStatus) :
    Agree server
      (server.report .ipReservation name (status.map IPReservationStatus.format.encode) state)
      (store.reportReservation name status) := by
  rw [MemoryStore.reportReservation_eq]
  exact agree.reports .reservation name rfl agree.reservations
    (fun objects => { store with reservations := objects }) agree.storesReservation status

theorem reportsRecordSet (agree : Agree server state store) (name : String)
    (status : Option DNSRecordSetStatus) :
    Agree server
      (server.report .dnsRecordSet name (status.map DNSRecordSetStatus.format.encode) state)
      (store.reportRecordSet name status) := by
  rw [MemoryStore.reportRecordSet_eq]
  exact agree.reports .recordSet name rfl agree.recordSets
    (fun objects => { store with recordSets := objects }) agree.storesRecordSet status

end Agree

theorem MemoryStore.IsPlain.reportReservation (plain : store.IsPlain) (name : String)
    (status : Option IPReservationStatus) : (store.reportReservation name status).IsPlain := by
  unfold MemoryStore.reportReservation
  split
  · exact ⟨plain.faultless, plain.unserved⟩
  · exact plain

theorem MemoryStore.IsPlain.reportRecordSet (plain : store.IsPlain) (name : String)
    (status : Option DNSRecordSetStatus) : (store.reportRecordSet name status).IsPlain := by
  unfold MemoryStore.reportRecordSet
  split
  · exact ⟨plain.faultless, plain.unserved⟩
  · exact plain

/-- Where a node set and its planned nodes have valid names, all calls of its passes have. -/
theorem NodeSet.MayCall.addressed {nodeSet : NodeSet} {request : StoreCall}
    (h : nodeSet.MayCall request) (place : server.places nodeSet.place)
    (named : server.names nodeSet.name)
    (planned : ∀ node ∈ planReservations nodeSet.spec, server.names node.name) :
    server.Addresses request := by
  cases request with
  | listNetConfigs ns | listDnsServices ns =>
      have hns : ns = nodeSet.place := h
      rw [hns]
      exact place
  | upsertReservation ns name spec child | getReservation ns name =>
      obtain ⟨rfl, node, member, rfl⟩ := h
      exact ⟨place, planned node member⟩
  | upsertRecordSet ns name spec child | getRecordSet ns name =>
      obtain ⟨rfl, rfl⟩ := h
      exact ⟨place, named⟩

namespace Turn

variable {turn other : Turn}

/-- Over a server and in memory, a turn shows the same, and leaves the same objects stored. -/
theorem Like.agrees (like : turn.Like other) (addressed : turn.Addressed server.toServerView)
    (agree : Agree server state store) (plain : store.IsPlain) :
    (turn.overServer server.toServerView state).1 = (other.inMemory store).1 ∧
      Agree server (turn.overServer server.toServerView state).2 (other.inMemory store).2 ∧
        (other.inMemory store).2.IsPlain := by
  cases like with
  | reportReservation name status =>
      exact ⟨rfl, agree.reportsReservation name status, plain.reportReservation name status⟩
  | reportRecordSet name status =>
      exact ⟨rfl, agree.reportsRecordSet name status, plain.reportRecordSet name status⟩
  | @pass nodeSet updater other same now later =>
      obtain ⟨place, named, planned⟩ := addressed
      have hstep (request : StoreCall) (state : σ) (store : MemoryStore)
          (allowed : nodeSet.MayCall request)
          (related : Agree server state store ∧ store.IsPlain) (reply' : request.Reply)
          (answered : (MemoryStore.serve request store).1 = .ok reply') :
          ∃ reply, (ApiStore.serveCall server.serve request state).1 = .ok reply ∧
            request.LikeReply reply reply' ∧
              Agree server (ApiStore.serveCall server.serve request state).2
                (MemoryStore.serve request store).2 ∧
              (MemoryStore.serve request store).2.IsPlain := by
        obtain ⟨reply, hreply, hlike, hagree⟩ :=
          related.1.answers related.2 (allowed.addressed place named planned) answered
        exact ⟨reply, hreply, hlike, hagree, related.2.serve request⟩
      obtain ⟨hend, hafter, hupserts⟩ :=
        (runPass_lockstep nodeSet same now later).run (runPass_uses nodeSet other later) hstep
          (runPass_allSucceeded nodeSet other later plain.faultless) ⟨agree, plain⟩
      obtain ⟨hvalue, hstate⟩ :=
        (runPass nodeSet updater now).overApi_run server.serve state
      rw [← hvalue] at hend
      rw [← hstate] at hafter
      refine ⟨?_, hafter⟩
      simp only [overServer, inMemory, hend.result, hend.status, hupserts]

/--
Over a plain object store behind an API and over a store in memory that hold the same objects, turns
show the same, pass by pass, and leave the same objects stored.
-/
theorem turns_agree {turns others : List Turn} (alike : List.Forall₂ Like turns others)
    (addressed : ∀ turn ∈ turns, turn.Addressed server.toServerView)
    (agree : Agree server state store) (plain : store.IsPlain) :
    (takeAll (overServer server.toServerView) turns state).1 =
        (takeAll inMemory others store).1 ∧
      Agree server (takeAll (overServer server.toServerView) turns state).2
        (takeAll inMemory others store).2 := by
  induction alike generalizing state store with
  | nil => exact ⟨rfl, agree⟩
  | @cons turn other rest more like _ ih =>
      obtain ⟨hshown, hagree, hplain⟩ :=
        like.agrees (addressed turn List.mem_cons_self) agree plain
      obtain ⟨hothers, hafter⟩ :=
        ih (fun turn member => addressed turn (List.mem_cons_of_mem _ member)) hagree hplain
      simp only [takeAll, hshown, hothers]
      exact ⟨trivial, hafter⟩

end Turn

/-- A network configuration. -/
def network : NetConfig :=
  Resource.named "netconfig" {}

/-- Another network configuration. -/
def storageNetwork : NetConfig :=
  Resource.named "storage" {}

/-- A server that has nothing stored but two network configurations, each on a page of its own. -/
def networkServer : Server :=
  { objects :=
      ((∅ : ObjectTable).put ⟨"NetConfig", "openstack", "netconfig"⟩
        (Server.stamp (NetConfig.type.format.encode network) 1)).put
          ⟨"NetConfig", "openstack", "storage"⟩
          (Server.stamp (NetConfig.type.format.encode storageNetwork) 2)
    revision := 2
    pageSize := 1 }

def openstack : PlainServer Server :=
  Server.plainServer "openstack" (by decide) (by decide) (by decide)

theorem networkServer_child {kind : Kind} (isChild : kind.isChild = true) (name : String) :
    networkServer.objects.find? ⟨kind.name, "openstack", name⟩ = none := by
  have hname : kind.name ≠ "NetConfig" := by
    cases kind <;> first | decide | cases isChild
  show (((∅ : ObjectTable).put _ _).put _ _).find? _ = none
  rw [ObjectTable.find?_put, if_neg (fun same => hname (congrArg ObjectKey.kind same)),
    ObjectTable.find?_put, if_neg (fun same => hname (congrArg ObjectKey.kind same))]
  rfl

theorem networkServer_isPlain : networkServer.IsPlain "openstack" where
  faultless := rfl
  stored kind name document isChild found := by
    rw [networkServer_child isChild] at found
    cases found
  short kind _ := by
    cases kind <;> decide

/-- A store in memory with the same objects. -/
def networkStore : MemoryStore where
  netConfigs := [network, storageNetwork]

theorem networkServer_agrees : Agree openstack networkServer networkStore where
  sound := networkServer_isPlain
  reservations name := by
    have hnone : openstack.find? networkServer .ipReservation name = none :=
      networkServer_child rfl name
    show Option.Rel _ (openstack.find? networkServer .ipReservation name) none
    rw [hnone]
    exact .none
  recordSets name := by
    have hnone : openstack.find? networkServer .dnsRecordSet name = none :=
      networkServer_child rfl name
    show Option.Rel _ (openstack.find? networkServer .dnsRecordSet name) none
    rw [hnone]
    exact .none
  netConfigs := by
    have hfirst : NetConfig.type.format.decode (NetConfig.type.format.encode network) =
        .ok network := by decide
    have hsecond : NetConfig.type.format.decode (NetConfig.type.format.encode storageNetwork) =
        .ok storageNetwork := by decide
    exact .cons (Server.stamp_holds rfl hfirst 1) (.cons (Server.stamp_holds rfl hsecond 2) .nil)
  dnsServices := .nil

/-- A node set with one node. -/
def oneNode : NodeSet where
  metadata := { name := some "edpm", ns := some "openstack" }
  spec := { nodes := Dict.ofList [("edpm-0", { networks := [{ name := "ctlplane" }] })] }
  status := none

/-- The same node set, when its node asks for a second network. -/
def widerNode : NodeSet :=
  { oneNode with
    spec :=
      { nodes := Dict.ofList
          [("edpm-0", { networks := [{ name := "ctlplane" }, { name := "internalapi" }] })] } }

/-- A pass, a report of others on what it created, and a pass that asks for something else. -/
def threeTurns (now later : String) : List Turn :=
  [.pass oneNode (.ofNodeSet oneNode) now, .reportReservation "edpm-0" (some {}),
    .pass widerNode (.ofNodeSet widerNode) later]

theorem threeTurns_like (now later now' later' : String) :
    List.Forall₂ Turn.Like (threeTurns now later) (threeTurns now' later') :=
  .cons (.pass oneNode rfl now now')
    (.cons (.reportReservation "edpm-0" (some {}))
      (.cons (.pass widerNode rfl later later') .nil))

theorem edpm_addressed {nodeSet : NodeSet} (place : nodeSet.place = "openstack")
    (named : nodeSet.name = "edpm")
    (planned : (planReservations nodeSet.spec).map (·.name) = ["edpm-0"]) (now : String) :
    (Turn.pass nodeSet (.ofNodeSet nodeSet) now).Addressed openstack.toServerView := by
  refine ⟨place, ?_, fun node member => ?_⟩
  · rw [named]
    exact ⟨by decide, by decide, by decide, by decide⟩
  · have hname : node.name ∈ ["edpm-0"] := planned ▸ List.mem_map_of_mem member
    rw [List.mem_singleton.1 hname]
    exact ⟨by decide, by decide, by decide, by decide⟩

theorem threeTurns_addressed (now later : String) :
    ∀ turn ∈ threeTurns now later, turn.Addressed openstack.toServerView := by
  intro turn member
  simp only [threeTurns, List.mem_cons, List.not_mem_nil, or_false] at member
  rcases member with rfl | rfl | rfl
  · exact edpm_addressed rfl rfl (by decide) now
  · trivial
  · exact edpm_addressed rfl rfl (by decide) later

/-- The first pass creates the reservation, and the other one replaces it, in both stores. -/
theorem threeTurns_agree :
    (Turn.takeAll (Turn.overServer openstack.toServerView)
        (threeTurns "2026-01-01T00:00:00Z" "2026-01-01T00:01:00Z") networkServer).1 =
      (Turn.takeAll Turn.inMemory
        (threeTurns "2026-01-02T00:00:00Z" "2026-01-02T00:01:00Z") networkStore).1 ∧
    (Turn.takeAll Turn.inMemory (threeTurns "2026-01-02T00:00:00Z" "2026-01-02T00:01:00Z")
        networkStore).1.map (fun shown => shown.upserts.map (·.2)) =
      [[.created], [.updated]] ∧
    Agree openstack
      (Turn.takeAll (Turn.overServer openstack.toServerView)
        (threeTurns "2026-01-01T00:00:00Z" "2026-01-01T00:01:00Z") networkServer).2
      (Turn.takeAll Turn.inMemory
        (threeTurns "2026-01-02T00:00:00Z" "2026-01-02T00:01:00Z") networkStore).2 := by
  obtain ⟨hshown, hagree⟩ := Turn.turns_agree
    (threeTurns_like "2026-01-01T00:00:00Z" "2026-01-01T00:01:00Z" "2026-01-02T00:00:00Z"
      "2026-01-02T00:01:00Z")
    (threeTurns_addressed _ _) networkServer_agrees ⟨fun _ => rfl, rfl⟩
  exact ⟨hshown, by decide, hagree⟩

end NodeIdentity
