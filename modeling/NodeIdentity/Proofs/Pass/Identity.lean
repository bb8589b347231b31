import NodeIdentity.Proofs.Pass.Publication
import NodeIdentity.Proofs.Pass.StatusTold

/-!
# The published identity

A pass publishes the identity that it has computed itself, or none.  However the request, the store
and the failing calls change between passes, a node set therefore carries at any time the identity
that its last pass has computed, or none.
-/

namespace NodeIdentity

open StoreScript MemoryStore

/-! ## What is computed -/

/-- The cluster addresses of the first name service, if it reports any. -/
def firstClusterAddresses : List DNSService → List String
  | [] => []
  | service :: _ => (service.status.bind (·.dnsClusterAddresses)).getD []

/--
The identity of a node set: the cluster addresses of the first name service, and the names and
addresses that its planned nodes have with what their own stored reservations report.
-/
def NodeSet.identityIn (nodeSet : NodeSet) (store : MemoryStore) : PublishedIdentity :=
  let plan := planReservations nodeSet.spec
  let records := buildDnsRecords plan (addressMap store.reservations plan)
  { dnsClusterAddresses := firstClusterAddresses store.dnsServices
    ctlplaneSearchDomain := records.searchDomain
    allHostnames := records.hostnames
    allIPs := records.ips }

/-- A status publishes something. -/
def NodeSetStatus.HasIdentity (status : NodeSetStatus) : Prop :=
  status.dnsClusterAddresses ≠ [] ∨ status.ctlplaneSearchDomain ≠ none ∨
    status.allHostnames ≠ ∅ ∨ status.allIPs ≠ ∅

/-- The pass succeeded, and host records are served. -/
def PassEnd.IsServed (ended : PassEnd) : Prop :=
  ∃ outcome, ended.result = .ok outcome ∧ outcome.dns = .ready

/-- What a pass publishes is what it has computed itself, and nothing unless records are served. -/
structure IdentityFresh (nodeSet : NodeSet) (after : MemoryStore) (ended : PassEnd) : Prop where
  published : ended.IsServed → ended.updater.status.identity = nodeSet.identityIn after
  withdrawn : ¬ ended.IsServed → ended.updater.status.identity = {}
  backed : ended.updater.status.HasIdentity →
    ended.IsServed ∧
      (∀ feature : Feature,
        IsShown ended.updater.status.conditions feature.conditionType .ready) ∧
      IsShown ended.updater.status.conditions Condition.readyType .ready ∧
      ended.updater.status.identity = nodeSet.identityIn after

theorem NodeSetStatus.not_hasIdentity {status : NodeSetStatus} (empty : status.identity = {}) :
    ¬ status.HasIdentity := by
  rintro (h | h | h | h)
  · exact h (congrArg PublishedIdentity.dnsClusterAddresses empty)
  · exact h (congrArg PublishedIdentity.ctlplaneSearchDomain empty)
  · exact h (congrArg PublishedIdentity.allHostnames empty)
  · exact h (congrArg PublishedIdentity.allIPs empty)

theorem IdentityFresh.of_withdrawn {nodeSet : NodeSet} {after : MemoryStore} {ended : PassEnd}
    (unserved : ¬ ended.IsServed) (empty : ended.updater.status.identity = {}) :
    IdentityFresh nodeSet after ended where
  published := fun served => absurd served unserved
  withdrawn := fun _ => empty
  backed := fun has => absurd has (NodeSetStatus.not_hasIdentity empty)

/-! ## One pass -/

section OnePass

variable {nodeSet : NodeSet} {store after : MemoryStore} {made : List Attempt}
  {plan : List PlannedNode} {reservations : Readiness ReservationMap}
  {dns : Readiness NetworkIdentity} {identity : NetworkIdentity}

theorem firstClusterAddresses_of_ready {services : List DNSService} {addresses : DnsAddresses}
    (ready : inspectDnsServices services = .ready addresses) :
    firstClusterAddresses services = addresses.clusterAddresses.getD [] := by
  obtain ⟨service, others, status, rfl, hstatus, -, rfl⟩ := inspectDnsServices_eq_ready.1 ready
  unfold firstClusterAddresses
  dsimp only
  rw [hstatus]
  rfl

/-- Records are served only behind addresses of nodes, and what is computed of them is handed on. -/
theorem RecordCourse.published_of_ready
    (course : RecordCourse nodeSet plan reservations store (.ok dns) after made)
    (ready : dns = .ready identity) :
    ∃ map, reservations = .ready map ∧ map.isEmpty = false ∧
      identity.published =
        { dnsClusterAddresses := firstClusterAddresses store.dnsServices
          ctlplaneSearchDomain := (buildDnsRecords plan map).searchDomain
          allHostnames := (buildDnsRecords plan map).hostnames
          allIPs := (buildDnsRecords plan map).ips } := by
  cases course with
  | unreserved unreserved => cases ready
  | withheld reserved visible withheld => exact absurd ready (withheld.ne_ready identity)
  | @published map addresses hmap reserved visible serves written readBack =>
      refine ⟨map, hmap, reserved, ?_⟩
      rw [firstClusterAddresses_of_ready serves.ready]
      unfold publishedReadiness at ready
      split at ready
      · cases ready
        rfl
      · cases ready

theorem PassCourse.published_of_ready (kept : KeptByName store.reservations)
    (course : PassCourse nodeSet store (.finished reservations dns) after made)
    (ready : dns = .ready identity) :
    (∃ map, reservations = .ready map) ∧ identity.published = nodeSet.identityIn after := by
  cases course with
  | finished first second =>
      obtain ⟨map, rfl, hreserved, hpublished⟩ := second.published_of_ready ready
      have hread := first.reservationsRead hreserved
      have hservices := second.dnsServices_unchanged.trans first.dnsServices_unchanged
      refine ⟨⟨map, rfl⟩, ?_⟩
      rw [hpublished, hread.map_eq kept, hread.plan_eq, first.dnsServices_unchanged]
      unfold NodeSet.identityIn
      rw [second.reservations_unchanged, hservices]

theorem PassEnding.isServed_iff (nodeSet : NodeSet) (updater : StatusUpdater) (now : String)
    (ending : PassEnding) :
    (ending.passEnd nodeSet updater now).IsServed ↔
      ∃ reservations identity, ending = .finished reservations (.ready identity) := by
  unfold PassEnd.IsServed
  rw [PassEnding.passEnd_result]
  constructor
  · rintro ⟨outcome, hresult, hready⟩
    cases ending with
    | reservationsFailed e => cases hresult
    | recordsFailed reservations e => cases hresult
    | finished reservations dns =>
        cases hresult
        cases dns with
        | ready identity => exact ⟨reservations, identity, rfl⟩
        | waiting => cases hready
        | notApplicable => cases hready
  · rintro ⟨reservations, identity, rfl⟩
    exact ⟨_, rfl, rfl⟩

theorem PassEnding.identity_eq_empty {ending : PassEnding}
    (unserved : ¬ ∃ reservations identity, ending = .finished reservations (.ready identity)) :
    ending.identity = {} := by
  cases ending with
  | reservationsFailed e => rfl
  | recordsFailed reservations e => rfl
  | finished reservations dns =>
      cases dns with
      | ready identity => exact absurd ⟨reservations, identity, rfl⟩ unserved
      | waiting => rfl
      | notApplicable => rfl

/-- Whatever was published before, a pass leaves what it has computed itself, or nothing. -/
theorem PassCourse.identityFresh {ending : PassEnding} (kept : KeptByName store.reservations)
    (course : PassCourse nodeSet store ending after made) (updater : StatusUpdater)
    (now : String) : IdentityFresh nodeSet after (ending.passEnd nodeSet updater now) := by
  have hidentity := ending.passEnd_identity nodeSet updater now
  by_cases served : ∃ reservations identity, ending = .finished reservations (.ready identity)
  · have hserved := (ending.isServed_iff nodeSet updater now).2 served
    obtain ⟨reservations, identity, rfl⟩ := served
    obtain ⟨⟨map, rfl⟩, hpublished⟩ := course.published_of_ready kept rfl
    have hfresh := hidentity.trans hpublished
    obtain ⟨hfirst, hsecond, hwhole⟩ :=
      PassEnding.isShown_finished nodeSet updater now (.ready map) (.ready identity)
    constructor
    case published => exact fun _ => hfresh
    case withdrawn => exact fun unserved => absurd hserved unserved
    case backed =>
      intro _
      refine ⟨hserved, ?_, hwhole, hfresh⟩
      intro feature
      cases feature with
      | ipReservation => exact hfirst
      | dnsData => exact hsecond
  · have hunserved := mt (ending.isServed_iff nodeSet updater now).1 served
    have hempty := hidentity.trans (PassEnding.identity_eq_empty served)
    exact IdentityFresh.of_withdrawn hunserved hempty

end OnePass

/-! ## Histories -/

/-- A node set, and a store in which reservations are kept under their own names. -/
structure Situation where
  nodeSet : NodeSet
  store : MemoryStore
  kept : KeptByName store.reservations

/-- A change that others make: of the request, or of what is stored and which calls fail. -/
inductive Change
  | edited (metadata : ObjectMeta) (spec : NodeSetSpec)
  | stored (store : MemoryStore) (kept : KeptByName store.reservations)

/-- What happens to a node set: passes at some times, and changes. -/
inductive Event
  | passed (now : String)
  | changed (change : Change)

namespace Situation

/-- The pass of the node set, from the status that it carries. -/
def pass (situation : Situation) (now : String) : PassEnd × MemoryStore :=
  (runPass situation.nodeSet (.ofNodeSet situation.nodeSet) now).run serve situation.store

theorem pass_fresh (situation : Situation) (now : String) :
    KeptByName (situation.pass now).2.reservations ∧
      IdentityFresh situation.nodeSet (situation.pass now).2 (situation.pass now).1 := by
  obtain ⟨ending, after, made, course⟩ :=
    PassCourse.exists_passCourse situation.nodeSet situation.store
  unfold pass
  rw [(course.runs (.ofNodeSet situation.nodeSet) now).run_eq]
  exact ⟨course.keptByName situation.kept, course.identityFresh situation.kept _ now⟩

/-- The situation after an event; a pass records the status that it has collected. -/
def step (situation : Situation) : Event → Situation
  | .passed now =>
      { nodeSet :=
          { situation.nodeSet with status := some (situation.pass now).1.updater.status }
        store := (situation.pass now).2
        kept := (situation.pass_fresh now).1 }
  | .changed (.edited metadata spec) =>
      { situation with
        nodeSet := { situation.nodeSet with metadata := metadata, spec := spec } }
  | .changed (.stored store kept) => { situation with store := store, kept := kept }

/-- The situation after a history of events. -/
def after (situation : Situation) (history : List Event) : Situation :=
  history.foldl step situation

theorem after_append (situation : Situation) (history more : List Event) :
    situation.after (history ++ more) = (situation.after history).after more :=
  List.foldl_append

theorem step_changed_status (situation : Situation) (change : Change) :
    (situation.step (.changed change)).nodeSet.status = situation.nodeSet.status := by
  cases change <;> rfl

/-- Only passes record a status. -/
theorem after_changes_status (situation : Situation) (changes : List Change) :
    (situation.after (changes.map .changed)).nodeSet.status = situation.nodeSet.status := by
  induction changes generalizing situation with
  | nil => rfl
  | cons change rest ih =>
      exact (ih (situation.step (.changed change))).trans (situation.step_changed_status change)

end Situation

/--
No stale identity is ever published.  Whatever status a node set starts with, and whatever passes
and changes there have been, the next pass publishes what it has computed itself or nothing, and
that is what the node set carries through all changes up to the pass behind it.
-/
theorem identity_never_stale (start : Situation) (history : List Event) (now : String)
    (changes : List Change) :
    let before := start.after history
    let ended := before.pass now
    let later := start.after (history ++ .passed now :: changes.map .changed)
    later.nodeSet.status = some ended.1.updater.status ∧
      IdentityFresh before.nodeSet ended.2 ended.1 := by
  dsimp only
  refine ⟨?_, ((start.after history).pass_fresh now).2⟩
  rw [Situation.after_append]
  exact ((start.after history).step (.passed now)).after_changes_status changes

/-- `edpm` where record sets are served at once, so that its first pass publishes an identity. -/
def servedEdpm : Situation where
  nodeSet := edpm
  store := { edpmStore with recordSetsServed := true }
  kept := keptByName_edpmStore

/-- The node of `edpm`, and another one that has no address yet. -/
def grownSpec : NodeSetSpec where
  nodes := Dict.ofList
    [("edpm-0", { networks := [{ name := "ctlplane" }] }),
      ("edpm-1", { networks := [{ name := "ctlplane" }] })]

/-- A pass for one node, behind which another one is asked for. -/
def grownHistory : List Event :=
  [.passed "2026-01-01T00:00:00Z", .changed (.edited edpm.metadata grownSpec)]

/-- What was published for one node is withdrawn by the first pass that awaits another one. -/
theorem grown_identity_withdrawn :
    (servedEdpm.after grownHistory).nodeSet.status.map (·.allIPs) =
        some (Dict.ofList [("edpm-0", Dict.ofList [("ctlplane", "192.168.122.100")])]) ∧
      ∃ status,
        (servedEdpm.after (grownHistory ++ [.passed "2026-01-01T00:01:00Z"])).nodeSet.status =
          some status ∧ status.identity = {} := by
  obtain ⟨hrecorded, hfresh⟩ :=
    identity_never_stale servedEdpm grownHistory "2026-01-01T00:01:00Z" []
  have hresult : ((servedEdpm.after grownHistory).pass "2026-01-01T00:01:00Z").1.result =
      .ok { reservations := .waiting, dns := .waiting, overall := .waiting } := by
    decide
  have hunserved :
      ¬ ((servedEdpm.after grownHistory).pass "2026-01-01T00:01:00Z").1.IsServed := by
    rintro ⟨outcome, succeeded, ready⟩
    rw [hresult] at succeeded
    cases succeeded
    cases ready
  exact ⟨by decide, _, hrecorded, hfresh.withdrawn hunserved⟩

end NodeIdentity
