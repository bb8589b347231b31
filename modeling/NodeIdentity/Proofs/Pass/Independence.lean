import NodeIdentity.Proofs.Store.Interleaving

/-!
# Passes that do not interfere

The passes of two node sets share a store, and each may stop at any of its calls.  Where the node
sets have different names and plan for different nodes, neither pass looks at anything that the
other one writes.  So each goes as it would go alone, and what both leave stored does not depend on
the order of their calls.
-/

namespace NodeIdentity

open StoreScript MemoryStore

/-! ## Scopes of passes -/

/-- The objects that the passes of a node set look at: of its planned nodes, and its own. -/
def NodeSet.scope (nodeSet : NodeSet) : Scope where
  reservations name := ∃ node ∈ planReservations nodeSet.spec, node.name = name
  recordSets name := name = nodeSet.name

/-- Node sets that go by different names, and have no planned node in common. -/
structure NodeSet.Apart (first second : NodeSet) : Prop where
  names : first.name ≠ second.name
  nodes : ∀ node ∈ planReservations first.spec, ∀ other ∈ planReservations second.spec,
    node.name ≠ other.name

theorem NodeSet.Apart.symm {first second : NodeSet} (apart : first.Apart second) :
    second.Apart first :=
  ⟨apart.names.symm, fun node member other planned => (apart.nodes other planned node member).symm⟩

namespace NodeSet.MayCall

variable {nodeSet : NodeSet} {request : StoreCall}

theorem covered (h : nodeSet.MayCall request) : nodeSet.scope.Covers request := by
  cases request with
  | listNetConfigs ns | listDnsServices ns => trivial
  | upsertReservation ns name spec child | getReservation ns name => exact h.2
  | upsertRecordSet ns name spec child | getRecordSet ns name => exact h.2

/-- A pass writes within its own scope only. -/
theorem spares (h : nodeSet.MayCall request) {scope : Scope}
    (reservations : ∀ name, nodeSet.scope.reservations name → ¬ scope.reservations name)
    (recordSets : ∀ name, nodeSet.scope.recordSets name → ¬ scope.recordSets name) :
    scope.Spares request := by
  cases request with
  | upsertReservation ns name spec child => exact reservations name h.2
  | upsertRecordSet ns name spec child => exact recordSets name h.2
  | listNetConfigs ns | listDnsServices ns | getReservation ns name | getRecordSet ns name =>
      trivial

theorem spares_of_apart {other : NodeSet} (apart : nodeSet.Apart other)
    (h : other.MayCall request) : nodeSet.scope.Spares request := by
  refine h.spares ?_ ?_
  · rintro name ⟨theirs, planned, rfl⟩ ⟨node, member, same⟩
    exact apart.nodes node member theirs planned same
  · intro name theirs own
    exact apart.names (own.symm.trans theirs)

end NodeSet.MayCall

/-! ## Interleaved passes -/

section Interleavings

variable {first second : NodeSet} {firstUpdater secondUpdater : StatusUpdater}
  {firstNow secondNow : String} {store after : MemoryStore} {ends : PassEnd × PassEnd}

/-- The first of two interleaved passes ends as it does alone, and leaves the same in its scope. -/
theorem runPass_alone (apart : first.Apart second)
    (run : Interleaved serve (runPass first firstUpdater firstNow)
      (runPass second secondUpdater secondNow) store ends after) :
    ends.1 = ((runPass first firstUpdater firstNow).run serve store).1 ∧
      SameWithin first.scope after ((runPass first firstUpdater firstNow).run serve store).2 :=
  run.alone (runPass_uses first firstUpdater firstNow)
    (runPass_uses second secondUpdater secondNow)
    (fun _ _ _ allowed same => same.serve_covered allowed.covered)
    (fun _ state _ allowed same =>
      (SameWithin.serve_spared (NodeSet.MayCall.spares_of_apart apart allowed) state).trans same)
    (SameWithin.refl first.scope store)

/-- What neither scope holds is as it was before both passes. -/
theorem runPass_outside
    (run : Interleaved serve (runPass first firstUpdater firstNow)
      (runPass second secondUpdater secondNow) store ends after) :
    SameWithin
      { reservations := fun name =>
          ¬ first.scope.reservations name ∧ ¬ second.scope.reservations name
        recordSets := fun name => ¬ first.scope.recordSets name ∧ ¬ second.scope.recordSets name }
      after store := by
  refine run.keeps (fun state => SameWithin _ state store)
    (runPass_uses first firstUpdater firstNow) (runPass_uses second secondUpdater secondNow) ?_
    (SameWithin.refl _ store)
  intro request state allowed same
  refine (SameWithin.serve_spared ?_ state).trans same
  rcases allowed with allowed | allowed
  · exact allowed.spares (fun _ own outside => outside.1 own) (fun _ own outside => outside.1 own)
  · exact allowed.spares (fun _ own outside => outside.2 own) (fun _ own outside => outside.2 own)

/-- In whatever order and whenever the calls are made, the same objects are left stored. -/
theorem interleaved_objects (apart : first.Apart second)
    (run : Interleaved serve (runPass first firstUpdater firstNow)
      (runPass second secondUpdater secondNow) store ends after)
    {firstLater secondLater : String} {otherEnds : PassEnd × PassEnd} {otherAfter : MemoryStore}
    (other : Interleaved serve (runPass first firstUpdater firstLater)
      (runPass second secondUpdater secondLater) store otherEnds otherAfter) :
    after.reservations = otherAfter.reservations ∧ after.recordSets = otherAfter.recordSets := by
  have hfirst : SameWithin first.scope after otherAfter := by
    have hsame := (runPass_alone apart run).2
    rw [(runPass_anyTime first firstUpdater firstNow firstLater store).2] at hsame
    exact hsame.trans (runPass_alone apart other).2.symm
  have hsecond : SameWithin second.scope after otherAfter := by
    have hsame := (runPass_alone apart.symm run.swap).2
    rw [(runPass_anyTime second secondUpdater secondNow secondLater store).2] at hsame
    exact hsame.trans (runPass_alone apart.symm other.swap).2.symm
  have houtside := (runPass_outside run).trans (runPass_outside other).symm
  constructor
  · refine Dict.ext_get? (fun name => ?_)
    by_cases own : first.scope.reservations name
    · exact hfirst.reservations name own
    · by_cases theirs : second.scope.reservations name
      · exact hsecond.reservations name theirs
      · exact houtside.reservations name ⟨own, theirs⟩
  · refine Dict.ext_get? (fun name => ?_)
    by_cases own : first.scope.recordSets name
    · exact hfirst.recordSets name own
    · by_cases theirs : second.scope.recordSets name
      · exact hsecond.recordSets name theirs
      · exact houtside.recordSets name ⟨own, theirs⟩

end Interleavings

/--
Interleaved passes that end as on their own, with what stays stored as if one had been run behind
the other; `alone` and `otherAlone` run them on their own.
-/
structure Undisturbed (alone otherAlone : MemoryStore → PassEnd × MemoryStore)
    (store : MemoryStore) (ends : PassEnd × PassEnd) (after : MemoryStore) : Prop where
  first : ends.1.Like (alone store).1
  second : ends.2.Like (otherAlone store).1
  firstThenSecond :
    after.reservations = (otherAlone (alone store).2).2.reservations ∧
      after.recordSets = (otherAlone (alone store).2).2.recordSets
  secondThenFirst :
    after.reservations = (alone (otherAlone store).2).2.reservations ∧
      after.recordSets = (alone (otherAlone store).2).2.recordSets

/--
Passes of node sets that are apart do not interfere: however their calls are interleaved, each comes
to what it comes to alone, and what is left stored is the same.
-/
theorem passes_undisturbed {first second : NodeSet} (apart : first.Apart second)
    (firstUpdater secondUpdater : StatusUpdater)
    (firstNow secondNow firstLater secondLater : String) (store : MemoryStore)
    {ends : PassEnd × PassEnd} {after : MemoryStore}
    (run : Interleaved serve (runPass first firstUpdater firstNow)
      (runPass second secondUpdater secondNow) store ends after) :
    Undisturbed ((runPass first firstUpdater firstLater).run serve)
        ((runPass second secondUpdater secondLater).run serve) store ends after ∧
      ∀ otherEnds otherAfter,
        Interleaved serve (runPass first firstUpdater firstLater)
            (runPass second secondUpdater secondLater) store otherEnds otherAfter →
          after.reservations = otherAfter.reservations ∧
            after.recordSets = otherAfter.recordSets := by
  have hfirst := (runPass_anyTime first firstUpdater firstNow firstLater store).1
  have hsecond := (runPass_anyTime second secondUpdater secondNow secondLater store).1
  rw [← (runPass_alone apart run).1] at hfirst
  rw [← (runPass_alone apart.symm run.swap).1] at hsecond
  refine ⟨⟨hfirst, hsecond, ?_, ?_⟩, fun _ _ other => interleaved_objects apart run other⟩
  · exact interleaved_objects apart run (Interleaved.oneByOne _ _ store)
  · exact interleaved_objects apart.symm run.swap (Interleaved.oneByOne _ _ store)

/-- A node set with one node on the control network. -/
def oneNodeSet (name node : String) : NodeSet where
  metadata := { name := some name, ns := some "openstack" }
  spec := { nodes := Dict.ofList [(node, { networks := [{ name := "ctlplane" }] })] }
  status := none

/-- A store with a network configuration, on which reading record sets fails. -/
def freshStore : MemoryStore where
  netConfigs := [Resource.named "netconfig" {}]
  faults
    | .getRecordSet _ _ => some (.other "injected failure")
    | _ => none

theorem oneNodeSets_apart : (oneNodeSet "edpm" "edpm-0").Apart (oneNodeSet "edge" "edge-0") :=
  ⟨by decide, by decide⟩

/-- Two passes whose calls are made by turns, the first one each time before the second. -/
theorem oneNodeSets_undisturbed :
    let first := runPass (oneNodeSet "edpm" "edpm-0") (.ofNodeSet (oneNodeSet "edpm" "edpm-0"))
    let second := runPass (oneNodeSet "edge" "edge-0") (.ofNodeSet (oneNodeSet "edge" "edge-0"))
    ∃ ends after,
      Interleaved serve (first "2026-01-01T00:00:00Z") (second "2026-01-01T00:00:01Z") freshStore
          ends after ∧
        Undisturbed ((first "2026-01-01T00:05:00Z").run serve)
          ((second "2026-01-01T00:05:00Z").run serve) freshStore ends after := by
  intro first second
  have byTurns : ∃ ends after, Interleaved serve (first "2026-01-01T00:00:00Z")
      (second "2026-01-01T00:00:01Z") freshStore ends after :=
    ⟨_, _, .first (.second (.first (.second (.first (.second (.first (.second
      (.done _ _ _))))))))⟩
  obtain ⟨ends, after, run⟩ := byTurns
  exact ⟨ends, after, run, (passes_undisturbed oneNodeSets_apart _ _ _ _ _ _ _ run).1⟩

end NodeIdentity
