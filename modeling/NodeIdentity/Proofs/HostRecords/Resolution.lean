import NodeIdentity.Proofs.HostRecords.Assignments

/-!
# Names and addresses that are published side by side

The name that is published for a node on a network resolves to the address of the last assignment
that yields a name, and the published address is that of the last assignment of all.  They resolve
to each other where the last assignment yields a name; an address without a domain that is listed
behind a named one takes its place, and no host entry has it.
-/

namespace NodeIdentity

/-- The name that is published for a node on a network resolves to the address published there. -/
def DnsRecordPlan.Resolves (records : DnsRecordPlan) (node network : String) : Prop :=
  ∀ name, NodeNetworkMap.at? records.hostnames node network = some name →
    ∃ ip, NodeNetworkMap.at? records.ips node network = some ip ∧
      ∃ host ∈ records.hosts, host.ip = ip ∧ name ∈ host.hostnames

/-- The last of some assignments that yields a name. -/
def IsLastNamed (given : List Assignment) (one : Assignment) : Prop :=
  one.names ≠ [] ∧ ∃ before after, given = before ++ one :: after ∧
    ∀ later ∈ after, later.names = []

theorem Assignment.names_eq_nil_of_name? {given : Assignment} (h : given.name? = none) :
    given.names = [] :=
  List.getLast?_eq_none_iff.1 h

theorem Assignment.mem_names_of_name? {given : Assignment} {name : String}
    (h : given.name? = some name) : name ∈ given.names :=
  List.mem_of_getLast? h

/-- The last name that some assignments yield is that of the last assignment that yields one. -/
theorem exists_isLastNamed {given : List Assignment} {name : String}
    (h : (given.filterMap Assignment.name?).getLast? = some name) :
    ∃ one, IsLastNamed given one ∧ one.name? = some name := by
  induction given with
  | nil => cases h
  | cons first rest ih =>
      cases hrest : (rest.filterMap Assignment.name?).getLast? with
      | some later =>
          have hname : later = name := by
            rw [List.filterMap_cons] at h
            cases hfirst : first.name? with
            | none => simpa [hfirst, hrest] using h
            | some text => simpa [hfirst, List.getLast?_cons, hrest] using h
          subst hname
          obtain ⟨one, ⟨hnamed, before, after, hsplit, hafter⟩, hone⟩ := ih hrest
          exact ⟨one, ⟨hnamed, first :: before, after, by rw [hsplit]; rfl, hafter⟩, hone⟩
      | none =>
          -- Nothing behind the first assignment yields a name, so the name is its own.
          have hnone : rest.filterMap Assignment.name? = [] := List.getLast?_eq_none_iff.1 hrest
          have hfirst : first.name? = some name := by
            rw [List.filterMap_cons, hnone] at h
            cases hfirst : first.name? with
            | none => simp [hfirst] at h
            | some text => simpa [hfirst] using h
          refine ⟨first, ⟨Assignment.names_ne_nil_of_name? hfirst, [], rest, rfl, ?_⟩, hfirst⟩
          intro later hlater
          exact Assignment.names_eq_nil_of_name? (List.filterMap_eq_nil_iff.1 hnone later hlater)

/-- Where the last assignment yields a name, no earlier one is the last that does. -/
theorem IsLastNamed.eq_getLast {given : List Assignment} {one last : Assignment}
    (h : IsLastNamed given one) (hlast : given.getLast? = some last) (named : last.names ≠ []) :
    one = last := by
  obtain ⟨-, before, after, rfl, hafter⟩ := h
  cases hafterLast : after.getLast? with
  | none =>
      have hnil : after = [] := List.getLast?_eq_none_iff.1 hafterLast
      subst hnil
      simpa using hlast
  | some later =>
      have hlater : later = last := by
        simpa [List.getLast?_append, List.getLast?_cons, hafterLast] using hlast
      subst hlater
      exact absurd (hafter later (List.mem_of_getLast? hafterLast)) named

theorem IsLastNamed.mem {given : List Assignment} {one : Assignment} (h : IsLastNamed given one) :
    one ∈ given := by
  obtain ⟨-, before, after, rfl, -⟩ := h
  exact List.mem_append_right before List.mem_cons_self

section Records

variable {plan : List PlannedNode} {reservations : ReservationMap} {node network : String}

/-- An assignment that yields a name has its host entry. -/
theorem host_mem_of_name? {given : Assignment}
    (added : given ∈ assignmentsAt plan reservations node network) {name : String}
    (h : given.name? = some name) :
    { ip := given.reservation.address, hostnames := given.names } ∈
      (buildDnsRecords plan reservations).hosts := by
  rw [buildDnsRecords_hosts]
  exact List.mem_filterMap.2
    ⟨given, (List.mem_filter.1 added).1, Assignment.host?_of_name? h⟩

/-- What stands behind a name that is published for a node on a network. -/
structure PublishedBehind (plan : List PlannedNode) (reservations : ReservationMap)
    (node network name : String) (last naming : Assignment) : Prop where
  isLast : (assignmentsAt plan reservations node network).getLast? = some last
  /-- The published address is that of the last assignment, whether or not it yields a name. -/
  address : NodeNetworkMap.at? (buildDnsRecords plan reservations).ips node network =
    some last.reservation.address
  isLastNamed : IsLastNamed (assignmentsAt plan reservations node network) naming
  served : ∃ host ∈ (buildDnsRecords plan reservations).hosts,
    host.ip = naming.reservation.address ∧ name ∈ host.hostnames
  resolves : last.names ≠ [] → (buildDnsRecords plan reservations).Resolves node network
  /-- An assignment adds a host entry if it yields a name, and else none. -/
  entries : (buildDnsRecords plan reservations).hosts =
    ((assignments plan reservations).filter (·.names ≠ [])).map (fun given =>
      { ip := given.reservation.address, hostnames := given.names })

/-- The host entries are those of the assignments that yield a name, in their order. -/
theorem hosts_eq_named (plan : List PlannedNode) (reservations : ReservationMap) :
    (buildDnsRecords plan reservations).hosts =
      ((assignments plan reservations).filter (·.names ≠ [])).map (fun given =>
        { ip := given.reservation.address, hostnames := given.names }) := by
  have hentry (given : Assignment) : given.host? =
      if given.names ≠ [] then some { ip := given.reservation.address, hostnames := given.names }
      else none := by
    unfold Assignment.host?
    cases given.names <;> rfl
  rw [buildDnsRecords_hosts, ← List.filterMap_eq_map, List.filterMap_filter, funext hentry]
  simp only [decide_eq_true_eq, Function.comp_apply]

theorem exists_last_of_mem {given : List Assignment} {one : Assignment} (h : one ∈ given) :
    ∃ last, given.getLast? = some last := by
  cases hlast : given.getLast? with
  | some last => exact ⟨last, rfl⟩
  | none =>
      rw [List.getLast?_eq_none_iff.1 hlast] at h
      cases h

theorem resolves_of_last {last : Assignment}
    (isLast : (assignmentsAt plan reservations node network).getLast? = some last)
    (named : last.names ≠ []) : (buildDnsRecords plan reservations).Resolves node network := by
  intro name published
  rw [buildDnsRecords_hostnames] at published
  obtain ⟨naming, hnaming, hname⟩ := exists_isLastNamed published
  have hsame := hnaming.eq_getLast isLast named
  subst hsame
  refine ⟨naming.reservation.address, ?_, _, host_mem_of_name? hnaming.mem hname, rfl,
    Assignment.mem_names_of_name? hname⟩
  rw [buildDnsRecords_ips, isLast]
  rfl

end Records

/--
For a name that is published for a node on a network an address is published too: that of the last
assignment there.  A host entry resolves the name to the address of the last assignment that yields
a name; where the last assignment of all yields one, that is the published address.  An assignment
that yields none adds no host entry.
-/
theorem published_name_served (plan : List PlannedNode) (reservations : ReservationMap)
    (node network name : String)
    (published : NodeNetworkMap.at? (buildDnsRecords plan reservations).hostnames node network =
      some name) :
    ∃ last naming, PublishedBehind plan reservations node network name last naming := by
  rw [buildDnsRecords_hostnames] at published
  obtain ⟨naming, hnaming, hname⟩ := exists_isLastNamed published
  obtain ⟨last, hlast⟩ := exists_last_of_mem hnaming.mem
  refine ⟨last, naming, hlast, ?_, hnaming, ?_, resolves_of_last hlast,
    hosts_eq_named plan reservations⟩
  · rw [buildDnsRecords_ips, hlast]
    rfl
  · exact ⟨_, host_mem_of_name? hnaming.mem hname, rfl, Assignment.mem_names_of_name? hname⟩

/-- A node that declares a short host name. -/
def shortNamed : PlannedNode where
  name := "edpm-0"
  hostname := "edpm-0"
  networks := [{ name := "ctlplane" }]

/-- Two addresses on the control network, written in two ways, of which the second has a domain. -/
def relisted : ReservationMap :=
  (∅ : ReservationMap).insert "edpm-0"
    [{ network := "ctlplane", address := "172.20.0.10" },
      { network := "CtlPlane", address := "172.20.0.11", dnsDomain := "ctlplane.example.com" }]

theorem relisted_served :
    NodeNetworkMap.at? (buildDnsRecords [shortNamed] relisted).hostnames "edpm-0" "ctlplane" =
        some "edpm-0.ctlplane.example.com" ∧
      ∃ last naming, PublishedBehind [shortNamed] relisted "edpm-0" "ctlplane"
        "edpm-0.ctlplane.example.com" last naming := by
  have published : NodeNetworkMap.at? (buildDnsRecords [shortNamed] relisted).hostnames "edpm-0"
      "ctlplane" = some "edpm-0.ctlplane.example.com" := by
    decide +kernel
  exact ⟨published, published_name_served [shortNamed] relisted _ _ _ published⟩

/-- Two addresses on one network, of which only the first has a domain. -/
def unnamedLast : ReservationMap :=
  (∅ : ReservationMap).insert "edpm-0"
    [{ network := "ctlplane", address := "172.20.0.10", dnsDomain := "ctlplane.example.com" },
      { network := "ctlplane", address := "172.20.0.11" }]

/-- The address of the second one is published beside the name of the first, and not served. -/
theorem unnamed_address_unserved :
    ¬ (buildDnsRecords [shortNamed] unnamedLast).Resolves "edpm-0" "ctlplane" := by
  intro resolves
  have hname : NodeNetworkMap.at? (buildDnsRecords [shortNamed] unnamedLast).hostnames "edpm-0"
      "ctlplane" = some "edpm-0.ctlplane.example.com" := by
    decide +kernel
  have hip : NodeNetworkMap.at? (buildDnsRecords [shortNamed] unnamedLast).ips "edpm-0"
      "ctlplane" = some "172.20.0.11" := by
    decide +kernel
  have hhosts : ∀ host ∈ (buildDnsRecords [shortNamed] unnamedLast).hosts,
      host.ip ≠ "172.20.0.11" := by
    decide +kernel
  obtain ⟨ip, hpublished, host, hmem, hhost, -⟩ := resolves _ hname
  rw [hip] at hpublished
  cases hpublished
  exact hhosts host hmem hhost

end NodeIdentity
