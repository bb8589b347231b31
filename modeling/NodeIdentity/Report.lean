import NodeIdentity.Api.Server
import NodeIdentity.Pass
import NodeIdentity.Text.FormEncoded

/-!
# Reports

The documents in which results are shown: outcomes of passes, failures, states, readiness, plans and
exchanges with a server.
-/

namespace NodeIdentity

namespace Report

/-- A text, or null. -/
def text? (text : Option String) : Json :=
  match text with
  | some text => .str text
  | none => .null

/-- A list of texts. -/
def texts (list : List String) : Json :=
  .arr (list.map .str)

/-- A value, or null. -/
def value? {α : Type} (format : Format α) (value : Option α) : Json :=
  match value with
  | some value => format.encode value
  | none => .null

end Report

/-- The format of the addresses given to every node. -/
def ReservationMap.format : Format ReservationMap :=
  .dict (.list Reservation.format)

/-- The format of texts for every node and network. -/
def NodeNetworkMap.format : Format NodeNetworkMap :=
  .dict (.dict .text)

/-- The format of planned nodes. -/
def PlannedNode.format : Format PlannedNode :=
  .record "PlannedNode" ((Fields.start PlannedNode.mk)
    |>.and (.mandatory "name" none .text PlannedNode.name)
    |>.and (.mandatory "hostname" none .text PlannedNode.hostname)
    |>.and (.defaulted "networks" none (.list NetworkAttachment.format) [] PlannedNode.networks))

/-- The format of plans. -/
def planFormat : Format (List PlannedNode) :=
  .list PlannedNode.format

/-- The report of a failed call. -/
def NetworkError.report (e : NetworkError) : Json :=
  .object
    [("error", .str e.category), ("message", .str e.message), ("kind", .str e.kind),
      ("conflict", .bool e.isConflict), ("retryable", .bool e.isRetryable)]

/-- The report of a value or a failed call. -/
def reportResult {α : Type} (report : α → Json) : Except NetworkError α → Json
  | .ok value => report value
  | .error e => e.report

/-- The report of an outcome. -/
def PassOutcome.report (outcome : PassOutcome) : Json :=
  .object
    [("reservations", .str outcome.reservations.name), ("dns", .str outcome.dns.name),
      ("overall", .str outcome.overall.name), ("waiting", .bool outcome.isWaiting),
      ("requeueAfter", .int outcome.requeueSeconds)]

/-- The report of a readiness. -/
def Readiness.report {α : Type} (report : α → Json) : Readiness α → Json
  | .ready value => .object [("readiness", .str "Ready"), ("value", report value)]
  | .waiting => .object [("readiness", .str "Waiting")]
  | .notApplicable => .object [("readiness", .str "NotApplicable")]

/-- The report of the addresses of a name service. -/
def DnsAddresses.report (addresses : DnsAddresses) : Json :=
  let list := Report.value? (.list .text)
  .object
    [("serverAddresses", list addresses.serverAddresses),
      ("clusterAddresses", list addresses.clusterAddresses),
      ("hasServerAddresses", .bool addresses.hasServerAddresses)]

/-- The report of what is published. -/
def PublishedIdentity.report (identity : PublishedIdentity) : Json :=
  .object
    [("dnsClusterAddresses", Report.texts identity.dnsClusterAddresses),
      ("ctlplaneSearchDomain", Report.text? identity.ctlplaneSearchDomain),
      ("allHostnames", NodeNetworkMap.format.encode identity.allHostnames),
      ("allIPs", NodeNetworkMap.format.encode identity.allIPs)]

/-- The report of an identity. -/
def NetworkIdentity.report (identity : NetworkIdentity) : Json :=
  .object
    [("addresses", identity.addresses.report),
      ("searchDomain", Report.text? identity.searchDomain),
      ("hostnames", NodeNetworkMap.format.encode identity.hostnames),
      ("ips", NodeNetworkMap.format.encode identity.ips),
      ("published", identity.published.report)]

/-- The report of host records. -/
def DnsRecordPlan.report (records : DnsRecordPlan) : Json :=
  .object
    [("hosts", (Format.list DNSHost.format).encode records.hosts),
      ("searchDomain", Report.text? records.searchDomain),
      ("hostnames", NodeNetworkMap.format.encode records.hostnames),
      ("ips", NodeNetworkMap.format.encode records.ips)]

/-- The report of a state. -/
def ConditionState.report (state : ConditionState) : Json :=
  .object
    [("state", .str state.name), ("status", .str state.status), ("reason", .str state.reason),
      ("severity", Report.text? state.severity), ("pending", .bool state.isPending),
      ("ipMessage", .str (Feature.ipReservation.message state)),
      ("dnsMessage", .str (Feature.dnsData.message state))]

/-- The report of what an upsert did. -/
def UpsertOutcome.report (outcome : UpsertOutcome) : Json :=
  .object [("outcome", .str outcome.name), ("wrote", .bool outcome.wrote)]

/-- The report of what a step at a server came to. -/
def StepResult.report : StepResult → Json
  | .stored revision => .object [("resourceVersion", .str (toString revision))]
  | .missing => .object [("missing", .bool true)]
  | .deleted found => .object [("deleted", .bool found)]
  | .faults count => .object [("faults", .int count)]
  | .done => .object []

/-- The code of an answer, or that there was none. -/
def ApiAnswer.report : ApiAnswer → Json
  | .response code _ => .int code
  | .unreachable _ => .str "transport failure"

/-- The report of the parameters of a request, as they stand behind its path. -/
def ApiRequest.queryReport (request : ApiRequest) : Json :=
  .object (request.query.map (fun entry => (entry.1, .str (Text.formEncoded entry.2))))

/-- The report of an exchange. -/
def Exchange.report (exchange : Exchange) : Json :=
  let request := exchange.request
  let payload : List (String × Json) :=
    match request.payload with
    | some payload => [("contentType", .str payload.contentType), ("body", payload.document)]
    | none => []
  .object
    ([("method", .str request.method.name), ("path", .str request.path),
      ("query", request.queryReport), ("answer", exchange.answer.report)] ++ payload)

end NodeIdentity
