import NodeIdentity.Api.Repository
import NodeIdentity.Api.Server
import NodeIdentity.Operator.Agenda

/-!
# Controller

The controller looks after the node sets of a namespace, or of all of them.  A node set is reconciled
when it is first seen, when it changes, when a child of it changes or goes, and when it is due again
after a reconciliation.  Here it runs against a server and a clock that stands still while requests
are served.  Times are in tenths of a second.
-/

namespace NodeIdentity

/-- A controller and the server that it works on. -/
structure Controller where
  /-- The namespace whose node sets are looked after; all of them if there is none. -/
  scope : Option String
  server : Server
  agenda : Agenda := []
  /-- The time. -/
  clock : Nat := 0
  /-- The requests by which changes are followed. -/
  subscriptions : List ApiRequest := []
  measurements : List Measurement := []

namespace Controller

/-- The kinds whose objects are followed. -/
def followedKinds : List Kind :=
  [.nodeSet, .ipReservation, .dnsRecordSet]

/-- How many objects a page holds at most when the objects that are there are listed. -/
def listLimit : Nat := 500

/-- How many seconds a server is asked to report changes for. -/
def watchSeconds : Nat := 290

/-- How many reconciliations are taken into account between two changes by others. -/
def passLimit : Nat := 1000000

/-- The address of the objects of a kind that are followed. -/
def address (scope : Option String) (kind : Kind) : String :=
  match scope with
  | some ns => Client.collectionPath kind ns
  | none => Client.wholePath kind

/-- The request for a page of the objects of a kind. -/
def listRequest (scope : Option String) (kind : Kind) (token : Option String) : ApiRequest where
  method := .get
  path := address scope kind
  query := (token.map (fun token => ("continue", token))).toList ++ [("limit", toString listLimit)]

/-- The request to report the changes of the objects of a kind from a version on. -/
def watchRequest (scope : Option String) (kind : Kind) (revision : Nat) : ApiRequest where
  method := .get
  path := address scope kind
  query :=
    [("allowWatchBookmarks", "true"), ("resourceVersion", toString revision),
      ("timeoutSeconds", toString watchSeconds), ("watch", "true")]

/-- Documents as they are. -/
def document : Format Json where
  schema := .dict (.text {}) {}
  encode := id
  decode := .ok

/-- List the objects of a kind. -/
def listObjects (scope : Option String) (kind : Kind) : ApiAction (List Json) :=
  Client.collectPages
    (fun token => Client.send (Client.pageFormat document) (listRequest scope kind token))
    Client.pageCountLimit none

/-- The owners that an object names. -/
def owners (object : Json) : List OwnerReference :=
  match object.path? ["metadata", "ownerReferences"] with
  | some (.arr list) => list.filterMap (fun owner => (OwnerReference.format.decode owner).toOption)
  | _ => []

/-- The node sets that an object belongs to: itself, or those that own it. -/
def concerned (object : Json) : List Place :=
  let key := ObjectKey.ofObject object
  match Kind.ofName? key.kind with
  | some .nodeSet => [⟨key.ns, key.name⟩]
  | some .ipReservation | some .dnsRecordSet =>
      ((owners object).filter (fun owner =>
        owner.apiVersion = apiVersion ∧ owner.kind = Kind.nodeSet.name)).map
          (fun owner => ⟨key.ns, owner.name⟩)
  | _ => []

/-- Whether an object is followed. -/
def follows (scope : Option String) (object : Json) : Bool :=
  match scope with
  | some ns => (ObjectKey.ofObject object).ns = ns
  | none => true

/-- Make the node sets that some objects belong to due now. -/
def notice (controller : Controller) (objects : List Json) : Controller :=
  let places := (objects.filter (follows controller.scope)).flatMap concerned
  { controller with agenda := controller.agenda.scheduleAll places controller.clock }

/-- Notice what was stored and deleted. -/
def drain (controller : Controller) : Controller :=
  let noticed := controller.notice controller.server.events
  { noticed with server := { noticed.server with events := [] } }

/-- List the objects of a kind that are there, and follow their changes from then on. -/
def follow (controller : Controller) (kind : Kind) : Controller :=
  let sent := controller.server.exchanges.length
  let (listed, server) := (listObjects controller.scope kind).run.run Server.serve controller.server
  let lists := (server.exchanges.drop sent).map (·.request)
  let followed : Controller :=
    { controller with
      server := server
      subscriptions := controller.subscriptions ++ lists ++
        [watchRequest controller.scope kind server.revision] }
  followed.notice (listed.toOption.getD [])

/-- A controller that starts on a server. -/
def start (scope : Option String) (server : Server) : Controller :=
  followedKinds.foldl follow { scope := scope, server := { server with events := [] } }

/-- The node set at a place, if there is one. -/
def nodeSetAt? (server : Server) (place : Place) : Option NodeSet :=
  (server.objects.find? ⟨Kind.nodeSet.name, place.ns, place.name⟩).bind (fun object =>
    (NodeSet.type.format.decode object).toOption)

/-- Reconcile the node set at a place, if there is one, and make it due again. -/
def reconcileAt (controller : Controller) (now : String) (place : Place) : Controller :=
  match nodeSetAt? controller.server place with
  | none => controller
  | some nodeSet =>
      let ((requeue, measured), server) :=
        (reconcileAndRequeue nodeSet now 0).run Server.serve controller.server
      let reconciled : Controller :=
        { controller with
          server := server
          agenda := controller.agenda.schedule place (controller.clock + 10 * requeue.seconds)
          measurements := controller.measurements ++ measured }
      reconciled.drain

/-- Reconcile what is due up to a time, in the order in which it is due. -/
def runUntil (now : String) (time : Nat) : Nat → Controller → Controller
  | 0, controller => controller
  | fuel + 1, controller =>
      match controller.agenda.next? with
      | none => controller
      | some entry =>
          if entry.time ≤ time then
            let begun : Controller :=
              { controller with
                agenda := controller.agenda.cancel entry.place
                clock := max controller.clock entry.time }
            runUntil now time fuel (begun.reconcileAt now entry.place)
          else controller

/-- Let others take steps, and then let some time pass. -/
def advance (controller : Controller) (now : String) (steps : List ServerStep) (tenths : Nat) :
    Controller :=
  let time := controller.clock + tenths
  let changed := { controller with server := controller.server.steps steps }.drain
  { runUntil now time passLimit changed with clock := time }

end Controller

end NodeIdentity
