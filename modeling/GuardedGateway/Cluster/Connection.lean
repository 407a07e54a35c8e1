import GuardedGateway.Cluster.Client

/-!
# Connecting to a cluster

Every call acquires a client of its own.  From a file the snapshot is read afresh each time, so a
replaced file is seen by the next call; what can go wrong is that no file is configured, that it
cannot be read, or that it does not describe a cluster.

For rehearsals a client can be disturbed: it waits before it answers, and it can be made to fail,
everywhere or in single places.
-/

namespace GuardedGateway.Cluster

/-- An attempt to acquire a client. -/
abbrev Connection := Answer Client

/-- Where an inventory is kept. -/
inductive Inventory where
  | notConfigured
  | file (path : String) (content : Except Storage.Fault Bytes)

namespace Inventory

/-- The snapshot that an inventory holds. -/
def snapshot : Inventory → Except Unusable Snapshot
  | .notConfigured => .error .pathNotSet
  | .file path (.error fault) => .error (.unreadable path fault)
  | .file path (.ok content) =>
    match Snapshot.parse content with
    | .ok snapshot => .ok snapshot
    | .error fault => .error (.malformed path fault)

/-- Connects to the cluster that an inventory describes. -/
def connect (inventory : Inventory) : Connection :=
  .now (match inventory.snapshot with
    | .ok snapshot => .ok (.ofSnapshot snapshot)
    | .error cause => .error (.config cause))

end Inventory

/-- A wait, and possibly a reason to fail after it. -/
structure Disturbance where
  delayMs : Nat
  reason : Option String
  deriving Repr, Inhabited

namespace Disturbance

/-- No disturbance. -/
def none : Disturbance := ⟨0, .none⟩

/-- An answer that is disturbed first. -/
def before {α : Type} (d : Disturbance) (fault : String → Fault) (answer : Answer α) : Answer α :=
  match d.reason with
  | some reason => (Timed.now (.error (fault reason))).later d.delayMs
  | .none => answer.later d.delayMs

end Disturbance

/-- Where a client is disturbed. -/
structure Disturbances where
  everywhere : Disturbance
  connecting : Disturbance
  listingNamespaces : Disturbance
  listingPods : List (String × Disturbance)

namespace Disturbances

/-- A client that is disturbed before each answer, first everywhere and then in its own place. -/
def client (d : Disturbances) (c : Client) : Client where
  listNamespaces :=
    d.everywhere.before .backend (d.listingNamespaces.before .backend c.listNamespaces)
  listPods ns selector :=
    let own := (d.listingPods.lookup ns).getD .none
    d.everywhere.before .backend (own.before .backend (c.listPods ns selector))
  describePod ns pod := d.everywhere.before .backend (c.describePod ns pod)
  podEvents ns pod := d.everywhere.before .backend (c.podEvents ns pod)
  podLogs ns pod container tailLines :=
    d.everywhere.before .backend (c.podLogs ns pod container tailLines)
  describeDeployment ns deployment :=
    d.everywhere.before .backend (c.describeDeployment ns deployment)

/-- Connects to a disturbed client. -/
def connect (d : Disturbances) (c : Client) : Connection :=
  d.connecting.before (fun reason => .config (.unavailable reason)) (.now (.ok (d.client c)))

end Disturbances

end GuardedGateway.Cluster
