import GuardedGateway.Json.Fault
import GuardedGateway.Storage.Fault

/-!
# Why the cluster does not answer

A question to the cluster can fail because the thing asked for is not there, because the namespace
may not be read, or because the backend gives up.  Only the first is the caller's business, so it is
a constructor of its own.  Acquiring a client can fail too, for want of a readable inventory.
-/

namespace GuardedGateway.Cluster

/-- What can be missing from a namespace. -/
inductive Resource where
  | pod
  | container
  | deployment
  deriving DecidableEq, Repr

def Resource.name : Resource → String
  | .pod => "pod"
  | .container => "container"
  | .deployment => "deployment"

/-- Why no client can be had. -/
inductive Unusable where
  | pathNotSet
  | unreadable (path : String) (fault : Storage.Fault)
  | malformed (path : String) (fault : Json.Fault)
  | unavailable (reason : String)
  deriving DecidableEq, Repr

def Unusable.message : Unusable → String
  | .pathNotSet => "cluster.snapshot_path is not set"
  | .unreadable path fault => "read " ++ path ++ ": " ++ fault.message
  | .malformed path fault => "parse " ++ path ++ ": " ++ fault.message
  | .unavailable reason => reason

/-- Why the cluster does not answer. -/
inductive Fault where
  | notFound (resource : Resource) (ns name : String)
  | forbidden (ns : String)
  | config (cause : Unusable)
  | backend (reason : String)
  deriving DecidableEq, Repr

/-- The wording of a failure. -/
def Fault.message : Fault → String
  | .notFound resource ns name => resource.name ++ " " ++ ns ++ "/" ++ name ++ " not found"
  | .forbidden ns => "access to namespace " ++ ns ++ " is forbidden"
  | .config cause => "no usable cluster config: " ++ cause.message
  | .backend reason => reason

end GuardedGateway.Cluster
