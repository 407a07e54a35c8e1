import GuardedGateway.Storage.Fault
import GuardedGateway.Text.Bytes
import GuardedGateway.Text.Pieces

/-!
# Paths

A path is walked step by step, from one directory to the next.  A step is a name, or a point for the
directory one is in, or two points for the one above.  Slashes in a row count as one; a slash at the
end says that a directory is meant, and one in front says nothing, because every path starts at the
root.

Not every text is a path.  Before anything is looked up, an empty text is refused, and so is one with
a null character or with too many bytes.  Every slash counts there, so a path keeps its text.
-/

namespace GuardedGateway.Storage

/-- The greatest length of a name, in bytes. -/
def maxNameBytes : Nat := 255

/-- The greatest length of a path, in bytes. -/
def maxPathBytes : Nat := 4095

/-- A path, as it is spelled. -/
structure Path where
  text : String
  deriving DecidableEq, Repr

namespace Path

/-- What stands between the slashes. -/
def pieces (path : Path) : List String :=
  Text.split '/' path.text

/-- The steps of a path. -/
def steps (path : Path) : List String :=
  path.pieces.filter (· != "")

/-- Whether a path asks for a directory by a slash at the end. -/
def isSlashed (path : Path) : Bool :=
  path.text.toList.getLast? == some '/'

/-- The name at the end of a path.  The root has none, and points are none. -/
def name? (path : Path) : Option String :=
  path.steps.getLast?.filter fun step => step != "." && step != ".."

/-- Why a path cannot even be looked up. -/
def fault? (path : Path) : Option Fault :=
  if path.text = "" then some .notFound
  else if path.text.toList.contains '\x00' then some .containsNul
  else if maxPathBytes < (Text.bytes path.text).length then some .nameTooLong
  else none

/-- The paths that some pieces spell, given from the last one to the first: all of them, all but the
last, and so on.  A piece that leads nowhere does not end a path. -/
def spelled : List String → List Path
  | [] => []
  | last :: before =>
    if last = "" ∨ last = "." then spelled before
    else ⟨"/".intercalate (last :: before).reverse⟩ :: spelled before

/-- The directories on the way to what a path leads to, the nearest first. -/
def directories (path : Path) : List Path :=
  (spelled path.pieces.reverse).tail

end Path

/-- Whether a name has too many bytes. -/
def isTooLong (name : String) : Bool :=
  maxNameBytes < (Text.bytes name).length

end GuardedGateway.Storage
