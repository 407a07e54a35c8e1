import GuardedGateway.Storage.FileSystem

/-!
# A log file for every day

Records are appended to the file at one path, and that file holds the records of one day.  On the
first write of another day the file is moved aside, under its name with the day it was opened for,
and a new one is begun.  A file that an earlier process has left is moved aside as well, under the
day of its last change.

## Nothing is overwritten

A file is moved to the first name that is free: the path with the day, the same with the time of the
move, and then the same with a number.  The names are all different, so among one more of them than
there are entries one is free.

## What a failure leaves behind

To move the file aside, the open one is given up first.  When the move fails, or the new file cannot
be opened, nothing is open, and the next write tries again: it finds the old file at the path, and
goes by the day of its last change.
-/

namespace GuardedGateway.Storage

open Calendar (Date Moment)

/-- An open file, and the day it was opened for. -/
structure ActiveFile where
  number : Nat
  day : Date
  deriving DecidableEq, Repr

/-- A log file that is begun anew every day. -/
structure RotatingFile where
  path : String
  active : Option ActiveFile
  deriving DecidableEq, Repr

/-- The name of the file of a day that is over. -/
def datedPath (path : String) (day : Date) : String :=
  path ++ "." ++ day.text

/-- The names under which a file may be moved aside, in order. -/
def candidate (target : String) (now : Moment) : Nat → String
  | 0 => target
  | 1 => target ++ "-" ++ now.clockText
  | n + 2 => target ++ "-" ++ now.clockText ++ "-" ++ toString (n + 1)

/-- The first of `candidate 0`, `candidate 1`, … that is free, among `count` of them. -/
def firstFree (taken : String → Bool) (target : String) (now : Moment) (count : Nat) :
    Option String :=
  ((List.range count).map (candidate target now)).find? fun name => !taken name

/-- What is found is free, and it is one of the candidates. -/
theorem exists_candidate_of_firstFree {taken : String → Bool} {target name : String} {now : Moment}
    {count : Nat} (h : firstFree taken target now count = some name) :
    taken name = false ∧ ∃ n < count, candidate target now n = name := by
  have hmem := List.mem_of_find?_eq_some h
  have hfree := List.find?_some h
  obtain ⟨n, hn, hname⟩ := List.mem_map.mp hmem
  exact ⟨by simpa using hfree, n, List.mem_range.mp hn, hname⟩

/-- The first name that is free for a file to be moved to. -/
def freeTarget (fs : FileSystem) (target : String) (now : Moment) : String :=
  (firstFree (fun name => fs.isThere ⟨name⟩) target now (fs.entries.length + 1)).getD target

/-- Moves what is at a path to a free name, if there is anything. -/
def moveAside (fs : FileSystem) (path target : String) (now : Moment) :
    FileSystem × Except Fault Unit :=
  match fs.stat ⟨path⟩ with
  | .error .notFound => (fs, .ok ())
  | .error fault => (fs, .error fault)
  | .ok _ =>
    match fs.rename ⟨path⟩ ⟨freeTarget fs target now⟩ with
    | .ok next => (next, .ok ())
    | .error fault => (fs, .error fault)

/-- Moves what is at a path aside if it was changed last on another day than today. -/
def moveStaleAside (fs : FileSystem) (path : String) (now : Moment) :
    FileSystem × Except Fault Unit :=
  match fs.stat ⟨path⟩ with
  | .error .notFound => (fs, .ok ())
  | .error fault => (fs, .error fault)
  | .ok entry =>
    match fs.modified? entry with
    | none => (fs, .ok ())
    | some modified =>
      if modified.date = now.date then (fs, .ok ())
      else moveAside fs path (datedPath path modified.date) now

/-- Opens the file at a path for today. -/
def openToday (fs : FileSystem) (path : String) (now : Moment) :
    FileSystem × Except Fault ActiveFile :=
  match moveStaleAside fs path now with
  | (next, .error fault) => (next, .error fault)
  | (next, .ok _) =>
    match next.openAppend ⟨path⟩ with
    | .ok (opened, number) => (opened, .ok ⟨number, now.date⟩)
    | .error fault => (next, .error fault)

namespace RotatingFile

/-- Opens the log file at a path.  The directories on the way are made. -/
def start (fs : FileSystem) (path : String) (now : Moment) :
    FileSystem × Except Fault RotatingFile :=
  match fs.makeDirectories (Path.mk path).directories with
  | (made, .error fault) => (made, .error fault)
  | (made, .ok _) =>
    match openToday made path now with
    | (next, .ok active) => (next, .ok ⟨path, some active⟩)
    | (next, .error fault) => (next, .error fault)

/-- Opens the file for today, and appends a record to it. -/
def reopenAndWrite (fs : FileSystem) (sink : RotatingFile) (now : Moment) (record : Bytes) :
    FileSystem × RotatingFile × Except Fault Unit :=
  match openToday fs sink.path now with
  | (next, .ok active) =>
    (next.append active.number record, { sink with active := some active }, .ok ())
  | (next, .error fault) => (next, { sink with active := none }, .error fault)

/-- Appends a record to the file of today. -/
def write (fs : FileSystem) (sink : RotatingFile) (now : Moment) (record : Bytes) :
    FileSystem × RotatingFile × Except Fault Unit :=
  match sink.active with
  | none => reopenAndWrite fs sink now record
  | some active =>
    if active.day = now.date then (fs.append active.number record, sink, .ok ())
    else
      match moveAside fs sink.path (datedPath sink.path active.day) now with
      | (next, .error fault) => (next, { sink with active := none }, .error fault)
      | (next, .ok _) => reopenAndWrite next sink now record

end RotatingFile

end GuardedGateway.Storage
