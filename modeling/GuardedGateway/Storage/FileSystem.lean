import GuardedGateway.Calendar
import GuardedGateway.Storage.Path

/-!
# A file system

What a program can see of a disk: which names there are, and what the files contain.  The two are
kept apart.  A name leads to a directory or to a file by number, and the contents are kept under
their numbers, so a file that is open can be written to after its name has been moved or removed.

Names are listed with the whole way from the root, which is always there.  A directory is moved by
moving every way that leads through it.

The disk has a clock of its own, which need not agree with that of any program.  A file keeps the
moment of its last change; moving a file does not change it.  A directory changes when a name in it
comes, goes or is moved.
-/

namespace GuardedGateway.Storage

open Calendar (Moment)

/-- The names on the way from the root. -/
abbrev Place := List String

/-- What a name leads to. -/
inductive Entry where
  | directory (modified : Moment)
  | file (number : Nat)
  deriving DecidableEq, Repr

/-- What a file contains, and since when. -/
structure File where
  content : Bytes
  modified : Moment
  deriving DecidableEq, Repr

/-- The names, the files by number, and what the clock of the disk shows. -/
structure FileSystem where
  entries : List (Place × Entry)
  files : List File
  clock : Moment
  deriving DecidableEq, Repr

namespace FileSystem

/-- A file system with nothing in it. -/
def empty (clock : Moment) : FileSystem := ⟨[([], .directory clock)], [], clock⟩

/-! ## Looking up -/

/-- What is at a place. -/
def entry? (fs : FileSystem) (place : Place) : Option Entry :=
  fs.entries.lookup place

/-- Goes from directory to directory. -/
def walk (fs : FileSystem) : Place → List String → Except Fault Place
  | here, [] => .ok here
  | here, step :: rest =>
    if step = "." then walk fs here rest
    else if step = ".." then walk fs here.dropLast rest
    else if isTooLong step then .error .nameTooLong
    else
      match fs.entry? (here ++ [step]) with
      | none => .error .notFound
      | some (.file _) => .error .notADirectory
      | some (.directory _) => walk fs (here ++ [step]) rest

/-- Where a path leads: a place, which need not be taken, and whether only a directory can be
meant. -/
structure Target where
  place : Place
  directory : Bool
  deriving DecidableEq, Repr

/-- Where a path leads.  All its steps but the last must go through directories that are there. -/
def locate (fs : FileSystem) (path : Path) : Except Fault Target :=
  match path.fault? with
  | some fault => .error fault
  | none =>
    match path.name? with
    | none => (fs.walk [] path.steps).map fun place => ⟨place, true⟩
    | some name =>
      match fs.walk [] path.steps.dropLast with
      | .error fault => .error fault
      | .ok parent =>
        if isTooLong name then .error .nameTooLong
        else .ok ⟨parent ++ [name], path.isSlashed⟩

/-- What a path leads to. -/
def stat (fs : FileSystem) (path : Path) : Except Fault Entry :=
  match fs.locate path with
  | .error fault => .error fault
  | .ok target =>
    match fs.entry? target.place with
    | none => .error .notFound
    | some (.directory modified) => .ok (.directory modified)
    | some (.file number) => if target.directory then .error .notADirectory else .ok (.file number)

/-- Whether a path leads to anything. -/
def isThere (fs : FileSystem) (path : Path) : Bool :=
  match fs.stat path with
  | .ok _ => true
  | .error _ => false

/-- Whether a path leads to a directory. -/
def isDirectory (fs : FileSystem) (path : Path) : Bool :=
  match fs.stat path with
  | .ok (.directory _) => true
  | _ => false

/-- When an entry was changed last. -/
def modified? (fs : FileSystem) : Entry → Option Moment
  | .directory modified => some modified
  | .file number => fs.files[number]?.map File.modified

/-- The content of a file. -/
def content (fs : FileSystem) (number : Nat) : Bytes :=
  (fs.files[number]?.map File.content).getD []

/-! ## Changing -/

/-- A named entry; if it is the directory at a place, it has changed at a moment. -/
def touched (place : Place) (moment : Moment) : Place × Entry → Place × Entry
  | (here, .directory modified) => (here, .directory (if here = place then moment else modified))
  | (here, .file number) => (here, .file number)

/-- Notes that a name in the directory at a place has come or gone. -/
def touch (fs : FileSystem) (place : Place) : FileSystem :=
  { fs with entries := fs.entries.map (touched place fs.clock) }

/-- Gives a new name. -/
def add (fs : FileSystem) (place : Place) (entry : Entry) : FileSystem :=
  { fs.touch place.dropLast with entries := (fs.touch place.dropLast).entries ++ [(place, entry)] }

/-- Puts a new file at a place. -/
def create (fs : FileSystem) (place : Place) (file : File) : FileSystem :=
  { fs.add place (.file fs.files.length) with files := fs.files ++ [file] }

/-- Replaces the file with a number. -/
def replace (fs : FileSystem) (number : Nat) (file : File) : FileSystem :=
  { fs with files := fs.files.set number file }

/-- Makes a directory. -/
def makeDirectory (fs : FileSystem) (path : Path) : Except Fault FileSystem :=
  match fs.locate path with
  | .error fault => .error fault
  | .ok target =>
    match fs.entry? target.place with
    | some _ => .error .alreadyExists
    | none => .ok (fs.add target.place (.directory fs.clock))

/-- Makes the first of some directories; each lies in the next one, which is made before it if it is
missing.  What has been made stays when a later one fails. -/
def makeDirectories (fs : FileSystem) : List Path → FileSystem × Except Fault Unit
  | [] => (fs, .ok ())
  | path :: before =>
    match fs.makeDirectory path with
    | .ok next => (next, .ok ())
    | .error .notFound =>
      match makeDirectories fs before with
      | (next, .error fault) => (next, .error fault)
      | (next, .ok _) =>
        match next.makeDirectory path with
        | .ok made => (made, .ok ())
        | .error fault => (next, if next.isDirectory path then .ok () else .error fault)
    | .error fault => (fs, if fs.isDirectory path then .ok () else .error fault)

/-- Opens a file for appending, and makes it if it is missing. -/
def openAppend (fs : FileSystem) (path : Path) : Except Fault (FileSystem × Nat) :=
  match fs.locate path with
  | .error fault => .error fault
  | .ok target =>
    if target.directory then .error .isADirectory
    else
      match fs.entry? target.place with
      | none => .ok (fs.create target.place ⟨[], fs.clock⟩, fs.files.length)
      | some (.directory _) => .error .isADirectory
      | some (.file number) => .ok (fs, number)

/-- Appends to an open file.  Nothing is no change. -/
def append (fs : FileSystem) (number : Nat) (bytes : Bytes) : FileSystem :=
  if bytes = [] then fs else fs.replace number ⟨fs.content number ++ bytes, fs.clock⟩

/-- Gives a file a content, and makes it if it is missing. -/
def put (fs : FileSystem) (path : Path) (content : Bytes) : Except Fault FileSystem :=
  match fs.openAppend path with
  | .error fault => .error fault
  | .ok (next, number) => .ok (next.replace number ⟨content, fs.clock⟩)

/-- Removes what a path leads to, with everything in it. -/
def remove (fs : FileSystem) (path : Path) : Except Fault FileSystem :=
  match fs.locate path with
  | .error fault => .error fault
  | .ok target =>
    match fs.entry? target.place with
    | none => .error .notFound
    | some _ =>
      let left := fs.entries.filter fun e => !target.place.isPrefixOf e.1
      .ok ({ fs with entries := left }.touch target.place.dropLast)

/-- Sets the moment of the last change of what a path leads to. -/
def date (fs : FileSystem) (path : Path) (modified : Moment) : Except Fault FileSystem :=
  match fs.locate path, fs.stat path with
  | .error fault, _ => .error fault
  | _, .error fault => .error fault
  | .ok target, .ok (.directory _) =>
    .ok { fs with entries := fs.entries.map (touched target.place modified) }
  | _, .ok (.file number) => .ok (fs.replace number ⟨fs.content number, modified⟩)

/-- The way to an entry after `source` has become `target`. -/
def moved (source target place : Place) : Place :=
  if source.isPrefixOf place then target ++ place.drop source.length else place

/-- Moves what one path leads to to another, in place of what is there.  Both must end in a name. -/
def rename (fs : FileSystem) (source target : Path) : Except Fault FileSystem :=
  match fs.locate source, fs.locate target, fs.stat source with
  | .error fault, _, _ => .error fault
  | _, .error fault, _ => .error fault
  | .ok s, .ok t, found =>
    if source.name?.isNone ∨ target.name?.isNone then .error .busy
    else
      match found with
      | .error fault => .error fault
      | .ok _ =>
        if s.place.isPrefixOf t.place then .error .intoItself
        else
          let others := fs.entries.filter fun e => !t.place.isPrefixOf e.1
          let next : FileSystem :=
            { fs with entries := others.map fun e => (moved s.place t.place e.1, e.2) }
          .ok ((next.touch s.place.dropLast).touch t.place.dropLast)

/-! ## Files keep their content

A file is changed under its number only, so what one change does is said by three laws about
`content`, and no change of a content touches a name. -/

@[simp] theorem entries_replace (fs : FileSystem) (number : Nat) (file : File) :
    (fs.replace number file).entries = fs.entries := rfl

theorem content_replace_self {fs : FileSystem} {number : Nat} (h : number < fs.files.length)
    (file : File) : (fs.replace number file).content number = file.content := by
  simp [content, replace, h]

theorem content_replace_of_ne (fs : FileSystem) {number other : Nat} (h : number ≠ other)
    (file : File) : (fs.replace number file).content other = fs.content other := by
  simp [content, replace, List.getElem?_set_ne h]

@[simp] theorem entries_append (fs : FileSystem) (number : Nat) (bytes : Bytes) :
    (fs.append number bytes).entries = fs.entries := by
  unfold append
  split <;> rfl

/-- What is appended stands behind what was there. -/
theorem content_append_self {fs : FileSystem} {number : Nat} (h : number < fs.files.length)
    (bytes : Bytes) : (fs.append number bytes).content number = fs.content number ++ bytes := by
  unfold append
  split
  · rename_i hempty
    rw [hempty, List.append_nil]
  · exact content_replace_self h _

/-- Other files do not notice. -/
theorem content_append_of_ne (fs : FileSystem) {number other : Nat} (h : number ≠ other)
    (bytes : Bytes) : (fs.append number bytes).content other = fs.content other := by
  unfold append
  split
  · rfl
  · exact content_replace_of_ne fs h _

end FileSystem

end GuardedGateway.Storage
