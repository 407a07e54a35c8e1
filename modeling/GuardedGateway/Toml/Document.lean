import GuardedGateway.Toml.Scalar

/-!
# Reading TOML documents

A document is a sequence of lines: assignments, headers, comments and nothing.  Assignments go into
the section of the last header; the section is put into the document when the next header comes or
the text ends.

Lists and inline tables may be nested to a fixed depth, and a dotted key has a fixed number of parts
at most.
-/

namespace GuardedGateway.Toml

/-- One more than the levels of nesting, and than the parts of a key. -/
def levelLimit : Nat := 80

/-- A comment up to the end of its line, or nothing to consume. -/
def skipComment : List Char → List Char
  | '#' :: s => s.dropWhile isPlain
  | s => s

/-- The text after blanks, newlines and comments that end in a newline. -/
def skipLines : Nat → List Char → List Char
  | 0, s => s
  | fuel + 1, s =>
    match newline (skipComment s) with
    | some r => skipLines fuel r
    | none =>
      match s with
      | c :: r => if isTabOrSpace c then skipLines fuel r else s
      | [] => []

/-! ## Keys -/

def isBareKey (c : Char) : Bool :=
  isDecimal c || ('a' ≤ c && c ≤ 'z') || ('A' ≤ c && c ≤ 'Z') || c == '_' || c == '-'

/-- One part of a key. -/
def keyPart : Reader String
  | '"' :: s => basicString (s.length + 1) [] s
  | '\'' :: s => literalString s
  | s =>
    let name := s.takeWhile isBareKey
    if name.isEmpty then none else some (String.ofList name, s.dropWhile isBareKey)

/-- The parts of a key, with points between them. -/
def keyParts : Nat → Reader (List String)
  | 0, _ => none
  | fuel + 1, s => do
    let (part, s) ← keyPart (skipWs s)
    match skipWs s with
    | '.' :: t => do
      let (parts, s) ← keyParts fuel t
      return (part :: parts, s)
    | t => return ([part], t)

/-- A key: the tables it leads through, and its last part. -/
def key (s : List Char) : Option ((List String × String) × List Char) := do
  let (parts, s) ← keyParts (s.length + 1) s
  if parts.length < levelLimit then
    let last ← parts.getLast?
    return ((parts.dropLast, last), s)
  else none

/-! ## Values -/

/-- The items of a list up to its closing bracket. -/
def items (inner : Reader Node) : Nat → Reader (List Node)
  | 0, _ => none
  | fuel + 1, s =>
    match skipLines s.length s with
    | ']' :: t => some ([], t)
    | t => do
      let (node, s) ← inner t
      match skipLines s.length s with
      | ',' :: t => do
        let (nodes, s) ← items inner fuel t
        return (node :: nodes, s)
      | ']' :: t => return ([node], t)
      | _ => none

/-- An assignment: a key, and a value read by `inner`. -/
def assignment (inner : Reader Node) (s : List Char) :
    Option ((List String × String × Node) × List Char) := do
  let ((path, name), s) ← key s
  let s ← literal ['='] s
  let (node, s) ← inner (skipWs s)
  return ((path, name, node), s)

/-- The entries of an inline table up to its closing brace, from its first assignment on. -/
def inlineEntries (inner : Reader Node) : Nat → Entries → Reader Entries
  | 0, _, _ => none
  | fuel + 1, entries, s => do
    let ((path, name, node), s) ← assignment inner s
    let entries ← entries.assign path name node
    match skipWs s with
    | ',' :: t => inlineEntries inner fuel entries t
    | '\x7d' :: t => return (entries, t)
    | _ => none

/-- A value; `inner` reads what a list or an inline table contains, and is absent where no further
level may be opened. -/
def valueWith (inner : Option (Reader Node)) : Reader Node := fun s =>
  match s with
  | '"' :: _ => do let (text, t) ← string s; return (.string text, t)
  | '\'' :: _ => do let (text, t) ← string s; return (.string text, t)
  | '[' :: t => do
    let (nodes, t) ← items (← inner) (t.length + 1) t
    return (.array nodes, t)
  | '\x7b' :: t => do
    let inner ← inner
    match skipWs t with
    | '\x7d' :: t => return (.table .inline [], t)
    | t => do
      let (entries, t) ← inlineEntries inner (t.length + 1) [] t
      return (.table .inline entries, t)
  | _ => bareScalar s

/-- A value in which at most `depth` levels of lists and inline tables are open at once. -/
def value : Nat → Reader Node
  | 0 => valueWith none
  | depth + 1 => valueWith (some (value depth))

/-! ## Documents -/

/-- The section that assignments go into. -/
structure Section where
  /-- Its path, and whether it is one of several; the part before the first header has no path. -/
  place : Option (List String × String × Bool)
  entries : Entries

/-- What has been read of a document. -/
structure Draft where
  root : Entries
  current : Section

namespace Draft

/-- A document of which nothing has been read. -/
def empty : Draft := ⟨[], ⟨none, []⟩⟩

/-- Puts the current section into its place. -/
def settle (draft : Draft) : Option Entries :=
  match draft.current.place with
  | none => some draft.current.entries
  | some (path, name, repeated) => do
    let node : Node := .table .header draft.current.entries
    let place (_ : Origin) (parent : Entries) : Option (Unit × Entries) :=
      if repeated then
        match parent.lookup name with
        | none => some ((), parent.put name (.tables [node]))
        | some (.tables elements) => some ((), parent.put name (.tables (elements ++ [node])))
        | some _ => none
      else some ((), parent.put name node)
    let (_, root) ← Entries.descend false place .header path draft.root
    return root

/-- Begins the section of a header.  A section may begin once, unless it was only implied before. -/
def begin (draft : Draft) (path : List String) (name : String) (repeated : Bool) :
    Option Draft := do
  let root ← draft.settle
  let find (_ : Origin) (parent : Entries) : Option (Entries × Entries) :=
    match parent.lookup name, repeated with
    | none, _ => some ([], parent)
    | some (.table .implied entries), false => some (entries, parent)
    | some (.tables _), true => some ([], parent)
    | some _, _ => none
  let (entries, root) ← Entries.descend false find .header path root
  return ⟨root, ⟨some (path, name, repeated), entries⟩⟩

/-- Adds an assignment to the current section. -/
def assign (draft : Draft) (path : List String) (name : String) (node : Node) : Option Draft := do
  let entries ← draft.current.entries.assign path name node
  return { draft with current := { draft.current with entries } }

end Draft

/-- Consumes what may stand on a line after its content, and the end of the line. -/
def endLine (s : List Char) : Option (List Char) :=
  match skipComment (skipWs s) with
  | [] => some []
  | t => newline t

/-- Consumes a header after its opening brackets. -/
def header (draft : Draft) (repeated : Bool) (s : List Char) : Option (Draft × List Char) := do
  let ((path, name), s) ← key s
  let s ← literal (if repeated then [']', ']'] else [']']) s
  let s ← endLine s
  return (← draft.begin path name repeated, s)

/-- Reads the lines of a document. -/
def readLines : Nat → Draft → List Char → Option Draft
  | 0, _, _ => none
  | fuel + 1, draft, s =>
    match skipWs s with
    | [] => some draft
    | '#' :: t => do readLines fuel draft (← endLine ('#' :: t))
    | '\n' :: t => readLines fuel draft t
    | '\r' :: t => do readLines fuel draft (← newline ('\r' :: t))
    | '[' :: '[' :: t => do
      let (draft, s) ← header draft true t
      readLines fuel draft s
    | '[' :: t => do
      let (draft, s) ← header draft false t
      readLines fuel draft s
    | t => do
      let ((path, name, node), s) ← assignment (value (levelLimit - 1)) t
      let draft ← draft.assign path name node
      readLines fuel draft (← endLine s)

/-- The document that a text spells, if it does.  A byte order mark at the start is passed over. -/
def parse? (text : String) : Option Node := do
  let s := text.toList
  let s := if s.head? = some '\ufeff' then s.drop 1 else s
  let draft ← readLines (s.length + 1) .empty s
  return .table .header (← draft.settle)

end GuardedGateway.Toml
