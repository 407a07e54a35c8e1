import GuardedGateway.Json.Fault

/-!
# Reading JSON from bytes

A reader takes the bytes that are left and gives a result with the bytes left after it, or stops.
Where it stops is the number of bytes not consumed, so no reader carries a position.

## Nesting is the recursion

`value` is structural in the number of further levels that may be opened: at zero an opening bracket
is refused, at `n + 1` the contents are read with `n`.  The limit on nesting and the termination
argument are the same number.  Inside one level the items of a list and the members of an object are
read by `items` and `members`, which are handed the reader of what they contain and count the bytes
left, of which every turn consumes at least one.

## Skipping

A value that nobody asked for is skipped and not built.  `skip` checks the grammar and the letters
of escapes, and nothing about surrogates, UTF-8, the range of numbers or the depth.  It refuses some
malformed lists with another cause than `value` does, because it looks for the next value before it
looks for a comma that has nothing after it.
-/

namespace GuardedGateway.Json

/-- Reads something from the front of the bytes. -/
abbrev Reader (α : Type) := Bytes → Except Stop (α × Bytes)

/-- Stops at the next byte, which stays unread. -/
def stopHere {α : Type} (cause : Cause) (s : Bytes) : Except Stop α :=
  .error ⟨cause, s.length⟩

/-- Stops just after the next byte, if there is one. -/
def stopAfter {α : Type} (cause : Cause) (s : Bytes) : Except Stop α :=
  .error ⟨cause, s.length - 1⟩

/-- The blanks of JSON: space, tab, newline and carriage return. -/
def isSpace (b : UInt8) : Bool :=
  b == 32 || b == 10 || b == 9 || b == 13

/-- The bytes after any blanks. -/
def skipSpace (s : Bytes) : Bytes :=
  s.dropWhile isSpace

def isDigit (b : UInt8) : Bool :=
  48 ≤ b && b ≤ 57

def digitValue (b : UInt8) : Nat :=
  b.toNat - 48

/-! ## Words and strings -/

/-- Reads the rest of a fixed word. -/
def word : Bytes → Bytes → Except Stop Bytes
  | [], s => .ok s
  | _ :: _, [] => stopHere .endInValue []
  | w :: ws, b :: s => if b = w then word ws s else stopHere .expectedWord s

/-- The value of a hexadecimal digit. -/
def hexValue? (b : UInt8) : Option Nat :=
  if isDigit b then some (b.toNat - 48)
  else if 97 ≤ b ∧ b ≤ 102 then some (b.toNat - 87)
  else if 65 ≤ b ∧ b ≤ 70 then some (b.toNat - 55)
  else none

/-- The four digits of an escaped code unit. -/
def codeUnit : Reader Nat
  | a :: b :: c :: d :: s =>
    match hexValue? a, hexValue? b, hexValue? c, hexValue? d with
    | some w, some x, some y, some z => .ok (((w * 16 + x) * 16 + y) * 16 + z, s)
    | _, _, _, _ => stopHere .invalidEscape s
  | _ => stopHere .endInString []

/-- The bytes of an escape of one letter. -/
def shortEscape? (b : UInt8) : Option UInt8 :=
  if b = 34 then some 34
  else if b = 92 then some 92
  else if b = 47 then some 47
  else if b = 98 then some 8
  else if b = 102 then some 12
  else if b = 110 then some 10
  else if b = 114 then some 13
  else if b = 116 then some 9
  else none

/-- The UTF-8 bytes of a code point. -/
def codePointBytes (n : Nat) : Bytes :=
  String.utf8EncodeChar (Char.ofNat n)

/-- The second half of a pair of surrogates, after the first half `high`. -/
def lowSurrogate (high : Nat) : Reader Bytes
  | [] => stopHere .endInString []
  | 92 :: [] => stopHere .endInString []
  | 92 :: 117 :: s => do
    let (low, s) ← codeUnit s
    if 0xDC00 ≤ low ∧ low ≤ 0xDFFF then
      return (codePointBytes ((high - 0xD800) * 0x400 + (low - 0xDC00) + 0x10000), s)
    else stopHere .loneSurrogate s
  | 92 :: _ :: s => stopHere .unfinishedSurrogate s
  | _ :: s => stopHere .unfinishedSurrogate s

/-- The bytes that an escape stands for; the backslash has been consumed. -/
def escaped : Reader Bytes
  | [] => stopHere .endInString []
  | 117 :: s => do
    let (unit, s) ← codeUnit s
    if 0xDC00 ≤ unit ∧ unit ≤ 0xDFFF then stopHere .loneSurrogate s
    else if 0xD800 ≤ unit ∧ unit ≤ 0xDBFF then lowSurrogate unit s
    else return (codePointBytes unit, s)
  | b :: s =>
    match shortEscape? b with
    | some c => .ok ([c], s)
    | none => stopHere .invalidEscape s

/-- The bytes of a string, newest first, up to the closing quote, which stays unread. -/
def stringBytes : Nat → Bytes → Reader Bytes
  | 0, _, s => stopHere .endInString s
  | _ + 1, _, [] => stopHere .endInString []
  | fuel + 1, acc, b :: s =>
    if b = 34 then .ok (acc, b :: s)
    else if b = 92 then do
      let (bs, s) ← escaped s
      stringBytes fuel (bs.reverse ++ acc) s
    else if b < 32 then stopHere .controlCharacter s
    else stringBytes fuel (b :: acc) s

/-- Refuses the bytes of a string up to its closing quote.  The place is as far before the end of the
string as the first byte that is not UTF-8 is before the end of what the string stands for, so where
no escape follows it is just behind that byte. -/
def notText {α : Type} (bytes s : Bytes) : Except Stop α :=
  .error ⟨.invalidCodePoint, s.length - 1 + (bytes.length - Text.validLength bytes)⟩

/-- A string; the opening quote has been consumed. -/
def string : Reader String := fun s => do
  let (acc, s) ← stringBytes (s.length + 1) [] s
  match Text.ofBytes? acc.reverse with
  | some text => return (text, s.drop 1)
  | none => notText acc.reverse s

/-! ## Numbers -/

/-- Appends digits to a number while the result fits into 64 bits; gives the number and how many
digits were left over. -/
def absorb : Nat → Bytes → Nat × Nat
  | n, [] => (n, 0)
  | n, d :: ds =>
    if UInt64.size ≤ n * 10 + digitValue d then (n, ds.length + 1)
    else absorb (n * 10 + digitValue d) ds

/-- The value of `significand * 10 ^ exponent`, if it is finite. -/
def scaledNumber (negative : Bool) (significand : Nat) (exponent : Int) : Reader Number := fun s =>
  match Binary64.ofDecimal? negative significand exponent with
  | some x => .ok (.float x, s)
  | none => stopHere .numberOutOfRange s

/-- The largest exponent that is taken at its value. -/
def exponentLimit : Nat := (1 <<< 31) - 1

/-- An exponent; the letter has been consumed.  An exponent beyond the limit makes the number zero
or too large. -/
def exponentPart (negative : Bool) (significand : Nat) (start : Int) : Reader Number := fun s =>
  let (down, s) : Bool × Bytes :=
    match s with
    | 43 :: r => (false, r)
    | 45 :: r => (true, r)
    | r => (false, r)
  match s with
  | [] => stopHere .endInValue []
  | b :: r =>
    if isDigit b then
      let digits := s.takeWhile isDigit
      let rest := s.dropWhile isDigit
      let size := digits.foldl (fun n d => n * 10 + digitValue d) 0
      if size ≤ exponentLimit then
        scaledNumber negative significand (if down then start - size else start + size) rest
      else if significand ≠ 0 ∧ ¬ down then
        stopHere .numberOutOfRange (beyondLimit 0 s)
      else .ok (.float (Binary64.zero.withSign negative), rest)
    else stopHere .invalidNumber r
where
  /-- What follows the first digit with which the exponent passes the limit. -/
  beyondLimit : Nat → Bytes → Bytes
    | _, [] => []
    | n, d :: r =>
      if exponentLimit < n * 10 + digitValue d then r else beyondLimit (n * 10 + digitValue d) r

/-- A fraction; the point has been consumed.  `start` counts the digits before the point that did
not fit. -/
def fractionPart (negative : Bool) (significand : Nat) (start : Int) : Reader Number := fun s =>
  let digits := s.takeWhile isDigit
  let rest := s.dropWhile isDigit
  match digits, rest with
  | [], [] => stopAfter .endInValue []
  | [], _ :: _ => stopAfter .invalidNumber rest
  | _ :: _, _ =>
    let (significand', dropped) := absorb significand digits
    let exponent := start - ((digits.length - dropped : Nat) : Int)
    match rest with
    | 101 :: r => exponentPart negative significand' exponent r
    | 69 :: r => exponentPart negative significand' exponent r
    | _ => scaledNumber negative significand' exponent rest

/-- A whole number with no fraction and no exponent.  Outside 64 bits, and for a negative zero, it
is a binary64 value. -/
def wholeNumber (negative : Bool) (n : Nat) : Number :=
  if negative then
    if 0 < n ∧ n ≤ 1 <<< 63 then .int (-(n : Int))
    else .float ((Binary64.ofNat n).withSign true)
  else .int n

/-- A number; its sign has been consumed. -/
def number (negative : Bool) : Reader Number := fun s =>
  match s with
  | [] => stopHere .endInValue []
  | b :: r =>
    if isDigit b then
      let digits := if b = 48 then [b] else s.takeWhile isDigit
      let rest := if b = 48 then r else s.dropWhile isDigit
      if b = 48 && r.head?.any isDigit then stopAfter .invalidNumber r
      else
        let (significand, dropped) := absorb 0 digits
        match rest with
        | 46 :: t => fractionPart negative significand dropped t
        | 101 :: t => exponentPart negative significand dropped t
        | 69 :: t => exponentPart negative significand dropped t
        | _ =>
          if dropped = 0 then .ok (wholeNumber negative significand, rest)
          else scaledNumber negative significand dropped rest
    else stopHere .invalidNumber r

/-- A number with its sign. -/
def signedNumber : Reader Number
  | 45 :: s => number true s
  | s => number false s

/-! ## Lists and objects -/

/-- Whether another item follows in a list.  `first` holds before the first item. -/
def nextItem (first : Bool) : Reader Bool := fun s =>
  match skipSpace s with
  | [] => stopAfter .endInList []
  | b :: r =>
    if b = 93 then .ok (false, b :: r)
    else if first then .ok (true, b :: r)
    else if b = 44 then
      match skipSpace r with
      | [] => stopAfter .endInValue []
      | c :: t => if c = 93 then stopAfter .trailingComma (c :: t) else .ok (true, c :: t)
    else stopAfter .expectedCommaOrBracket (b :: r)

/-- Consumes the end of a list. -/
def closeList (s : Bytes) : Except Stop Bytes :=
  match skipSpace s with
  | [] => stopAfter .endInList []
  | b :: r =>
    if b = 93 then .ok r
    else if b = 44 then
      match skipSpace r with
      | 93 :: t => stopAfter .trailingComma (93 :: t)
      | t => stopAfter .trailingCharacters t
    else stopAfter .trailingCharacters (b :: r)

/-- The key of the next member of an object, if another member follows. -/
def nextKey (first : Bool) : Reader (Option String) := fun s =>
  match skipSpace s with
  | [] => stopAfter .endInObject []
  | b :: r =>
    if b = 125 then .ok (none, b :: r)
    else if first then
      if b = 34 then do let (key, t) ← string r; return (some key, t)
      else stopAfter .keyNotString (b :: r)
    else if b = 44 then
      match skipSpace r with
      | [] => stopAfter .endInValue []
      | c :: t =>
        if c = 34 then do let (key, u) ← string t; return (some key, u)
        else if c = 125 then stopAfter .trailingComma (c :: t)
        else stopAfter .keyNotString (c :: t)
    else stopAfter .expectedCommaOrBrace (b :: r)

/-- Consumes the colon after a key. -/
def colon (s : Bytes) : Except Stop Bytes :=
  match skipSpace s with
  | [] => stopAfter .endInObject []
  | b :: r => if b = 58 then .ok r else stopAfter .expectedColon (b :: r)

/-- Consumes the end of an object. -/
def closeObject (s : Bytes) : Except Stop Bytes :=
  match skipSpace s with
  | [] => stopAfter .endInObject []
  | b :: r =>
    if b = 125 then .ok r
    else if b = 44 then stopAfter .trailingComma (b :: r)
    else stopAfter .trailingCharacters (b :: r)

/-- The items of a list up to its end, folded from the left; the end is consumed.  The count bounds
the number of items. -/
def items {σ : Type} (item : σ → Reader σ) : Nat → Bool → σ → Reader σ
  | 0, _, _, s => stopAfter .endInList s
  | fuel + 1, first, acc, s => do
    let (more, s) ← nextItem first s
    if more then
      let (acc, s) ← item acc s
      items item fuel false acc s
    else
      let s ← closeList s
      return (acc, s)

/-- The members of an object up to its end, folded from the left; the end is consumed.  What reads a
member is given its key and starts before the colon. -/
def members {σ : Type} (member : String → σ → Reader σ) : Nat → Bool → σ → Reader σ
  | 0, _, _, s => stopAfter .endInObject s
  | fuel + 1, first, acc, s => do
    let (key, s) ← nextKey first s
    match key with
    | some key =>
      let (acc, s) ← member key acc s
      members member fuel false acc s
    | none =>
      let s ← closeObject s
      return (acc, s)

/-! ## Values -/

/-- The items of a list, newest first, each read by `inner`. -/
def listOf (inner : Reader Json) : Reader (List Json) := fun s =>
  items (fun acc s => do let (v, s) ← inner s; return (v :: acc, s)) (s.length + 1) true [] s

/-- The members of an object, each value read by `inner`. -/
def fieldsOf (inner : Reader Json) : Reader Fields := fun s =>
  members (fun key acc s => do
    let s ← colon s
    let (v, s) ← inner s
    return (Fields.put acc key v, s)) (s.length + 1) true [] s

/-- A value; `inner` reads what a list or an object contains, and is absent where no further level
may be opened. -/
def valueWith (inner : Option (Reader Json)) : Reader Json := fun s =>
  match skipSpace s with
  | [] => stopAfter .endInValue []
  | b :: r =>
    if b = 110 then do return (.null, ← word [117, 108, 108] r)
    else if b = 116 then do return (.bool true, ← word [114, 117, 101] r)
    else if b = 102 then do return (.bool false, ← word [97, 108, 115, 101] r)
    else if b = 45 || isDigit b then do let (n, t) ← signedNumber (b :: r); return (.num n, t)
    else if b = 34 then do let (text, t) ← string r; return (.str text, t)
    else if b = 91 then
      match inner with
      | none => stopAfter .nestedTooDeep (b :: r)
      | some inner => do let (vs, t) ← listOf inner r; return (.arr vs.reverse, t)
    else if b = 123 then
      match inner with
      | none => stopAfter .nestedTooDeep (b :: r)
      | some inner => do let (fs, t) ← fieldsOf inner r; return (.obj fs, t)
    else stopAfter .expectedValue (b :: r)

/-- A value in which at most `depth` levels of lists and objects are open at once. -/
def value : Nat → Reader Json
  | 0 => valueWith none
  | depth + 1 => valueWith (some (value depth))

/-- The levels of lists and objects that a text may nest. -/
def depthLimit : Nat := 127

/-- Nothing but blanks may follow. -/
def finish (s : Bytes) : Except Stop Unit :=
  match skipSpace s with
  | [] => .ok ()
  | b :: r => stopAfter .trailingCharacters (b :: r)

/-- Reads a whole text and places any refusal in it. -/
def readWith {α : Type} (reader : Reader α) (text : Bytes) : Except Fault α :=
  match (do let (v, s) ← reader text; finish s; return v : Except Stop α) with
  | .ok v => .ok v
  | .error stop => .error (stop.within text)

/-- Reads a JSON text. -/
def read (text : Bytes) : Except Fault Json :=
  readWith (value depthLimit) text

/-- Reads a JSON text without a limit on its nesting. -/
def readDeep (text : Bytes) : Except Fault Json :=
  readWith (value text.length) text

/-! ## Skipping -/

/-- Skips a string; the opening quote has been consumed. -/
def skipString : Nat → Bytes → Except Stop Bytes
  | 0, s => stopHere .endInString s
  | _ + 1, [] => stopHere .endInString []
  | fuel + 1, b :: s =>
    if b = 34 then .ok s
    else if b = 92 then
      match s with
      | [] => stopHere .endInString []
      | 117 :: t => do let (_, t) ← codeUnit t; skipString fuel t
      | c :: t => if (shortEscape? c).isSome then skipString fuel t else stopHere .invalidEscape t
    else if b < 32 then stopHere .controlCharacter (b :: s)
    else skipString fuel s

/-- Skips an exponent; the letter has been consumed. -/
def skipExponent (s : Bytes) : Except Stop Bytes :=
  let s := match s with
    | 43 :: r => r
    | 45 :: r => r
    | r => r
  match s with
  | [] => stopHere .invalidNumber []
  | b :: r => if isDigit b then .ok (r.dropWhile isDigit) else stopHere .invalidNumber r

/-- Skips what may follow the digits of a number. -/
def skipNumberEnd (s : Bytes) : Except Stop Bytes :=
  match s with
  | 46 :: r =>
    if r.head?.any isDigit then
      match r.dropWhile isDigit with
      | 101 :: t => skipExponent t
      | 69 :: t => skipExponent t
      | t => .ok t
    else stopAfter .invalidNumber r
  | 101 :: r => skipExponent r
  | 69 :: r => skipExponent r
  | r => .ok r

/-- Skips a number; its sign has been consumed. -/
def skipNumber (s : Bytes) : Except Stop Bytes :=
  match s with
  | [] => stopHere .invalidNumber []
  | b :: r =>
    if b = 48 then
      if r.head?.any isDigit then stopAfter .invalidNumber r else skipNumberEnd r
    else if isDigit b then skipNumberEnd (r.dropWhile isDigit)
    else stopHere .invalidNumber r

/-- Skips the items of a list after an item, up to its end. -/
def skipItems (inner : Bytes → Except Stop Bytes) : Nat → Bytes → Except Stop Bytes
  | 0, s => stopAfter .endInList s
  | fuel + 1, s =>
    match skipSpace s with
    | [] => stopAfter .endInList []
    | b :: r =>
      if b = 93 then .ok r
      else if b = 44 then do skipItems inner fuel (← inner r)
      else stopAfter .expectedCommaOrBracket (b :: r)

/-- Skips one member of an object, from its key on. -/
def skipMember (inner : Bytes → Except Stop Bytes) (s : Bytes) : Except Stop Bytes :=
  match skipSpace s with
  | [] => stopAfter .endInObject []
  | b :: r =>
    if b = 34 then do
      let s ← skipString (r.length + 1) r
      let s ← colon s
      inner s
    else stopAfter .keyNotString (b :: r)

/-- Skips the members of an object after a member, up to its end. -/
def skipMembers (inner : Bytes → Except Stop Bytes) : Nat → Bytes → Except Stop Bytes
  | 0, s => stopAfter .endInObject s
  | fuel + 1, s =>
    match skipSpace s with
    | [] => stopAfter .endInObject []
    | b :: r =>
      if b = 125 then .ok r
      else if b = 44 then do skipMembers inner fuel (← skipMember inner r)
      else stopAfter .expectedCommaOrBrace (b :: r)

/-- Skips a value with at most `depth` levels of lists and objects. -/
def skip : Nat → Bytes → Except Stop Bytes
  | 0, s => stopAfter .endInValue s
  | depth + 1, s =>
    match skipSpace s with
    | [] => stopAfter .endInValue []
    | b :: r =>
      if b = 110 then word [117, 108, 108] r
      else if b = 116 then word [114, 117, 101] r
      else if b = 102 then word [97, 108, 115, 101] r
      else if b = 45 then skipNumber r
      else if isDigit b then skipNumber (b :: r)
      else if b = 34 then skipString (r.length + 1) r
      else if b = 91 then
        match skipSpace r with
        | [] => stopAfter .endInList []
        | c :: t =>
          if c = 93 then .ok t else do skipItems (skip depth) (t.length + 1) (← skip depth (c :: t))
      else if b = 123 then
        match skipSpace r with
        | [] => stopAfter .endInObject []
        | c :: t =>
          if c = 125 then .ok t
          else do skipMembers (skip depth) (t.length + 1) (← skipMember (skip depth) (c :: t))
      else stopAfter .expectedValue (b :: r)

/-- Skips a value, however deep it is. -/
def skipValue (s : Bytes) : Except Stop Bytes :=
  skip (s.length + 1) s

end GuardedGateway.Json
