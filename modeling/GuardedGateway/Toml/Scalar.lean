import GuardedGateway.Numeric.Binary64
import GuardedGateway.Text.Hex
import GuardedGateway.Text.Number
import GuardedGateway.Toml.Node

/-!
# Scalars of TOML

Strings in four notations, integers in four bases, floating point numbers, booleans, dates and times.
Every reader consumes the front of a text and gives what it read with the rest, or refuses.

A value that can be read in two ways is a date before it is a floating point number, and that before
it is an integer.
-/

namespace GuardedGateway.Toml

/-- Reads something from the front of a text. -/
abbrev Reader (α : Type) := List Char → Option (α × List Char)

/-- Consumes a given word. -/
def literal (word : List Char) (s : List Char) : Option (List Char) :=
  if word.isPrefixOf s then some (s.drop word.length) else none

/-- Whether a character may stand in a comment or a string as it is: the tab, and everything that is
not a control character. -/
def isPlain (c : Char) : Bool :=
  c == '\t' || (0x20 ≤ c.toNat && c.toNat != 0x7F)

/-- Consumes a newline. -/
def newline : List Char → Option (List Char)
  | '\n' :: s => some s
  | '\r' :: '\n' :: s => some s
  | _ => none

def isTabOrSpace (c : Char) : Bool :=
  c == ' ' || c == '\t'

/-- The text after any tabs and spaces. -/
def skipWs (s : List Char) : List Char :=
  s.dropWhile isTabOrSpace

/-! ## Strings -/

/-- The character with a code, if there is one. -/
def charOfCode? (n : Nat) : Option Char :=
  if n < 0xD800 ∨ (0xDFFF < n ∧ n < 0x110000) then some (Char.ofNat n) else none

/-- The value of a hexadecimal digit in either case. -/
def hexValue? (c : Char) : Option Nat :=
  if 'A' ≤ c ∧ c ≤ 'F' then some (c.toNat - 55) else Text.hexDigitValue? c

/-- The character whose code stands in `width` hexadecimal digits. -/
def codeEscape (width : Nat) (s : List Char) : Option (Char × List Char) := do
  let digits := s.take width
  if digits.length = width then
    let n ← digits.foldlM (fun n d => (hexValue? d).map (n * 16 + ·)) 0
    return (← charOfCode? n, s.drop width)
  else none

/-- The character that an escape stands for; the backslash has been consumed. -/
def escape : Reader Char
  | 'b' :: s => some ('\x08', s)
  | 'f' :: s => some ('\x0c', s)
  | 'n' :: s => some ('\n', s)
  | 'r' :: s => some ('\r', s)
  | 't' :: s => some ('\t', s)
  | '"' :: s => some ('"', s)
  | '\\' :: s => some ('\\', s)
  | 'u' :: s => codeEscape 4 s
  | 'U' :: s => codeEscape 8 s
  | _ => none

/-- A string up to its closing quote; the opening one has been consumed. -/
def basicString : Nat → List Char → Reader String
  | 0, _, _ => none
  | _ + 1, _, [] => none
  | fuel + 1, acc, c :: s =>
    if c = '"' then some (String.ofList acc.reverse, s)
    else if c = '\\' then do
      let (d, s) ← escape s
      basicString fuel (d :: acc) s
    else if isPlain c then basicString fuel (c :: acc) s
    else none

/-- A string without escapes, up to its closing quote; the opening one has been consumed. -/
def literalString (s : List Char) : Option (String × List Char) :=
  let body := s.takeWhile fun c => isPlain c && c != '\''
  match s.dropWhile fun c => isPlain c && c != '\'' with
  | '\'' :: rest => some (String.ofList body, rest)
  | _ => none

/-- Three or more quotes end a string of several lines.  Up to two of them belong to it. -/
def closing (quote : Char) (s : List Char) : Option (List Char × List Char) :=
  let run := s.takeWhile (· == quote)
  if run.length < 3 then none
  else
    let own := min (run.length - 3) 2
    some (List.replicate own quote, s.drop (own + 3))

/-- The text after any tabs, spaces and newlines. -/
def skipBlank : Nat → List Char → List Char
  | 0, s => s
  | fuel + 1, s =>
    match newline s with
    | some r => skipBlank fuel r
    | none =>
      match s with
      | c :: r => if isTabOrSpace c then skipBlank fuel r else s
      | [] => []

/-- A string of several lines; the opening quotes have been consumed.  Without escapes the quote is
the apostrophe. -/
def longString (quote : Char) : Nat → List Char → Reader String
  | 0, _, _ => none
  | fuel + 1, acc, s =>
    match closing quote s with
    | some (own, rest) => some (String.ofList (acc.reverse ++ own), rest)
    | none =>
      match newline s with
      | some rest => longString quote fuel ('\n' :: acc) rest
      | none =>
        match s with
        | [] => none
        | c :: rest =>
          if c = '\\' ∧ quote = '"' then
            match newline (skipWs rest) with
            | some after => longString quote fuel acc (skipBlank after.length after)
            | none => do
              let (d, rest) ← escape rest
              longString quote fuel (d :: acc) rest
          else if isPlain c then longString quote fuel (c :: acc) rest
          else none

/-- The text after the newline with which it may begin. -/
def dropNewline (s : List Char) : List Char :=
  (newline s).getD s

/-- A string in any notation. -/
def string : Reader String
  | '"' :: '"' :: '"' :: s => longString '"' (s.length + 1) [] (dropNewline s)
  | '"' :: s => basicString (s.length + 1) [] s
  | '\'' :: '\'' :: '\'' :: s => longString '\'' (s.length + 1) [] (dropNewline s)
  | '\'' :: s => literalString s
  | _ => none

/-! ## Numbers -/

/-- The digits of a run in which single underscores may stand between digits. -/
def digitRun (isDigit : Char → Bool) : Nat → List Char → Option (List Char × List Char)
  | 0, _ => none
  | _ + 1, [] => none
  | fuel + 1, c :: s =>
    if isDigit c then
      match s with
      | '_' :: t => do
        let (ds, rest) ← digitRun isDigit fuel t
        return (c :: ds, rest)
      | d :: t =>
        if isDigit d then do
          let (ds, rest) ← digitRun isDigit fuel (d :: t)
          return (c :: ds, rest)
        else some ([c], d :: t)
      | [] => some ([c], [])
    else none

def isDecimal (c : Char) : Bool :=
  (Text.digit? c).isSome

/-- The sign of a number. -/
def sign : List Char → Bool × List Char
  | '-' :: s => (true, s)
  | '+' :: s => (false, s)
  | s => (false, s)

/-- The digits of a whole number: a zero alone, or a run that does not begin with one. -/
def wholeDigits (s : List Char) : Option (List Char × List Char) :=
  match s with
  | '0' :: rest => some (['0'], rest)
  | _ => digitRun isDecimal (s.length + 1) s

/-- The number that digits of a base denote. -/
def ofDigits (base : Nat) (digits : List Char) : Nat :=
  digits.foldl (fun n d => n * base + (hexValue? d).getD 0) 0

/-- A whole number in another base; what marks the base has been consumed. -/
def based (base : Nat) (s : List Char) : Option (Int × List Char) := do
  let isDigit (c : Char) : Bool := (hexValue? c).any (· < base)
  let (digits, rest) ← digitRun isDigit (s.length + 1) s
  let n := ofDigits base digits
  if n < 1 <<< 63 then some ((n : Int), rest) else none

/-- A whole number of 64 bits. -/
def integer : Reader Int
  | '0' :: 'x' :: s => based 16 s
  | '0' :: 'o' :: s => based 8 s
  | '0' :: 'b' :: s => based 2 s
  | s => do
    let (negative, t) := sign s
    let (digits, rest) ← wholeDigits t
    let n := ofDigits 10 digits
    if negative then
      if n ≤ 1 <<< 63 then some (-(n : Int), rest) else none
    else if n < 1 <<< 63 then some ((n : Int), rest)
    else none

/-- The digits after a point. -/
def fraction : Reader (List Char)
  | '.' :: s => digitRun isDecimal (s.length + 1) s
  | _ => none

/-- An exponent. -/
def exponent (s : List Char) : Option (Int × List Char) :=
  match s with
  | c :: s =>
    if c = 'e' ∨ c = 'E' then do
      let (negative, t) := sign s
      let (digits, rest) ← digitRun isDecimal (t.length + 1) t
      let n : Int := ofDigits 10 digits
      return (if negative then -n else n, rest)
    else none
  | [] => none

/-- Whether `digits * 10 ^ scale` rounds to a finite binary64 value. -/
def isFinite (digits : Nat) (scale : Int) : Bool :=
  let size : Int := (toString digits).length
  if digits = 0 ∨ size + scale ≤ 308 then true
  else if 309 < size + scale then false
  else
    match scale with
    | .ofNat k => (Binary64.nearest? (digits * Nat.pow 10 k) 1).isSome
    | .negSucc k => (Binary64.nearest? digits (Nat.pow 10 (k + 1))).isSome

/-- A floating point number: infinity, a value that is no number, or digits with a fraction or an
exponent.  Positive digits that are too large are refused. -/
def float (s : List Char) : Option (List Char) :=
  let (negative, t) := sign s
  match literal ['i', 'n', 'f'] t <|> literal ['n', 'a', 'n'] t with
  | some rest => some rest
  | none => do
    let (whole, rest) ← wholeDigits t
    let (decimals, rest, pointed) := match fraction rest with
      | some (decimals, rest) => (decimals, rest, true)
      | none => ([], rest, false)
    let (power, rest, powered) := match exponent rest with
      | some (power, rest) => (power, rest, true)
      | none => (0, rest, false)
    if ¬ pointed ∧ ¬ powered then none
    else if negative ∨ isFinite (ofDigits 10 (whole ++ decimals)) (power - decimals.length) then
      some rest
    else none

/-! ## Dates and times -/

/-- A number of exactly `width` digits, from `low` to `high`. -/
def fixedNumber (width low high : Nat) (s : List Char) : Option (Nat × List Char) := do
  let digits := s.take width
  if digits.length = width ∧ digits.all isDecimal ∧ low ≤ ofDigits 10 digits ∧
      ofDigits 10 digits ≤ high then
    return (ofDigits 10 digits, s.drop width)
  else none

/-- The number of days of a month. -/
def daysInMonth (year month : Nat) : Nat :=
  if month = 2 then
    if year % 4 = 0 ∧ (year % 100 ≠ 0 ∨ year % 400 = 0) then 29 else 28
  else if month ∈ [4, 6, 9, 11] then 30
  else 31

/-- A date. -/
def date (s : List Char) : Option (List Char) := do
  let (year, s) ← fixedNumber 4 0 9999 s
  let (month, s) ← fixedNumber 2 1 12 (← literal ['-'] s)
  let (_, s) ← fixedNumber 2 1 (daysInMonth year month) (← literal ['-'] s)
  return s

/-- A time of day. -/
def timeOfDay (s : List Char) : Option (List Char) := do
  let (_, s) ← fixedNumber 2 0 23 s
  let (_, s) ← fixedNumber 2 0 59 (← literal [':'] s)
  let (_, s) ← fixedNumber 2 0 60 (← literal [':'] s)
  match s with
  | '.' :: t => if t.head?.any isDecimal then return t.dropWhile isDecimal else none
  | _ => return s

/-- How far a time is from universal time; nothing is consumed where it does not say. -/
def timeOffset (s : List Char) : List Char :=
  let shifted : Option (List Char) := do
    let s ← literal ['+'] s <|> literal ['-'] s
    let (_, s) ← fixedNumber 2 0 23 s
    let (_, s) ← fixedNumber 2 0 59 (← literal [':'] s)
    return s
  match s with
  | 'Z' :: rest => rest
  | 'z' :: rest => rest
  | _ => shifted.getD s

/-- What may stand between a date and a time. -/
def timeMark : List Char → Option (List Char)
  | 'T' :: s => some s
  | 't' :: s => some s
  | ' ' :: s => some s
  | _ => none

/-- A date, a time, or both. -/
def datetime (s : List Char) : Option (List Char) :=
  match date s with
  | some rest =>
    match (timeMark rest).bind timeOfDay with
    | some after => some (timeOffset after)
    | none => some rest
  | none => timeOfDay s

/-- A scalar that begins with a sign, a digit or a letter. -/
def bareScalar (s : List Char) : Option (Node × List Char) :=
  match datetime s with
  | some rest => some (.datetime (String.ofList (s.take (s.length - rest.length))), rest)
  | none =>
    match float s with
    | some rest => some (.float, rest)
    | none =>
      match integer s with
      | some (n, rest) => some (.integer n, rest)
      | none =>
        match literal ['t', 'r', 'u', 'e'] s with
        | some rest => some (.boolean true, rest)
        | none => (literal ['f', 'a', 'l', 's', 'e'] s).map fun rest => (.boolean false, rest)

end GuardedGateway.Toml
