/-!
# Bytes and the text they spell

A body or a file is a list of bytes.  It spells a string when it is UTF-8; `lossy` shows any bytes
at all, with U+FFFD for each run that is the beginning of a character and cannot be completed, and
`validLength` says how far one can read before the first such run.
-/

namespace GuardedGateway

/-- A run of bytes: a request body, the content of a file. -/
abbrev Bytes := List UInt8

namespace Text

/-- The UTF-8 bytes of a string. -/
def bytes (s : String) : Bytes :=
  s.toByteArray.data.toList

/-- The string with these bytes, if they are UTF-8. -/
def ofBytes? (b : Bytes) : Option String :=
  String.fromUTF8? ⟨b.toArray⟩

/-- A string is determined by its bytes. -/
theorem bytes_injective {a b : String} (h : bytes a = bytes b) : a = b := by
  have harray : a.toByteArray.data = b.toByteArray.data := Array.toList_inj.mp h
  have hbytes : a.toByteArray = b.toByteArray := by
    cases ha : a.toByteArray; cases hb : b.toByteArray; simp_all
  exact String.toByteArray_inj.mp hbytes

/-- What the first byte of a character asks of the next ones: how many follow, between which bounds
the next one lies, and the bits that the first byte contributes. -/
def lead? (b : UInt8) : Option (Nat × UInt8 × UInt8 × Nat) :=
  let n := b.toNat
  if b < 0x80 then some (0, 0x80, 0xBF, n)
  else if b < 0xC2 then none
  else if b < 0xE0 then some (1, 0x80, 0xBF, n - 0xC0)
  else if b = 0xE0 then some (2, 0xA0, 0xBF, 0)
  else if b = 0xED then some (2, 0x80, 0x9F, 0xD)
  else if b < 0xF0 then some (2, 0x80, 0xBF, n - 0xE0)
  else if b = 0xF0 then some (3, 0x90, 0xBF, 0)
  else if b = 0xF4 then some (3, 0x80, 0x8F, 4)
  else if b < 0xF4 then some (3, 0x80, 0xBF, n - 0xF0)
  else none

/-- The rest of a character of which `owed` bytes are missing, the next one between two bounds; and
the bytes after it, or after as much of it as is there. -/
def completeChar : Nat → UInt8 → UInt8 → Nat → Bytes → Char × Bytes
  | 0, _, _, n, s => (Char.ofNat n, s)
  | _ + 1, _, _, _, [] => ('\ufffd', [])
  | owed + 1, low, high, n, b :: s =>
    if low ≤ b ∧ b ≤ high then completeChar owed 0x80 0xBF (n * 64 + (b.toNat - 0x80)) s
    else ('\ufffd', b :: s)

theorem length_completeChar_le (owed : Nat) (low high : UInt8) (n : Nat) (s : Bytes) :
    (completeChar owed low high n s).2.length ≤ s.length := by
  induction owed generalizing low high n s with
  | zero => simp [completeChar]
  | succ owed ih =>
    cases s with
    | nil => simp [completeChar]
    | cons b s =>
      unfold completeChar
      split
      · have h := ih 0x80 0xBF (n * 64 + (b.toNat - 0x80)) s
        simp only [List.length_cons]
        omega
      · simp

/-- The characters that the bytes spell, with U+FFFD for what is not UTF-8. -/
def lossyChars : Bytes → List Char
  | [] => []
  | b :: s =>
    match lead? b with
    | none => '\ufffd' :: lossyChars s
    | some (owed, low, high, n) =>
      (completeChar owed low high n s).1 :: lossyChars (completeChar owed low high n s).2
termination_by s => s.length
decreasing_by
  · simp
  · have h := length_completeChar_le owed low high n s
    simp only [List.length_cons]
    omega

/-- The text that the bytes spell, with U+FFFD for what is not UTF-8. -/
def lossy (b : Bytes) : String :=
  String.ofList (lossyChars b)

/-! ## The part that is UTF-8 -/

/-- Whether the bytes go on with the `owed` bytes that a character lacks, the first of them between
two bounds. -/
def completes : Nat → UInt8 → UInt8 → Bytes → Bool
  | 0, _, _, _ => true
  | _ + 1, _, _, [] => false
  | owed + 1, low, high, b :: s => low ≤ b && b ≤ high && completes owed 0x80 0xBF s

/-- How many bytes in front spell whole characters. -/
def validLength : Bytes → Nat
  | [] => 0
  | b :: s =>
    match lead? b with
    | none => 0
    | some (owed, low, high, _) =>
      if completes owed low high s then 1 + owed + validLength (s.drop owed) else 0
termination_by s => s.length
decreasing_by
  simp only [List.length_cons, List.length_drop]
  omega

end Text

end GuardedGateway
