/-!
# Blank characters, and trimming them away

Allowlists, selectors, trace headers and settings all arrive with blanks around the words that
matter.  "Blank" is the Unicode property `White_Space`, twenty-five characters, and not the
smaller ASCII notion: a no-break space around a namespace is trimmed like an ordinary one.

`trim` is stated on lists of characters and lifted to strings, so that everything about it is a
fact about `List.dropWhile`.
-/

namespace GuardedGateway.Text

/-- The characters with the Unicode property `White_Space`. -/
def isBlank (c : Char) : Bool :=
  let n := c.toNat
  (9 ≤ n && n ≤ 13) || n == 32 || n == 0x85 || n == 0xA0 || n == 0x1680
    || (0x2000 ≤ n && n ≤ 0x200A) || n == 0x2028 || n == 0x2029 || n == 0x202F
    || n == 0x205F || n == 0x3000

/-- A list of characters without the blanks at its end. -/
def trimEnd (l : List Char) : List Char :=
  (l.reverse.dropWhile isBlank).reverse

/-- A list of characters without the blanks at either end. -/
def trimChars (l : List Char) : List Char :=
  trimEnd (l.dropWhile isBlank)

@[simp] theorem trimEnd_nil : trimEnd [] = [] := rfl

@[simp] theorem trimChars_nil : trimChars [] = [] := rfl

/-- A string without the blanks at either end. -/
def trim (s : String) : String :=
  String.ofList (trimChars s.toList)

@[simp] theorem toList_trim (s : String) : (trim s).toList = trimChars s.toList := by
  simp [trim]

end GuardedGateway.Text
