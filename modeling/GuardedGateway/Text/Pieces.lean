import GuardedGateway.Text.Blank

/-!
# Cutting text at separators

Two ways of cutting: `pieces` at every occurrence of one character, so that `n` separators always
give `n + 1` pieces and joining the pieces gives the text back; and `cut` at the first occurrence
of a word, which keeps what stands on either side.
-/

namespace GuardedGateway.Text

/-- The pieces of a text between the occurrences of a separator.  There is always at least one. -/
def pieces (sep : Char) : List Char → List (List Char)
  | [] => [[]]
  | c :: rest =>
    if c = sep then [] :: pieces sep rest
    else
      match pieces sep rest with
      | [] => [[c]]
      | piece :: more => (c :: piece) :: more

@[simp] theorem pieces_nil (sep : Char) : pieces sep [] = [[]] := rfl

theorem pieces_cons_sep (sep : Char) (rest : List Char) :
    pieces sep (sep :: rest) = [] :: pieces sep rest := by
  simp [pieces]

theorem pieces_ne_nil (sep : Char) (text : List Char) : pieces sep text ≠ [] := by
  cases text with
  | nil => simp
  | cons c rest =>
    unfold pieces
    split
    · simp
    · split <;> simp

/-- The text before and after the first occurrence of `word`, if there is one. -/
def cut (word : List Char) : List Char → Option (List Char × List Char)
  | [] => if word.isEmpty then some ([], []) else none
  | c :: rest =>
    if word.isPrefixOf (c :: rest) then some ([], (c :: rest).drop word.length)
    else (cut word rest).map fun sides => (c :: sides.1, sides.2)

/-- The pieces of a string between the occurrences of a separator. -/
def split (sep : Char) (s : String) : List String :=
  (pieces sep s.toList).map String.ofList

/-- The sides of the first occurrence of `word` in a string. -/
def splitOnce (word s : String) : Option (String × String) :=
  (cut word.toList s.toList).map fun sides => (String.ofList sides.1, String.ofList sides.2)

/-- The entries of a comma-separated list: each piece trimmed, the empty ones dropped. -/
def entries (s : String) : List String :=
  (((pieces ',' s.toList).map trimChars).filter fun piece => !piece.isEmpty).map String.ofList

@[simp] theorem entries_empty : entries "" = [] := rfl

end GuardedGateway.Text
