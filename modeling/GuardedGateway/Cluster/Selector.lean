import GuardedGateway.Text.Pieces

/-!
# Label selectors

A selector is a comma-separated list of terms, all of which must hold.  A term asks for a value
(`app=web` or `app==web`), for its absence (`app!=web`), or only for the key (`app`).  Blanks around
keys, values and terms do not matter, and empty terms are skipped.

The operators overlap, so a term is cut at `!=` if it contains that, else at `==`, else at `=`.
-/

namespace GuardedGateway.Cluster

/-- Labels or annotations, in the order of their keys. -/
abbrev Labels := List (String × String)

/-- What a term of a selector asks of the labels. -/
inductive Requirement where
  | equals (key value : String)
  | differs (key value : String)
  | present (key : String)
  deriving DecidableEq, Repr

namespace Requirement

/-- The requirement that a trimmed term states. -/
def ofTerm (term : String) : Requirement :=
  match Text.splitOnce "!=" term with
  | some (key, value) => .differs (Text.trim key) (Text.trim value)
  | none =>
    match Text.splitOnce "==" term <|> Text.splitOnce "=" term with
    | some (key, value) => .equals (Text.trim key) (Text.trim value)
    | none => .present term

/-- Whether labels meet a requirement. -/
def holds (labels : Labels) : Requirement → Bool
  | .equals key value => labels.lookup key == some value
  | .differs key value => labels.lookup key != some value
  | .present key => (labels.lookup key).isSome

end Requirement

/-- The requirements of a selector. -/
def requirements (selector : String) : List Requirement :=
  (Text.entries selector).map Requirement.ofTerm

/-- Whether labels match a selector. -/
def matchesSelector (labels : Labels) (selector : String) : Bool :=
  (requirements selector).all (Requirement.holds labels)

end GuardedGateway.Cluster
