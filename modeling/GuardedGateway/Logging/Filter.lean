import GuardedGateway.Logging.Directive

/-!
# Filters

A filter is a list of directives, between commas.  Those that ask only where a diagnostic comes from
are settled once for each place in the program; those that ask for a span or a field depend on what
is going on.  So a filter keeps two tables, and a directive that asks for a field without a value and
without a span stands in both.

A table has at most one directive for the same scope, the last one.  Its highest level is that of all
directives that were ever added, so it does not sink when one is replaced.
-/

namespace GuardedGateway.Logging

/-- Directives in the order of their precedence, and the highest level that was added. -/
structure Table where
  directives : List Directive
  highest : Level
  deriving DecidableEq, Repr

namespace Table

/-- The table with nothing in it. -/
def empty : Table := ⟨[], .off⟩

/-- Puts a directive in its place, instead of one for the same scope. -/
def insert (directive : Directive) : List Directive → List Directive
  | [] => [directive]
  | next :: rest =>
    match directive.compare next with
    | .lt => directive :: next :: rest
    | .eq => directive :: rest
    | .gt => next :: insert directive rest

/-- Adds a directive. -/
def add (table : Table) (directive : Directive) : Table :=
  ⟨insert directive table.directives, table.highest.max directive.level⟩

/-- The table of some directives. -/
def ofList (directives : List Directive) : Table :=
  directives.foldl add empty

end Table

/-- Whether a directive depends on what is going on. -/
def Directive.isDynamic (directive : Directive) : Bool :=
  directive.span.isSome || directive.field.isSome

/-- Whether a directive can be settled from the place alone. -/
def Directive.isStatic (directive : Directive) : Bool :=
  directive.span.isNone && !directive.field.any fun field => field.value.isSome

/-- A filter. -/
structure Filter where
  statics : Table
  dynamics : Table
  deriving DecidableEq, Repr

namespace Filter

/-- The filter of some directives. -/
def ofDirectives (directives : List Directive) : Filter :=
  let dynamics := directives.filter Directive.isDynamic
  let others := directives.filter fun d => !d.isDynamic
  ⟨.ofList (others.filter Directive.isStatic ++ dynamics.filter Directive.isStatic),
    .ofList dynamics⟩

/-- The filter that a text spells.  Every directive in it must be readable; empty ones are none. -/
def ofText? (text : String) : Option Filter :=
  (((Text.pieces ',' text.toList).filter fun piece => !piece.isEmpty).mapM Directive.ofChars?).map
    ofDirectives

/-- The filter that lets everything up to a level through. -/
def ofLevel (level : Level) : Filter :=
  ofDirectives [⟨none, none, none, level⟩]

/-- The text of a filter. -/
def text (filter : Filter) : String :=
  ",".intercalate ((filter.statics.directives ++ filter.dynamics.directives).map Directive.text)

/-- The highest level that may get through.  Values of fields are not known beforehand, so a filter
that asks for one must look at everything. -/
def highest (filter : Filter) : Level :=
  let asksValue (d : Directive) : Bool := d.field.any fun field => field.value.isSome
  if filter.dynamics.directives.any asksValue then .trace
  else filter.statics.highest.max filter.dynamics.highest

/-- The filter in use: the one of the environment if it can be read, else the configured one, else
that of the level `info`. -/
def resolve (overriding : Option String) (configured : String) : Filter :=
  match overriding.bind ofText? with
  | some filter => filter
  | none => (ofText? (Text.lower (Text.trim configured))).getD (ofLevel .info)

end Filter

end GuardedGateway.Logging
