import InteropBridge.Log.Directive

/-!
# Filters

A filter is a set of directives, at most one for each subject.  It starts with
the configured level for every event; the pieces of a filter text then add
their directives in order, a later one taking the place of an earlier one on
the same subject.  The most specific directive about an event decides whether
the event is written.
-/

namespace InteropBridge.Log

/-- The directives of a filter that can be decided from an event alone. -/
structure Filter where
  directives : List Directive
  deriving DecidableEq

namespace Filter

/-- Adds a directive in the place of any other on its subject.  Directives
that wait for a span are left out: no event of the bridge stands in one. -/
def add (filter : Filter) (directive : Directive) : Filter :=
  if directive.isStatic then
    ⟨directive :: filter.directives.filter (!·.sameSubject directive)⟩
  else filter

/-- The directive that decides about an event. -/
def deciding? (filter : Filter) (event : Event) : Option Directive :=
  (filter.directives.filter (·.isAbout event)).foldl
    (fun best directive => match best with
      | none => some directive
      | some other => if directive.isMoreSpecific other then some directive else some other)
    none

/-- Whether the event is written. -/
def admits (filter : Filter) (event : Event) : Bool :=
  match filter.deciding? event with
  | some directive => directive.threshold.admits event.level
  | none => false

/-- Adds what a piece of a filter text denotes; a piece that denotes nothing
changes nothing. -/
def addPiece (filter : Filter) (piece : String) : Filter :=
  match Directive.ofText? piece with
  | some directive => filter.add directive
  | none => filter

/-- The filter of a configured level and a filter text. -/
def ofText (level : Level) (text : String) : Filter :=
  (Text.pieces text).foldl addPiece ⟨[.base (.upTo level)]⟩

/-- The pieces of a filter text that denote no directive. -/
def strayPieces (text : String) : List String :=
  (Text.pieces text).filter fun piece => (Directive.ofText? piece).isNone

end Filter

end InteropBridge.Log
