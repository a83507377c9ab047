import InteropBridge.Log.Plan

/-!
# Journals

The journal of a process keeps every event that was emitted and, once logging
has started, the writer that the events pass on to.  The first writer stays for
good: later attempts to start logging leave it in place.  A writer that was
closed takes no more events.
-/

namespace InteropBridge.Log

/-- The writer of a process: what it lets through, how and where it writes. -/
structure Writer where
  filter : Filter
  format : Format
  output : Output
  isOpen : Bool := true
  /-- The events written so far, newest first. -/
  written : List Event := []

namespace Writer

/-- Writes the event if the writer is open and lets it through. -/
def take (writer : Writer) (event : Event) : Writer :=
  if writer.isOpen && writer.filter.admits event then
    { writer with written := event :: writer.written }
  else writer

end Writer

/-- The log of a process. -/
structure Journal where
  /-- Every event emitted so far, newest first. -/
  emitted : List Event := []
  /-- The writer, once logging has started. -/
  writer : Option Writer := none

namespace Journal

/-- Records an event and passes it on. -/
def emit (journal : Journal) (event : Event) : Journal :=
  { emitted := event :: journal.emitted, writer := journal.writer.map (·.take event) }

/-- Starts logging, unless it has started before, and tells whether it did.
The stray pieces of the filter are reported first, to a writer already there. -/
def start (journal : Journal) (plan : Plan) : Bool × Journal :=
  let warned := plan.strayPieces.foldl (fun journal piece =>
    journal.emit (.directiveIgnored piece)) journal
  match warned.writer with
  | some _ => (false, warned)
  | none =>
      (true, { warned with
        writer := some { filter := plan.toFilter, format := plan.format, output := plan.output } })

/-- Stops the writer. -/
def close (journal : Journal) : Journal :=
  { journal with writer := journal.writer.map fun writer => { writer with isOpen := false } }

/-- The events that were written, oldest first. -/
def lines (journal : Journal) : List Event :=
  journal.writer.elim [] (·.written.reverse)

end Journal

end InteropBridge.Log
