import InteropBridge.Proofs.Host.Record
import InteropBridge.Proofs.Managed.Console

/-!
# What a host writes

The notes of a script are the lines that its steps write, set in the captures that they are
written in, as a tree.  Each line of the tree has one place: it stands outside all captures,
or it comes back from the capture around it, or it is lost with a capture that breaks off.
-/

namespace InteropBridge.Host

/-- A line, or the notes inside a capture. -/
inductive Note
  | line (text : String)
  | capture (notes : List Note) (breaksOff : Bool)

namespace Note

/-- The lines outside captures. -/
def outside : List Note → List String
  | [] => []
  | line text :: rest => text :: outside rest
  | capture .. :: rest => outside rest

mutual

/-- All lines of a note. -/
def written : Note → List String
  | line text => [text]
  | capture notes _ => writtenAll notes

/-- All lines of some notes. -/
def writtenAll : List Note → List String
  | [] => []
  | note :: rest => note.written ++ writtenAll rest

end

mutual

/-- The lines that each capture returns to the host, in the order in which the captures
end.  Once a capture breaks off, nothing returns from inside it. -/
def returned : Note → List (List String)
  | line _ => []
  | capture notes false => returnedAll notes ++ [outside notes]
  | capture _ true => []

def returnedAll : List Note → List (List String)
  | [] => []
  | note :: rest => note.returned ++ returnedAll rest

end

mutual

/-- The lines that are lost with captures that break off, also those of captures inside
them, which return to a body that never comes to its end. -/
def lost : Note → List String
  | line _ => []
  | capture notes false => lostAll notes
  | capture notes true => writtenAll notes

def lostAll : List Note → List String
  | [] => []
  | note :: rest => note.lost ++ lostAll rest

end

theorem outside_append (first second : List Note) :
    outside (first ++ second) = outside first ++ outside second := by
  induction first with
  | nil => rfl
  | cons note rest ih =>
      cases note with
      | line text => exact congrArg (text :: ·) ih
      | capture notes breaksOff => exact ih

theorem returnedAll_append (first second : List Note) :
    returnedAll (first ++ second) = returnedAll first ++ returnedAll second := by
  induction first with
  | nil => rfl
  | cons note rest ih =>
      rw [List.cons_append, returnedAll, ih, returnedAll, List.append_assoc]

@[simp]
theorem outside_lines (lines : List String) : outside (lines.map line) = lines := by
  induction lines with
  | nil => rfl
  | cons text rest ih => exact congrArg (text :: ·) ih

@[simp]
theorem returnedAll_lines (lines : List String) : returnedAll (lines.map line) = [] := by
  induction lines with
  | nil => rfl
  | cons text rest ih => exact ih

theorem map_returnedAll_capture (notes : List Note) :
    (returnedAll [capture notes false]).map textOf =
      (returnedAll notes).map textOf ++ [textOf (outside notes)] := by
  simp only [returnedAll, returned, List.append_nil, List.map_append, List.map_singleton]

theorem count_writtenAll (text : String) : (notes : List Note) →
    (writtenAll notes).count text = (outside notes).count text +
      ((returnedAll notes).flatten.count text + (lostAll notes).count text)
  | [] => rfl
  | line other :: rest => by
      have hrest := count_writtenAll text rest
      simp only [writtenAll, written, outside, returnedAll, returned, lostAll, lost,
        List.singleton_append, List.nil_append, List.count_cons] at hrest ⊢
      omega
  | capture notes false :: rest => by
      have hnotes := count_writtenAll text notes
      have hrest := count_writtenAll text rest
      simp only [writtenAll, written, outside, returnedAll, returned, lostAll, lost,
        List.flatten_append, List.flatten_singleton, List.count_append] at hnotes hrest ⊢
      omega
  | capture notes true :: rest => by
      have hrest := count_writtenAll text rest
      simp only [writtenAll, written, outside, returnedAll, returned, lostAll, lost,
        List.nil_append, List.count_append] at hrest ⊢
      omega

/-- Every line written has exactly one place. -/
theorem writtenAll_perm (notes : List Note) :
    (writtenAll notes).Perm (outside notes ++ ((returnedAll notes).flatten ++ lostAll notes)) := by
  rw [List.perm_iff_count]
  intro text
  rw [List.count_append, List.count_append, count_writtenAll]

end Note

/-! ## The notes of steps -/

/-- The line that work with a proxy writes. -/
def ProxyTask.line? (proxy : Proxy) (process : Process) : ProxyTask → Option String
  | .print => (ManagedCall.print proxy).line? process
  | .increment => (ManagedCall.increment proxy).line? process
  | .add amount => (ManagedCall.addTo proxy amount).line? process
  | .get => (ManagedCall.get proxy).line? process
  | .printCopy => (ManagedCall.printCopy proxy).line? process
  | .dispose => (ManagedCall.dispose proxy).line? process
  | .duplicate _ => (ManagedCall.duplicate proxy).line? process
  | .handle | .isDisposed | .drop | .giveUp => none

/-- The line that a function of the library writes. -/
def LibraryTask.line? (process : Process) : LibraryTask → Option String
  | .hello => ManagedCall.hello.line? process
  | .printNumber number => (ManagedCall.printNumber number).line? process
  | .add left right => (ManagedCall.add left right).line? process
  | .concat left right => (ManagedCall.concat left right).line? process
  | .concatLent left right => (ManagedCall.concatLent left right).line? process
  | .printLength items => (ManagedCall.printLength items).line? process
  | .getNumbers => ManagedCall.getNumbers.line? process
  | .maybeAddOne value => (ManagedCall.maybeAddOne ⟨value⟩).line? process
  | .maybeMake name _ => (ManagedCall.maybeMake ⟨name⟩).line? process

/-- The line that a step writes itself when it is made in a state. -/
def Step.line? (state : State) : Step → Option String
  | .crossing asked _ givesPlace => asked.line? givesPlace state.context.process
  | .call name args => (ManagedCall.byName name args).line? state.context.process
  | .library task => task.line? state.context.process
  | .proxy slot task => (state.slots.lookup slot).bind (task.line? · state.context.process)
  | .writeLine text => some text
  | .recorded _ | .lastErrorCode | .takeLastError | .lastErrorLength | .lastErrorMessage ..
  | .startFromFiles | .cleanUp | .releasePlaceholders | .make _ | .adopt .. | .configure _
  | .adjust _ | .settings | .tally | .live | .shutdown | .capture .. | .thread _
  | .incrementAtOnce .. | .start _ | .startLogging _ | .log _ => none

mutual

/-- What a step writes on its thread when it is made in a state. -/
def Step.notes (state : State) : Step → List Note
  | .recorded step => [.capture (step.notes (native Native.openCapture state).2) false]
  | .capture steps breaksOff =>
      [.capture (notesAll (native Native.openCapture state).2 steps) breaksOff]
  | step => (step.line? state).toList.map .line

/-- What steps write, made one after another. -/
def notesAll (state : State) : List Step → List Note
  | [] => []
  | step :: rest => step.notes state ++ notesAll (step.run state).2 rest

end

mutual

/-- Whether the step is made on one thread, with all the steps in it. -/
def Step.onOneThread : Step → Bool
  | .recorded step => step.onOneThread
  | .capture steps _ => onOneThreadAll steps
  | .thread _ | .incrementAtOnce .. => false
  | .crossing .. | .lastErrorCode | .takeLastError | .lastErrorLength | .lastErrorMessage ..
  | .startFromFiles | .cleanUp | .releasePlaceholders | .call .. | .library _ | .make _
  | .adopt .. | .proxy .. | .configure _ | .adjust _ | .settings | .tally | .live | .shutdown
  | .writeLine _ | .start _ | .startLogging _ | .log _ => true

def onOneThreadAll : List Step → Bool
  | [] => true
  | step :: rest => step.onOneThread && onOneThreadAll rest

end

mutual

/-- The outputs of captures in what the host learned from a step, inner before outer. -/
def Answer.outputs : Answer → List String
  | .captured answers output => outputsAll answers ++ [output]
  | .recorded output answer => answer.outputs ++ [output]
  | .thread answers => outputsAll answers
  | .done | .flag _ | .count _ | .code _ | .int _ | .handle _ | .text _ | .items _ | .value _
  | .optionalInt _ | .settings _ | .tally _ | .lastError _ | .messageLength _ | .message ..
  | .returned .. | .failures _ | .failed _ | .misconfigured _ | .emptySlot | .brokenOff => []

def outputsAll : List Answer → List String
  | [] => []
  | answer :: rest => answer.outputs ++ outputsAll rest

end

end InteropBridge.Host
