import InteropBridge.Log.Journal

/-!
# The trail of handles in the log

Three kinds of events give account of handles: one handle was allocated, one was released, or
some objects were still alive when all handles ended.  Together they are the trail that the
handles leave in the log.  Whether an event belongs to it shows in its message, and which
handle it is about, or how many, in one of its fields.
-/

namespace InteropBridge.Log

namespace Event

/-- The count in a field of the event, which is zero if there is none. -/
def count (event : Event) (field : String) : Nat :=
  match event.fields.lookup field with
  | some (.count count) => count
  | some (.text _) | some (.flag _) | some (.display _) | none => 0

/-- Whether the event belongs to the trail. -/
def isAudit (event : Event) : Bool :=
  event.message == "handle allocated" || event.message == "handle released" ||
    event.message == "objects still alive at shutdown"

/-- Messages that are put together differ from those of the trail in their first letter. -/
theorem isAudit_eq_false {event : Event} (hhandle : event.message.toList.head? ≠ some 'h')
    (hobjects : event.message.toList.head? ≠ some 'o') : event.isAudit = false := by
  rw [Bool.eq_false_iff]
  intro haudit
  simp only [isAudit, Bool.or_eq_true, beq_iff_eq] at haudit
  obtain (hmessage | hmessage) | hmessage := haudit <;> rw [hmessage] at hhandle hobjects
  · exact hhandle rfl
  · exact hhandle rfl
  · exact hobjects rfl

theorem isAudit_dispatching (signature : String) : (dispatching signature).isAudit = false := by
  apply isAudit_eq_false <;> simp [dispatching, String.toList_append]

theorem isAudit_callerOwns (function typeName : String) :
    (callerOwns function typeName).isAudit = false := by
  apply isAudit_eq_false <;> simp [callerOwns, String.toList_append]

theorem isAudit_dynamicCallFailed (function error : String) :
    (dynamicCallFailed function error).isAudit = false := by
  apply isAudit_eq_false <;> simp [dynamicCallFailed, String.toList_append]

theorem isAudit_dropFailed (handle : Handle) (error : String) :
    (dropFailed handle error).isAudit = false := by
  apply isAudit_eq_false <;> simp [dropFailed, String.toList_append]

theorem isAudit_bufferReleased (what : String) (length : Nat) :
    (bufferReleased what length).isAudit = false := by
  apply isAudit_eq_false <;> simp [bufferReleased, String.toList_append]

theorem isAudit_directiveIgnored (piece : String) : (directiveIgnored piece).isAudit = false := by
  apply isAudit_eq_false <;> simp [directiveIgnored, String.toList_append]

end Event

/-! ## What a trail tells -/

/-- The counts in one field of the events with a message, in order. -/
def countsIn (message field : String) (events : List Event) : List Nat :=
  (events.filter (·.message == message)).map (·.count field)

/-- The handles in the events that tell of an allocation. -/
def allocatedIn (events : List Event) : List Nat :=
  countsIn "handle allocated" "handle" events

/-- The handles in the events that tell of a release. -/
def releasedIn (events : List Event) : List Nat :=
  countsIn "handle released" "handle" events

/-- The numbers of objects in the events that tell of objects left at the end. -/
def leakedIn (events : List Event) : List Nat :=
  countsIn "objects still alive at shutdown" "leaked" events

theorem countsIn_append (message field : String) (first second : List Event) :
    countsIn message field (first ++ second) =
      countsIn message field first ++ countsIn message field second := by
  rw [countsIn, List.filter_append, List.map_append]
  rfl

theorem mem_countsIn {message field : String} {events : List Event} {number : Nat} :
    number ∈ countsIn message field events ↔
      ∃ event ∈ events, event.message = message ∧ event.count field = number := by
  simp [countsIn, and_assoc]

/-- What stands in a part of a trail stands in the whole. -/
theorem mem_allocatedIn_append {first : List Event} {number : Nat}
    (hnumber : number ∈ allocatedIn first) (second : List Event) :
    number ∈ allocatedIn (first ++ second) := by
  rw [allocatedIn, countsIn_append]
  exact List.mem_append_left _ hnumber

section Concat

variable (events : List Event) (kind : String) (handle : Handle) (count : Nat)

@[simp]
theorem allocatedIn_allocated : allocatedIn (events ++ [.allocated kind handle count]) =
    allocatedIn events ++ [handle.raw.toNat] :=
  countsIn_append _ _ events _

@[simp]
theorem releasedIn_allocated : releasedIn (events ++ [.allocated kind handle count]) =
    releasedIn events :=
  (countsIn_append _ _ events _).trans (List.append_nil _)

@[simp]
theorem leakedIn_allocated : leakedIn (events ++ [.allocated kind handle count]) =
    leakedIn events :=
  (countsIn_append _ _ events _).trans (List.append_nil _)

@[simp]
theorem allocatedIn_released : allocatedIn (events ++ [.released kind handle count]) =
    allocatedIn events :=
  (countsIn_append _ _ events _).trans (List.append_nil _)

@[simp]
theorem releasedIn_released : releasedIn (events ++ [.released kind handle count]) =
    releasedIn events ++ [handle.raw.toNat] :=
  countsIn_append _ _ events _

@[simp]
theorem leakedIn_released : leakedIn (events ++ [.released kind handle count]) =
    leakedIn events :=
  (countsIn_append _ _ events _).trans (List.append_nil _)

@[simp]
theorem allocatedIn_leaked : allocatedIn (events ++ [.leaked count]) = allocatedIn events :=
  (countsIn_append _ _ events _).trans (List.append_nil _)

@[simp]
theorem releasedIn_leaked : releasedIn (events ++ [.leaked count]) = releasedIn events :=
  (countsIn_append _ _ events _).trans (List.append_nil _)

@[simp]
theorem leakedIn_leaked : leakedIn (events ++ [.leaked count]) = leakedIn events ++ [count] :=
  countsIn_append _ _ events _

end Concat

/-- Every event that tells of a release comes after one that tells of the allocation. -/
def ReleasesFollow (trail : List Event) : Prop :=
  ∀ past event, past ++ [event] <+: trail → event.message = "handle released" →
    event.count "handle" ∈ allocatedIn past

namespace ReleasesFollow

theorem nil : ReleasesFollow [] := by
  intro past event hprefix
  simp at hprefix

variable {trail : List Event}

theorem concat (htrail : ReleasesFollow trail) {last : Event}
    (hlast : last.message = "handle released" → last.count "handle" ∈ allocatedIn trail) :
    ReleasesFollow (trail ++ [last]) := by
  intro past event hprefix hmessage
  obtain hwhole | hpast := List.prefix_concat_iff.mp hprefix
  · obtain ⟨rfl, hevent⟩ := List.append_inj' hwhole rfl
    obtain rfl : event = last := (List.cons.inj hevent).1
    exact hlast hmessage
  · exact htrail past event hpast hmessage

/-- What was released was allocated. -/
theorem mem_allocatedIn (htrail : ReleasesFollow trail) {number : Nat}
    (hnumber : number ∈ releasedIn trail) : number ∈ allocatedIn trail := by
  obtain ⟨event, hevent, hmessage, rfl⟩ := mem_countsIn.mp hnumber
  obtain ⟨past, rest, rfl⟩ := List.append_of_mem hevent
  have hprefix : past ++ [event] <+: past ++ event :: rest := ⟨rest, (List.append_cons ..).symm⟩
  exact mem_allocatedIn_append (htrail past event hprefix hmessage) _

end ReleasesFollow

/-! ## The trail of a journal -/

namespace Journal

/-- The events of the trail, oldest first, whether they were written or not. -/
def trail (journal : Journal) : List Event :=
  journal.emitted.reverse.filter (·.isAudit)

theorem trail_emit (journal : Journal) (event : Event) :
    (journal.emit event).trail = journal.trail ++ [event].filter (·.isAudit) := by
  rw [trail, emit, List.reverse_cons, List.filter_append]
  rfl

theorem trail_emit_of_not_audit (journal : Journal) {event : Event}
    (hevent : event.isAudit = false) : (journal.emit event).trail = journal.trail := by
  rw [trail_emit, List.filter_cons_of_neg (by simpa using hevent)]
  exact List.append_nil _

/-- Starting to log leaves no trail. -/
theorem trail_start (journal : Journal) (plan : Plan) :
    (journal.start plan).2.trail = journal.trail := by
  have hwarned : ∀ (pieces : List String) (journal : Journal),
      (pieces.foldl (fun journal piece => journal.emit (.directiveIgnored piece))
        journal).trail = journal.trail := by
    intro pieces
    induction pieces with
    | nil => exact fun _ => rfl
    | cons piece rest ih =>
        intro journal
        rw [List.foldl_cons, ih,
          journal.trail_emit_of_not_audit (Event.isAudit_directiveIgnored piece)]
  rw [start]
  split <;> exact hwarned _ _

end Journal

end InteropBridge.Log
