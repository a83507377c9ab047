import InteropBridge.Proofs.Boundary.View
import InteropBridge.Proofs.Crossing.Allocation
import InteropBridge.Proofs.Text.Ascii

/-!
# How errors are worded

An error of an export tells in fixed words and in numbers what went wrong, and never repeats
a text of the caller.  So its message is plain, whatever the arguments were.
-/

namespace InteropBridge

/-- If the result is an error, its message is plain. -/
def WordedPlainly {α : Type} (result : Except BridgeError α) : Prop :=
  ∀ error, result = .error error → Text.IsPlain error.message

namespace WordedPlainly

variable {α β : Type}

theorem ok (value : α) : WordedPlainly (.ok value) :=
  nofun

theorem error {error : BridgeError} (hplain : Text.IsPlain error.message) :
    WordedPlainly (.error error : Except BridgeError α) := by
  rintro _ ⟨⟩
  exact hplain

theorem map {result : Except BridgeError α} (hresult : WordedPlainly result) (change : α → β) :
    WordedPlainly (result.map change) := by
  cases result with
  | ok value => exact .ok _
  | error error => exact .error (hresult error rfl)

end WordedPlainly

/-! ## The messages -/

namespace BridgeError

theorem isPlain_disposedHandle (handle : Handle) :
    Text.IsPlain (disposedHandle handle).message := by
  dsimp only [message, Handle.text]
  simp only [Text.isPlain_append, Text.isPlain_hexDigits]
  decide

/-- The allocation error names the kind of object, and two numbers. -/
theorem isPlain_refusal {kind : String} (hkind : Text.IsPlain kind) (live limit : Nat) :
    Text.IsPlain (allocation kind (HandleTable.refusal live limit)).message := by
  dsimp only [message, HandleTable.refusal]
  simp only [Text.isPlain_append, Text.isPlain_toString, hkind]
  decide

theorem isPlain_marshal {fault : MarshalError} (hfault : Text.IsPlain fault.message) :
    Text.IsPlain (marshal fault).message := by
  dsimp only [message]
  rw [Text.isPlain_append]
  exact ⟨by decide, hfault⟩

end BridgeError

namespace MarshalError

theorem isPlain_nullPointer {what : String} (hwhat : Text.IsPlain what) :
    Text.IsPlain (nullPointer what).message := by
  dsimp only [message]
  rw [Text.isPlain_append]
  exact ⟨by decide, hwhat⟩

theorem isPlain_tooLong {what : String} (hwhat : Text.IsPlain what) (length limit : Nat) :
    Text.IsPlain (tooLong what length limit).message := by
  dsimp only [message]
  simp only [Text.isPlain_append, Text.isPlain_toString, hwhat]
  decide

theorem isPlain_invalidUtf8 (validUpTo : Nat) :
    Text.IsPlain (invalidUtf8 validUpTo).message := by
  dsimp only [message]
  rw [Text.isPlain_append]
  exact ⟨by decide, Text.isPlain_toString validUpTo⟩

end MarshalError

/-! ## Arguments and handles -/

namespace TextView

/-- A fault tells a length, a limit or a position, and no byte of the text. -/
theorem wordedPlainly_read (view : TextView) (limit : Nat) :
    WordedPlainly (BridgeError.ofMarshal (view.read limit)) := by
  cases view with
  | null length =>
      rw [read]
      split
      · exact .ok []
      · exact .error (BridgeError.isPlain_marshal (MarshalError.isPlain_nullPointer (by decide)))
  | memory bytes length =>
      by_cases hfits : length ≤ limit
      · rw [read_memory_of_le bytes length limit hfits]
        cases Utf8.decode (bytes.take length) with
        | ok text => exact .ok text
        | error validUpTo =>
            exact .error (BridgeError.isPlain_marshal (MarshalError.isPlain_invalidUtf8 validUpTo))
      · rw [read_memory_of_lt bytes length limit (Nat.lt_of_not_le hfits)]
        exact .error (BridgeError.isPlain_marshal
          (MarshalError.isPlain_tooLong (by decide) length limit))

end TextView

namespace SequenceView

theorem wordedPlainly_read (view : SequenceView) (limit : Nat) :
    WordedPlainly (BridgeError.ofMarshal (view.read limit)) := by
  cases view with
  | null length =>
      rw [read]
      split
      · exact .ok []
      · exact .error (BridgeError.isPlain_marshal (MarshalError.isPlain_nullPointer (by decide)))
  | memory items length aligned =>
      rw [read]
      split
      · exact .error (BridgeError.isPlain_marshal
          (MarshalError.isPlain_tooLong (by decide) length limit))
      · split
        · exact .error (BridgeError.isPlain_marshal (by decide))
        · exact .ok _

end SequenceView

theorem HandleTable.wordedPlainly_find {α : Type} (table : HandleTable α) (handle : Handle) :
    WordedPlainly (table.find handle) := by
  intro error hfind
  obtain ⟨-, rfl⟩ | ⟨-, rfl⟩ := find_error hfind
  · exact BridgeError.isPlain_marshal (by decide)
  · exact BridgeError.isPlain_disposedHandle handle

/-! ## The exports -/

namespace Objects

variable {objects : HandleTable Int32}

theorem wordedPlainly_storing (hkind : Text.IsPlain objects.kind) (object : Int32) (limit : Nat) :
    WordedPlainly (storing objects object limit).1 := by
  rw [storing]
  split
  · exact .ok _
  · exact .error (BridgeError.isPlain_refusal hkind objects.live limit)

theorem wordedPlainly_ending (handle : Handle) (policy : ReleasePolicy) :
    WordedPlainly (ending objects handle policy).1 := by
  have hplain := objects.wordedPlainly_find handle
  rw [ending]
  cases hfind : objects.find handle with
  | ok object => exact .ok ()
  | error error =>
      have herror : Text.IsPlain error.message := hplain error hfind
      cases error with
      | disposedHandle stale =>
          cases policy with
          | ignore => exact .ok ()
          | report => exact .error herror
      | allocation | marshal | absentValue | nativePanic => exact .error herror

theorem wordedPlainly_adding (handle : Handle) (amount : Int32) :
    WordedPlainly (adding objects handle amount).1 := by
  have hplain := objects.wordedPlainly_find handle
  rw [adding]
  cases hfind : objects.find handle with
  | ok object => exact .ok ()
  | error error => exact .error (hplain error hfind)

theorem wordedPlainly_showing (handle : Handle) (line : Int32 → String) :
    WordedPlainly (showing objects handle line).1 := by
  have hplain := objects.wordedPlainly_find handle
  rw [showing]
  cases hfind : objects.find handle with
  | ok object => exact .ok ()
  | error error => exact .error (hplain error hfind)

end Objects

namespace Crossing

variable {kind : ResultKind}

theorem wordedPlainly_joined (left right : TextView) (limit : Nat) :
    WordedPlainly (joined left right limit) := by
  have hplain := fun view : TextView => view.wordedPlainly_read limit
  rw [joined]
  cases hleft : BridgeError.ofMarshal (left.read limit) with
  | error error => exact .error (hplain left error hleft)
  | ok first =>
      cases hright : BridgeError.ofMarshal (right.read limit) with
      | error error => exact .error (hplain right error hright)
      | ok second => exact .ok _

/-- What exports call the places for their results are plain words. -/
theorem isPlain_of_placeName? {crossing : Crossing kind} {what : String}
    (hname : crossing.placeName? = some what) : Text.IsPlain what := by
  cases crossing <;> cases hname <;> decide

variable {objects : HandleTable Int32}

theorem wordedPlainly_effect (hkind : Text.IsPlain objects.kind) (settings : Settings)
    (crossing : Crossing kind) : WordedPlainly (crossing.effect objects settings).1 := by
  cases crossing with
  | hello | printNumber | add | getNumbers | maybeAddOne => exact .ok _
  | make => exact Objects.wordedPlainly_storing hkind 0 _
  | get handle => exact objects.wordedPlainly_find handle
  | increment handle | addTo handle => exact Objects.wordedPlainly_adding handle _
  | print handle | printCopy handle => exact Objects.wordedPlainly_showing handle _
  | concat left right | concatLent left right => exact wordedPlainly_joined left right _
  | printLength items =>
      have hplain := items.wordedPlainly_read settings.marshal.maxSequenceLength
      rw [effect]
      cases hread : BridgeError.ofMarshal (items.read settings.marshal.maxSequenceLength) with
      | ok items => exact .ok ()
      | error error => exact .error (hplain error hread)
  | maybeMake name =>
      rw [effect]
      cases name.toOption with
      | none => exact .ok _
      | some view =>
          have hplain := view.wordedPlainly_read settings.marshal.maxTextBytes
          dsimp only [Option.map_some]
          cases hread : BridgeError.ofMarshal (view.read settings.marshal.maxTextBytes) with
          | error error => exact .error (hplain error hread)
          | ok text =>
              have hstored := Objects.wordedPlainly_storing hkind 0 settings.handles.maxLive
              exact hstored.map _
  | free handle =>
      rw [effect]
      split
      · exact .ok ()
      · exact Objects.wordedPlainly_ending handle _
  | duplicate handle =>
      have hplain := objects.wordedPlainly_find handle
      rw [effect]
      cases hfind : objects.find handle with
      | ok object => exact Objects.wordedPlainly_storing hkind object _
      | error error => exact .error (hplain error hfind)

/-- Whatever a call fails with is worded plainly. -/
theorem wordedPlainly_outcome (crossing : Crossing kind) (hasPlace : Bool) {context : Context}
    (hkind : Text.IsPlain context.process.objects.kind) :
    WordedPlainly (crossing.outcome hasPlace context) := by
  have heffect := wordedPlainly_effect hkind context.process.settings crossing
  rw [outcome_eq, effectAt.eq_def]
  cases hname : crossing.placeName? with
  | none => exact heffect
  | some what =>
      cases hasPlace with
      | true => exact heffect
      | false =>
          have hplain := MarshalError.isPlain_nullPointer (isPlain_of_placeName? hname)
          exact .error (BridgeError.isPlain_marshal hplain)

end Crossing

end InteropBridge
