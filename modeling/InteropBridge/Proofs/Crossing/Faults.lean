import InteropBridge.Proofs.Crossing.Running

/-!
# The faults that exports find

An export finds fault with places, views, handles and the room for objects, and with
nothing else.  In particular it never complains about the name it was called by, the
number of its arguments or their types: that is what signatures are for.
-/

namespace InteropBridge

/-- Whether an error is about a call not fitting a signature. -/
def BridgeError.isSignatureFault : BridgeError → Bool
  | .marshal (.unknownFunction _) | .marshal (.argCountMismatch ..)
  | .marshal (.typeMismatch ..) => true
  | _ => false

/-- The computation never fails because of a signature. -/
abbrev Attempt.FitsSignatures {α : Type} (body : Attempt α) : Prop :=
  body.Ends (fun _ => True) fun error => error.isSignatureFault = false

/-- The errors that an export can end in. -/
inductive Crossing.Fault : BridgeError → Prop
  | nullPointer (what : String) : Fault (.marshal (.nullPointer what))
  | misaligned (what : String) : Fault (.marshal (.misaligned what))
  | tooLong (what : String) (length limit : Nat) :
      Fault (.marshal (.tooLong what length limit))
  | invalidUtf8 (validUpTo : Nat) : Fault (.marshal (.invalidUtf8 validUpTo))
  | nullHandle : Fault (.marshal .nullHandle)
  | disposedHandle {handle : Handle} (hhandle : handle ≠ .null) :
      Fault (.disposedHandle handle)
  | noRoom (kind : String) (live limit : Nat) :
      Fault (.allocation kind (HandleTable.refusal live limit))

/-- Where the computation fails, it is with one of the errors of exports. -/
abbrev Attempt.FailsAsExport {α : Type} (body : Attempt α) : Prop :=
  body.Ends (fun _ => True) Crossing.Fault

open Attempt

theorem Crossing.Fault.isSignatureFault_eq_false {error : BridgeError}
    (hfault : Crossing.Fault error) : error.isSignatureFault = false := by
  cases hfault <;> rfl

namespace Objects

theorem find_error_fault {objects : HandleTable Int32} {handle : Handle}
    {error : BridgeError} (hfind : objects.find handle = .error error) :
    Crossing.Fault error := by
  obtain ⟨-, rfl⟩ | ⟨hhandle, rfl⟩ := HandleTable.find_error hfind
  · exact .nullHandle
  · exact .disposedHandle hhandle

theorem faults_read (handle : Handle) : (read handle).FailsAsExport := by
  intro context
  rw [run_read]
  split
  · trivial
  · next error hfind => exact find_error_fault hfind

theorem faults_change (handle : Handle) (revise : Int32 → Int32) :
    (change handle revise).FailsAsExport := by
  intro context
  rw [run_change]
  cases hfind : context.process.objects.find handle with
  | ok object => trivial
  | error error => exact find_error_fault hfind

theorem faults_register (object : Int32) : (register object).FailsAsExport := by
  intro context
  rw [run_register]
  by_cases hroom : context.process.objects.live < context.process.settings.handles.maxLive
  · rw [if_pos hroom]
    trivial
  · rw [if_neg hroom]
    exact .noRoom _ _ _

theorem faults_release (handle : Handle) : (release handle).FailsAsExport := by
  intro context
  rw [run_release]
  cases hfind : context.process.objects.find handle with
  | ok object => trivial
  | error error =>
      obtain ⟨-, rfl⟩ | ⟨hhandle, rfl⟩ := HandleTable.find_error hfind
      · exact .nullHandle
      · cases context.process.settings.handles.doubleRelease with
        | ignore => trivial
        | report => exact .disposedHandle hhandle

end Objects

namespace Crossing

variable {kind : ResultKind}

theorem faults_readText (view : TextView) : (readText view).FailsAsExport := by
  refine (ends_lift Native.settings).bind fun settings _ => ends_ofExcept ?_
  cases view with
  | null length =>
      rw [TextView.read]
      by_cases hempty : length = 0
      · rw [if_pos hempty]
        trivial
      · rw [if_neg hempty]
        exact .nullPointer _
  | memory bytes length =>
      rw [TextView.read]
      by_cases hlong : length > settings.marshal.maxTextBytes
      · rw [if_pos hlong]
        exact .tooLong _ _ _
      · rw [if_neg hlong]
        cases Utf8.decode (bytes.take length) with
        | ok text => trivial
        | error validUpTo => exact .invalidUtf8 validUpTo

theorem faults_joinTexts (left right : TextView) : (joinTexts left right).FailsAsExport :=
  (faults_readText left).bind fun _ _ =>
    (faults_readText right).bind fun _ _ => ends_pure trivial

theorem faults_readItems (view : SequenceView) (limit : Nat) :
    (demand (view.read limit)).FailsAsExport := by
  refine ends_ofExcept ?_
  cases view with
  | null length =>
      rw [SequenceView.read]
      by_cases hempty : length = 0
      · rw [if_pos hempty]
        trivial
      · rw [if_neg hempty]
        exact .nullPointer _
  | memory items length aligned =>
      rw [SequenceView.read]
      by_cases hlong : length > limit
      · rw [if_pos hlong]
        exact .tooLong _ _ _
      · rw [if_neg hlong]
        cases aligned with
        | true => trivial
        | false => exact .misaligned _

theorem faults_run (crossing : Crossing kind) : crossing.run.FailsAsExport := by
  cases crossing with
  | hello => exact ends_lift _
  | printNumber number => exact ends_lift _
  | add left right => exact ends_pure trivial
  | concat left right => exact faults_joinTexts left right
  | concatLent left right => exact faults_joinTexts left right
  | printCopy handle => exact (Objects.faults_read handle).bind fun _ _ => ends_lift _
  | printLength items =>
      exact (ends_lift Native.settings).bind fun settings _ =>
        (faults_readItems items _).bind fun _ _ => ends_lift _
  | getNumbers => exact ends_pure trivial
  | maybeMake name =>
      simp only [run]
      split
      · exact ends_pure trivial
      · exact (faults_readText _).bind fun _ _ =>
          (Objects.faults_register 0).bind fun _ _ => ends_pure trivial
  | maybeAddOne value => exact ends_pure trivial
  | make => exact Objects.faults_register 0
  | free handle =>
      simp only [run]
      split
      · exact ends_pure trivial
      · exact Objects.faults_release handle
  | duplicate handle =>
      exact (Objects.faults_read handle).bind fun object _ => Objects.faults_register object
  | print handle => exact (Objects.faults_read handle).bind fun _ _ => ends_lift _
  | increment handle => exact Objects.faults_change handle _
  | addTo handle amount => exact Objects.faults_change handle _
  | get handle => exact Objects.faults_read handle

theorem faults_attempt (crossing : Crossing kind) (hasPlace : Bool) :
    (crossing.attempt hasPlace).FailsAsExport := by
  rw [attempt_eq]
  split
  · exact ends_throw (.nullPointer _)
  · exact faults_run crossing
  · exact faults_run crossing

theorem fits_attempt (crossing : Crossing kind) (hasPlace : Bool) :
    (crossing.attempt hasPlace).FitsSignatures :=
  (faults_attempt crossing hasPlace).mono fun _ hfault => hfault.isSignatureFault_eq_false

end Crossing

end InteropBridge
