import InteropBridge.Managed.Text
import InteropBridge.Proofs.Text.Replacement
import Mathlib.Logic.ExistsUnique

/-!
# Managed and native text

Managed text has a native form exactly if its units are well formed, and then each
form gives the other back.  Where there is none, the fault tells the first unpaired
surrogate, and the text as it is shown has a replacement for each of them.
-/

namespace InteropBridge.ManagedText

theorem ofNative_append (left right : NativeText) :
    ofNative (left ++ right) = ⟨(ofNative left).units ++ (ofNative right).units⟩ := by
  rw [ofNative, Utf16.encode_append]
  rfl

theorem toNative_eq_ok_iff (text : ManagedText) (native : NativeText) :
    text.toNative = .ok native ↔ text = .ofNative native := by
  have hunits : text = .ofNative native ↔ Utf16.encode native = text.units := by
    constructor
    · rintro rfl
      rfl
    · intro hencode
      rw [ofNative, hencode]
  rw [hunits, ← Utf16.decode_eq_ok_iff, toNative]
  cases Utf16.decode text.units <;> simp [Except.mapError]

theorem toNative_ofNative (native : NativeText) :
    (ofNative native).toNative = .ok native :=
  (toNative_eq_ok_iff _ native).mpr rfl

theorem toNative_eq_error_iff (text : ManagedText) (fault : MarshalError) :
    text.toNative = .error fault ↔
      ∃ place, fault = .invalidUtf16 place ∧ Utf16.FirstUnpaired text.units place := by
  simp only [← Utf16.decode_eq_error_iff, toNative]
  cases Utf16.decode text.units <;> simp [Except.mapError, eq_comm]

theorem wellFormed_iff_exists_ofNative (text : ManagedText) :
    Utf16.WellFormed text.units ↔ ∃ native, text = .ofNative native := by
  simp only [← toNative_eq_ok_iff, Utf16.wellFormed_iff_exists_decode, toNative]
  cases Utf16.decode text.units <;> simp [Except.mapError]

/-- Native texts and well-formed units correspond one to one: a native text comes back
from its units, only its own units give it, and units give a native text exactly if
their surrogates are paired. -/
theorem transcoding_bijective (units : List UInt16) (native : NativeText) :
    (ofNative native).toNative = .ok native ∧
    ((⟨units⟩ : ManagedText).toNative = .ok native ↔ (ofNative native).units = units) ∧
    ((∃ found, (⟨units⟩ : ManagedText).toNative = .ok found) ↔ Utf16.WellFormed units) := by
  refine ⟨toNative_ofNative native, ?_, ?_⟩
  · rw [toNative_eq_ok_iff]
    constructor
    · intro htext
      rw [← htext]
    · rintro rfl
      rfl
  · simp only [toNative_eq_ok_iff]
    exact (wellFormed_iff_exists_ofNative ⟨units⟩).symm

/-- The last character before the surrogates and the first and the last ones that take
two units. -/
example : (ofNative ['\ud7ff', '\ue000', '\uffff', Char.ofNat 0x10000, Char.ofNat 0x10FFFF]).units =
    [0xD7FF, 0xE000, 0xFFFF, 0xD800, 0xDC00, 0xDBFF, 0xDFFF] := by
  decide

/-! ## Where reading fails -/

theorem toNative_eq_invalidUtf16_iff (units : List UInt16) (place : Nat) :
    (⟨units⟩ : ManagedText).toNative = .error (.invalidUtf16 place) ↔
      Utf16.FirstUnpaired units place := by
  simp [toNative_eq_error_iff]

/-- Reading fails at the first unpaired surrogate and nowhere else.  That is the surrogate
behind the longest text that units spell, and its place counts two units for each pair of that
text. -/
theorem toNative_fails_at_first_unpaired (units : List UInt16) (place : Nat) :
    ((⟨units⟩ : ManagedText).toNative = .error (.invalidUtf16 place) ↔
      place < units.length ∧ Utf16.WellFormed (units.take place) ∧
        (Utf16.isLowAt units place ∨
          Utf16.isHighAt units place ∧ ¬ Utf16.isLowAt units (place + 1))) ∧
    ((⟨units⟩ : ManagedText).toNative = .error (.invalidUtf16 place) ↔
      Utf16.FirstUnpaired units place) ∧
    ((⟨units⟩ : ManagedText).toNative = .error (.invalidUtf16 place) ↔
      place < units.length ∧
        (∃ text, Utf16.encode text = units.take place ∧
          place = text.length + text.countP (0x10000 ≤ ·.toNat)) ∧
        (Utf16.isLowAt units place ∨
          Utf16.isHighAt units place ∧ ¬ Utf16.isLowAt units (place + 1))) ∧
    ((∃ fault, (⟨units⟩ : ManagedText).toNative = .error fault) ↔
      ∃! first, (⟨units⟩ : ManagedText).toNative = .error (.invalidUtf16 first)) := by
  refine ⟨?_, toNative_eq_invalidUtf16_iff units place, ?_, ?_⟩
  · rw [toNative_eq_invalidUtf16_iff, Utf16.firstUnpaired_iff]
  · rw [toNative_eq_invalidUtf16_iff, Utf16.firstUnpaired_iff,
      Utf16.wellFormed_iff_exists_encode]
    apply and_congr_right
    intro hplace
    apply and_congr_left'
    apply exists_congr
    intro text
    have hcount : Utf16.encode text = units.take place →
        place = text.length + text.countP (0x10000 ≤ ·.toNat) := by
      intro hencode
      rw [← Utf16.length_encode, hencode, List.length_take_of_le (Nat.le_of_lt hplace)]
    exact (and_iff_left_of_imp hcount).symm
  · constructor
    · rintro ⟨fault, hfault⟩
      obtain ⟨first, rfl, -⟩ := (toNative_eq_error_iff _ fault).mp hfault
      refine ⟨first, hfault, fun other hother => ?_⟩
      rw [hfault] at hother
      cases hother
      rfl
    · rintro ⟨first, hfirst, -⟩
      exact ⟨_, hfirst⟩

/-! ## How the text is shown -/

theorem spells_iff (text : ManagedText) (native : NativeText) :
    text.spells native = true ↔ text.toNative = .ok native := by
  rw [toNative_eq_ok_iff, spells, beq_iff_eq]
  constructor
  · intro hunits
    rw [ofNative, ← hunits]
  · rintro rfl
    rfl

theorem shown_ofNative (native : NativeText) : (ofNative native).shown = native :=
  Utf16.decodeLossy_encode native

/-- All readings of a text agree.  As it is shown it has U+FFFD for each unpaired surrogate and
is else the same, unit by unit.  Where it has a native form, this is how it is shown, and it
spells that form and no other.  What is shown can always cross into native code and stays what
it is. -/
theorem readings_agree (units : List UInt16) (native : NativeText) :
    let text : ManagedText := ⟨units⟩
    Utf16.Mends units (ofNative text.shown).units ∧
    (text.toNative = .ok native → text.shown = native) ∧
    (text.spells native = true ↔ text.toNative = .ok native) ∧
    (ofNative text.shown).toNative = .ok text.shown := by
  intro text
  refine ⟨Utf16.mends_decodeLossy units, fun hnative => ?_, text.spells_iff native,
    toNative_ofNative text.shown⟩
  rw [(toNative_eq_ok_iff text native).mp hnative]
  exact shown_ofNative native

/-- A pair between plain letters is read as one character. -/
theorem readings_agree_pair :
    (⟨[0x61, 0xD83D, 0xDE00, 0x62]⟩ : ManagedText).toNative = .ok ['a', '😀', 'b'] ∧
    (⟨[0x61, 0xD83D, 0xDE00, 0x62]⟩ : ManagedText).shown = ['a', '😀', 'b'] := by
  have hnative : (⟨[0x61, 0xD83D, 0xDE00, 0x62]⟩ : ManagedText).toNative =
      .ok ['a', '😀', 'b'] := by
    rw [toNative_eq_ok_iff]
    decide
  obtain ⟨-, hshown, -, -⟩ := readings_agree [0x61, 0xD83D, 0xDE00, 0x62] ['a', '😀', 'b']
  exact ⟨hnative, hshown hnative⟩

/-- A high surrogate that lacks its partner leaves the pair behind it alone. -/
example : (⟨[0xD83D, 0xD83D, 0xDE00, 0xDC00]⟩ : ManagedText).shown =
    ['\ufffd', '😀', '\ufffd'] := by
  decide

end InteropBridge.ManagedText
