import InteropBridge.Boundary.View
import InteropBridge.Proofs.Text.ValidPrefix

/-!
# Reading lent text

A view of text is read in full or not at all.  The claimed length is compared with the limit
before a byte is looked at; within the limit, reading gives the text that the claimed bytes
encode, or tells how many of them are valid.
-/

namespace InteropBridge.TextView

section Memory

variable (bytes : List UInt8) (length limit : Nat)

theorem read_memory_of_lt (hlong : limit < length) :
    (memory bytes length).read limit = .error (.tooLong "string" length limit) :=
  if_pos hlong

theorem read_memory_of_le (hfits : length ≤ limit) :
    (memory bytes length).read limit =
      (Utf8.decode (bytes.take length)).mapError .invalidUtf8 :=
  if_neg (Nat.not_lt.mpr hfits)

/-- What is read is the text that the claimed bytes encode. -/
theorem read_memory_eq_ok_iff (text : NativeText) :
    (memory bytes length).read limit = .ok text ↔
      length ≤ limit ∧ Utf8.encode text = bytes.take length := by
  by_cases hfits : length ≤ limit
  · rw [read_memory_of_le bytes length limit hfits, ← Utf8.decode_eq_ok_iff]
    cases Utf8.decode (bytes.take length) <;> simp [Except.mapError, hfits]
  · rw [read_memory_of_lt bytes length limit (Nat.lt_of_not_le hfits)]
    simp [hfits]

/-- Reading fails because of the claimed length, or else because of the bytes. -/
theorem read_memory_eq_error_iff (fault : MarshalError) :
    (memory bytes length).read limit = .error fault ↔
      limit < length ∧ fault = .tooLong "string" length limit ∨
      length ≤ limit ∧ ¬ Utf8.IsEncoded (bytes.take length) ∧
        ∃ count, fault = .invalidUtf8 count ∧
          IsGreatest (Utf8.validPrefixes (bytes.take length)) count := by
  by_cases hfits : length ≤ limit
  · have hfailed : (Utf8.decode (bytes.take length)).mapError .invalidUtf8 = .error fault ↔
        ∃ count, fault = .invalidUtf8 count ∧
          Utf8.decode (bytes.take length) = .error count := by
      cases Utf8.decode (bytes.take length) <;> simp [Except.mapError, eq_comm]
    rw [read_memory_of_le bytes length limit hfits, hfailed]
    simp only [Utf8.decode_eq_error_iff, hfits, Nat.not_lt.mpr hfits, false_and, true_and,
      false_or]
    constructor
    · rintro ⟨count, hfault, hinvalid, hgreatest⟩
      exact ⟨hinvalid, count, hfault, hgreatest⟩
    · rintro ⟨hinvalid, count, hfault, hgreatest⟩
      exact ⟨count, hfault, hinvalid, hgreatest⟩
  · have hlong := Nat.lt_of_not_le hfits
    rw [read_memory_of_lt bytes length limit hlong]
    simp [hfits, hlong, eq_comm]

end Memory

/-- A view of text reads as the text that its bytes encode, if the claimed length keeps to the
limit and there is one.  Otherwise the claimed length is reported, or the length of the longest
part from the front that encodes a text. -/
theorem read_accepts_utf8 (limit : Nat) :
    (∀ length, (null length).read limit =
      if length = 0 then .ok [] else .error (.nullPointer "string")) ∧
    (∀ bytes length text, (memory bytes length).read limit = .ok text ↔
      length ≤ limit ∧ Utf8.encode text = bytes.take length) ∧
    (∀ bytes length fault, (memory bytes length).read limit = .error fault ↔
      limit < length ∧ fault = .tooLong "string" length limit ∨
      length ≤ limit ∧ ¬ Utf8.IsEncoded (bytes.take length) ∧
        ∃ count, fault = .invalidUtf8 count ∧
          IsGreatest (Utf8.validPrefixes (bytes.take length)) count) ∧
    ∀ text, (ofNative text).read limit = .ok text ↔ (Utf8.encode text).length ≤ limit := by
  refine ⟨fun length => rfl, fun bytes length => read_memory_eq_ok_iff bytes length limit,
    fun bytes length => read_memory_eq_error_iff bytes length limit, fun text => ?_⟩
  rw [ofNative, read_memory_eq_ok_iff, List.take_length]
  exact and_iff_left rfl

/-- An overlong form, a surrogate, a number above U+10FFFF and a character cut short: each is
refused behind the letter before it. -/
example : [[0x61, 0xC0, 0x80], [0x61, 0xE0, 0x9F, 0xBF], [0x61, 0xED, 0xA0, 0x80],
    [0x61, 0xF4, 0x90, 0x80, 0x80], [0x61, 0xF0, 0x9F, 0x98]].map
      (fun bytes => (memory bytes bytes.length).read 5) =
    List.replicate 5 (.error (.invalidUtf8 1)) := by
  rfl

end InteropBridge.TextView
