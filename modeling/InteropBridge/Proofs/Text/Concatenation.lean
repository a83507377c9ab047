import InteropBridge.Proofs.Managed.Text

/-!
# Transcoding parts of a text

A text may be transcoded in parts.  What precedes a part is read before it and shifts the
place of its first fault, and what follows a fault does not undo it, with one exception: a
cut through a pair leaves a high surrogate at the end of the first part, and the low one at
the head of the second makes it good again.
-/

namespace InteropBridge

namespace Utf16

/-- A text that can be read only shifts what follows it. -/
theorem firstUnpaired_encode_append (text : List Char) (rest : List UInt16) (place : Nat) :
    FirstUnpaired (encode text ++ rest) place ↔
      ∃ later, place = (encode text).length + later ∧ FirstUnpaired rest later := by
  induction text generalizing place with
  | nil => simp [encode]
  | cons c text ih =>
      rw [encode_cons, List.append_assoc, firstUnpaired_encodeChar_append, List.length_append]
      simp only [ih]
      constructor
      · rintro ⟨_, rfl, later, rfl, hlater⟩
        exact ⟨later, (Nat.add_assoc ..).symm, hlater⟩
      · rintro ⟨later, rfl, hlater⟩
        exact ⟨_, Nat.add_assoc .., later, rfl, hlater⟩

section Places

variable {front : List UInt16} {place : Nat} (rest : List UInt16)

theorem isHighAt_append_left (hplace : place < front.length) :
    isHighAt (front ++ rest) place = isHighAt front place := by
  rw [isHighAt, isHighAt, List.getElem?_append_left hplace]

theorem isLowAt_append_left (hplace : place < front.length) :
    isLowAt (front ++ rest) place = isLowAt front place := by
  rw [isLowAt, isLowAt, List.getElem?_append_left hplace]

theorem isHighAt_last (hlast : place + 1 = front.length) :
    isHighAt front place = front.getLast?.any isHigh := by
  rw [isHighAt, List.getLast?_eq_getElem?, ← hlast, Nat.add_sub_cancel]

theorem isLowAt_behind (hlast : place + 1 = front.length) :
    isLowAt (front ++ rest) (place + 1) = rest.head?.any isLow := by
  rw [hlast, List.head?_eq_getElem?]
  exact isLowAt_append_right front rest 0

end Places

/-- The first unpaired surrogate stays the first one whatever follows, unless it is a high one
at the end and a low one follows. -/
theorem FirstUnpaired.append_iff {front : List UInt16} {place : Nat}
    (hfirst : FirstUnpaired front place) (rest : List UInt16) :
    FirstUnpaired (front ++ rest) place ↔
      ¬ (place + 1 = front.length ∧ front.getLast?.any isHigh ∧ rest.head?.any isLow) := by
  obtain ⟨hplace, hformed, hsurrogate⟩ := (firstUnpaired_iff front place).mp hfirst
  have htake : (front ++ rest).take place = front.take place :=
    List.take_append_of_le_length (Nat.le_of_lt hplace)
  have hinside : place < (front ++ rest).length := by
    rw [List.length_append]
    omega
  rw [firstUnpaired_iff, htake, isHighAt_append_left rest hplace,
    isLowAt_append_left rest hplace]
  -- Only the unit behind the surrogate may be another one than before.
  by_cases hlast : place + 1 = front.length
  · rw [isLowAt_behind rest hlast, ← isHighAt_last hlast]
    constructor
    · rintro ⟨-, -, hlow | ⟨-, hnext⟩⟩ ⟨-, hhigh, hrest⟩
      · exact not_isHighAt_of_isLowAt hlow hhigh
      · exact hnext hrest
    · intro hcut
      refine ⟨hinside, hformed, hsurrogate.imp_right fun ⟨hhigh, _⟩ => ⟨hhigh, ?_⟩⟩
      exact fun hrest => hcut ⟨hlast, hhigh, hrest⟩
  · rw [isLowAt_append_left rest (by omega)]
    exact iff_of_true ⟨hinside, hformed, hsurrogate⟩ fun hcut => hlast hcut.1

end Utf16

namespace ManagedText

/-- Texts are transcoded part by part, in both directions.  A fault of the second part is
found behind the first one, and a fault of the first part stays where it is, unless the cut
goes through a pair. -/
theorem transcoding_respects_concatenation (front rest : List UInt16)
    (text later : NativeText) (place : Nat) :
    ((⟨front⟩ : ManagedText).toNative = .ok text →
      ((⟨rest⟩ : ManagedText).toNative = .ok later →
        (⟨front ++ rest⟩ : ManagedText).toNative = .ok (text ++ later)) ∧
      ((⟨rest⟩ : ManagedText).toNative = .error (.invalidUtf16 place) →
        (⟨front ++ rest⟩ : ManagedText).toNative =
          .error (.invalidUtf16 (front.length + place)))) ∧
    ((⟨front⟩ : ManagedText).toNative = .error (.invalidUtf16 place) →
      ((⟨front ++ rest⟩ : ManagedText).toNative = .error (.invalidUtf16 place) ↔
        ¬ (place + 1 = front.length ∧ front.getLast?.any Utf16.isHigh ∧
          rest.head?.any Utf16.isLow))) ∧
    (ofNative (text ++ later)).units = (ofNative text).units ++ (ofNative later).units := by
  refine ⟨fun hfront => ?_, fun hfront => ?_, Utf16.encode_append text later⟩
  · rw [toNative_eq_ok_iff] at hfront
    obtain rfl : front = Utf16.encode text := congrArg units hfront
    constructor
    · intro hrest
      rw [toNative_eq_ok_iff] at hrest ⊢
      obtain rfl : rest = Utf16.encode later := congrArg units hrest
      exact (ofNative_append text later).symm
    · intro hrest
      rw [toNative_eq_invalidUtf16_iff] at hrest ⊢
      exact (Utf16.firstUnpaired_encode_append text rest _).mpr ⟨place, rfl, hrest⟩
  · rw [toNative_eq_invalidUtf16_iff] at hfront ⊢
    exact hfront.append_iff rest

/-- Behind a pair an unpaired surrogate is found at the place of the pair and its own, and
half a pair is found at the end unless the other half follows. -/
theorem transcoding_respects_concatenation_pair :
    (⟨[0xD83D, 0xDE00]⟩ : ManagedText).toNative = .ok ['😀'] ∧
    (⟨[0x61, 0xDC00]⟩ : ManagedText).toNative = .error (.invalidUtf16 1) ∧
    (⟨[0xD83D, 0xDE00] ++ [0x61, 0xDC00]⟩ : ManagedText).toNative =
      .error (.invalidUtf16 3) ∧
    (⟨[0x61, 0xD83D]⟩ : ManagedText).toNative = .error (.invalidUtf16 1) ∧
    (⟨[0x61, 0xD83D] ++ [0xD83D]⟩ : ManagedText).toNative = .error (.invalidUtf16 1) ∧
    (⟨[0x61, 0xD83D] ++ [0xDE00]⟩ : ManagedText).toNative ≠ .error (.invalidUtf16 1) := by
  have hpair : (⟨[0xD83D, 0xDE00]⟩ : ManagedText).toNative = .ok ['😀'] := rfl
  have hlow : (⟨[0x61, 0xDC00]⟩ : ManagedText).toNative = .error (.invalidUtf16 1) := rfl
  have hhigh : (⟨[0x61, 0xD83D]⟩ : ManagedText).toNative = .error (.invalidUtf16 1) := rfl
  obtain ⟨hbehind, -, -⟩ :=
    transcoding_respects_concatenation [0xD83D, 0xDE00] [0x61, 0xDC00] ['😀'] [] 1
  obtain ⟨-, hkept, -⟩ := transcoding_respects_concatenation [0x61, 0xD83D] [0xD83D] [] [] 1
  obtain ⟨-, hcut, -⟩ := transcoding_respects_concatenation [0x61, 0xD83D] [0xDE00] [] [] 1
  refine ⟨hpair, hlow, (hbehind hpair).2 hlow, hhigh, (hkept hhigh).mpr (by decide), ?_⟩
  rw [ne_eq, hcut hhigh]
  decide

end ManagedText

end InteropBridge
