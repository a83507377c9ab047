import InteropBridge.Proofs.Text.Utf16

/-!
# Replacing unpaired surrogates

Text that is shown has U+FFFD in the place of each unpaired surrogate.  That character takes
one unit, as a surrogate does, so the units of the shown text stand where those of the text
stood.  A unit that is unpaired has no part in what comes after it: that is shown as if it
stood alone.
-/

namespace InteropBridge.Utf16

/-- The second units are the first ones with U+FFFD in the place of each unpaired
surrogate. -/
structure Mends (units mended : List UInt16) : Prop where
  length_eq : mended.length = units.length
  kept : ∀ place, ¬ Unpaired units place → mended[place]? = units[place]?
  replaced : ∀ place, Unpaired units place → mended[place]? = some 0xFFFD

/-- What follows an unpaired unit is paired as it would be without it. -/
theorem unpaired_cons_iff {unit : UInt16} {rest : List UInt16}
    (hunpaired : Unpaired (unit :: rest) 0) (place : Nat) :
    Unpaired (unit :: rest) (place + 1) ↔ Unpaired rest place := by
  constructor
  · rintro (⟨hhigh, hnext⟩ | ⟨hlow, hprevious⟩)
    · exact .high hhigh hnext
    · exact .low hlow fun previous hplace => hprevious (previous + 1) (by omega)
  · rintro (⟨hhigh, hnext⟩ | ⟨hlow, hprevious⟩)
    · exact .high hhigh hnext
    · refine .low hlow fun previous hplace hhigh => ?_
      obtain rfl : previous = place := by omega
      cases previous with
      | zero =>
          -- The low unit would be the partner of the unpaired one.
          cases hunpaired with
          | high _ hnext => exact hnext hlow
          | low hfirst => exact not_isHighAt_of_isLowAt hfirst hhigh
      | succ earlier => exact hprevious earlier rfl hhigh

namespace Mends

theorem nil : Mends [] [] where
  length_eq := rfl
  kept _ _ := rfl
  replaced place hunpaired := absurd hunpaired (not_unpaired_nil place)

variable {rest mended : List UInt16}

/-- A character stays as it is. -/
theorem char (hrest : Mends rest mended) (c : Char) :
    Mends (encodeChar c ++ rest) (encodeChar c ++ mended) where
  length_eq := by rw [List.length_append, List.length_append, hrest.length_eq]
  kept place hpaired := by
    rcases Nat.lt_or_ge place (encodeChar c).length with hinside | hafter
    · rw [List.getElem?_append_left hinside, List.getElem?_append_left hinside]
    · obtain ⟨later, rfl⟩ := Nat.exists_eq_add_of_le hafter
      rw [List.getElem?_append_right hafter, List.getElem?_append_right hafter,
        Nat.add_sub_cancel_left]
      apply hrest.kept
      intro hlater
      exact hpaired ((unpaired_encodeChar_append c rest _).mpr ⟨later, rfl, hlater⟩)
  replaced place hunpaired := by
    obtain ⟨later, rfl, hlater⟩ := (unpaired_encodeChar_append c rest place).mp hunpaired
    rw [List.getElem?_append_right (Nat.le_add_right _ _), Nat.add_sub_cancel_left]
    exact hrest.replaced later hlater

/-- An unpaired unit is replaced. -/
theorem unpaired (hrest : Mends rest mended) {unit : UInt16}
    (hunpaired : Unpaired (unit :: rest) 0) : Mends (unit :: rest) (0xFFFD :: mended) where
  length_eq := congrArg (· + 1) hrest.length_eq
  kept place hpaired := by
    cases place with
    | zero => exact absurd hunpaired hpaired
    | succ later =>
        apply hrest.kept later
        rw [← unpaired_cons_iff hunpaired]
        exact hpaired
  replaced place hplace := by
    cases place with
    | zero => rfl
    | succ later => exact hrest.replaced later ((unpaired_cons_iff hunpaired later).mp hplace)

end Mends

/-! ## The shown text -/

theorem decodeLossy_char (c : Char) (rest : List UInt16) :
    decodeLossy (encodeChar c ++ rest) = c :: decodeLossy rest := by
  obtain ⟨unit, hunits, hhigh, hlow, hchar⟩ | ⟨high, low, hunits, hhigh, hlow, hchar⟩ :=
    encodeChar_cases c
  · have hunit : lossyChar unit = c := by simp [lossyChar, hhigh, hlow, hchar]
    rw [hunits, List.singleton_append]
    cases rest with
    | nil => rw [decodeLossy, decodeLossy, hunit]
    | cons next rest => simp [decodeLossy, hhigh, hunit]
  · rw [hunits, List.cons_append, List.singleton_append]
    simp [decodeLossy, hhigh, hlow, hchar]

theorem decodeLossy_unpaired {unit : UInt16} {rest : List UInt16}
    (hunpaired : Unpaired (unit :: rest) 0) :
    decodeLossy (unit :: rest) = replacement :: decodeLossy rest := by
  have hsurrogate : (isHigh unit || isLow unit) = true := by
    cases hunpaired with
    | high hhigh => exact Bool.or_eq_true_iff.mpr (.inl hhigh)
    | low hlow => exact Bool.or_eq_true_iff.mpr (.inr hlow)
  have hunit : lossyChar unit = replacement := by rw [lossyChar, if_pos hsurrogate]
  cases rest with
  | nil => rw [decodeLossy, decodeLossy, hunit]
  | cons next rest =>
      have hpair : ¬ (isHigh unit && isLow next) = true := by
        rw [Bool.and_eq_true]
        rintro ⟨hhigh, hlow⟩
        cases hunpaired with
        | high _ hnext => exact hnext hlow
        | low hfirst => exact not_isHighAt_of_isLowAt hfirst hhigh
      rw [decodeLossy, if_neg hpair, hunit]

theorem encodeChar_replacement : encodeChar replacement = [0xFFFD] := by
  decide

/-- The shown text is the text with its unpaired surrogates replaced. -/
theorem mends_decodeLossy (units : List UInt16) : Mends units (encode (decodeLossy units)) := by
  induction units using unitInduct with
  | nil => exact .nil
  | char c rest ih =>
      rw [decodeLossy_char, encode_cons]
      exact ih.char c
  | unpaired unit rest hunpaired ih =>
      rw [decodeLossy_unpaired hunpaired, encode_cons, encodeChar_replacement]
      exact ih.unpaired hunpaired

/-- A text is shown as it was written. -/
theorem decodeLossy_encode (text : List Char) : decodeLossy (encode text) = text := by
  induction text with
  | nil => rfl
  | cons c text ih => rw [encode_cons, decodeLossy_char, ih]

end InteropBridge.Utf16
