import InteropBridge.Text.Utf16
import Mathlib.Tactic.ByContra

/-!
# Well-formed UTF-16

Units are well formed if surrogates come in pairs, a high one directly before its
low one.  Any list of units is empty, begins with the units of a character, or
begins with an unpaired surrogate; reading goes on in the second case and stops in
the third.  So exactly the well-formed lists can be read, each is the encoding of
what is read from it, and any other list is refused at its first unpaired
surrogate.
-/

namespace InteropBridge.Utf16

/-- Whether a high surrogate stands at a place. -/
def isHighAt (units : List UInt16) (place : Nat) : Bool :=
  units[place]?.any isHigh

/-- Whether a low surrogate stands at a place. -/
def isLowAt (units : List UInt16) (place : Nat) : Bool :=
  units[place]?.any isLow

/-- Every high surrogate is directly followed by a low one, and every low one
directly preceded by a high one. -/
structure WellFormed (units : List UInt16) : Prop where
  low_after_high : ∀ place, isHighAt units place → isLowAt units (place + 1)
  high_before_low : ∀ place, isLowAt units place →
    ∃ previous, previous + 1 = place ∧ isHighAt units previous

/-- A surrogate that lacks its partner. -/
inductive Unpaired (units : List UInt16) : Nat → Prop
  | high {place : Nat} (hhigh : isHighAt units place)
      (hnext : ¬ isLowAt units (place + 1)) : Unpaired units place
  | low {place : Nat} (hlow : isLowAt units place)
      (hprevious : ∀ previous, previous + 1 = place → ¬ isHighAt units previous) :
      Unpaired units place

/-- The leftmost surrogate that lacks its partner. -/
structure FirstUnpaired (units : List UInt16) (place : Nat) : Prop where
  unpaired : Unpaired units place
  leftmost : ∀ earlier, Unpaired units earlier → place ≤ earlier

theorem wellFormed_iff_forall_not_unpaired (units : List UInt16) :
    WellFormed units ↔ ∀ place, ¬ Unpaired units place := by
  constructor
  · intro hformed place hunpaired
    cases hunpaired with
    | high hhigh hnext => exact hnext (hformed.low_after_high place hhigh)
    | low hlow hprevious =>
        obtain ⟨previous, hplace, hhigh⟩ := hformed.high_before_low place hlow
        exact hprevious previous hplace hhigh
  · intro hpaired
    refine ⟨fun place hhigh => ?_, fun place hlow => ?_⟩
    · by_contra hnext
      exact hpaired place (.high hhigh hnext)
    · by_contra hprevious
      refine hpaired place (.low hlow fun previous hplace hhigh => ?_)
      exact hprevious ⟨previous, hplace, hhigh⟩

/-! ## Characters and their units -/

theorem isHigh_iff (unit : UInt16) :
    isHigh unit = true ↔ 0xD800 ≤ unit.toNat ∧ unit.toNat < 0xDC00 := by
  simp [isHigh]

theorem isLow_iff (unit : UInt16) :
    isLow unit = true ↔ 0xDC00 ≤ unit.toNat ∧ unit.toNat < 0xE000 := by
  simp [isLow]

theorem not_isHigh_of_isLow {unit : UInt16} (hlow : isLow unit = true) :
    isHigh unit = false := by
  rw [isLow_iff] at hlow
  rw [Bool.eq_false_iff, ne_eq, isHigh_iff]
  omega

/-- Characters are no surrogates and do not pass U+10FFFF. -/
theorem toNat_char (c : Char) : c.toNat < 0xD800 ∨ 0xDFFF < c.toNat ∧ c.toNat < 0x110000 :=
  c.valid

theorem toNat_ofNat_char {code : Nat} (hcode : code.isValidChar) :
    (Char.ofNat code).toNat = code := by
  rw [Char.ofNat, dif_pos hcode]
  rfl

theorem toNat_ofNat_unit (code : Nat) (hcode : code < 0x10000) :
    (UInt16.ofNat code).toNat = code :=
  UInt16.toNat_ofNat_of_lt' hcode

theorem unit_lt (unit : UInt16) : unit.toNat < 0x10000 :=
  unit.toNat_lt

theorem toNat_joinPair {high low : UInt16} (hhigh : isHigh high = true)
    (hlow : isLow low = true) :
    (joinPair high low).toNat =
      0x10000 + (high.toNat - 0xD800) * 0x400 + (low.toNat - 0xDC00) := by
  rw [isHigh_iff] at hhigh
  rw [isLow_iff] at hlow
  exact toNat_ofNat_char (by right; omega)

theorem encodeChar_joinPair {high low : UInt16} (hhigh : isHigh high = true)
    (hlow : isLow low = true) : encodeChar (joinPair high low) = [high, low] := by
  have hjoined := toNat_joinPair hhigh hlow
  rw [isHigh_iff] at hhigh
  rw [isLow_iff] at hlow
  rw [encodeChar, if_neg (by omega), hjoined]
  have hfirst : 0xD800 + (0x10000 + (high.toNat - 0xD800) * 0x400 +
      (low.toNat - 0xDC00) - 0x10000) / 0x400 = high.toNat := by
    omega
  have hsecond : 0xDC00 + (0x10000 + (high.toNat - 0xD800) * 0x400 +
      (low.toNat - 0xDC00) - 0x10000) % 0x400 = low.toNat := by
    omega
  rw [hfirst, hsecond, UInt16.ofNat_toNat, UInt16.ofNat_toNat]

theorem encodeChar_ofNat {unit : UInt16} (hhigh : isHigh unit = false)
    (hlow : isLow unit = false) : encodeChar (Char.ofNat unit.toNat) = [unit] := by
  have hunit := unit_lt unit
  rw [Bool.eq_false_iff, ne_eq, isHigh_iff] at hhigh
  rw [Bool.eq_false_iff, ne_eq, isLow_iff] at hlow
  have hcode : (Char.ofNat unit.toNat).toNat = unit.toNat :=
    toNat_ofNat_char (by unfold Nat.isValidChar; omega)
  rw [encodeChar, if_pos (by omega), hcode, UInt16.ofNat_toNat]

/-- A character is one unit that is no surrogate, or a high and a low surrogate that
join to it. -/
theorem encodeChar_cases (c : Char) :
    (∃ unit, encodeChar c = [unit] ∧ isHigh unit = false ∧ isLow unit = false ∧
      Char.ofNat unit.toNat = c) ∨
    ∃ high low, encodeChar c = [high, low] ∧ isHigh high = true ∧ isLow low = true ∧
      joinPair high low = c := by
  have hvalid := toNat_char c
  by_cases hsmall : c.toNat < 0x10000
  · have hunit := toNat_ofNat_unit c.toNat hsmall
    refine .inl ⟨UInt16.ofNat c.toNat, if_pos hsmall, ?_, ?_, ?_⟩
    · rw [Bool.eq_false_iff, ne_eq, isHigh_iff]
      omega
    · rw [Bool.eq_false_iff, ne_eq, isLow_iff]
      omega
    · rw [hunit, Char.ofNat_toNat]
  · have hfirst := toNat_ofNat_unit (0xD800 + (c.toNat - 0x10000) / 0x400) (by omega)
    have hsecond := toNat_ofNat_unit (0xDC00 + (c.toNat - 0x10000) % 0x400) (by omega)
    refine .inr ⟨_, _, if_neg hsmall, ?_, ?_, ?_⟩
    · rw [isHigh_iff, hfirst]
      omega
    · rw [isLow_iff, hsecond]
      omega
    · have hcode : 0x10000 + (0xD800 + (c.toNat - 0x10000) / 0x400 - 0xD800) * 0x400 +
          (0xDC00 + (c.toNat - 0x10000) % 0x400 - 0xDC00) = c.toNat := by
        omega
      rw [joinPair, hfirst, hsecond, hcode, Char.ofNat_toNat]

/-! ## Where reading goes on and where it stops -/

theorem unpaired_zero_of_isLow {unit : UInt16} (hlow : isLow unit = true)
    (rest : List UInt16) : Unpaired (unit :: rest) 0 :=
  .low (by simpa [isLowAt] using hlow) fun previous hplace => by omega

theorem unpaired_zero_of_isHigh {unit : UInt16} (hhigh : isHigh unit = true)
    {rest : List UInt16} (hrest : isLowAt rest 0 = false) : Unpaired (unit :: rest) 0 := by
  refine .high (by simpa [isHighAt] using hhigh) ?_
  rw [Bool.not_eq_true, ← hrest]
  rfl

/-- Induction over a text unit by unit: nothing, a character before more text, or an
unpaired surrogate before more text. -/
theorem unitInduct {motive : List UInt16 → Prop} (nil : motive [])
    (char : ∀ (c : Char) (rest : List UInt16), motive rest → motive (encodeChar c ++ rest))
    (unpaired : ∀ (unit : UInt16) (rest : List UInt16), Unpaired (unit :: rest) 0 →
      motive rest → motive (unit :: rest)) :
    ∀ units, motive units
  | [] => nil
  | unit :: rest => by
      have hlater := unitInduct nil char unpaired rest
      cases hhigh : isHigh unit with
      | true =>
          match rest with
          | [] => exact unpaired _ _ (unpaired_zero_of_isHigh hhigh rfl) hlater
          | next :: rest =>
              cases hlow : isLow next with
              | true =>
                  have hnext := char (joinPair unit next) rest (unitInduct nil char unpaired rest)
                  rwa [encodeChar_joinPair hhigh hlow] at hnext
              | false =>
                  exact unpaired _ _ (unpaired_zero_of_isHigh hhigh (by simpa [isLowAt])) hlater
      | false =>
          cases hlow : isLow unit with
          | true => exact unpaired _ _ (unpaired_zero_of_isLow hlow rest) hlater
          | false =>
              have hnext := char (Char.ofNat unit.toNat) rest hlater
              rwa [encodeChar_ofNat hhigh hlow] at hnext

/-- Induction over a text as it is read: nothing, a character before more text, or an
unpaired surrogate, at which reading stops. -/
theorem induct {motive : List UInt16 → Prop} (nil : motive [])
    (char : ∀ (c : Char) (rest : List UInt16), motive rest → motive (encodeChar c ++ rest))
    (unpaired : ∀ units, Unpaired units 0 → motive units) (units : List UInt16) :
    motive units :=
  unitInduct nil char (fun _ _ hunpaired _ => unpaired _ hunpaired) units

theorem decodeFrom_char (index : Nat) (c : Char) (rest : List UInt16) :
    decodeFrom index (encodeChar c ++ rest) =
      (c :: ·) <$> decodeFrom (index + (encodeChar c).length) rest := by
  obtain ⟨unit, hunits, hhigh, hlow, hchar⟩ | ⟨high, low, hunits, hhigh, hlow, hchar⟩ :=
    encodeChar_cases c
  · rw [hunits, List.singleton_append, decodeFrom.eq_def]
    simp [hhigh, hlow, hchar]
  · rw [hunits, List.cons_append, List.singleton_append, decodeFrom.eq_def]
    simp [hhigh, hlow, hchar]

theorem decodeFrom_unpaired (index : Nat) {units : List UInt16} (hunpaired : Unpaired units 0) :
    decodeFrom index units = .error index := by
  rcases units with _ | ⟨unit, rest⟩
  · cases hunpaired with
    | high hhigh | low hhigh => cases hhigh
  cases hunpaired with
  | low hlow =>
      have hunit : isLow unit = true := hlow
      rw [decodeFrom.eq_def]
      simp [hunit, not_isHigh_of_isLow hunit]
  | high hhigh hnext =>
      have hunit : isHigh unit = true := hhigh
      rcases rest with _ | ⟨next, rest⟩
      · simp [decodeFrom, hunit]
      · have hrest : ¬ isLow next = true := hnext
        rw [decodeFrom.eq_def]
        simp [hunit, hrest]

/-! ## Places in a longer text -/

section Places

variable (front rest : List UInt16) (place : Nat)

theorem isHighAt_append_right :
    isHighAt (front ++ rest) (front.length + place) = isHighAt rest place := by
  rw [isHighAt, isHighAt, List.getElem?_append_right (Nat.le_add_right _ _),
    Nat.add_sub_cancel_left]

theorem isLowAt_append_right :
    isLowAt (front ++ rest) (front.length + place) = isLowAt rest place := by
  rw [isLowAt, isLowAt, List.getElem?_append_right (Nat.le_add_right _ _),
    Nat.add_sub_cancel_left]

end Places

/-- What precedes a text does not matter to it, unless it ends in a high surrogate. -/
theorem unpaired_append_right {front : List UInt16}
    (hlast : ∀ previous, previous + 1 = front.length → ¬ isHighAt front previous)
    (rest : List UInt16) (place : Nat) :
    Unpaired (front ++ rest) (front.length + place) ↔ Unpaired rest place := by
  constructor
  · rintro (⟨hhigh, hnext⟩ | ⟨hlow, hprevious⟩)
    · rw [isHighAt_append_right] at hhigh
      rw [Nat.add_assoc, isLowAt_append_right] at hnext
      exact .high hhigh hnext
    · rw [isLowAt_append_right] at hlow
      refine .low hlow fun previous hplace hhigh => ?_
      rw [← isHighAt_append_right front] at hhigh
      exact hprevious _ (by omega) hhigh
  · rintro (⟨hhigh, hnext⟩ | ⟨hlow, hprevious⟩)
    · rw [← isHighAt_append_right front] at hhigh
      rw [← isLowAt_append_right front, ← Nat.add_assoc] at hnext
      exact .high hhigh hnext
    · rw [← isLowAt_append_right front] at hlow
      refine .low hlow fun previous hplace hhigh => ?_
      by_cases hinside : previous < front.length
      · rw [isHighAt, List.getElem?_append_left hinside] at hhigh
        exact hlast previous (by omega) hhigh
      · obtain ⟨later, rfl⟩ := Nat.exists_eq_add_of_le (Nat.le_of_not_lt hinside)
        rw [isHighAt_append_right] at hhigh
        exact hprevious later (by omega) hhigh

theorem not_isHighAt_last (c : Char) (previous : Nat)
    (hlast : previous + 1 = (encodeChar c).length) : ¬ isHighAt (encodeChar c) previous := by
  obtain ⟨unit, hunits, hhigh, -⟩ | ⟨high, low, hunits, -, hlow, -⟩ := encodeChar_cases c
  · rw [hunits] at hlast ⊢
    obtain rfl : previous = 0 := by simpa using hlast
    simp [isHighAt, hhigh]
  · rw [hunits] at hlast ⊢
    obtain rfl : previous = 1 := by simpa using hlast
    simp [isHighAt, not_isHigh_of_isLow hlow]

theorem length_encodeChar_le_of_unpaired {c : Char} {rest : List UInt16} {place : Nat}
    (hunpaired : Unpaired (encodeChar c ++ rest) place) : (encodeChar c).length ≤ place := by
  by_contra hinside
  rw [Nat.not_le] at hinside
  obtain ⟨unit, hunits, hhigh, hlow, -⟩ | ⟨high, low, hunits, hhigh, hlow, -⟩ :=
    encodeChar_cases c
  · rw [hunits] at hunpaired hinside
    obtain rfl : place = 0 := by simpa using hinside
    cases hunpaired with
    | high hfound => simp [isHighAt, hhigh] at hfound
    | low hfound => simp [isLowAt, hlow] at hfound
  · rw [hunits] at hunpaired hinside
    have hlowest := not_isHigh_of_isLow hlow
    obtain rfl | rfl : place = 0 ∨ place = 1 := by
      simp only [List.length_cons, List.length_nil] at hinside
      omega
    · cases hunpaired with
      | high _ hnext => simp [isLowAt, hlow] at hnext
      | low hfound =>
          have hboth : isLow high = true := hfound
          rw [not_isHigh_of_isLow hboth] at hhigh
          cases hhigh
    · cases hunpaired with
      | high hfound => simp [isHighAt, hlowest] at hfound
      | low _ hprevious => exact hprevious 0 rfl hhigh

/-- The units of a character are paired, and leave what follows as it is. -/
theorem unpaired_encodeChar_append (c : Char) (rest : List UInt16) (place : Nat) :
    Unpaired (encodeChar c ++ rest) place ↔
      ∃ later, place = (encodeChar c).length + later ∧ Unpaired rest later := by
  constructor
  · intro hunpaired
    obtain ⟨later, rfl⟩ :=
      Nat.exists_eq_add_of_le (length_encodeChar_le_of_unpaired hunpaired)
    exact ⟨later, rfl, (unpaired_append_right (not_isHighAt_last c) rest later).mp hunpaired⟩
  · rintro ⟨later, rfl, hunpaired⟩
    exact (unpaired_append_right (not_isHighAt_last c) rest later).mpr hunpaired

theorem firstUnpaired_encodeChar_append (c : Char) (rest : List UInt16) (place : Nat) :
    FirstUnpaired (encodeChar c ++ rest) place ↔
      ∃ later, place = (encodeChar c).length + later ∧ FirstUnpaired rest later := by
  constructor
  · rintro ⟨hunpaired, hleftmost⟩
    obtain ⟨later, rfl, hlater⟩ := (unpaired_encodeChar_append c rest place).mp hunpaired
    refine ⟨later, rfl, hlater, fun earlier hearlier => ?_⟩
    have hle := hleftmost _ ((unpaired_encodeChar_append c rest _).mpr ⟨earlier, rfl, hearlier⟩)
    omega
  · rintro ⟨later, rfl, hunpaired, hleftmost⟩
    refine ⟨(unpaired_encodeChar_append c rest _).mpr ⟨later, rfl, hunpaired⟩, ?_⟩
    intro earlier hearlier
    obtain ⟨found, rfl, hfound⟩ := (unpaired_encodeChar_append c rest earlier).mp hearlier
    have hle := hleftmost found hfound
    omega

theorem firstUnpaired_iff_of_zero {units : List UInt16} (hunpaired : Unpaired units 0)
    (place : Nat) : FirstUnpaired units place ↔ place = 0 := by
  constructor
  · intro hfirst
    exact Nat.le_zero.mp (hfirst.leftmost 0 hunpaired)
  · rintro rfl
    exact ⟨hunpaired, fun earlier _ => Nat.zero_le earlier⟩

theorem not_unpaired_nil (place : Nat) : ¬ Unpaired [] place := by
  rintro (⟨hfound, -⟩ | ⟨hfound, -⟩) <;> cases hfound

/-! ## The text before the first unpaired surrogate -/

section Before

variable {units : List UInt16} {place earlier : Nat}

theorem isHighAt_take :
    isHighAt (units.take place) earlier = true ↔
      earlier < place ∧ isHighAt units earlier = true := by
  rw [isHighAt, isHighAt, List.getElem?_take]
  by_cases hearlier : earlier < place <;> simp [hearlier]

theorem isLowAt_take :
    isLowAt (units.take place) earlier = true ↔
      earlier < place ∧ isLowAt units earlier = true := by
  rw [isLowAt, isLowAt, List.getElem?_take]
  by_cases hearlier : earlier < place <;> simp [hearlier]

theorem not_isHighAt_of_isLowAt (hlow : isLowAt units place = true) :
    ¬ isHighAt units place = true := by
  rw [isLowAt, Option.any_eq_true] at hlow
  obtain ⟨unit, hunit, hlow⟩ := hlow
  simp [isHighAt, hunit, not_isHigh_of_isLow hlow]

theorem Unpaired.lt_length (hunpaired : Unpaired units place) : place < units.length := by
  by_contra hbeyond
  have hnone : units[place]? = none := List.getElem?_eq_none (Nat.le_of_not_lt hbeyond)
  cases hunpaired with
  | high hhigh => simp [isHighAt, hnone] at hhigh
  | low hlow => simp [isLowAt, hnone] at hlow

/-- What precedes the first unpaired surrogate is well formed.  It does not end in a high
surrogate either, since that one would be paired with a low one that follows, and before any
other it would be unpaired itself. -/
theorem FirstUnpaired.wellFormed_take (hfirst : FirstUnpaired units place) :
    WellFormed (units.take place) := by
  have hpaired : ∀ earlier < place, ¬ Unpaired units earlier :=
    fun earlier hearlier hunpaired => Nat.not_le_of_lt hearlier (hfirst.leftmost _ hunpaired)
  constructor
  · intro earlier hkept
    obtain ⟨hearlier, hhigh⟩ := isHighAt_take.mp hkept
    have hlow : isLowAt units (earlier + 1) = true := by
      by_contra hnext
      exact hpaired earlier hearlier (.high hhigh hnext)
    have hinside : earlier + 1 ≠ place := by
      rintro rfl
      cases hfirst.unpaired with
      | high hboth => exact not_isHighAt_of_isLowAt hlow hboth
      | low _ hprevious => exact hprevious earlier rfl hhigh
    exact isLowAt_take.mpr ⟨by omega, hlow⟩
  · intro later hkept
    obtain ⟨hlater, hlow⟩ := isLowAt_take.mp hkept
    by_contra halone
    refine hpaired later hlater (.low hlow fun previous hplace hhigh => ?_)
    exact halone ⟨previous, hplace, isHighAt_take.mpr ⟨by omega, hhigh⟩⟩

/-- The first unpaired surrogate is the one that stands behind well-formed units and is no
high one before a low one. -/
theorem firstUnpaired_iff (units : List UInt16) (place : Nat) :
    FirstUnpaired units place ↔
      place < units.length ∧ WellFormed (units.take place) ∧
        (isLowAt units place ∨ isHighAt units place ∧ ¬ isLowAt units (place + 1)) := by
  constructor
  · intro hfirst
    refine ⟨hfirst.unpaired.lt_length, hfirst.wellFormed_take, ?_⟩
    cases hfirst.unpaired with
    | high hhigh hnext => exact .inr ⟨hhigh, hnext⟩
    | low hlow _ => exact .inl hlow
  · rintro ⟨-, hformed, hsurrogate⟩
    constructor
    · rcases hsurrogate with hlow | ⟨hhigh, hnext⟩
      · refine .low hlow fun previous hplace hhigh => ?_
        have hinside := hformed.low_after_high previous (isHighAt_take.mpr ⟨by omega, hhigh⟩)
        exact absurd (isLowAt_take.mp hinside).1 (by omega)
      · exact .high hhigh hnext
    · intro earlier hunpaired
      by_contra hearlier
      have hinside : earlier < place := by omega
      cases hunpaired with
      | high hhigh hnext =>
          have hlow := hformed.low_after_high earlier (isHighAt_take.mpr ⟨hinside, hhigh⟩)
          exact hnext (isLowAt_take.mp hlow).2
      | low hlow hprevious =>
          obtain ⟨previous, hplace, hhigh⟩ :=
            hformed.high_before_low earlier (isLowAt_take.mpr ⟨hinside, hlow⟩)
          exact hprevious previous hplace (isHighAt_take.mp hhigh).2

end Before

/-! ## Reading and writing -/

theorem encode_cons (c : Char) (text : List Char) :
    encode (c :: text) = encodeChar c ++ encode text :=
  List.flatMap_cons

theorem encode_append (first second : List Char) :
    encode (first ++ second) = encode first ++ encode second :=
  List.flatMap_append

theorem decodeFrom_encode (index : Nat) (text : List Char) :
    decodeFrom index (encode text) = .ok text := by
  induction text generalizing index with
  | nil => rfl
  | cons c text ih => rw [encode_cons, decodeFrom_char, ih]; rfl

theorem encode_of_decodeFrom {index : Nat} {units : List UInt16} {text : List Char}
    (hdecode : decodeFrom index units = .ok text) : encode text = units := by
  induction units using induct generalizing index text with
  | nil =>
      cases hdecode
      rfl
  | char c rest ih =>
      rw [decodeFrom_char] at hdecode
      cases hrest : decodeFrom (index + (encodeChar c).length) rest with
      | error place =>
          rw [hrest] at hdecode
          cases hdecode
      | ok later =>
          rw [hrest] at hdecode
          cases hdecode
          rw [encode_cons, ih hrest]
  | unpaired units hunpaired =>
      rw [decodeFrom_unpaired index hunpaired] at hdecode
      cases hdecode

/-- Reading stops at the first unpaired surrogate, if there is one. -/
theorem decodeFrom_eq_error_iff (index : Nat) (units : List UInt16) (found : Nat) :
    decodeFrom index units = .error found ↔
      ∃ place, found = index + place ∧ FirstUnpaired units place := by
  induction units using induct generalizing index with
  | nil =>
      constructor
      · intro hdecode
        cases hdecode
      · rintro ⟨place, -, hfirst⟩
        exact absurd hfirst.unpaired (not_unpaired_nil place)
  | char c rest ih =>
      have hrest : decodeFrom index (encodeChar c ++ rest) = .error found ↔
          decodeFrom (index + (encodeChar c).length) rest = .error found := by
        rw [decodeFrom_char]
        cases decodeFrom (index + (encodeChar c).length) rest <;>
          simp [Functor.map, Except.map]
      rw [hrest, ih]
      simp only [firstUnpaired_encodeChar_append]
      constructor
      · rintro ⟨later, rfl, hlater⟩
        exact ⟨_, Nat.add_assoc .., later, rfl, hlater⟩
      · rintro ⟨_, rfl, later, rfl, hlater⟩
        exact ⟨later, (Nat.add_assoc ..).symm, hlater⟩
  | unpaired units hunpaired =>
      rw [decodeFrom_unpaired index hunpaired]
      simp [firstUnpaired_iff_of_zero hunpaired, eq_comm]

/-- Exactly the encoding of a text is read as the text. -/
theorem decode_eq_ok_iff (units : List UInt16) (text : List Char) :
    decode units = .ok text ↔ encode text = units := by
  constructor
  · exact encode_of_decodeFrom
  · rintro rfl
    exact decodeFrom_encode 0 text

theorem decode_eq_error_iff (units : List UInt16) (place : Nat) :
    decode units = .error place ↔ FirstUnpaired units place := by
  rw [decode, decodeFrom_eq_error_iff]
  simp

/-- Units are well formed or have a first unpaired surrogate. -/
theorem wellFormed_iff_exists_decode (units : List UInt16) :
    WellFormed units ↔ ∃ text, decode units = .ok text := by
  rw [wellFormed_iff_forall_not_unpaired]
  constructor
  · intro hpaired
    cases hdecode : decode units with
    | ok text => exact ⟨text, rfl⟩
    | error place =>
        have hfirst := (decode_eq_error_iff units place).mp hdecode
        exact absurd hfirst.unpaired (hpaired place)
  · rintro ⟨text, hdecode⟩
    rw [decode_eq_ok_iff] at hdecode
    subst hdecode
    induction text with
    | nil => exact not_unpaired_nil
    | cons c text ih =>
        intro place hunpaired
        rw [encode_cons, unpaired_encodeChar_append] at hunpaired
        obtain ⟨later, -, hlater⟩ := hunpaired
        exact ih later hlater

theorem wellFormed_iff_exists_encode (units : List UInt16) :
    WellFormed units ↔ ∃ text, encode text = units := by
  simp only [wellFormed_iff_exists_decode, decode_eq_ok_iff]

/-- A character from U+10000 on takes a pair. -/
theorem length_encodeChar (c : Char) :
    (encodeChar c).length = if 0x10000 ≤ c.toNat then 2 else 1 := by
  rw [encodeChar]
  by_cases hsmall : c.toNat < 0x10000
  · rw [if_pos hsmall, if_neg (Nat.not_le_of_lt hsmall)]
    rfl
  · rw [if_neg hsmall, if_pos (Nat.le_of_not_lt hsmall)]
    rfl

/-- A text has a unit for each character, and another one for each that takes a pair. -/
theorem length_encode (text : List Char) :
    (encode text).length = text.length + text.countP (0x10000 ≤ ·.toNat) := by
  induction text with
  | nil => rfl
  | cons c text ih =>
      rw [encode_cons, List.length_append, length_encodeChar, ih, List.countP_cons,
        List.length_cons]
      simp only [decide_eq_true_eq]
      split <;> omega

end InteropBridge.Utf16
