import InteropBridge.Proofs.Text.Utf16
import InteropBridge.Proofs.Text.Utf8
import Mathlib.Order.Bounds.Basic

/-!
# The valid part of UTF-8

Any list of bytes is empty, begins with the bytes of a character, or begins with bytes that
begin no character.  Reading goes on in the second case and stops in the third.  So exactly
the encodings of texts can be read, and of any other list reading tells the length of the
longest part from the front that is the encoding of a text.
-/

namespace InteropBridge.Utf8

/-- The bytes encode some text. -/
def IsEncoded (bytes : List UInt8) : Prop :=
  ∃ text, encode text = bytes

/-- The lengths of the parts from the front that encode some text. -/
def validPrefixes (bytes : List UInt8) : Set Nat :=
  {count | count ≤ bytes.length ∧ IsEncoded (bytes.take count)}

/-! ## Bytes that form a character -/

section Forming

variable {first second third fourth : UInt8}

theorem toNat_val_ofNat {code : Nat} (hcode : code.isValidChar) :
    (Char.ofNat code).val.toNat = code :=
  Utf16.toNat_ofNat_char hcode

theorem encodeChar_one (hfirst : first.toNat < 0x80) :
    String.utf8EncodeChar (Char.ofNat first.toNat) = [first] := by
  have hvalid : first.toNat.isValidChar := by
    rw [Nat.isValidChar]
    omega
  simp only [String.utf8EncodeChar, toNat_val_ofNat hvalid]
  rw [if_pos (by omega), UInt8.ofNat_toNat]

theorem encodeChar_two (htwo : isTwoByte first second = true) :
    String.utf8EncodeChar (Char.ofNat ((first.toNat % 0x20) * 0x40 + sixBits second)) =
      [first, second] := by
  simp only [isTwoByte, isContinuation, Bool.and_eq_true, decide_eq_true_eq] at htwo
  rw [sixBits]
  generalize hsum : first.toNat % 0x20 * 0x40 + second.toNat % 0x40 = code
  have hvalid : code.isValidChar := by
    rw [Nat.isValidChar]
    omega
  have hfirst : code / 64 % 32 + 192 = first.toNat := by omega
  have hsecond : code % 64 + 128 = second.toNat := by omega
  simp only [String.utf8EncodeChar, toNat_val_ofNat hvalid]
  rw [if_neg (by omega), if_pos (by omega), hfirst, hsecond, UInt8.ofNat_toNat,
    UInt8.ofNat_toNat]

theorem encodeChar_three (hopens : opensThreeByte first second = true)
    (hthird : isContinuation third = true) :
    String.utf8EncodeChar (Char.ofNat ((first.toNat % 0x10) * 0x1000 + sixBits second * 0x40 +
      sixBits third)) = [first, second, third] := by
  simp only [opensThreeByte, isContinuation, Bool.and_eq_true, Bool.or_eq_true, bne_iff_ne,
    decide_eq_true_eq] at hopens hthird
  rw [sixBits, sixBits]
  generalize hsum : first.toNat % 0x10 * 0x1000 + second.toNat % 0x40 * 0x40 +
    third.toNat % 0x40 = code
  have hvalid : code.isValidChar := by
    rw [Nat.isValidChar]
    omega
  have hfirst : code / 4096 % 16 + 224 = first.toNat := by omega
  have hsecond : code / 64 % 64 + 128 = second.toNat := by omega
  have hlast : code % 64 + 128 = third.toNat := by omega
  simp only [String.utf8EncodeChar, toNat_val_ofNat hvalid]
  rw [if_neg (by omega), if_neg (by omega), if_pos (by omega), hfirst, hsecond, hlast,
    UInt8.ofNat_toNat, UInt8.ofNat_toNat, UInt8.ofNat_toNat]

theorem encodeChar_four (hopens : opensFourByte first second = true)
    (hthird : isContinuation third = true) (hfourth : isContinuation fourth = true) :
    String.utf8EncodeChar (Char.ofNat ((first.toNat % 0x08) * 0x40000 +
      sixBits second * 0x1000 + sixBits third * 0x40 + sixBits fourth)) =
        [first, second, third, fourth] := by
  simp only [opensFourByte, isContinuation, Bool.and_eq_true, Bool.or_eq_true, bne_iff_ne,
    decide_eq_true_eq] at hopens hthird hfourth
  rw [sixBits, sixBits, sixBits]
  generalize hsum : first.toNat % 0x08 * 0x40000 + second.toNat % 0x40 * 0x1000 +
    third.toNat % 0x40 * 0x40 + fourth.toNat % 0x40 = code
  have hvalid : code.isValidChar := by
    rw [Nat.isValidChar]
    omega
  have hfirst : code / 262144 % 8 + 240 = first.toNat := by omega
  have hsecond : code / 4096 % 64 + 128 = second.toNat := by omega
  have hmiddle : code / 64 % 64 + 128 = third.toNat := by omega
  have hlast : code % 64 + 128 = fourth.toNat := by omega
  simp only [String.utf8EncodeChar, toNat_val_ofNat hvalid]
  rw [if_neg (by omega), if_neg (by omega), if_neg (by omega), hfirst, hsecond, hmiddle, hlast,
    UInt8.ofNat_toNat, UInt8.ofNat_toNat, UInt8.ofNat_toNat, UInt8.ofNat_toNat]

end Forming

/-! ## Where reading goes on and where it stops -/

theorem front_cases (bytes : List UInt8) :
    bytes = [] ∨ (∃ c rest, bytes = String.utf8EncodeChar c ++ rest) ∨
      ∀ index, decodeFrom index bytes = .error index := by
  rcases bytes with _ | ⟨first, rest⟩
  · exact .inl rfl
  right
  by_cases hone : first.toNat < 0x80
  · exact .inl ⟨_, rest, by rw [encodeChar_one hone]; rfl⟩
  rcases rest with _ | ⟨second, rest⟩
  · exact .inr fun index => by simp [decodeFrom, hone]
  by_cases htwo : isTwoByte first second = true
  · exact .inl ⟨_, rest, by rw [encodeChar_two htwo]; rfl⟩
  rcases rest with _ | ⟨third, rest⟩
  · exact .inr fun index => by simp [decodeFrom, hone, htwo]
  by_cases hthree : (opensThreeByte first second && isContinuation third) = true
  · obtain ⟨hopens, hthird⟩ := Bool.and_eq_true_iff.mp hthree
    exact .inl ⟨_, rest, by rw [encodeChar_three hopens hthird]; rfl⟩
  rcases rest with _ | ⟨fourth, rest⟩
  · exact .inr fun index => by simp [decodeFrom, hone, htwo, hthree]
  by_cases hfour : (opensFourByte first second && isContinuation third &&
      isContinuation fourth) = true
  · obtain ⟨hopens, hfourth⟩ := Bool.and_eq_true_iff.mp hfour
    obtain ⟨hopens, hthird⟩ := Bool.and_eq_true_iff.mp hopens
    exact .inl ⟨_, rest, by rw [encodeChar_four hopens hthird hfourth]; rfl⟩
  · exact .inr fun index => by
      rw [decodeFrom.eq_def]
      simp only [if_neg hone, if_neg htwo, if_neg hthree, if_neg hfour]

theorem length_encodeChar_pos (c : Char) : 0 < (String.utf8EncodeChar c).length := by
  rw [String.length_utf8EncodeChar]
  exact c.utf8Size_pos

/-- Induction over bytes as they are read: nothing, a character before more bytes, or bytes
that begin no character. -/
theorem induct {motive : List UInt8 → Prop} (nil : motive [])
    (char : ∀ (c : Char) (rest : List UInt8), motive rest →
      motive (String.utf8EncodeChar c ++ rest))
    (stuck : ∀ bytes, (∀ index, decodeFrom index bytes = .error index) → motive bytes)
    (bytes : List UInt8) : motive bytes := by
  rcases front_cases bytes with hnil | ⟨c, rest, hbytes⟩ | hstuck
  · rw [hnil]
    exact nil
  · rw [hbytes]
    exact char c rest (induct nil char stuck rest)
  · exact stuck bytes hstuck
termination_by bytes.length
decreasing_by
  have hpos := length_encodeChar_pos c
  rw [hbytes, List.length_append]
  omega

/-! ## What can be read -/

theorem isEncoded_nil : IsEncoded [] :=
  ⟨[], rfl⟩

/-- Where reading a character and more bytes leads to, reading the other bytes leads. -/
theorem decodeFrom_char_eq_error_iff (index : Nat) (c : Char) (rest : List UInt8)
    (found : Nat) :
    decodeFrom index (String.utf8EncodeChar c ++ rest) = .error found ↔
      decodeFrom (index + (String.utf8EncodeChar c).length) rest = .error found := by
  rw [decodeFrom_char]
  cases decodeFrom (index + (String.utf8EncodeChar c).length) rest <;>
    simp [Functor.map, Except.map]

theorem encode_of_decodeFrom {index : Nat} {bytes : List UInt8} {text : NativeText}
    (hdecode : decodeFrom index bytes = .ok text) : encode text = bytes := by
  induction bytes using induct generalizing index text with
  | nil =>
      cases hdecode
      rfl
  | char c rest ih =>
      rw [decodeFrom_char] at hdecode
      cases hrest : decodeFrom (index + (String.utf8EncodeChar c).length) rest with
      | error place =>
          rw [hrest] at hdecode
          cases hdecode
      | ok later =>
          rw [hrest] at hdecode
          cases hdecode
          rw [encode_cons, ih hrest]
  | stuck bytes hstuck =>
      rw [hstuck] at hdecode
      cases hdecode

/-- Exactly the encoding of a text is read as the text. -/
theorem decode_eq_ok_iff (bytes : List UInt8) (text : NativeText) :
    decode bytes = .ok text ↔ encode text = bytes := by
  constructor
  · exact encode_of_decodeFrom
  · rintro rfl
    exact decode_encode text

theorem not_isEncoded_of_error {index found : Nat} {bytes : List UInt8}
    (hdecode : decodeFrom index bytes = .error found) : ¬ IsEncoded bytes := by
  rintro ⟨text, rfl⟩
  rw [decodeFrom_encode] at hdecode
  cases hdecode

theorem le_of_decodeFrom_eq_error {index found : Nat} {bytes : List UInt8}
    (hdecode : decodeFrom index bytes = .error found) : index ≤ found := by
  induction bytes using induct generalizing index with
  | nil => cases hdecode
  | char c rest ih =>
      have hle := ih ((decodeFrom_char_eq_error_iff index c rest found).mp hdecode)
      omega
  | stuck bytes hstuck =>
      rw [hstuck] at hdecode
      cases hdecode
      exact Nat.le_refl _

/-- Bytes at which reading stops at once begin no character. -/
theorem ne_encodeChar_append {bytes : List UInt8}
    (hstuck : ∀ index, decodeFrom index bytes = .error index) (c : Char) (rest : List UInt8) :
    bytes ≠ String.utf8EncodeChar c ++ rest := by
  intro hbytes
  have herror := hstuck 0
  rw [hbytes, decodeFrom_char_eq_error_iff] at herror
  have hle := le_of_decodeFrom_eq_error herror
  have hpos := length_encodeChar_pos c
  omega

/-! ## The longest valid part -/

theorem isEncoded_encodeChar_append (c : Char) (rest : List UInt8) :
    IsEncoded (String.utf8EncodeChar c ++ rest) ↔ IsEncoded rest := by
  constructor
  · rintro ⟨text, hencode⟩
    cases hrest : decodeFrom (0 + (String.utf8EncodeChar c).length) rest with
    | ok later => exact ⟨later, encode_of_decodeFrom hrest⟩
    | error found =>
        have herror := (decodeFrom_char_eq_error_iff 0 c rest found).mpr hrest
        exact absurd ⟨text, hencode⟩ (not_isEncoded_of_error herror)
  · rintro ⟨text, rfl⟩
    exact ⟨c :: text, encode_cons c text⟩

theorem mem_validPrefixes_append (c : Char) (rest : List UInt8) (later : Nat) :
    (String.utf8EncodeChar c).length + later ∈ validPrefixes (String.utf8EncodeChar c ++ rest) ↔
      later ∈ validPrefixes rest := by
  simp only [validPrefixes, Set.mem_ofPred_eq, List.length_append, List.take_length_add_append,
    isEncoded_encodeChar_append, Nat.add_le_add_iff_left]

theorem zero_mem_validPrefixes (bytes : List UInt8) : 0 ∈ validPrefixes bytes :=
  ⟨Nat.zero_le _, isEncoded_nil⟩

/-- A character in front makes the longest valid part longer by its bytes. -/
theorem isGreatest_validPrefixes_append (c : Char) (rest : List UInt8) (count : Nat) :
    IsGreatest (validPrefixes (String.utf8EncodeChar c ++ rest)) count ↔
      ∃ later, count = (String.utf8EncodeChar c).length + later ∧
        IsGreatest (validPrefixes rest) later := by
  constructor
  · rintro ⟨hcount, hgreatest⟩
    have hle : (String.utf8EncodeChar c).length ≤ count :=
      hgreatest ((mem_validPrefixes_append c rest 0).mpr (zero_mem_validPrefixes rest))
    obtain ⟨later, rfl⟩ := Nat.exists_eq_add_of_le hle
    refine ⟨later, rfl, (mem_validPrefixes_append c rest later).mp hcount, ?_⟩
    intro other hother
    exact Nat.le_of_add_le_add_left
      (hgreatest ((mem_validPrefixes_append c rest other).mpr hother))
  · rintro ⟨later, rfl, hlater, hgreatest⟩
    refine ⟨(mem_validPrefixes_append c rest later).mpr hlater, fun other hother => ?_⟩
    by_cases hinside : other < (String.utf8EncodeChar c).length
    · omega
    · obtain ⟨found, rfl⟩ := Nat.exists_eq_add_of_le (Nat.le_of_not_lt hinside)
      have hle := hgreatest ((mem_validPrefixes_append c rest found).mp hother)
      omega

/-- Of bytes that begin no character, only the empty part is valid. -/
theorem validPrefixes_of_stuck {bytes : List UInt8}
    (hstuck : ∀ index, decodeFrom index bytes = .error index) :
    validPrefixes bytes = {0} := by
  ext count
  constructor
  · rintro ⟨hcount, text, hencode⟩
    cases text with
    | nil =>
        have hempty : bytes.take count = [] := hencode.symm
        have hlength := congrArg List.length hempty
        rwa [List.length_take_of_le hcount] at hlength
    | cons c text =>
        have hbytes : bytes =
            String.utf8EncodeChar c ++ (encode text ++ bytes.drop count) := by
          rw [← List.append_assoc, ← encode_cons, hencode, List.take_append_drop]
        exact absurd hbytes (ne_encodeChar_append hstuck c _)
  · rintro rfl
    exact zero_mem_validPrefixes bytes

/-- Reading fails on what encodes no text, and tells the length of the longest valid part. -/
theorem decodeFrom_eq_error_iff (index : Nat) (bytes : List UInt8) (found : Nat) :
    decodeFrom index bytes = .error found ↔
      ¬ IsEncoded bytes ∧ ∃ count, found = index + count ∧
        IsGreatest (validPrefixes bytes) count := by
  induction bytes using induct generalizing index with
  | nil =>
      constructor
      · intro hdecode
        cases hdecode
      · rintro ⟨hinvalid, -⟩
        exact absurd isEncoded_nil hinvalid
  | char c rest ih =>
      rw [decodeFrom_char_eq_error_iff, ih, isEncoded_encodeChar_append]
      simp only [isGreatest_validPrefixes_append]
      apply and_congr_right
      intro _
      constructor
      · rintro ⟨later, rfl, hlater⟩
        exact ⟨_, Nat.add_assoc .., later, rfl, hlater⟩
      · rintro ⟨_, rfl, later, rfl, hlater⟩
        exact ⟨later, (Nat.add_assoc ..).symm, hlater⟩
  | stuck bytes hstuck =>
      have hinvalid := not_isEncoded_of_error (hstuck index)
      rw [hstuck, validPrefixes_of_stuck hstuck]
      simp [hinvalid, isGreatest_singleton.isGreatest_iff_eq, eq_comm]

theorem decode_eq_error_iff (bytes : List UInt8) (found : Nat) :
    decode bytes = .error found ↔
      ¬ IsEncoded bytes ∧ IsGreatest (validPrefixes bytes) found := by
  rw [decode, decodeFrom_eq_error_iff]
  simp

end InteropBridge.Utf8
