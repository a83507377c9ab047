import InteropBridge.Proofs.Text.Utf8
import InteropBridge.Text.Numeral
import Mathlib.Data.Nat.Digits.Lemmas

/-!
# Plain text

A text is plain if all of its characters are below 80, as those of every numeral are.  A plain
character takes one byte, so the bytes of a plain text can be cut anywhere and still be read.
-/

namespace InteropBridge.Text

/-- Every character of the text takes a single byte. -/
def IsPlain (text : String) : Prop :=
  ∀ c ∈ text.toList, c.toNat < 0x80

instance (text : String) : Decidable (IsPlain text) :=
  List.decidableBAll (fun c : Char => c.toNat < 0x80) text.toList

@[simp]
theorem isPlain_append (first second : String) :
    IsPlain (first ++ second) ↔ IsPlain first ∧ IsPlain second := by
  simp only [IsPlain, String.toList_append, List.forall_mem_append]

@[simp]
theorem isPlain_ofList (chars : List Char) :
    IsPlain (String.ofList chars) ↔ ∀ c ∈ chars, c.toNat < 0x80 := by
  rw [IsPlain, String.toList_ofList]

/-! ## Numerals -/

theorem digitChar_lt {digit : Nat} (hdigit : digit < 16) : digit.digitChar.toNat < 0x80 := by
  have hdigits : ∀ digit < 16, digit.digitChar.toNat < 0x80 := by decide
  exact hdigits digit hdigit

theorem lt_of_mem_toDigits {base : Nat} (hbase : 1 < base) (hsmall : base ≤ 16) (n : Nat) :
    ∀ c ∈ base.toDigits n, c.toNat < 0x80 := by
  induction n using Nat.strongRecOn with
  | ind n ih =>
      rw [Nat.toDigits_eq_if hbase]
      split
      · intro c hc
        rw [List.mem_singleton.mp hc]
        exact digitChar_lt (by omega)
      · have hless : n / base < n := Nat.div_lt_self (by omega) hbase
        have hlast : n % base < base := Nat.mod_lt n (by omega)
        intro c hc
        rcases List.mem_append.mp hc with hfront | hend
        · exact ih (n / base) hless c hfront
        · rw [List.mem_singleton.mp hend]
          exact digitChar_lt (by omega)

@[simp]
theorem isPlain_toString (n : Nat) : IsPlain (toString n) := by
  have hdigits : (toString n).toList = Nat.toDigits 10 n := Nat.toList_repr
  rw [IsPlain, hdigits]
  exact lt_of_mem_toDigits (by decide) (by decide) n

@[simp]
theorem isPlain_hexDigits (n : Nat) : IsPlain (hexDigits n) := by
  rw [hexDigits, isPlain_ofList]
  exact lt_of_mem_toDigits (by decide) (by decide) n

end InteropBridge.Text

namespace InteropBridge.Utf8

/-! ## The bytes of plain text -/

theorem utf8EncodeChar_of_lt {c : Char} (hc : c.toNat < 0x80) :
    String.utf8EncodeChar c = [UInt8.ofNat c.toNat] := by
  have hval : c.val.toNat = c.toNat := rfl
  rw [String.utf8EncodeChar, hval, if_pos (by omega)]

variable {text : NativeText} (hplain : ∀ c ∈ text, c.toNat < 0x80)

include hplain

/-- A plain text has a byte for each character. -/
theorem encode_of_plain : encode text = text.map fun c => UInt8.ofNat c.toNat := by
  rw [encode, ← List.flatMap_pure_eq_map]
  exact List.flatMap_congr fun c hc => utf8EncodeChar_of_lt (hplain c hc)

theorem encode_take_of_plain (count : Nat) :
    encode (text.take count) = (encode text).take count := by
  have hfront : ∀ c ∈ text.take count, c.toNat < 0x80 := fun c hc =>
    hplain c (List.mem_of_mem_take hc)
  rw [encode_of_plain hfront, encode_of_plain hplain, List.map_take]

/-- As many characters are read as there are bytes. -/
theorem decode_take_of_plain (count : Nat) :
    decode ((encode text).take count) = .ok (text.take count) := by
  rw [← encode_take_of_plain hplain, decode_encode]

end InteropBridge.Utf8
