import InteropBridge.Text.Numeral
import Mathlib.Data.List.Induction
import Mathlib.Data.Nat.Digits.Defs

/-!
# Decimal numerals

A decimal numeral is a run of digits, perhaps after a plus, and its value is that of its digits
in base ten.  Leading zeros count for nothing, so every value has numerals of any length.  The
reader accepts exactly the numerals of values that fit a word.
-/

namespace InteropBridge.Text

/-- The number that decimal digits stand for, the last of them counting ones. -/
def decimalValue (digits : List Char) : Nat :=
  Nat.ofDigits 10 (digits.reverse.map fun c => c.toNat - 48)

/-- The text is a numeral of the value: digits, of which there is one at least, perhaps after a
plus. -/
def IsNumeral (text : List Char) (value : Nat) : Prop :=
  ∃ digits, (text = digits ∨ text = '+' :: digits) ∧ digits ≠ [] ∧
    (∀ c ∈ digits, c.isDigit = true) ∧ decimalValue digits = value

theorem decimalValue_append_singleton (digits : List Char) (c : Char) :
    decimalValue (digits ++ [c]) = 10 * decimalValue digits + (c.toNat - 48) := by
  rw [decimalValue, List.reverse_append, List.reverse_singleton, List.singleton_append,
    List.map_cons, Nat.ofDigits_cons, Nat.add_comm]
  rfl

theorem digitsValue?_append_singleton (digits : List Char) (c : Char) :
    digitsValue? (digits ++ [c]) = (digitsValue? digits).bind fun value =>
      if c.isDigit then some (10 * value + (c.toNat - 48)) else none := by
  simp [digitsValue?, List.foldl_append]

/-- Reading goes from the front, but the last digit is what one more step adds. -/
theorem digitsValue?_eq_some_iff (digits : List Char) (value : Nat) :
    digitsValue? digits = some value ↔
      (∀ c ∈ digits, c.isDigit = true) ∧ decimalValue digits = value := by
  induction digits using List.reverseRecOn generalizing value with
  | nil => simp [digitsValue?, decimalValue]
  | append_singleton front c ih =>
      rw [digitsValue?_append_singleton, decimalValue_append_singleton, Option.bind_eq_some_iff]
      simp only [ih, List.forall_mem_append, List.forall_mem_singleton]
      constructor
      · rintro ⟨before, ⟨hfront, hbefore⟩, hlast⟩
        split at hlast
        · next hdigit =>
            refine ⟨⟨hfront, hdigit⟩, ?_⟩
            rw [hbefore]
            exact Option.some.inj hlast
        · cases hlast
      · rintro ⟨⟨hfront, hdigit⟩, hvalue⟩
        refine ⟨decimalValue front, ⟨hfront, rfl⟩, ?_⟩
        rw [if_pos hdigit, hvalue]

/-! ## The sign -/

theorem isNumeral_signed_iff (digits : List Char) (value : Nat) :
    IsNumeral ('+' :: digits) value ↔
      digits ≠ [] ∧ digitsValue? digits = some value := by
  rw [digitsValue?_eq_some_iff]
  constructor
  · rintro ⟨run, rfl | hrun, hne, hall, hvalue⟩
    · exact absurd (hall '+' (by simp)) (by decide)
    · obtain rfl : digits = run := List.tail_eq_of_cons_eq hrun
      exact ⟨hne, hall, hvalue⟩
  · rintro ⟨hne, hall, hvalue⟩
    exact ⟨digits, .inr rfl, hne, hall, hvalue⟩

theorem isNumeral_unsigned_iff {text : List Char} (hsign : ∀ rest, text ≠ '+' :: rest)
    (value : Nat) :
    IsNumeral text value ↔ text ≠ [] ∧ digitsValue? text = some value := by
  rw [digitsValue?_eq_some_iff]
  constructor
  · rintro ⟨run, rfl | hrun, hrest⟩
    · exact hrest
    · exact absurd hrun (hsign run)
  · intro hrest
    exact ⟨text, .inl rfl, hrest⟩

/-- What is read as a numeral is one, of a value that fits a word, and every such is read. -/
theorem wordNumeral?_eq_some_iff (text : String) (value : Nat) :
    wordNumeral? text = some value ↔
      IsNumeral text.toList value ∧ value < UInt64.size := by
  have hread : ∀ digits : List Char,
      (if digits.isEmpty then none else (digitsValue? digits).filter (· < UInt64.size)) =
          some value ↔
        (digits ≠ [] ∧ digitsValue? digits = some value) ∧ value < UInt64.size := by
    intro digits
    cases digits with
    | nil => simp
    | cons c rest => simp [Option.filter_eq_some_iff]
  rw [wordNumeral?]
  split
  · next rest htext => rw [hread, htext, isNumeral_signed_iff]
  · next hsign => rw [hread, isNumeral_unsigned_iff hsign]

/-- A numeral has a character below all letters. -/
theorem IsNumeral.exists_le {text : List Char} {value : Nat} (hnumeral : IsNumeral text value) :
    ∃ c ∈ text, c.toNat ≤ '9'.toNat := by
  obtain ⟨digits, hsign, hne, hall, -⟩ := hnumeral
  obtain ⟨c, rest, rfl⟩ := List.exists_cons_of_ne_nil hne
  have hdigit : c.isDigit = true := hall c (by simp)
  simp only [Char.isDigit, Bool.and_eq_true, decide_eq_true_eq, UInt32.le_iff_toNat_le] at hdigit
  refine ⟨c, ?_, hdigit.2⟩
  rcases hsign with rfl | rfl <;> simp

end InteropBridge.Text
