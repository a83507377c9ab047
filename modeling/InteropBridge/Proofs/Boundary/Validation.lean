import InteropBridge.Boundary.Signature
import Mathlib.Data.List.Forall2

/-!
# What validation accepts

A value conforms to a type exactly if its shape is the one the type asks for, and
a signature accepts exactly the argument lists that conform to its parameters
place by place.
-/

namespace InteropBridge

namespace Value

theorem conforms_int_iff (value : Value) :
    value.conforms .int = true ↔ ∃ number, value = .int number := by
  cases value <;> simp [conforms]

theorem conforms_ownedText_iff (value : Value) :
    value.conforms .ownedText = true ↔ ∃ text, value = .text text := by
  cases value <;> simp [conforms]

theorem conforms_lentText_iff (value : Value) :
    value.conforms .lentText = true ↔ ∃ text, value = .text text := by
  cases value <;> simp [conforms]

theorem conforms_sequence_iff (value : Value) :
    value.conforms .sequence = true ↔ ∃ items, value = .list items := by
  cases value <;> simp [conforms]

theorem conforms_object_iff (value : Value) (name : String) :
    value.conforms (.object name) = true ↔ ∃ handle, value = .object handle := by
  cases value <;> simp [conforms]

/-- An absent optional conforms to every optional type, a present one to those
whose inner type its content conforms to. -/
theorem conforms_optional_iff (value : Value) (inner : BoundaryType) :
    value.conforms (.optional inner) = true ↔
      ∃ content : Option Value, value = .ofOption content ∧
        ∀ present ∈ content, present.conforms inner = true := by
  cases value with
  | absent => 
      simp only [conforms, true_iff]
      exact ⟨none, rfl, by simp⟩
  | present content =>
      simp only [conforms]
      constructor
      · intro hcontent
        exact ⟨some content, rfl, by simpa using hcontent⟩
      · rintro ⟨_ | found, hvalue, hfound⟩
        · cases hvalue
        · cases hvalue
          exact hfound content rfl
  | void | int _ | text _ | list _ | object _ =>
      simp only [conforms, Bool.false_eq_true, false_iff]
      rintro ⟨_ | found, hvalue, -⟩ <;> cases hvalue

end Value

namespace Signature

/-- Checking from a place on accepts what conforms place by place. -/
theorem checkFrom_eq_ok_iff (param : Nat) (types : List BoundaryType)
    (values : List Value) (hlength : values.length = types.length) :
    checkFrom param types values = .ok () ↔
      List.Forall₂ (fun value expected => value.conforms expected = true)
        values types := by
  induction types generalizing values param with
  | nil =>
      obtain rfl : values = [] := List.length_eq_zero_iff.mp hlength
      simp [checkFrom]
  | cons expected types ih =>
      cases values with
      | nil => simp at hlength
      | cons found values =>
          have hrest : values.length = types.length := by simpa using hlength
          rw [checkFrom, List.forall₂_cons]
          by_cases hfound : found.conforms expected = true
          · rw [if_pos hfound, ih (param + 1) values hrest]
            simp [hfound]
          · rw [if_neg hfound]
            simp [hfound]

theorem validate_eq_ok_iff (signature : Signature) (args : List Value) :
    signature.validate args = .ok () ↔
      List.Forall₂ (fun value expected => value.conforms expected = true)
        args signature.params := by
  rw [validate]
  by_cases hlength : args.length = signature.arity
  · rw [if_pos hlength]
    exact checkFrom_eq_ok_iff 0 signature.params args hlength
  · rw [if_neg hlength]
    constructor
    · intro hvalid
      cases hvalid
    · intro hconform
      exact absurd hconform.length_eq hlength

end Signature

end InteropBridge
