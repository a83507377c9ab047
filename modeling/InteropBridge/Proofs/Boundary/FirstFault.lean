import InteropBridge.Proofs.Boundary.Validation
import Mathlib.Order.Bounds.Basic

/-!
# The first fault of a call

Conformance compares a value with a type shape by shape.  Validation goes through the
arguments in order and stops at the first that does not conform to the parameter at its
place, so what it reports is the least such place; and it looks at no argument before the
number of arguments is right.
-/

namespace InteropBridge

namespace Value

/-- The values that can stand where a type is asked for. -/
inductive Conforms : Value → BoundaryType → Prop
  | void : Conforms .void .void
  | int (number : Int32) : Conforms (.int number) .int
  | ownedText (text : ManagedText) : Conforms (.text text) .ownedText
  | lentText (text : ManagedText) : Conforms (.text text) .lentText
  | list (items : List Int32) : Conforms (.list items) .sequence
  | object (handle : Handle) (className : String) : Conforms (.object handle) (.object className)
  | absent (inner : BoundaryType) : Conforms .absent (.optional inner)
  | present {value : Value} {inner : BoundaryType} (hvalue : Conforms value inner) :
      Conforms (.present value) (.optional inner)

theorem conforms_of_check (value : Value) (type : BoundaryType)
    (hcheck : value.conforms type = true) : value.Conforms type := by
  fun_induction conforms value type with
  | case1 => exact .void
  | case2 number => exact .int number
  | case3 text => exact .ownedText text
  | case4 text => exact .lentText text
  | case5 items => exact .list items
  | case6 handle className => exact .object handle className
  | case7 inner => exact .absent inner
  | case8 value inner ih => exact .present (ih hcheck)
  | case9 => cases hcheck

/-- The check of a value against a type finds out whether the value conforms. -/
theorem conforms_iff (value : Value) (type : BoundaryType) :
    value.conforms type = true ↔ value.Conforms type := by
  constructor
  · exact value.conforms_of_check type
  · intro hconforms
    induction hconforms with
    | void | int | ownedText | lentText | list | object | absent => rfl
    | present _ ih => exact ih

end Value

namespace Signature

/-! ## Places -/

/-- What stands at a place conforms to the type there, if there are both. -/
def ConformsAt (types : List BoundaryType) (values : List Value) (place : Nat) : Prop :=
  ∀ expected ∈ types[place]?, ∀ found ∈ values[place]?, found.Conforms expected

/-- The places where a value does not conform to its type. -/
def faultPlaces (types : List BoundaryType) (values : List Value) : Set Nat :=
  {place | ¬ ConformsAt types values place}

section Places

variable {expected : BoundaryType} {found : Value} {types : List BoundaryType}
  {values : List Value}

theorem conformsAt_cons_zero :
    ConformsAt (expected :: types) (found :: values) 0 ↔ found.Conforms expected := by
  simp [ConformsAt]

theorem conformsAt_cons_succ (place : Nat) :
    ConformsAt (expected :: types) (found :: values) (place + 1) ↔
      ConformsAt types values place := by
  simp [ConformsAt]

/-- If the first value does not conform, its place is the least. -/
theorem isLeast_faultPlaces_of_head (hhead : ¬ found.Conforms expected) (place : Nat) :
    IsLeast (faultPlaces (expected :: types) (found :: values)) place ↔ place = 0 := by
  have hzero : 0 ∈ faultPlaces (expected :: types) (found :: values) :=
    fun hconforms => hhead (conformsAt_cons_zero.mp hconforms)
  constructor
  · intro hleast
    exact Nat.le_zero.mp (hleast.2 hzero)
  · rintro rfl
    exact ⟨hzero, fun other _ => Nat.zero_le other⟩

/-- If it does, the least place is that of the other values, counted on. -/
theorem isLeast_faultPlaces_cons (hhead : found.Conforms expected) (place : Nat) :
    IsLeast (faultPlaces (expected :: types) (found :: values)) place ↔
      ∃ later, place = later + 1 ∧ IsLeast (faultPlaces types values) later := by
  constructor
  · rintro ⟨hplace, hleast⟩
    cases place with
    | zero => exact absurd (conformsAt_cons_zero.mpr hhead) hplace
    | succ later =>
        refine ⟨later, rfl, ?_, ?_⟩
        · intro hconforms
          exact hplace ((conformsAt_cons_succ later).mpr hconforms)
        · intro other hother
          apply Nat.le_of_succ_le_succ
          apply hleast
          intro hconforms
          exact hother ((conformsAt_cons_succ other).mp hconforms)
  · rintro ⟨later, rfl, hlater, hleast⟩
    refine ⟨fun hconforms => hlater ((conformsAt_cons_succ later).mp hconforms), ?_⟩
    intro other hother
    cases other with
    | zero => exact absurd (conformsAt_cons_zero.mpr hhead) hother
    | succ other =>
        apply Nat.succ_le_succ
        apply hleast
        intro hconforms
        exact hother ((conformsAt_cons_succ other).mpr hconforms)

end Places

/-! ## Checking -/

/-- Checking stops at the least place where a value does not conform. -/
theorem checkFrom_eq_error_iff (param : Nat) (types : List BoundaryType)
    (values : List Value) (fault : MarshalError) :
    checkFrom param types values = .error fault ↔
      ∃ place, IsLeast (faultPlaces types values) place ∧
        ∃ expected ∈ types[place]?, ∃ found ∈ values[place]?,
          fault = mismatch (param + place) expected found := by
  induction types generalizing param values with
  | nil => simp [checkFrom]
  | cons expected types ih =>
      cases values with
      | nil => simp [checkFrom]
      | cons found values =>
          rw [checkFrom]
          by_cases hfound : found.conforms expected = true
          · have hhead := (Value.conforms_iff found expected).mp hfound
            rw [if_pos hfound, ih]
            simp only [isLeast_faultPlaces_cons hhead]
            constructor
            · rintro ⟨later, hlater, hfault⟩
              refine ⟨later + 1, ⟨later, rfl, hlater⟩, ?_⟩
              rwa [List.getElem?_cons_succ, List.getElem?_cons_succ, ← Nat.add_assoc,
                Nat.add_right_comm]
            · rintro ⟨_, ⟨later, rfl, hlater⟩, hfault⟩
              refine ⟨later, hlater, ?_⟩
              rwa [List.getElem?_cons_succ, List.getElem?_cons_succ, ← Nat.add_assoc,
                Nat.add_right_comm] at hfault
          · have hhead : ¬ found.Conforms expected :=
              fun hconforms => hfound ((Value.conforms_iff found expected).mpr hconforms)
            rw [if_neg hfound]
            simp [isLeast_faultPlaces_of_head hhead, eq_comm]

/-! ## Validating -/

section Validating

variable (signature : Signature) (args : List Value)

theorem validate_eq_checkFrom (hlength : args.length = signature.arity) :
    signature.validate args = checkFrom 0 signature.params args :=
  if_pos hlength

theorem validate_eq_argCountMismatch (hlength : args.length ≠ signature.arity) :
    signature.validate args =
      .error (.argCountMismatch signature.name signature.arity args.length) :=
  if_neg hlength

/-- What conforms throughout conforms place by place. -/
theorem validate_eq_ok_iff_conformsAt :
    signature.validate args = .ok () ↔
      args.length = signature.arity ∧ ∀ place, ConformsAt signature.params args place := by
  rw [validate_eq_ok_iff, List.forall₂_iff_get]
  apply and_congr_right
  intro hlength
  constructor
  · intro hall place expected hexpected found hfound
    obtain ⟨htype, rfl⟩ := List.getElem?_eq_some_iff.mp hexpected
    obtain ⟨hvalue, rfl⟩ := List.getElem?_eq_some_iff.mp hfound
    exact (Value.conforms_iff _ _).mp (hall place hvalue htype)
  · intro hall place hvalue htype
    apply (Value.conforms_iff _ _).mpr
    exact hall place _ (List.getElem?_eq_getElem htype) _ (List.getElem?_eq_getElem hvalue)

/-- A wrong number of arguments is reported before any of them is looked at. -/
theorem validate_eq_argCountMismatch_iff (function : String) (expected found : Nat) :
    signature.validate args = .error (.argCountMismatch function expected found) ↔
      args.length ≠ signature.arity ∧ function = signature.name ∧
        expected = signature.arity ∧ found = args.length := by
  by_cases hlength : args.length = signature.arity
  · rw [validate_eq_checkFrom signature args hlength, checkFrom_eq_error_iff]
    simp [mismatch, hlength]
  · rw [validate_eq_argCountMismatch signature args hlength]
    simp [hlength, eq_comm]

theorem validate_eq_typeMismatch_iff (place : Nat) (expected found : String) :
    signature.validate args = .error (.typeMismatch place expected found) ↔
      args.length = signature.arity ∧ IsLeast (faultPlaces signature.params args) place ∧
        ∃ type ∈ signature.params[place]?, ∃ value ∈ args[place]?,
          expected = type.managedName ∧ found = value.typeName := by
  by_cases hlength : args.length = signature.arity
  · rw [validate_eq_checkFrom signature args hlength, checkFrom_eq_error_iff]
    simp only [mismatch, Nat.zero_add, MarshalError.typeMismatch.injEq, hlength, true_and]
    constructor
    · rintro ⟨least, hleast, type, htype, value, hvalue, rfl, hexpected, hfound⟩
      exact ⟨hleast, type, htype, value, hvalue, hexpected, hfound⟩
    · rintro ⟨hleast, type, htype, value, hvalue, hexpected, hfound⟩
      exact ⟨place, hleast, type, htype, value, hvalue, rfl, hexpected, hfound⟩
  · rw [validate_eq_argCountMismatch signature args hlength]
    simp [hlength]

/-- Validation accepts exactly one conforming argument for each parameter.  A wrong number of
arguments is reported whatever they are; of arguments that do not conform, the first. -/
theorem validate_reports_first_fault :
    (signature.validate args = .ok () ↔
      args.length = signature.arity ∧ ∀ place, ConformsAt signature.params args place) ∧
    (∀ function expected found,
      signature.validate args = .error (.argCountMismatch function expected found) ↔
        args.length ≠ signature.arity ∧ function = signature.name ∧
          expected = signature.arity ∧ found = args.length) ∧
    (∀ place expected found,
      signature.validate args = .error (.typeMismatch place expected found) ↔
        args.length = signature.arity ∧ IsLeast (faultPlaces signature.params args) place ∧
          ∃ type ∈ signature.params[place]?, ∃ value ∈ args[place]?,
            expected = type.managedName ∧ found = value.typeName) ∧
    ∀ (value : Value) (type : BoundaryType),
      value.conforms type = true ↔ value.Conforms type := by
  exact ⟨validate_eq_ok_iff_conformsAt signature args,
    validate_eq_argCountMismatch_iff signature args,
    validate_eq_typeMismatch_iff signature args, Value.conforms_iff⟩

end Validating

/-- Of two arguments that do not conform, the first is reported. -/
example : (Signature.mk "pick" [.int, .optional .int, .sequence] .void).validate
    [.int 1, .present (.text ⟨[]⟩), .absent] =
      .error (.typeMismatch 1 "Option<int>" "Option<string>") := by
  rfl

end Signature

end InteropBridge
