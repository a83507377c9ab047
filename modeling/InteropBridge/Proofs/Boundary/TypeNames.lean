import InteropBridge.Proofs.Boundary.FirstFault

/-!
# Type names and conformance

The name of a value's type is made without looking at any boundary type, and the name of a
boundary type without looking at any value.  Where objects are of the library's own class, the
two names are equal exactly if the value conforms to the type and all its optionals are filled:
the name of an optional gives away the name inside it, and no type is called by the mark that
stands for the inside of an absent one.
-/

namespace InteropBridge

/-! ## Names of optionals -/

theorem optionalName_inj {left right : String} :
    "Option<" ++ left ++ ">" = "Option<" ++ right ++ ">" ↔ left = right := by
  rw [String.append_left_inj, String.append_right_inj]

/-- The name of an optional is told from others by its first letter. -/
theorem optionalName_ne {name : String} (hname : name.toList.head? ≠ some 'O')
    (inner : String) : "Option<" ++ inner ++ ">" ≠ name := by
  rintro rfl
  simp [String.toList_append] at hname

namespace BoundaryType

/-- Every object type in the type is of the library's own class. -/
def OfLibrary : BoundaryType → Prop
  | object name => name = className
  | optional inner => inner.OfLibrary
  | void | int | ownedText | lentText | sequence => True

theorem head?_managedName_of_plain {type : BoundaryType} (htype : type.OfLibrary)
    (hplain : ∀ inner, type ≠ .optional inner) : type.managedName.toList.head? ≠ some 'O' := by
  cases type with
  | void | int | ownedText | lentText | sequence => decide
  | object name =>
      obtain rfl : name = className := htype
      decide
  | optional inner => exact absurd rfl (hplain inner)

/-- No type is called by the mark for the inside of an absent optional. -/
theorem managedName_ne_unknown {type : BoundaryType} (htype : type.OfLibrary) :
    type.managedName ≠ "?" := by
  cases type with
  | void | int | ownedText | lentText | sequence => decide
  | object name =>
      obtain rfl : name = className := htype
      decide
  | optional inner => exact optionalName_ne (by decide) _

end BoundaryType

namespace Value

/-- No optional in the value is absent. -/
def Filled : Value → Prop
  | absent => False
  | present content => content.Filled
  | void | int _ | text _ | list _ | object _ => True

/-- A type that is no optional has the name of a value exactly if the value conforms to it. -/
theorem typeName_eq_iff_of_plain {type : BoundaryType} (htype : type.OfLibrary)
    (hplain : ∀ inner, type ≠ .optional inner) (value : Value) :
    value.typeName = type.managedName ↔ value.conforms type = true ∧ value.Filled := by
  have hletter := BoundaryType.head?_managedName_of_plain htype hplain
  cases value with
  | absent =>
      have hname : absent.typeName ≠ type.managedName := optionalName_ne hletter "?"
      simp [hname, Filled]
  | present content =>
      have hname : (present content).typeName ≠ type.managedName :=
        optionalName_ne hletter content.typeName
      cases type <;> simp_all [conforms]
  | void | int _ | text _ | list _ | object _ =>
      cases type <;>
        simp_all [typeName, BoundaryType.managedName, BoundaryType.OfLibrary, conforms, Filled,
          className]

/-- The names agree exactly if the value conforms and leaves nothing open. -/
theorem typeName_eq_managedName_iff {type : BoundaryType} (htype : type.OfLibrary)
    (value : Value) :
    value.typeName = type.managedName ↔ value.conforms type = true ∧ value.Filled := by
  -- Optionals are peeled off value and type together, so the induction is on the type.
  induction type generalizing value with
  | void | int | ownedText | lentText | sequence | object =>
      exact typeName_eq_iff_of_plain htype (by simp) value
  | optional inner ih =>
      have hname : ∀ name : String, name.toList.head? ≠ some 'O' →
          name ≠ (BoundaryType.optional inner).managedName :=
        fun name hletter => (optionalName_ne hletter inner.managedName).symm
      cases value with
      | absent =>
          have hinner : inner.managedName ≠ "?" := BoundaryType.managedName_ne_unknown htype
          have hunknown : absent.typeName ≠ (BoundaryType.optional inner).managedName :=
            fun hnames => hinner (optionalName_inj.mp hnames.symm)
          simp [hunknown, Filled]
      | present content => exact optionalName_inj.trans (ih htype content)
      | void | int _ | text _ | list _ | object _ =>
          simp only [conforms, typeName, className, Bool.false_eq_true, false_and, iff_false]
          exact hname _ (by decide)

end Value

namespace Signature

/-- A mismatch that a signature reports names two different types. -/
theorem expected_ne_found {signature : Signature} {args : List Value} {place : Nat}
    {expected found : String} (hlibrary : ∀ type ∈ signature.params, type.OfLibrary)
    (hvalidate : signature.validate args = .error (.typeMismatch place expected found)) :
    expected ≠ found := by
  obtain ⟨-, ⟨hfault, -⟩, type, htype, value, hvalue, rfl, rfl⟩ :=
    (validate_eq_typeMismatch_iff signature args place expected found).mp hvalidate
  intro hnames
  have hconforms :=
    (Value.typeName_eq_managedName_iff (hlibrary type (List.mem_of_getElem? htype)) value).mp
      hnames.symm
  apply hfault
  intro expected hexpected found hfound
  obtain rfl : type = expected := Option.some.inj (htype.symm.trans hexpected)
  obtain rfl : value = found := Option.some.inj (hvalue.symm.trans hfound)
  exact (Value.conforms_iff value type).mp hconforms.1

end Signature

end InteropBridge
