import InteropBridge.Proofs.Boundary.TypeNames
import InteropBridge.Proofs.Managed.Soundness

/-!
# What a mismatch says

A mismatch puts the name of the type that was asked for beside the name of the type that was
found.  The two are never the same: not where a signature over the library's own class is
checked, and so not where a call by name is refused.
-/

namespace InteropBridge

/-- The table knows no objects but those of the library's own class. -/
theorem Export.ofLibrary_params (target : Export) :
    ∀ type ∈ target.signature.params, type.OfLibrary := by
  cases target <;> simp [signature, BoundaryType.OfLibrary]

namespace Dynamic

/-- A mismatch that a call by name ends in comes from the check against its signature. -/
theorem validate_of_typeMismatch {name : String} {args : List Value} {context after : Context}
    {place : Nat} {expected found : String}
    (hcall : (call name args).run.run context =
      (.error (.marshal (.typeMismatch place expected found)), after)) :
    ∃ target : Export,
      target.signature.validate args = .error (.typeMismatch place expected found) := by
  cases hname : Export.ofName? name with
  | none =>
      have hresolve : resolve? name args = .error (.unknownFunction name) := by
        rw [resolve?, hname]
      rw [run_call_refused hresolve] at hcall
      cases hcall
  | some target =>
      refine ⟨target, ?_⟩
      cases hvalid : target.signature.validate args with
      | ok =>
          have hresolve := (resolve?_eq_ok_iff name args target).mpr ⟨hname, hvalid⟩
          have hends := sound_call hresolve context
          rw [hcall] at hends
          cases hends
      | error fault =>
          have hresolve : resolve? name args = .error fault := by
            rw [resolve?_of_name hname, hvalid]
            rfl
          rw [run_call_refused hresolve] at hcall
          cases hcall
          rfl

/-- Where objects are of the library's own class, a value without absent optionals conforms to a
type exactly if they have the same name, and no value that does not conform has the name of the
type.  So no mismatch, whether it comes from a signature or from a call by name, says the same
name twice. -/
theorem mismatch_names_two_types :
    (∀ (value : Value) (type : BoundaryType), type.OfLibrary →
      (value.Filled → (value.conforms type = true ↔ value.typeName = type.managedName)) ∧
      (value.conforms type = false → value.typeName ≠ type.managedName)) ∧
    (∀ (signature : Signature) (args : List Value) (place : Nat) (expected found : String),
      (∀ type ∈ signature.params, type.OfLibrary) →
      signature.validate args = .error (.typeMismatch place expected found) →
      expected ≠ found) ∧
    ∀ (name : String) (args : List Value) (context after : Context) (place : Nat)
      (expected found : String),
      (call name args).run.run context =
        (.error (.marshal (.typeMismatch place expected found)), after) →
      expected ≠ found := by
  refine ⟨fun value type hlibrary => ?_, ?_, ?_⟩
  · have hnames := Value.typeName_eq_managedName_iff hlibrary value
    constructor
    · intro hfilled
      rw [hnames]
      exact ⟨fun hconforms => ⟨hconforms, hfilled⟩, fun hboth => hboth.1⟩
    · intro hconforms hequal
      rw [(hnames.mp hequal).1] at hconforms
      cases hconforms
  · intro signature args place expected found hlibrary hvalidate
    exact Signature.expected_ne_found hlibrary hvalidate
  · intro name args context after place expected found hcall
    obtain ⟨target, hvalidate⟩ := validate_of_typeMismatch hcall
    exact Signature.expected_ne_found target.ofLibrary_params hvalidate

/-- An optional text within an optional is no optional number: both names are told, and a call
that wants the number is refused with two names. -/
theorem mismatch_names_two_types_nested :
    (Value.present (.present (.text ⟨[97]⟩))).typeName ≠
      (BoundaryType.optional (.optional .int)).managedName ∧
    (Value.present (.object ⟨7⟩)).typeName =
      (BoundaryType.optional (.object className)).managedName ∧
    ((Signature.mk "pick" [.optional (.optional .int)] .void).validate
        [.present .absent] = .ok () ∧
      (Signature.mk "pick" [.optional (.optional .int)] .void).validate
        [.present (.present (.text ⟨[97]⟩))] =
          .error (.typeMismatch 0 "Option<Option<int>>" "Option<Option<string>>") ∧
      "Option<Option<int>>" ≠ "Option<Option<string>>") ∧
    ((call "TestStaticClass.maybe_add_one" [.present .absent]).run.run {}).1 =
      .error (.marshal (.typeMismatch 0 "Option<int>" "Option<Option<?>>")) ∧
    "Option<int>" ≠ "Option<Option<?>>" := by
  obtain ⟨hnames, hsignature, hcall⟩ := mismatch_names_two_types
  have htext := (hnames (.present (.present (.text ⟨[97]⟩))) (.optional (.optional .int)) trivial).2
  have hobject := (hnames (.present (.object ⟨7⟩)) (.optional (.object className)) rfl).1 trivial
  have hvalidate : (Signature.mk "pick" [.optional (.optional .int)] .void).validate
      [.present (.present (.text ⟨[97]⟩))] =
        .error (.typeMismatch 0 "Option<Option<int>>" "Option<Option<string>>") := by
    rfl
  have hrun : ((call "TestStaticClass.maybe_add_one" [.present .absent]).run.run {}).1 =
      .error (.marshal (.typeMismatch 0 "Option<int>" "Option<Option<?>>")) := by
    rfl
  refine ⟨htext rfl, hobject.mp rfl, ⟨rfl, hvalidate, ?_⟩, hrun, ?_⟩
  · refine hsignature _ _ _ _ _ ?_ hvalidate
    simp [BoundaryType.OfLibrary]
  · exact hcall _ _ {} _ 0 _ _ (Prod.ext hrun rfl)

end Dynamic

end InteropBridge
