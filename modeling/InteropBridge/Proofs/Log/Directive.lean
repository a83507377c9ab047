import InteropBridge.Log.Filter
import InteropBridge.Proofs.Text.Pieces
import Mathlib.Data.Prod.Lex
import Mathlib.Data.String.Basic

/-!
# What directives are about

The subject of a directive is its target together with its field.  Among the directives that
can be decided from an event, subjects are in a strict order from the less to the more
specific.
-/

namespace InteropBridge.Log.Directive

/-- What a directive can be about: a target, and a field. -/
abbrev Subject : Type :=
  Option String × Option FieldMatch

def subject (directive : Directive) : Subject :=
  (directive.target, directive.field)

theorem sameSubject_iff {left right : Directive} :
    left.sameSubject right = true ↔ left.subject = right.subject := by
  simp [sameSubject, subject]

/-! ## The order of subjects -/

def targetLength (directive : Directive) : Nat :=
  directive.target.elim 0 (·.utf8ByteSize + 1)

def fieldCount (directive : Directive) : Nat :=
  if directive.field.isSome then 1 else 0

def fieldName (directive : Directive) : String :=
  directive.field.elim "" (·.name)

/-- What makes a directive specific, in the order in which it counts. -/
def weight (directive : Directive) : ℕ ×ₗ ℕ ×ₗ String ×ₗ String :=
  toLex (directive.targetLength, toLex (directive.fieldCount,
    toLex (directive.target.getD "", directive.fieldName)))

/-- No target and the empty one differ in length. -/
theorem target_eq {left right : Directive} (hlength : left.targetLength = right.targetLength)
    (htext : left.target.getD "" = right.target.getD "") : left.target = right.target := by
  rw [targetLength, targetLength] at hlength
  cases hleft : left.target <;> cases hright : right.target <;> simp_all

theorem isMoreSpecific_iff {left right : Directive} :
    left.isMoreSpecific right = true ↔ right.weight < left.weight := by
  have hunfold : left.isMoreSpecific right =
      if left.targetLength ≠ right.targetLength then
        decide (right.targetLength < left.targetLength)
      else if left.fieldCount ≠ right.fieldCount then
        decide (right.fieldCount < left.fieldCount)
      else if left.target ≠ right.target then
        decide (right.target.getD "" < left.target.getD "")
      else decide (right.fieldName < left.fieldName) := rfl
  rw [hunfold]
  simp only [weight, Prod.Lex.toLex_lt_toLex]
  split
  case isTrue hlength => simp [Ne.symm hlength]
  case isFalse hlength =>
    rw [ne_eq, not_not] at hlength
    split
    case isTrue hcount => simp [hlength, Ne.symm hcount]
    case isFalse hcount =>
      rw [ne_eq, not_not] at hcount
      split
      case isTrue htarget =>
        have htext : right.target.getD "" ≠ left.target.getD "" :=
          fun htext => htarget (target_eq hlength htext.symm)
        simp [hlength, hcount, htext]
      case isFalse htarget =>
        rw [ne_eq, not_not] at htarget
        simp [hlength, hcount, htarget]

/-- Without values, fields with the same name are the same. -/
theorem field_eq {left right : Directive} (hleft : left.isStatic = true)
    (hright : right.isStatic = true) (hcount : left.fieldCount = right.fieldCount)
    (hname : left.fieldName = right.fieldName) : left.field = right.field := by
  rw [isStatic, Bool.and_eq_true] at hleft hright
  rw [fieldCount, fieldCount] at hcount
  rw [fieldName, fieldName] at hname
  rcases hl : left.field with _ | ⟨name, value⟩ <;>
    rcases hr : right.field with _ | ⟨name, value⟩ <;> simp_all

theorem subject_eq_of_weight_eq {left right : Directive} (hleft : left.isStatic = true)
    (hright : right.isStatic = true) (hweight : left.weight = right.weight) :
    left.subject = right.subject := by
  simp only [weight, toLex_inj, Prod.mk.injEq] at hweight
  obtain ⟨hlength, hcount, htext, hname⟩ := hweight
  rw [subject, subject, target_eq hlength htext, field_eq hleft hright hcount hname]

/-! ## Directives without brackets -/

/-- The directive asks for nothing but a target and a level. -/
def IsPlain (directive : Directive) : Prop :=
  directive.span = none ∧ directive.field = none

theorem IsPlain.isStatic {directive : Directive} (hplain : directive.IsPlain) :
    directive.isStatic = true := by
  obtain ⟨hspan, hfield⟩ := hplain
  simp [Directive.isStatic, hspan, hfield]

theorem IsPlain.subject_eq {directive : Directive} (hplain : directive.IsPlain) :
    directive.subject = (directive.target, none) :=
  Prod.ext rfl hplain.2

theorem isPlain_readTail {directive other : Directive} (hplain : directive.IsPlain)
    {text : List Char} (hread : readTail directive text = some other) : other.IsPlain := by
  rw [readTail.eq_def] at hread
  split at hread
  · obtain rfl := Option.some.inj hread
    exact hplain
  · obtain ⟨threshold, -, rfl⟩ := Option.map_eq_some_iff.mp hread
    exact hplain
  · cases hread

/-- A span or a field is written in brackets. -/
theorem isPlain_of_ofText? {text : String} {directive : Directive} (hbare : '[' ∉ text.toList)
    (hread : ofText? text = some directive) : directive.IsPlain := by
  have hdropped : ∀ c ∈ text.toList.dropWhile fun c => c != '=' && c != '[', c ≠ '[' := by
    intro c hc hbracket
    exact hbare (hbracket ▸ (List.dropWhile_sublist _).subset hc)
  simp only [ofText?] at hread
  split at hread
  case h_1 => cases hread
  case h_2 rest htext =>
    rw [htext] at hbare
    exact absurd (List.mem_cons_self ..) hbare
  case h_3 first rest _ htext =>
    rw [htext] at hdropped
    split at hread
    · cases hread
    · split at hread
      case h_1 =>
        split at hread <;> obtain rfl := Option.some.inj hread <;> exact ⟨rfl, rfl⟩
      case h_2 rest htail =>
        rw [htail] at hdropped
        exact absurd rfl (hdropped '[' (List.mem_cons_self ..))
      case h_3 => exact isPlain_readTail ⟨rfl, rfl⟩ hread

/-! ## Directives of pieces -/

/-- The directive that a piece denotes. -/
def ofPiece? (piece : Text.Piece) : Option Directive :=
  ofText? piece.content

theorem ofPiece?_of_blank {piece : Text.Piece}
    (hblank : ∀ c ∈ piece.text.toList, Text.isBlank c = true) : ofPiece? piece = none := by
  rw [ofPiece?, Text.Piece.content_of_blank hblank]
  rfl

theorem isPlain_of_ofPiece? {piece : Text.Piece} {directive : Directive}
    (hbare : '[' ∉ piece.text.toList) (hread : ofPiece? piece = some directive) :
    directive.IsPlain :=
  isPlain_of_ofText? (fun hbracket => hbare (Text.Piece.mem_of_mem_content hbracket)) hread

end InteropBridge.Log.Directive
