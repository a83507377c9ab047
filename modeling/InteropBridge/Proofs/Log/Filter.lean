import InteropBridge.Proofs.Log.Directive
import Mathlib.Data.List.MinMax

/-!
# What filters depend on

A filter has a directive at most for each subject, and the most specific one decides about an
event.  So it does not matter in which order the directives came, unless two have the same
subject.  From this follows how the text of a filter can be changed without a change to what
is written.
-/

namespace InteropBridge.Log

open Text (Piece isBlank)

namespace Filter

/-- What holds of every filter: its directives can be decided from an event, and no two of
them are about the same. -/
structure IsSound (filter : Filter) : Prop where
  static : ∀ directive ∈ filter.directives, directive.isStatic = true
  unique : ∀ first ∈ filter.directives, ∀ second ∈ filter.directives,
    first.subject = second.subject → first = second

/-! ## What is added -/

theorem add_of_not_static (filter : Filter) {directive : Directive}
    (hstatic : ¬ directive.isStatic = true) : filter.add directive = filter :=
  if_neg hstatic

theorem mem_add_iff (filter : Filter) {directive : Directive}
    (hstatic : directive.isStatic = true) (other : Directive) :
    other ∈ (filter.add directive).directives ↔
      other = directive ∨ other ∈ filter.directives ∧ other.subject ≠ directive.subject := by
  rw [add, if_pos hstatic]
  simp only [List.mem_cons, List.mem_filter, Bool.not_eq_true', ← Directive.sameSubject_iff,
    ne_eq, Bool.not_eq_true]

theorem isSound_base (threshold : Threshold) : IsSound ⟨[.base threshold]⟩ where
  static := by simp [Directive.base, Directive.isStatic]
  unique := by simp

theorem IsSound.add {filter : Filter} (hsound : filter.IsSound) (directive : Directive) :
    (filter.add directive).IsSound := by
  by_cases hstatic : directive.isStatic = true
  · constructor
    case static =>
      intro other hother
      obtain rfl | ⟨hother, -⟩ := (filter.mem_add_iff hstatic other).mp hother
      · exact hstatic
      · exact hsound.static other hother
    case unique =>
      intro first hfirst second hsecond hsubject
      obtain rfl | ⟨hfirst, hapart⟩ := (filter.mem_add_iff hstatic first).mp hfirst
      · obtain rfl | ⟨-, hapart⟩ := (filter.mem_add_iff hstatic second).mp hsecond
        · rfl
        · exact absurd hsubject.symm hapart
      · obtain rfl | ⟨hsecond, -⟩ := (filter.mem_add_iff hstatic second).mp hsecond
        · exact absurd hsubject hapart
        · exact hsound.unique first hfirst second hsecond hsubject
  · rw [filter.add_of_not_static hstatic]
    exact hsound

theorem IsSound.foldl {filter : Filter} (hsound : filter.IsSound)
    (directives : List Directive) : (directives.foldl Filter.add filter).IsSound := by
  induction directives generalizing filter with
  | nil => exact hsound
  | cons directive rest ih => exact ih (hsound.add directive)

/-! ## What decides -/

theorem deciding?_eq_argmax (filter : Filter) (event : Event) :
    filter.deciding? event =
      (filter.directives.filter (·.isAbout event)).argmax Directive.weight := by
  rw [deciding?, List.argmax]
  congr 1
  funext best directive
  cases best with
  | none => rfl
  | some other => simp only [List.argAux, ← Directive.isMoreSpecific_iff]

/-- The directive that decides is the most specific one, and there is no other like it. -/
theorem IsSound.deciding?_eq_some_iff {filter : Filter} (hsound : filter.IsSound)
    (event : Event) (directive : Directive) :
    filter.deciding? event = some directive ↔
      (directive ∈ filter.directives ∧ directive.isAbout event = true) ∧
        ∀ other ∈ filter.directives, other.isAbout event = true →
          other.weight ≤ directive.weight := by
  rw [deciding?_eq_argmax, List.argmax_eq_some_iff]
  simp only [List.mem_filter, and_imp]
  constructor
  · rintro ⟨hdirective, hmost, -⟩
    exact ⟨hdirective, hmost⟩
  · rintro ⟨hdirective, hmost⟩
    refine ⟨hdirective, hmost, fun other hother habout hweight => ?_⟩
    have hsame : other.subject = directive.subject := by
      apply Directive.subject_eq_of_weight_eq (hsound.static other hother)
        (hsound.static directive hdirective.1)
      exact le_antisymm (hmost other hother habout) hweight
    rw [hsound.unique other hother directive hdirective.1 hsame]

/-! ## Agreement -/

/-- The filters have the same directives on the subjects of a kind. -/
def AgreeOn (here : Directive.Subject → Prop) (left right : Filter) : Prop :=
  ∀ directive, here directive.subject →
    (directive ∈ left.directives ↔ directive ∈ right.directives)

/-- The filters have the same directives. -/
abbrev Agree : Filter → Filter → Prop :=
  AgreeOn fun _ => True

/-- What is written depends on the directives only, not on their order. -/
theorem Agree.admits_eq {left right : Filter} (hagree : left.Agree right)
    (hleft : left.IsSound) (hright : right.IsSound) (event : Event) :
    left.admits event = right.admits event := by
  have hmem : ∀ directive, directive ∈ left.directives ↔ directive ∈ right.directives :=
    fun directive => hagree directive trivial
  have hdeciding : left.deciding? event = right.deciding? event := by
    apply Option.ext
    intro directive
    rw [hleft.deciding?_eq_some_iff, hright.deciding?_eq_some_iff]
    simp only [hmem]
  rw [admits, admits, hdeciding]

theorem AgreeOn.add {here : Directive.Subject → Prop} {left right : Filter}
    (hagree : AgreeOn here left right) (directive : Directive) :
    AgreeOn here (left.add directive) (right.add directive) := by
  by_cases hstatic : directive.isStatic = true
  · intro other hother
    rw [mem_add_iff left hstatic, mem_add_iff right hstatic, hagree other hother]
  · rw [add_of_not_static left hstatic, add_of_not_static right hstatic]
    exact hagree

theorem AgreeOn.foldl {here : Directive.Subject → Prop} {left right : Filter}
    (hagree : AgreeOn here left right) (directives : List Directive) :
    AgreeOn here (directives.foldl Filter.add left) (directives.foldl Filter.add right) := by
  induction directives generalizing left right with
  | nil => exact hagree
  | cons directive rest ih => exact ih (hagree.add directive)

/-- A directive matters on its own subject alone. -/
theorem agreeOn_add (filter : Filter) (directive : Directive) :
    AgreeOn (· ≠ directive.subject) (filter.add directive) filter := by
  by_cases hstatic : directive.isStatic = true
  · intro other hother
    rw [filter.mem_add_iff hstatic, and_iff_left hother, or_iff_right]
    rintro rfl
    exact hother rfl
  · rw [filter.add_of_not_static hstatic]
    exact fun _ _ => .rfl

/-- And there it does away with what was before. -/
theorem AgreeOn.agree_add {directive : Directive} {left right : Filter}
    (hagree : AgreeOn (· ≠ directive.subject) left right)
    (hstatic : directive.isStatic = true) :
    (left.add directive).Agree (right.add directive) := by
  intro other _
  rw [left.mem_add_iff hstatic, right.mem_add_iff hstatic]
  exact or_congr_right (and_congr_left fun hother => hagree other hother)

/-- The configured level is a directive without a target. -/
theorem agreeOn_base (left right : Level) :
    AgreeOn (· ≠ (none, none)) ⟨[.base (.upTo left)]⟩ ⟨[.base (.upTo right)]⟩ := by
  intro directive hdirective
  have hapart : ∀ level, directive ∉ [Directive.base (.upTo level)] := by
    intro level hbase
    rw [List.mem_singleton.mp hbase] at hdirective
    exact hdirective rfl
  exact iff_of_false (hapart left) (hapart right)

theorem agree_swap (filter : Filter) {first second : Directive}
    (hapart : first.subject ≠ second.subject) :
    ((filter.add first).add second).Agree ((filter.add second).add first) := by
  by_cases hfirst : first.isStatic = true
  · by_cases hsecond : second.isStatic = true
    · intro other _
      simp only [mem_add_iff _ hfirst, mem_add_iff _ hsecond]
      constructor
      · rintro (rfl | ⟨rfl | ⟨hother, hnotFirst⟩, hnotSecond⟩)
        · exact .inr ⟨.inl rfl, hapart.symm⟩
        · exact .inl rfl
        · exact .inr ⟨.inr ⟨hother, hnotSecond⟩, hnotFirst⟩
      · rintro (rfl | ⟨rfl | ⟨hother, hnotSecond⟩, hnotFirst⟩)
        · exact .inr ⟨.inl rfl, hapart⟩
        · exact .inl rfl
        · exact .inr ⟨.inr ⟨hother, hnotFirst⟩, hnotSecond⟩
    · rw [add_of_not_static _ hsecond, add_of_not_static _ hsecond]
      exact fun _ _ => .rfl
  · rw [add_of_not_static _ hfirst, add_of_not_static _ hfirst]
    exact fun _ _ => .rfl

/-! ## The text of a filter -/

/-- The filter that a level and the pieces of a text make. -/
def ofPieces (level : Level) (pieces : List Piece) : Filter :=
  ofText level (Piece.listing pieces)

theorem foldl_addPiece (filter : Filter) (pieces : List Piece) :
    ((pieces.map Piece.content).filter (!·.isEmpty)).foldl addPiece filter =
      (pieces.filterMap Directive.ofPiece?).foldl add filter := by
  induction pieces generalizing filter with
  | nil => rfl
  | cons piece rest ih =>
      rw [List.map_cons, List.filter_cons, List.filterMap_cons]
      cases hread : Directive.ofPiece? piece with
      | none =>
          have hkept : filter.addPiece piece.content = filter := by
            rw [addPiece, ← Directive.ofPiece?, hread]
          split
          · rw [List.foldl_cons, hkept, ih]
          · exact ih filter
      | some directive =>
          have hadded : filter.addPiece piece.content = filter.add directive := by
            rw [addPiece, ← Directive.ofPiece?, hread]
          have hcontent : piece.content.isEmpty = false := by
            rw [← Bool.not_eq_true, String.isEmpty_iff]
            intro hempty
            rw [Directive.ofPiece?, hempty] at hread
            cases hread
          rw [hcontent, if_pos Bool.not_false, List.foldl_cons, List.foldl_cons, hadded, ih]

/-- The pieces add the directives that they denote, one after the other. -/
theorem ofPieces_eq (level : Level) (pieces : List Piece) :
    ofPieces level pieces =
      (pieces.filterMap Directive.ofPiece?).foldl add ⟨[.base (.upTo level)]⟩ := by
  rw [ofPieces, ofText, Piece.pieces_listing, foldl_addPiece]

theorem ofPieces_append (level : Level) (before after : List Piece) :
    ofPieces level (before ++ after) =
      (after.filterMap Directive.ofPiece?).foldl add (ofPieces level before) := by
  rw [ofPieces_eq, ofPieces_eq, List.filterMap_append, List.foldl_append]

theorem ofPieces_concat_none (level : Level) (before : List Piece) {piece : Piece}
    (hread : Directive.ofPiece? piece = none) :
    ofPieces level (before ++ [piece]) = ofPieces level before := by
  rw [ofPieces_append, List.filterMap_cons_none hread]
  rfl

theorem ofPieces_concat_some (level : Level) (before : List Piece) {piece : Piece}
    {directive : Directive} (hread : Directive.ofPiece? piece = some directive) :
    ofPieces level (before ++ [piece]) = (ofPieces level before).add directive := by
  rw [ofPieces_append, List.filterMap_cons_some hread]
  rfl

theorem isSound_ofPieces (level : Level) (pieces : List Piece) :
    (ofPieces level pieces).IsSound := by
  rw [ofPieces_eq]
  exact (isSound_base _).foldl _

/-- Beginnings that agree can take the place of each other. -/
theorem admits_append {level other : Level} {left right : List Piece}
    (hagree : (ofPieces level left).Agree (ofPieces other right)) (after : List Piece)
    (event : Event) :
    (ofPieces level (left ++ after)).admits event =
      (ofPieces other (right ++ after)).admits event := by
  have hafter : (ofPieces level (left ++ after)).Agree (ofPieces other (right ++ after)) := by
    rw [ofPieces_append, ofPieces_append]
    exact hagree.foldl _
  exact hafter.admits_eq (isSound_ofPieces ..) (isSound_ofPieces ..) event

/-- What can be done to the pieces of a text, between those before and after, while the event
is written or not as it was. -/
structure Composes (level : Level) (before after : List Piece) (event : Event) : Prop where
  /-- A piece that is blank or has no meaning can be put in. -/
  stray : ∀ piece,
    (∀ c ∈ piece.text.toList, isBlank c = true) ∨ Directive.ofPiece? piece = none →
    (ofPieces level (before ++ [piece] ++ after)).admits event =
      (ofPieces level (before ++ after)).admits event
  /-- Blanks can be put around a piece. -/
  padded : ∀ (piece padded : Piece) (left right : String),
    (∀ c ∈ left.toList, isBlank c = true) → (∀ c ∈ right.toList, isBlank c = true) →
    padded.text = left ++ piece.text ++ right →
    (ofPieces level (before ++ [padded] ++ after)).admits event =
      (ofPieces level (before ++ [piece] ++ after)).admits event
  /-- Neighbours with different targets can trade places. -/
  swapped : ∀ (first second : Piece) (left right : Directive),
    Directive.ofPiece? first = some left → Directive.ofPiece? second = some right →
    left.target ≠ right.target →
    (ofPieces level (before ++ [first, second] ++ after)).admits event =
      (ofPieces level (before ++ [second, first] ++ after)).admits event
  /-- Of two pieces with the same target and no brackets, the earlier one can go. -/
  overridden : ∀ (first second : Piece) (left right : Directive) (between : List Piece),
    '[' ∉ first.text.toList → '[' ∉ second.text.toList →
    Directive.ofPiece? first = some left → Directive.ofPiece? second = some right →
    left.target = right.target →
    (ofPieces level (before ++ [first] ++ between ++ [second] ++ after)).admits event =
      (ofPieces level (before ++ between ++ [second] ++ after)).admits event
  /-- Where a piece has no target, the configured level is of no account. -/
  levelOverridden : ∀ (piece : Piece) (directive : Directive) (other : Level),
    '[' ∉ piece.text.toList → Directive.ofPiece? piece = some directive →
    directive.target = none →
    (ofPieces level (before ++ [piece] ++ after)).admits event =
      (ofPieces other (before ++ [piece] ++ after)).admits event

/-- Every text has pieces, and what the filter of a text lets through depends on them in a
regular way. -/
theorem filter_text_composes (level : Level) (event : Event) :
    (∀ text, ∃ pieces, Piece.listing pieces = text) ∧
    ∀ before after, Composes level before after event := by
  refine ⟨Piece.exists_listing, fun before after => ?_⟩
  constructor
  case stray =>
    intro piece hstray
    have hread : Directive.ofPiece? piece = none :=
      hstray.elim Directive.ofPiece?_of_blank id
    apply admits_append
    rw [ofPieces_concat_none level before hread]
    exact fun _ _ => .rfl
  case padded =>
    intro piece padded left right hleft hright htext
    have hread : Directive.ofPiece? padded = Directive.ofPiece? piece := by
      rw [Directive.ofPiece?, Directive.ofPiece?, Piece.content_of_padded hleft hright htext]
    apply admits_append
    rw [ofPieces_append, ofPieces_append, List.filterMap_cons, List.filterMap_cons, hread]
    exact fun _ _ => .rfl
  case swapped =>
    intro first second left right hfirst hsecond hapart
    have hsubject : left.subject ≠ right.subject :=
      fun hsubject => hapart (congrArg Prod.fst hsubject)
    apply admits_append
    rw [ofPieces_append, ofPieces_append]
    simp only [List.filterMap_cons, hfirst, hsecond]
    exact agree_swap _ hsubject
  case overridden =>
    intro first second left right between hbareFirst hbareSecond hfirst hsecond htarget
    have hplainFirst := Directive.isPlain_of_ofPiece? hbareFirst hfirst
    have hplainSecond := Directive.isPlain_of_ofPiece? hbareSecond hsecond
    have hsubject : left.subject = right.subject := by
      rw [hplainFirst.subject_eq, hplainSecond.subject_eq, htarget]
    apply admits_append
    rw [ofPieces_concat_some level _ hsecond, ofPieces_concat_some level _ hsecond]
    -- The second one does away with whatever the first one has left.
    refine AgreeOn.agree_add ?_ hplainSecond.isStatic
    rw [ofPieces_append level (before ++ [first]) between, ofPieces_append level before between,
      ofPieces_concat_some level before hfirst, ← hsubject]
    exact (agreeOn_add _ left).foldl _
  case levelOverridden =>
    intro piece directive other hbare hread htarget
    have hplain := Directive.isPlain_of_ofPiece? hbare hread
    have hsubject : directive.subject = (none, none) := by
      rw [hplain.subject_eq, htarget]
    apply admits_append
    rw [ofPieces_concat_some level before hread, ofPieces_concat_some other before hread]
    refine AgreeOn.agree_add ?_ hplain.isStatic
    rw [ofPieces_eq, ofPieces_eq, hsubject]
    exact (agreeOn_base level other).foldl _

/-- What a piece says of a target is taken back by a later one, also if blanks are around it. -/
theorem filter_text_composes_overridden :
    let silent : Piece := ⟨"ffi=off", by decide⟩
    let bare : Piece := ⟨"warn", by decide⟩
    let loud : Piece := ⟨" ffi ", by decide⟩
    Directive.ofPiece? silent = some ⟨some "ffi", none, none, .off⟩ ∧
    Directive.ofPiece? loud = some ⟨some "ffi", none, none, .upTo .trace⟩ ∧
    (ofPieces .info [silent, bare, loud]).admits (.called "dotbridge_hello" 0) =
      (ofPieces .info [bare, loud]).admits (.called "dotbridge_hello" 0) := by
  intro silent bare loud
  have hsilent : Directive.ofPiece? silent = some ⟨some "ffi", none, none, .off⟩ := by decide
  have hloud : Directive.ofPiece? loud = some ⟨some "ffi", none, none, .upTo .trace⟩ := by
    decide
  obtain ⟨-, hcomposes⟩ := filter_text_composes .info (.called "dotbridge_hello" 0)
  exact ⟨hsilent, hloud, (hcomposes [] []).overridden silent loud _ _ [bare]
    (by decide) (by decide) hsilent hloud rfl⟩

end Filter

end InteropBridge.Log
