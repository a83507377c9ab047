import InteropBridge.Text.Blank
import Mathlib.Data.List.TakeWhile

/-!
# Texts made of pieces

A text is taken apart at its commas, and put together from parts without commas by commas
between them.  Of a part only its content matters, which is what is left without the blanks
around it.
-/

namespace InteropBridge.Text

/-! ## Blanks around a text -/

theorem trimBlanks_padded {left right : List Char} (hleft : ∀ c ∈ left, isBlank c = true)
    (hright : ∀ c ∈ right, isBlank c = true) (chars : List Char) :
    trimBlanks (left ++ chars ++ right) = trimBlanks chars := by
  rw [trimBlanks, trimBlanks, List.append_assoc, List.dropWhile_append_of_pos hleft,
    List.dropWhile_append]
  split
  · next hempty =>
    -- Then all is blank.
    rw [List.isEmpty_iff.mp hempty, List.dropWhile_eq_nil_iff.mpr hright]
  · have hback : ∀ c ∈ right.reverse, isBlank c = true := by simpa using hright
    rw [List.reverse_append, List.dropWhile_append_of_pos hback]

/-! ## Commas -/

theorem splitCommas_eq (chars : List Char) : splitCommas chars = chars.splitOn ',' := by
  induction chars with
  | nil => rfl
  | cons c rest ih =>
      rw [splitCommas, List.splitOn_cons_eq_if_modifyHead, ih]
      simp only [beq_iff_eq]
      split
      · rfl
      · cases hrest : rest.splitOn ',' with
        | nil => exact absurd hrest (List.splitOn_ne_nil ',' rest)
        | cons part parts => rfl

theorem not_mem_of_mem_splitCommas (chars : List Char) :
    ∀ part ∈ splitCommas chars, ',' ∉ part := by
  induction chars with
  | nil => simp [splitCommas]
  | cons c rest ih =>
      rw [splitCommas]
      split
      · simpa using ih
      · next hc =>
        cases hrest : splitCommas rest with
        | nil => simpa using Ne.symm hc
        | cons part parts =>
            rw [hrest] at ih
            simpa [Ne.symm hc] using ih

/-- A part of a text that has no comma in it. -/
structure Piece where
  text : String
  single : ',' ∉ text.toList

namespace Piece

/-- The part without the blanks around it. -/
def content (piece : Piece) : String :=
  String.ofList (trimBlanks piece.text.toList)

theorem mem_of_mem_content {piece : Piece} {c : Char} (hc : c ∈ piece.content.toList) :
    c ∈ piece.text.toList := by
  rw [content, String.toList_ofList, trimBlanks, List.mem_reverse] at hc
  have hback := (List.dropWhile_sublist _).subset hc
  exact (List.dropWhile_sublist _).subset (List.mem_reverse.mp hback)

theorem content_of_blank {piece : Piece} (hblank : ∀ c ∈ piece.text.toList, isBlank c = true) :
    piece.content = "" := by
  have hnone : ∀ c ∈ ([] : List Char), isBlank c = true := by simp
  have htrimmed := trimBlanks_padded hblank hnone []
  rw [List.append_nil, List.append_nil] at htrimmed
  rw [content, htrimmed]
  rfl

/-- Blanks around a part do not belong to its content. -/
theorem content_of_padded {piece padded : Piece} {left right : String}
    (hleft : ∀ c ∈ left.toList, isBlank c = true)
    (hright : ∀ c ∈ right.toList, isBlank c = true)
    (htext : padded.text = left ++ piece.text ++ right) : padded.content = piece.content := by
  rw [content, content, htext, String.toList_append, String.toList_append,
    trimBlanks_padded hleft hright]

/-- The text of parts with commas between them. -/
def listing (parts : List Piece) : String :=
  ",".intercalate (parts.map text)

theorem toList_listing (parts : List Piece) :
    (listing parts).toList = [','].intercalate (parts.map (·.text.toList)) := by
  rw [listing, String.toList_intercalate, List.map_map]
  rfl

/-- Every text is one of parts. -/
theorem exists_listing (whole : String) : ∃ parts, listing parts = whole := by
  let parts : List Piece := (splitCommas whole.toList).pmap
    (fun chars hsingle => ⟨String.ofList chars, by rwa [String.toList_ofList]⟩)
    (not_mem_of_mem_splitCommas whole.toList)
  have hparts : parts.map (·.text.toList) = splitCommas whole.toList := by
    simp [parts, List.map_pmap]
  refine ⟨parts, String.toList_inj.mp ?_⟩
  rw [toList_listing, hparts, splitCommas_eq, List.intercalate_splitOn]

/-- What is read from a text of parts are the contents that are not empty. -/
theorem pieces_listing (parts : List Piece) :
    pieces (listing parts) = (parts.map content).filter (!·.isEmpty) := by
  cases parts with
  | nil => rfl
  | cons first rest =>
      have hsingle : ∀ chars ∈ (first :: rest).map (·.text.toList), ',' ∉ chars := by
        simp only [List.forall_mem_map]
        exact fun piece _ => piece.single
      rw [pieces, splitCommas_eq, toList_listing, List.splitOn_intercalate ',' hsingle (by simp)]
      have hempty : ∀ piece : Piece,
          piece.content.isEmpty = (trimBlanks piece.text.toList).isEmpty := by
        intro piece
        rw [Bool.eq_iff_iff, String.isEmpty_iff, List.isEmpty_iff, content,
          ← String.toList_eq_nil_iff, String.toList_ofList]
      simp only [List.map_map, List.filter_map, Function.comp_def, hempty]
      rfl

end Piece

end InteropBridge.Text
