import InteropBridge.Log.Level
import InteropBridge.Proofs.Text.Numeral
import Mathlib

/-!
# What level texts mean

A level is written as its name, each letter in either case, or as a numeral of its rank.  No
text is both, so a text denotes one level at most, and the two readers that are tried one after
the other read exactly what denotes one.
-/

namespace InteropBridge.Log.Level

/-- The text spells the name of the level, each letter in either case. -/
def Spells (text : List Char) (level : Level) : Prop :=
  List.Forall₂ (fun c letter => c = letter ∨ c = letter.toLower) text level.name.toList

/-- The text is a way to write the level. -/
inductive Denotes (text : List Char) (level : Level) : Prop
  | name (hspells : Spells text level)
  | numeral (hnumeral : Text.IsNumeral text level.rank)

/-! ## Names -/

theorem isUpper_of_mem_name (level : Level) :
    ∀ letter ∈ level.name.toList, letter.isUpper = true := by
  have hall : level.name.toList.all Char.isUpper = true := by
    cases level <;> decide
  exact List.all_eq_true.mp hall

theorem toUpper_eq_iff {letter : Char} (hletter : letter.isUpper = true) (c : Char) :
    c.toUpper = letter ↔ c = letter ∨ c = letter.toLower := by
  constructor
  · rintro rfl
    by_cases hlower : c.isLower = true
    · right
      rw [Char.toLower_toUpper_eq_toLower,
        Char.toLower_eq_of_not_isUpper (Char.not_isUpper_of_isLower hlower)]
    · left
      rw [Char.toUpper_eq_of_not_isLower hlower]
  · have hfixed : letter.toUpper = letter :=
      Char.toUpper_eq_of_not_isLower (Char.not_isLower_of_isUpper hletter)
    rintro (rfl | rfl)
    · exact hfixed
    · rw [Char.toUpper_toLower_eq_toUpper, hfixed]

theorem upper_eq_name_iff (text : String) (level : Level) :
    upper text = level.name.toList ↔ Spells text.toList level := by
  rw [upper, Spells, ← List.forall₂_eq_eq_eq, List.forall₂_map_left_iff, List.forall₂_iff_zip,
    List.forall₂_iff_zip]
  apply and_congr_right
  intro _
  have hpair : ∀ pair ∈ text.toList.zip level.name.toList,
      (pair.1.toUpper = pair.2 ↔ pair.1 = pair.2 ∨ pair.1 = pair.2.toLower) :=
    fun pair hpair =>
      toUpper_eq_iff (isUpper_of_mem_name level pair.2 (List.of_mem_zip hpair).2) pair.1
  constructor
  · intro hupper c letter hmem
    exact (hpair (c, letter) hmem).mp (hupper hmem)
  · intro hspells c letter hmem
    exact (hpair (c, letter) hmem).mpr (hspells hmem)

theorem ofName?_eq_some_iff (text : String) (level : Level) :
    ofName? text = some level ↔ Spells text.toList level := by
  rw [← upper_eq_name_iff, ofName?]
  constructor
  · intro hfind
    have hname := List.find?_some hfind
    exact (beq_iff_eq.mp hname).symm
  · intro hname
    rw [hname]
    cases level <;> decide

/-- A spelled name is nothing but letters. -/
theorem Spells.lt_of_mem {text : List Char} {level : Level} (hspells : Spells text level) :
    ∀ c ∈ text, '9'.toNat < c.toNat := by
  have hall : (level.name.toList.all fun letter =>
      '9'.toNat < letter.toNat ∧ '9'.toNat < letter.toLower.toNat) = true := by
    cases level <;> decide
  rw [Spells, List.forall₂_iff_get] at hspells
  intro c hc
  obtain ⟨place, hplace, rfl⟩ := List.mem_iff_getElem.mp hc
  have hplace' : place < level.name.toList.length := hspells.1 ▸ hplace
  obtain ⟨hupper, hlower⟩ :=
    of_decide_eq_true (List.all_eq_true.mp hall _ (List.getElem_mem hplace'))
  rcases hspells.2 place hplace hplace' with heq | heq <;> rw [List.get_eq_getElem] at heq <;>
    rw [heq]
  · exact hupper
  · exact hlower

/-! ## Numerals -/

theorem ofNumeral?_eq_some_iff (text : String) (level : Level) :
    ofNumeral? text = some level ↔ Text.IsNumeral text.toList level.rank := by
  rw [ofNumeral?, Option.bind_eq_some_iff]
  constructor
  · rintro ⟨value, hread, hfind⟩
    have hrank : level.rank = value := by
      have hfound := List.find?_some hfind
      exact beq_iff_eq.mp hfound
    rw [hrank]
    exact ((Text.wordNumeral?_eq_some_iff text value).mp hread).1
  · intro hnumeral
    refine ⟨level.rank, (Text.wordNumeral?_eq_some_iff _ _).mpr ⟨hnumeral, ?_⟩, ?_⟩
    · cases level <;> decide
    · cases level <;> decide

/-! ## Both -/

theorem not_isNumeral_of_spells {text : List Char} {level : Level}
    (hspells : Spells text level) (value : Nat) : ¬ Text.IsNumeral text value := by
  intro hnumeral
  obtain ⟨c, hc, hle⟩ := hnumeral.exists_le
  exact absurd hle (Nat.not_le.mpr (hspells.lt_of_mem c hc))

/-- A text is read as the level that it denotes, and as none if it denotes none. -/
theorem ofText?_eq_some_iff (text : String) (level : Level) :
    ofText? text = some level ↔ Denotes text.toList level := by
  rw [ofText?, Option.or_eq_some_iff, ofNumeral?_eq_some_iff, ofName?_eq_some_iff]
  constructor
  · rintro (hnumeral | ⟨-, hspells⟩)
    · exact .numeral hnumeral
    · exact .name hspells
  · rintro (hspells | hnumeral)
    · refine .inr ⟨?_, hspells⟩
      cases hread : ofNumeral? text with
      | none => rfl
      | some other =>
          have hnumeral := (ofNumeral?_eq_some_iff text other).mp hread
          exact absurd hnumeral (not_isNumeral_of_spells hspells _)
    · exact .inl hnumeral

/-- Zeros in front of a rank and a plus in front of those change nothing. -/
example : ofText? "+005" = some .trace ∧ ofText? "DeBuG" = some .debug ∧ ofText? "6" = none := by
  decide

end InteropBridge.Log.Level
