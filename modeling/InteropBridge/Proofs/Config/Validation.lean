import InteropBridge.Config.Files
import InteropBridge.Proofs.Log.Level

/-!
# The rules of configurations

Settings are valid if there is room for a handle and the level means something.  A text whose
document decodes gives its settings exactly if these are valid; of two broken rules the one
about room is reported.  A log plan made from valid settings never falls back to a level that
nobody wrote.
-/

namespace InteropBridge

/-- To tell an error in other words changes no success. -/
theorem Config.mapError_eq_ok_iff {ε ε' α : Type} (result : Except ε α) (reword : ε → ε')
    (value : α) : result.mapError reword = .ok value ↔ result = .ok value := by
  cases result <;> simp [Except.mapError]

/-- The settings keep the rules. -/
structure Settings.Valid (settings : Settings) : Prop where
  room : 1 ≤ settings.handles.maxLive
  level : ∃ level, Log.Level.Denotes settings.logging.level.toList level

/-- The text is a document that decodes into the settings, whether or not these are valid. -/
def Config.Decodes (text : String) (settings : Settings) : Prop :=
  (Toml.parse? text).bind Config.settings? = some settings

instance (text : String) (settings : Settings) : Decidable (Config.Decodes text settings) :=
  inferInstanceAs (Decidable (_ = _))

theorem Config.Decodes.unique {text : String} {settings other : Settings}
    (hdecodes : Decodes text settings) (hother : Decodes text other) : settings = other :=
  Option.some.inj (hdecodes.symm.trans hother)

namespace Settings

/-! ## Checking -/

theorem ofText?_level_eq_none {settings : Settings}
    (hlevel : ¬ ∃ level, Log.Level.Denotes settings.logging.level.toList level) :
    Log.Level.ofText? settings.logging.level = none := by
  cases hread : Log.Level.ofText? settings.logging.level with
  | none => rfl
  | some level => exact absurd ⟨level, (Log.Level.ofText?_eq_some_iff _ _).mp hread⟩ hlevel

theorem validate_of_valid {settings : Settings} (hvalid : settings.Valid) :
    settings.validate = .ok settings := by
  obtain ⟨level, hdenotes⟩ := hvalid.level
  have hroom : settings.handles.maxLive ≠ 0 := Nat.one_le_iff_ne_zero.mp hvalid.room
  have hread := (Log.Level.ofText?_eq_some_iff settings.logging.level level).mpr hdenotes
  simp [validate, hroom, hread]

theorem validate_of_no_room {settings : Settings} (hroom : settings.handles.maxLive = 0) :
    settings.validate = .error .noRoomForHandles := by
  rw [validate, if_pos hroom]

theorem validate_of_unknown_level {settings : Settings} (hroom : 1 ≤ settings.handles.maxLive)
    (hlevel : ¬ ∃ level, Log.Level.Denotes settings.logging.level.toList level) :
    settings.validate = .error (.unknownLevel settings.logging.level) := by
  rw [validate, if_neg (Nat.one_le_iff_ne_zero.mp hroom), ofText?_level_eq_none hlevel]
  rfl

/-- The check is passed by valid settings, which it leaves as they are, and by no others. -/
theorem validate_eq_ok_iff (settings checked : Settings) :
    settings.validate = .ok checked ↔ settings = checked ∧ settings.Valid := by
  by_cases hroom : settings.handles.maxLive = 0
  · have hinvalid : ¬ settings.Valid := fun hvalid =>
      Nat.one_le_iff_ne_zero.mp hvalid.room hroom
    simp [validate_of_no_room hroom, hinvalid]
  · by_cases hlevel : ∃ level, Log.Level.Denotes settings.logging.level.toList level
    · have hvalid : settings.Valid := ⟨Nat.one_le_iff_ne_zero.mpr hroom, hlevel⟩
      simp [validate_of_valid hvalid, hvalid]
    · have hinvalid : ¬ settings.Valid := fun hvalid => hlevel hvalid.level
      simp [validate_of_unknown_level (Nat.one_le_iff_ne_zero.mpr hroom) hlevel, hinvalid]

theorem valid_default : ({} : Settings).Valid where
  room := by decide
  level := ⟨.info, (Log.Level.ofText?_eq_some_iff "info" .info).mp (by decide)⟩

/-- A plan made from valid settings has the level that was written. -/
theorem Valid.level_toPlan {settings : Settings} (hvalid : settings.Valid) :
    Log.Level.ofText? settings.logging.level = some settings.logging.toPlan.level := by
  obtain ⟨level, hdenotes⟩ := hvalid.level
  have hread := (Log.Level.ofText?_eq_some_iff settings.logging.level level).mpr hdenotes
  simp [LogSettings.toPlan, hread]

/-! ## Reading -/

theorem parse_of_decodes {text : String} {settings : Settings}
    (hdecodes : Config.Decodes text settings) :
    parse text = settings.validate.mapError .invalid := by
  rw [parse, hdecodes]

theorem parse_of_not_decodes {text : String}
    (hdecodes : ∀ settings, ¬ Config.Decodes text settings) :
    parse text = .error .malformed := by
  have hnone : (Toml.parse? text).bind Config.settings? = none :=
    Option.eq_none_iff_forall_ne_some.mpr hdecodes
  rw [parse, hnone]

/-- A text gives the valid settings that it decodes into. -/
theorem parse_eq_ok_iff (text : String) (settings : Settings) :
    parse text = .ok settings ↔ Config.Decodes text settings ∧ settings.Valid := by
  by_cases hdecodes : ∃ decoded, Config.Decodes text decoded
  · obtain ⟨decoded, hdecoded⟩ := hdecodes
    rw [parse_of_decodes hdecoded, Config.mapError_eq_ok_iff, validate_eq_ok_iff]
    constructor
    · rintro ⟨rfl, hvalid⟩
      exact ⟨hdecoded, hvalid⟩
    · rintro ⟨hsettings, hvalid⟩
      obtain rfl := hdecoded.unique hsettings
      exact ⟨rfl, hvalid⟩
  · have hnone : ∀ decoded, ¬ Config.Decodes text decoded :=
      fun decoded hdecoded => hdecodes ⟨decoded, hdecoded⟩
    simp [parse_of_not_decodes hnone, hnone]

end Settings

/-- The file at a place gives the valid settings that its text decodes into. -/
theorem Config.loadAt_eq_ok_iff (tree : FileTree) (place : Place) (path : String)
    (settings : Settings) :
    loadAt tree place path = .ok settings ↔
      ∃ text, tree.readText place = .ok text ∧ Decodes text settings ∧ settings.Valid := by
  rw [loadAt]
  cases tree.readText place with
  | error fault => simp
  | ok text =>
      simp only [Except.ok.injEq, exists_eq_left', ← Settings.parse_eq_ok_iff]
      exact mapError_eq_ok_iff _ _ _

end InteropBridge
