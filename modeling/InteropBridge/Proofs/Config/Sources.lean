import InteropBridge.Proofs.Config.Discovery

/-!
# Where settings come from

Settings come out of a text, a file or a search.  Each of these reads and checks them in the
same way, so whatever comes out has a level that means something, and logging goes by exactly
that level.
-/

namespace InteropBridge.Config

/-- Settings that a text, a file or a search gives. -/
inductive Obtained : Settings → Prop
  | parsed {text : String} {settings : Settings} (hparse : Settings.parse text = .ok settings) :
      Obtained settings
  | loaded {tree : FileTree} {place : Place} {path : String} {settings : Settings}
      (hload : load tree place path = .ok settings) : Obtained settings
  | discovered (tree : FileTree) (start : Place) : Obtained (discover tree start).settings

theorem valid_of_load {tree : FileTree} {place : Place} {path : String} {settings : Settings}
    (hload : load tree place path = .ok settings) : settings.Valid := by
  rw [load] at hload
  cases hresolve : tree.resolve place path with
  | error fault =>
      rw [hresolve] at hload
      cases hload
  | ok file =>
      rw [hresolve] at hload
      obtain ⟨text, -, -, hvalid⟩ := (loadAt_eq_ok_iff tree file path settings).mp hload
      exact hvalid

theorem Obtained.valid {settings : Settings} (hobtained : Obtained settings) :
    settings.Valid := by
  cases hobtained with
  | parsed hparse => exact ((Settings.parse_eq_ok_iff _ _).mp hparse).2
  | loaded hload => exact valid_of_load hload
  | discovered tree start => exact valid_discover tree start

/-- A text whose document decodes gives its settings if there is room for a handle and the level
means something; it is refused for want of room whatever the level is, and else for its level.
A level is read from exactly the texts that denote it.  So of all settings that come out of a
text, a file or a search, the level that logging goes by is the one that was written. -/
theorem checked_settings_log_as_written :
    (∀ (text : String) (settings : Settings), Decodes text settings →
      (Settings.parse text = .ok settings ↔
        1 ≤ settings.handles.maxLive ∧
          ∃ level, Log.Level.Denotes settings.logging.level.toList level) ∧
      (settings.handles.maxLive = 0 →
        Settings.parse text = .error (.invalid .noRoomForHandles)) ∧
      (1 ≤ settings.handles.maxLive →
        (¬ ∃ level, Log.Level.Denotes settings.logging.level.toList level) →
        Settings.parse text = .error (.invalid (.unknownLevel settings.logging.level)))) ∧
    (∀ (text : String) (level : Log.Level),
      Log.Level.ofText? text = some level ↔ Log.Level.Denotes text.toList level) ∧
    ∀ settings : Settings, Obtained settings →
      Log.Level.Denotes settings.logging.level.toList settings.logging.toPlan.level ∧
      Log.Level.ofText? settings.logging.level ≠ none := by
  refine ⟨fun text settings hdecodes => ⟨?_, ?_, ?_⟩, Log.Level.ofText?_eq_some_iff, ?_⟩
  · rw [Settings.parse_eq_ok_iff]
    constructor
    · rintro ⟨-, hroom, hlevel⟩
      exact ⟨hroom, hlevel⟩
    · rintro ⟨hroom, hlevel⟩
      exact ⟨hdecodes, hroom, hlevel⟩
  · intro hroom
    rw [Settings.parse_of_decodes hdecodes, Settings.validate_of_no_room hroom]
    rfl
  · intro hroom hlevel
    rw [Settings.parse_of_decodes hdecodes, Settings.validate_of_unknown_level hroom hlevel]
    rfl
  · intro settings hobtained
    have hread := hobtained.valid.level_toPlan
    refine ⟨(Log.Level.ofText?_eq_some_iff _ _).mp hread, ?_⟩
    rw [hread]
    exact Option.some_ne_none _

/-- A level may be a numeral with a plus and zeros; a level that is none is not looked at while
there is no room. -/
theorem checked_settings_log_as_written_numeral :
    Decodes "logging = ['+004']" { logging := { level := "+004" } } ∧
    Settings.parse "logging = ['+004']" = .ok { logging := { level := "+004" } } ∧
    (LogSettings.toPlan { level := "+004" }).level = .debug ∧
    Log.Level.Denotes "+004".toList .debug ∧
    Settings.parse "handles.max_live = 0\nlogging.level = 'loud'" =
      .error (.invalid .noRoomForHandles) ∧
    Settings.parse "logging.level = 'loud'" = .error (.invalid (.unknownLevel "loud")) := by
  obtain ⟨hparse, hlevel, hobtained⟩ := checked_settings_log_as_written
  have hnumeral : Decodes "logging = ['+004']" { logging := { level := "+004" } } := by
    decide +kernel
  have hcrowded : Decodes "handles.max_live = 0\nlogging.level = 'loud'"
      { handles := { maxLive := 0 }, logging := { level := "loud" } } := by
    decide +kernel
  have hloud : Decodes "logging.level = 'loud'" { logging := { level := "loud" } } := by
    decide +kernel
  have hunknown : ¬ ∃ level, Log.Level.Denotes "loud".toList level := by
    rintro ⟨level, hdenotes⟩
    have hread := (hlevel "loud" level).mpr hdenotes
    cases hread
  have hdebug : Log.Level.Denotes "+004".toList .debug := (hlevel "+004" .debug).mp (by decide)
  have hok : Settings.parse "logging = ['+004']" = .ok { logging := { level := "+004" } } :=
    (hparse _ _ hnumeral).1.mpr ⟨by decide, .debug, hdebug⟩
  have hplan := (hobtained _ (.parsed hok)).1
  refine ⟨hnumeral, hok, ?_, hdebug, (hparse _ _ hcrowded).2.1 rfl,
    (hparse _ _ hloud).2.2 (by decide) hunknown⟩
  exact Option.some.inj (((hlevel _ _).mpr hplan).symm.trans ((hlevel _ _).mpr hdebug))

end InteropBridge.Config
