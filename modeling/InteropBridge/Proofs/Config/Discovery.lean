import InteropBridge.Proofs.Config.Validation
import InteropBridge.Proofs.Startup
import InteropBridge.Proofs.Text.ValidPrefix

/-!
# The nearest settings

A search goes from a directory upwards and ends at the first directory whose settings file
loads.  A file that does not load is no better and no worse than one that is not there,
whatever is wrong with it, and nothing counts that is not on the way to the file that was
found.
-/

namespace InteropBridge

/-- A file is read as the text of which it holds the UTF-8 form. -/
theorem FileTree.readText_eq_ok_iff (tree : FileTree) (place : Place) (text : String) :
    tree.readText place = .ok text ↔
      ∃ chars, tree.entry? place = some (.file (Utf8.encode chars)) ∧
        String.ofList chars = text := by
  rw [readText]
  rcases tree.entry? place with _ | _ | bytes
  · simp
  · simp
  · simp only [Option.some.injEq, Entry.file.injEq]
    cases hdecode : Utf8.decode bytes with
    | error index =>
        have hbytes : ∀ chars, bytes ≠ Utf8.encode chars := by
          rintro chars rfl
          rw [Utf8.decode_encode] at hdecode
          cases hdecode
        simp [hbytes]
    | ok chars =>
        obtain rfl := (Utf8.decode_eq_ok_iff bytes chars).mp hdecode
        simp [Utf8.encode_injective.eq_iff]

/-- A place is found if the path is short enough and something stands there. -/
theorem FileTree.finds_iff (tree : FileTree) (place : Place) (path : String) :
    tree.finds place path = true ↔
      path.utf8ByteSize ≤ maxPathBytes ∧ ∃ entry, tree.entry? place = some entry := by
  simp [finds, Option.isSome_iff_exists]

namespace Config

/-! ## Files that load and files that do not -/

/-- The settings file of a directory gives the settings: its path is not too long, its text
decodes into them, and they are valid. -/
def Loads (tree : FileTree) (directory : Place) (settings : Settings) : Prop :=
  (pathText (fileName :: directory)).utf8ByteSize ≤ FileTree.maxPathBytes ∧
  ∃ chars, tree.entry? (fileName :: directory) = some (.file (Utf8.encode chars)) ∧
    Decodes (String.ofList chars) settings ∧ settings.Valid

/-- The settings file of a directory gives no settings. -/
inductive Unloadable (tree : FileTree) (directory : Place) : Prop
  | pathTooLong
      (hpath : FileTree.maxPathBytes < (pathText (fileName :: directory)).utf8ByteSize)
  | missing (hentry : tree.entry? (fileName :: directory) = none)
  | isDirectory (hentry : tree.entry? (fileName :: directory) = some .directory)
  | notText {bytes : List UInt8}
      (hentry : tree.entry? (fileName :: directory) = some (.file bytes))
      (hbytes : ∀ chars, Utf8.encode chars ≠ bytes)
  | malformed {chars : List Char}
      (hentry : tree.entry? (fileName :: directory) = some (.file (Utf8.encode chars)))
      (hmalformed : ∀ settings, ¬ Decodes (String.ofList chars) settings)
  | noRoom {chars : List Char} {settings : Settings}
      (hentry : tree.entry? (fileName :: directory) = some (.file (Utf8.encode chars)))
      (hdecodes : Decodes (String.ofList chars) settings)
      (hroom : settings.handles.maxLive = 0)
  | unknownLevel {chars : List Char} {settings : Settings}
      (hentry : tree.entry? (fileName :: directory) = some (.file (Utf8.encode chars)))
      (hdecodes : Decodes (String.ofList chars) settings)
      (hlevel : ¬ ∃ level, Log.Level.Denotes settings.logging.level.toList level)

/-- Every directory's settings file loads or falls under one of the reasons not to. -/
theorem loads_or_unloadable (tree : FileTree) (directory : Place) :
    (∃ settings, Loads tree directory settings) ∨ Unloadable tree directory := by
  rcases Nat.lt_or_ge FileTree.maxPathBytes (pathText (fileName :: directory)).utf8ByteSize
    with hlong | hpath
  · exact .inr (.pathTooLong hlong)
  rcases hentry : tree.entry? (fileName :: directory) with _ | _ | bytes
  · exact .inr (.missing hentry)
  · exact .inr (.isDirectory hentry)
  by_cases hbytes : ∃ chars, Utf8.encode chars = bytes
  · obtain ⟨chars, rfl⟩ := hbytes
    by_cases hdecodes : ∃ settings, Decodes (String.ofList chars) settings
    · obtain ⟨settings, hdecodes⟩ := hdecodes
      by_cases hroom : settings.handles.maxLive = 0
      · exact .inr (.noRoom hentry hdecodes hroom)
      by_cases hlevel : ∃ level, Log.Level.Denotes settings.logging.level.toList level
      · exact .inl ⟨settings, hpath, chars, hentry, hdecodes,
          Nat.one_le_iff_ne_zero.mpr hroom, hlevel⟩
      · exact .inr (.unknownLevel hentry hdecodes hlevel)
    · exact .inr (.malformed hentry fun settings hsettings => hdecodes ⟨settings, hsettings⟩)
  · exact .inr (.notText hentry fun chars hchars => hbytes ⟨chars, hchars⟩)

theorem Loads.not_unloadable {tree : FileTree} {directory : Place} {settings : Settings}
    (hloads : Loads tree directory settings) : ¬ Unloadable tree directory := by
  obtain ⟨hpath, chars, hfile, hdecodes, hvalid⟩ := hloads
  have hsame : ∀ {other : List Char},
      tree.entry? (fileName :: directory) = some (.file (Utf8.encode other)) →
        chars = other := by
    intro other hother
    rw [hfile, Option.some.injEq, Entry.file.injEq] at hother
    exact Utf8.encode_injective hother
  rintro (hlong | hentry | hentry | ⟨hentry, hbytes⟩ | ⟨hentry, hmalformed⟩ |
    ⟨hentry, hother, hroom⟩ | ⟨hentry, hother, hlevel⟩)
  · exact Nat.not_lt.mpr hpath hlong
  · rw [hfile] at hentry
    cases hentry
  · rw [hfile] at hentry
    cases hentry
  · rw [hfile] at hentry
    cases hentry
    exact hbytes chars rfl
  · obtain rfl := hsame hentry
    exact hmalformed settings hdecodes
  · obtain rfl := hsame hentry
    obtain rfl := hdecodes.unique hother
    exact Nat.one_le_iff_ne_zero.mp hvalid.room hroom
  · obtain rfl := hsame hentry
    obtain rfl := hdecodes.unique hother
    exact hlevel hvalid.level

theorem unloadable_iff (tree : FileTree) (directory : Place) :
    Unloadable tree directory ↔ ∀ settings, ¬ Loads tree directory settings := by
  constructor
  · intro hunloadable settings hloads
    exact hloads.not_unloadable hunloadable
  · intro hnone
    rcases loads_or_unloadable tree directory with ⟨settings, hloads⟩ | hunloadable
    · exact absurd hloads (hnone settings)
    · exact hunloadable

/-! ## One directory -/

/-- A directory is left with settings exactly if its file loads. -/
theorem lookIn_eq_ok_iff (tree : FileTree) (directory : Place) (settings : Settings) :
    lookIn tree directory = some (.ok settings) ↔ Loads tree directory settings := by
  rw [lookIn]
  split
  · next hfinds =>
      obtain ⟨hpath, -⟩ := (FileTree.finds_iff _ _ _).mp hfinds
      rw [Option.some.injEq, mapError_eq_ok_iff, loadAt_eq_ok_iff]
      simp only [FileTree.readText_eq_ok_iff]
      constructor
      · rintro ⟨_, ⟨chars, hfile, rfl⟩, hrest⟩
        exact ⟨hpath, chars, hfile, hrest⟩
      · rintro ⟨-, chars, hfile, hrest⟩
        exact ⟨_, ⟨chars, hfile, rfl⟩, hrest⟩
  · next hnone =>
      have hnot : ¬ Loads tree directory settings := by
        rintro ⟨hpath, chars, hfile, -⟩
        exact hnone ((FileTree.finds_iff _ _ _).mpr ⟨hpath, _, hfile⟩)
      simp [hnot]

theorem Unloadable.lookIn_ne_ok {tree : FileTree} {directory : Place}
    (hunloadable : Unloadable tree directory) (settings : Settings) :
    lookIn tree directory ≠ some (.ok settings) := by
  intro hfound
  exact ((lookIn_eq_ok_iff tree directory settings).mp hfound).not_unloadable hunloadable

theorem discover_of_loads {tree : FileTree} {directory : Place} {settings : Settings}
    (hloads : Loads tree directory settings) :
    (discover tree directory).settings = settings := by
  have hfound := (lookIn_eq_ok_iff tree directory settings).mpr hloads
  cases directory <;> rw [discover, hfound]

theorem discover_root_of_unloadable {tree : FileTree} (hunloadable : Unloadable tree []) :
    (discover tree []).settings = {} := by
  rw [discover]
  split
  · next settings hfound =>
      exact absurd hfound (hunloadable.lookIn_ne_ok settings)
  · rfl
  · rfl

/-- A directory whose file does not load is passed over. -/
theorem discover_of_unloadable {tree : FileTree} {name : String} {above : Place}
    (hunloadable : Unloadable tree (name :: above)) :
    (discover tree (name :: above)).settings = (discover tree above).settings := by
  rw [discover]
  split
  · next settings hfound =>
      exact absurd hfound (hunloadable.lookIn_ne_ok settings)
  · rfl
  · rfl

/-! ## The way up -/

/-- The directory is one from which the search goes on before it comes to `found`: it is on the
way up from where the search starts, and below `found`. -/
def Below (start found directory : Place) : Prop :=
  directory <:+ start ∧ found <:+ directory ∧ directory ≠ found

/-- The first directory on the way up from `start` whose settings file loads. -/
structure Nearest (tree : FileTree) (start found : Place) (settings : Settings) : Prop where
  onTheWay : found <:+ start
  loads : Loads tree found settings
  passed : ∀ directory, Below start found directory → Unloadable tree directory

theorem discover_of_nearest {tree : FileTree} {start found : Place} {settings : Settings}
    (hnearest : Nearest tree start found settings) :
    (discover tree start).settings = settings := by
  obtain ⟨hway, hloads, hpassed⟩ := hnearest
  induction start with
  | nil =>
      obtain rfl := List.suffix_nil.mp hway
      exact discover_of_loads hloads
  | cons name above ih =>
      rcases List.suffix_cons_iff.mp hway with rfl | habove
      · exact discover_of_loads hloads
      · have hbelow : Below (name :: above) found (name :: above) := by
          refine ⟨List.suffix_rfl, hway, ?_⟩
          rintro rfl
          exact absurd habove.length_le (by simp)
        rw [discover_of_unloadable (hpassed _ hbelow)]
        apply ih habove
        intro directory hdirectory
        exact hpassed directory ⟨hdirectory.1.trans (List.suffix_cons name above), hdirectory.2⟩

theorem discover_of_none {tree : FileTree} {start : Place}
    (hnone : ∀ directory, directory <:+ start → Unloadable tree directory) :
    (discover tree start).settings = {} := by
  induction start with
  | nil => exact discover_root_of_unloadable (hnone [] List.suffix_rfl)
  | cons name above ih =>
      rw [discover_of_unloadable (hnone _ List.suffix_rfl)]
      exact ih fun directory hdirectory =>
        hnone directory (hdirectory.trans (List.suffix_cons name above))

theorem nearest_self {tree : FileTree} {start : Place} {settings : Settings}
    (hloads : Loads tree start settings) : Nearest tree start start settings where
  onTheWay := List.suffix_rfl
  loads := hloads
  passed := fun _ ⟨hup, hdown, hne⟩ => absurd (hup.eq_of_length_le hdown.length_le) hne

theorem Nearest.below {tree : FileTree} {name : String} {above found : Place}
    {settings : Settings} (hunloadable : Unloadable tree (name :: above))
    (hnearest : Nearest tree above found settings) :
    Nearest tree (name :: above) found settings where
  onTheWay := hnearest.onTheWay.trans (List.suffix_cons name above)
  loads := hnearest.loads
  passed := by
    rintro directory ⟨hup, hdown⟩
    rcases List.suffix_cons_iff.mp hup with rfl | habove
    · exact hunloadable
    · exact hnearest.passed directory ⟨habove, hdown⟩

/-- On the way up there is a first directory whose file loads, or no file loads at all. -/
theorem exists_nearest_or_none (tree : FileTree) (start : Place) :
    (∃ found settings, Nearest tree start found settings) ∨
      ∀ directory, directory <:+ start → Unloadable tree directory := by
  induction start with
  | nil =>
      rcases loads_or_unloadable tree [] with ⟨settings, hloads⟩ | hunloadable
      · exact .inl ⟨[], settings, nearest_self hloads⟩
      · right
        intro directory hdirectory
        rwa [List.suffix_nil.mp hdirectory]
  | cons name above ih =>
      rcases loads_or_unloadable tree (name :: above) with ⟨settings, hloads⟩ | hunloadable
      · exact .inl ⟨name :: above, settings, nearest_self hloads⟩
      rcases ih with ⟨found, settings, hnearest⟩ | hnone
      · exact .inl ⟨found, settings, hnearest.below hunloadable⟩
      · right
        intro directory hdirectory
        rcases List.suffix_cons_iff.mp hdirectory with rfl | habove
        · exact hunloadable
        · exact hnone directory habove

theorem valid_discover (tree : FileTree) (start : Place) :
    (discover tree start).settings.Valid := by
  rcases exists_nearest_or_none tree start with ⟨found, settings, hnearest⟩ | hnone
  · obtain ⟨-, -, -, -, hvalid⟩ := hnearest.loads
    rwa [discover_of_nearest hnearest]
  · rw [discover_of_none hnone]
    exact Settings.valid_default

/-! ## Changes elsewhere -/

/-- What loads from a directory depends on nothing but where it is and its settings file. -/
theorem Loads.of_entry_eq {tree other : FileTree} {directory : Place} {settings : Settings}
    (hentry : other.entry? (fileName :: directory) = tree.entry? (fileName :: directory))
    (hloads : Loads tree directory settings) : Loads other directory settings := by
  obtain ⟨hpath, chars, hfile, hrest⟩ := hloads
  exact ⟨hpath, chars, hentry.trans hfile, hrest⟩

theorem Nearest.of_change {tree other : FileTree} {start found : Place} {settings : Settings}
    (hnearest : Nearest tree start found settings)
    (hentry : other.entry? (fileName :: found) = tree.entry? (fileName :: found))
    (hpassed : ∀ directory, Below start found directory → Unloadable other directory) :
    Nearest other start found settings where
  onTheWay := hnearest.onTheWay
  loads := hnearest.loads.of_entry_eq hentry
  passed := hpassed

theorem settings_startFrom (tree : FileTree) (start : Place) (context : Context) :
    ((Startup.startFrom tree start).run context).2.process.settings =
      (discover tree start).settings := by
  have hletGo : ∀ before : Context,
      (Startup.letGoOfWriter.run before).2.process.settings = before.process.settings := by
    intro before
    change (if before.process.keepsWriter then _ else before.process : Process).settings = _
    split <;> rfl
  rw [Startup.run_startFrom]
  dsimp only
  rw [hletGo]
  rfl

/-- A search comes to the settings of the first directory on the way up whose file loads, and
without one to the defaults.  Whatever becomes of the files above, beside and below that
directory, the search comes to the same as long as the file there stays and none below it loads;
and a file loads unless its path is too long or it is missing, no file, no text, malformed or
invalid.  What the search comes to is valid, and it is what a process that starts from there puts
in force. -/
theorem discover_takes_nearest (tree : FileTree) (start : Place) :
    ((∃ found settings, Nearest tree start found settings) ∨
      ∀ directory, directory <:+ start → Unloadable tree directory) ∧
    (∀ found settings, Nearest tree start found settings →
      (discover tree start).settings = settings ∧
      ∀ other : FileTree,
        other.entry? (fileName :: found) = tree.entry? (fileName :: found) →
        (∀ directory, Below start found directory → Unloadable other directory) →
        (discover other start).settings = settings) ∧
    ((∀ directory, directory <:+ start → Unloadable tree directory) →
      (discover tree start).settings = {}) ∧
    (∀ directory, Unloadable tree directory ↔ ∀ settings, ¬ Loads tree directory settings) ∧
    (discover tree start).settings.Valid ∧
    ∀ context : Context,
      ((Startup.startFrom tree start).run context).2.process.settings =
        (discover tree start).settings := by
  refine ⟨exists_nearest_or_none tree start, ?_, discover_of_none, unloadable_iff tree,
    valid_discover tree start, settings_startFrom tree start⟩
  intro found settings hnearest
  refine ⟨discover_of_nearest hnearest, ?_⟩
  intro other hentry hpassed
  exact discover_of_nearest (hnearest.of_change hentry hpassed)

/-- The text of settings with room for so many handles. -/
def roomText (room : String) : List Char :=
  ("[handles]\nmax_live = " ++ room ++ "\n").toList

def roomFile (room : String) : Entry :=
  .file (Utf8.encode (roomText room))

/-- Settings without room and a directory in the way of settings that load, with others above. -/
def crowdedTree : FileTree where
  entries := [([fileName, "c", "b", "a"], roomFile "0"), ([fileName, "b", "a"], .directory),
    ([fileName, "a"], roomFile "2"), ([fileName], roomFile "9")]

/-- The same settings, with no text below them and nothing above. -/
def clearedTree : FileTree where
  entries := [([fileName, "c", "b", "a"], .file [0xFF]), ([fileName, "a"], roomFile "2")]

/-- The settings two directories up are found, and are still found when all other files have
changed. -/
theorem discover_takes_nearest_crowded :
    Nearest crowdedTree ["c", "b", "a"] ["a"] { handles := { maxLive := 2 } } ∧
    (discover crowdedTree ["c", "b", "a"]).settings = { handles := { maxLive := 2 } } ∧
    clearedTree.entry? [fileName, "a"] = crowdedTree.entry? [fileName, "a"] ∧
    (∀ directory, Below ["c", "b", "a"] ["a"] directory → Unloadable clearedTree directory) ∧
    (discover clearedTree ["c", "b", "a"]).settings = { handles := { maxLive := 2 } } := by
  have hbelow : ∀ directory, Below ["c", "b", "a"] ["a"] directory →
      directory = ["c", "b", "a"] ∨ directory = ["b", "a"] := by
    rintro directory ⟨hup, hdown, hne⟩
    simp only [List.suffix_cons_iff, List.suffix_nil] at hup
    rcases hup with rfl | rfl | rfl | rfl
    · exact .inl rfl
    · exact .inr rfl
    · exact absurd rfl hne
    · exact absurd hdown.length_le (by decide)
  have htwo : Decodes (String.ofList (roomText "2")) { handles := { maxLive := 2 } } := by
    decide +kernel
  have hzero : Decodes (String.ofList (roomText "0")) { handles := { maxLive := 0 } } := by
    decide +kernel
  have hnearest : Nearest crowdedTree ["c", "b", "a"] ["a"] { handles := { maxLive := 2 } } := by
    refine ⟨⟨["c", "b"], rfl⟩, ⟨by decide, roomText "2", rfl, htwo, ?_⟩, ?_⟩
    · exact ⟨by decide, Settings.valid_default.level⟩
    · intro directory hdirectory
      rcases hbelow directory hdirectory with rfl | rfl
      · exact .noRoom rfl hzero rfl
      · exact .isDirectory rfl
  have hentry : clearedTree.entry? [fileName, "a"] = crowdedTree.entry? [fileName, "a"] := rfl
  have hcleared : ∀ directory, Below ["c", "b", "a"] ["a"] directory →
      Unloadable clearedTree directory := by
    intro directory hdirectory
    rcases hbelow directory hdirectory with rfl | rfl
    · refine .notText rfl fun chars hchars => ?_
      have hread := (Utf8.decode_eq_ok_iff _ _).mpr hchars
      cases hread
    · exact .missing rfl
  obtain ⟨-, hfound, -⟩ := discover_takes_nearest crowdedTree ["c", "b", "a"]
  obtain ⟨hsettings, hchange⟩ := hfound _ _ hnearest
  exact ⟨hnearest, hsettings, hentry, hcleared, hchange clearedTree hentry hcleared⟩

end Config

end InteropBridge
