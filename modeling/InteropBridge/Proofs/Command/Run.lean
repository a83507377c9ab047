import InteropBridge.Command.Run
import InteropBridge.Proofs.Command.Logging
import InteropBridge.Proofs.Command.Scenario
import Mathlib.Data.List.TakeDrop

/-!
# What a run of the command comes to

The command loads its settings, starts the bridge, runs the scenario, and shuts the bridge down
again.  However the scenario ends, no object is left to the shutdown.  The limits decide the exit
code, and with it how much of the transcript is printed and whether there is an error to tell.
-/

namespace InteropBridge.Command

open Attempt

/-! ## Around the scenario -/

/-- What the command does before it shuts the bridge down. -/
def play (settings : Settings) : Native (Except BridgeError Unit) := do
  let _ ← Startup.start settings
  scenario.run

/-- How the scenario ends in a fresh process, and what it leaves behind. -/
def played (settings : Settings) : Except BridgeError Unit × Context :=
  (play settings).run {}

/-- What the command does after the scenario. -/
def wrapUp (stats : Bool) (outcome : Except BridgeError Unit) : Native (Nat × List String) := do
  let leaked ← Objects.shutdown
  if stats then say (statsText (← get).process.tally)
  match outcome with
  | .ok () => return (if leaked > 0 then 1 else 0, [])
  | .error error =>
      Native.emit (.scenarioFailed error.message)
      return (1, [errorLine error.message])

theorem perform_eq (settings : Settings) (stats : Bool) :
    perform settings stats = play settings >>= wrapUp stats := by
  rw [perform, play, bind_assoc]
  refine congrArg (bind _) (funext fun _ => congrArg (bind _) (funext fun outcome => ?_))
  rfl

theorem run_perform (settings : Settings) (stats : Bool) :
    (perform settings stats).run {} =
      (wrapUp stats (played settings).1).run (played settings).2 := by
  rw [perform_eq, Native.run_bind, played]

variable {settings : Settings}

theorem at_start : ((Startup.start settings).run {}).2.At settings (bare 0) := by
  rw [Startup.run_start]
  exact ⟨rfl, rfl, rfl⟩

/-- The scenario is played in a process that has just been started. -/
theorem played_of_plays {result : Except BridgeError Unit} {after : Scene}
    (hplays : Plays settings (bare 0) scenario result after) :
    (played settings).1 = result ∧ (played settings).2.At settings after := by
  rw [played, play, Native.run_bind]
  exact hplays _ at_start

/-- No object is left, however the scenario ended.  It ended well, and with everything printed,
if there was room for it, and else neither. -/
def Ended (settings : Settings) (result : Except BridgeError Unit) (context : Context) : Prop :=
  ∃ handles count, context.At settings (vacated handles count) ∧
    (Suffices settings ∧ result = .ok () ∧ count = 16 ∨
      ¬ Suffices settings ∧ (∃ error, result = .error error) ∧ count < 16)

theorem ended_played (settings : Settings) :
    Ended settings (played settings).1 (played settings).2 := by
  by_cases hsuffices : Suffices settings
  case pos =>
    obtain ⟨hresult, hat⟩ := played_of_plays (plays_scenario hsuffices)
    exact ⟨2, 16, hat, .inl ⟨hsuffices, hresult, rfl⟩⟩
  case neg =>
    obtain ⟨error, handles, count, hcount, hplays⟩ := plays_scenario_of_not_suffices hsuffices
    obtain ⟨hresult, hat⟩ := played_of_plays hplays
    exact ⟨handles, count, hat, .inr ⟨hsuffices, ⟨error, hresult⟩, hcount⟩⟩

/-! ## Shutting down -/

section Vacated

variable {handles count : Nat} {context : Context}
  (hat : context.At settings (vacated handles count))

include hat

/-- Where no object is left there is nothing to shut down. -/
theorem run_shutdown_of_vacated : Objects.shutdown.run context = (0, context) := by
  have hobjects : context.process.objects = (vacated handles count).ledger.objects :=
    congrArg Ledger.objects hat.ledger
  have hclear : context.process.objects.clear = (0, context.process.objects) := by
    rw [hobjects]
    rfl
  rw [Objects.run_shutdown, Objects.emptied, hclear]
  rfl

theorem run_wrapUp (stats : Bool) (outcome : Except BridgeError Unit) :
    let wrapped := (wrapUp stats outcome).run context
    wrapped.1 = (match outcome with
      | .ok () => (0, [])
      | .error error => (1, [errorLine error.message])) ∧
    wrapped.2.process.stdout = textOf (transcript.take count ++
      if stats then [statsText context.process.tally] else []) := by
  have hstdout : context.process.stdout = textOf (transcript.take count) :=
    congrArg Console.stdout hat.console
  have hprinted (line : String) : context.process.stdout ++ line ++ "\n" =
      textOf (transcript.take count ++ [line]) := by
    rw [hstdout, textOf_append, textOf_singleton, String.append_assoc]
  have hplain : context.process.stdout = textOf (transcript.take count ++ []) := by
    rw [hstdout, List.append_nil]
  intro wrapped
  have hwrapped : wrapped = (wrapUp stats outcome).run context := rfl
  rw [wrapUp, Native.run_bind, run_shutdown_of_vacated hat] at hwrapped
  rw [hwrapped]
  rcases outcome with error | ⟨⟨⟩⟩ <;> cases stats
  · exact ⟨rfl, hplain⟩
  · exact ⟨rfl, hprinted _⟩
  · exact ⟨rfl, hplain⟩
  · exact ⟨rfl, hprinted _⟩

end Vacated

/-! ## The log -/

theorem map_output_start (settings : Settings) :
    (((Startup.start settings).run {}).2.process.journal.writer).map Log.Writer.output =
      some settings.logging.toPlan.output := by
  have hemitted := (Log.Journal.start {} settings.logging.toPlan).2.continues_emit
    (.initialized Startup.version)
  rw [Startup.run_start]
  exact hemitted.map_output.trans settings.logging.toPlan.map_output_start

theorem emits_wrapUp (stats : Bool) (outcome : Except BridgeError Unit) :
    (wrapUp stats outcome).Emits := by
  have hget : Native.Emits get := Native.emits_of_journal fun _ => ⟨rfl, rfl⟩
  have hfailed (error : BridgeError) : Native.Emits (do
      Native.emit (.scenarioFailed error.message)
      return (1, [errorLine error.message])) :=
    (Native.emits_emit _).bind fun _ => Native.emits_pure _
  refine Objects.emits_shutdown.bind fun leaked => ?_
  rcases outcome with error | ⟨⟨⟩⟩ <;> cases stats
  · exact (Native.emits_pure PUnit.unit).bind fun _ => hfailed error
  · exact hget.bind fun _ => (emits_say _).bind fun _ => hfailed error
  · exact (Native.emits_pure PUnit.unit).bind fun _ => Native.emits_pure _
  · exact hget.bind fun _ => (emits_say _).bind fun _ => Native.emits_pure _

/-- A run writes its log to where the settings say. -/
theorem map_output_perform (settings : Settings) (stats : Bool) :
    (((perform settings stats).run {}).2.process.journal.writer).map Log.Writer.output =
      some settings.logging.toPlan.output := by
  have hplayed := (emits_scenario ((Startup.start settings).run {}).2).1.map_output
  have hwrapped := (emits_wrapUp stats (played settings).1 (played settings).2).1.map_output
  rw [run_perform, hwrapped, played, play, Native.run_bind]
  exact hplayed.trans (map_output_start settings)

/-! ## The whole run -/

/-- Where the settings of a run come from. -/
def Options.load (options : Options) (files : FileTree) (directory : Place) :
    Except LoadFault Settings :=
  match options.config with
  | some path => Config.load files directory path
  | none => .ok (Config.discover files directory).settings

/-- What a run comes to whose settings were loaded, given how the scenario was played in it. -/
structure Demonstrates (options : Options) (settings : Settings)
    (played : Except BridgeError Unit × Context) (outcome : Outcome) : Prop where
  /-- No object outlives the scenario, and every handle that was issued has ended. -/
  settled :
    let process := played.2.process
    process.objects.live = 0 ∧ process.objects.entries = [] ∧
      process.tally.handlesAllocated = process.tally.handlesReleased
  /-- So nothing is left to the shutdown. -/
  nothingLeft : (Objects.shutdown.run played.2).1 = 0
  /-- If the limits leave room for the scenario, all is well. -/
  succeeds : Suffices settings → outcome.code = 0 ∧ outcome.errors = []
  /-- Else the one error that is told is that of the scenario. -/
  fails : ¬ Suffices settings → outcome.code = 1 ∧
    ∃ error, played.1 = .error error ∧ outcome.errors = [errorLine error.message]
  /-- The lines that are printed are the first ones of the transcript, and all of them if all is
  well.  The counters follow if they were asked for. -/
  printed : ∃ lines, lines <+: transcript ∧ (lines = transcript ↔ outcome.code = 0) ∧
    outcome.stdout = textOf (lines ++
      if options.stats then [statsText played.2.process.tally] else [])
  /-- No line of the log comes between them. -/
  apart : ∃ writer, outcome.journal.writer = some writer ∧ writer.output ≠ .stdout

/-- What is left of a run that got as far as the scenario. -/
def outcomeOf (performed : (Nat × List String) × Context) : Outcome where
  code := performed.1.1
  stdout := performed.2.process.stdout
  errors := performed.1.2
  journal := performed.2.process.journal

theorem runOptions_eq (files : FileTree) (directory : Place) (options : Options) :
    runOptions files directory options =
      match options.load files directory with
      | .error fault => { code := 2, errors := [errorLine fault.message] }
      | .ok settings => outcomeOf ((perform (options.apply settings) options.stats).run {}) := by
  rw [runOptions, Options.load]
  -- What is performed plays no part here, and is not to be computed.
  generalize perform = performing
  cases options.config with
  | none => rfl
  | some path =>
      generalize Config.load files directory path = loaded
      rcases loaded with fault | settings
      · rfl
      · rfl

theorem run_eq {args : List String} {options : Options} (hread : read args = .ok (.run options))
    (files : FileTree) (directory : Place) :
    run files directory args = .ok (runOptions files directory options) := by
  rw [run, hread]
  generalize runOptions = running
  rfl

/-- How the scenario ended decides what the rest of the run comes to. -/
theorem Ended.demonstrates {options : Options} {settings : Settings}
    {played : Except BridgeError Unit × Context} {performed : (Nat × List String) × Context}
    (hended : Ended (options.apply settings) played.1 played.2)
    (hperformed : performed = (wrapUp options.stats played.1).run played.2)
    (hlog : (performed.2.process.journal.writer).map Log.Writer.output =
      some (options.apply settings).logging.toPlan.output) :
    Demonstrates options settings played (outcomeOf performed) := by
  obtain ⟨handles, count, hat, hends⟩ := hended
  obtain ⟨hcode, hstdout⟩ := run_wrapUp hat options.stats played.1
  rw [← hperformed] at hcode hstdout
  have hobjects : played.2.process.objects = (vacated handles count).ledger.objects :=
    congrArg Ledger.objects hat.ledger
  have hallocated : played.2.process.tally.handlesAllocated = handles :=
    congrArg Ledger.allocated hat.ledger
  have hreleased : played.2.process.tally.handlesReleased = handles :=
    congrArg Ledger.released hat.ledger
  have hwell : Suffices settings → count = 16 ∧ performed.1 = (0, []) := by
    intro hsuffices
    obtain ⟨-, hresult, hcount⟩ | ⟨hshort, -⟩ := hends
    · rw [hresult] at hcode
      exact ⟨hcount, hcode⟩
    · exact absurd hsuffices hshort
  have hbadly : ¬ Suffices settings → count < 16 ∧
      ∃ error, played.1 = .error error ∧ performed.1 = (1, [errorLine error.message]) := by
    intro hshort
    obtain ⟨hsuffices, -⟩ | ⟨-, ⟨error, hresult⟩, hcount⟩ := hends
    · exact absurd hsuffices hshort
    · rw [hresult] at hcode
      exact ⟨hcount, error, hresult, hcode⟩
  constructor
  case settled =>
    dsimp only
    rw [hobjects, hallocated, hreleased]
    exact ⟨rfl, rfl, rfl⟩
  case nothingLeft => rw [run_shutdown_of_vacated hat]
  case succeeds =>
    intro hsuffices
    exact Prod.ext_iff.mp (hwell hsuffices).2
  case fails =>
    intro hshort
    obtain ⟨-, error, hresult, hend⟩ := hbadly hshort
    obtain ⟨hfailed, herrors⟩ := Prod.ext_iff.mp hend
    exact ⟨hfailed, error, hresult, herrors⟩
  case printed =>
    refine ⟨transcript.take count, List.take_prefix .., ?_, hstdout⟩
    rw [List.take_eq_self_iff]
    by_cases hsuffices : Suffices settings
    · obtain ⟨hcount, hend⟩ := hwell hsuffices
      exact iff_of_true (Nat.le_of_eq hcount.symm) (congrArg Prod.fst hend)
    · obtain ⟨hcount, error, -, hend⟩ := hbadly hsuffices
      have hfailed : performed.1.1 = 1 := congrArg Prod.fst hend
      refine iff_of_false (Nat.not_le.mpr hcount) fun hsuccess => ?_
      exact Nat.one_ne_zero (hfailed.symm.trans hsuccess)
  case apart =>
    obtain ⟨writer, hwriter, houtput⟩ := Option.map_eq_some_iff.mp hlog
    exact ⟨writer, hwriter, houtput ▸ LogSettings.output_toPlan_ne_stdout _⟩

/-- The demonstration leaves nothing behind, and how it ends is decided by three limits. -/
theorem demonstration_never_leaks (files : FileTree) (directory : Place) {args : List String}
    {options : Options} (hread : read args = .ok (.run options)) :
    ∃ outcome, run files directory args = .ok outcome ∧
      (∀ path fault, options.config = some path →
        Config.load files directory path = .error fault →
        outcome = { code := 2, errors := [errorLine fault.message] }) ∧
      ∀ settings, options.load files directory = .ok settings →
        Demonstrates options settings (played (options.apply settings)) outcome := by
  refine ⟨_, run_eq hread files directory, ?_, ?_⟩
  · intro path fault hpath hfault
    have hload : options.load files directory = .error fault := by
      rw [Options.load, hpath]
      exact hfault
    rw [runOptions_eq, hload]
  · intro settings hload
    rw [runOptions_eq, hload]
    exact (ended_played _).demonstrates (run_perform _ _) (map_output_perform _ _)

/-- Settings with room for one object, where a run looks for them. -/
def crampedTree : FileTree where
  entries := [([Config.fileName], .file (Utf8.encode "[handles]\nmax_live = 1\n".toList))]

/-- With these settings the run fails, and without the file that it is given it does not begin. -/
theorem demonstration_never_leaks_cramped :
    (read ["--stats"] = .ok (.run { stats := true }) ∧
      ∃ outcome, run crampedTree [] ["--stats"] = .ok outcome ∧ outcome.code = 1 ∧
        ∃ error : BridgeError, outcome.errors = [errorLine error.message]) ∧
    (read ["--config", "c"] = .ok (.run { config := some "c" }) ∧
      run crampedTree [] ["--config", "c"] = .ok {
        code := 2
        errors :=
          ["Error: Failed to read config c: No such file or directory (os error 2)"] }) := by
  have hstats : read ["--stats"] = .ok (.run { stats := true }) := rfl
  have hconfig : read ["--config", "c"] = .ok (.run { config := some "c" }) := rfl
  refine ⟨⟨hstats, ?_⟩, hconfig, ?_⟩
  · obtain ⟨outcome, hrun, -, hdemonstrates⟩ := demonstration_never_leaks crampedTree [] hstats
    have hsettings : (Config.discover crampedTree []).settings =
        { handles := { maxLive := 1 } } := by
      decide +kernel
    obtain ⟨hcode, error, -, herror⟩ := (hdemonstrates _ (congrArg Except.ok hsettings)).fails
      fun hsuffices => absurd hsuffices.1 (by decide)
    exact ⟨outcome, hrun, hcode, error, herror⟩
  · obtain ⟨outcome, hrun, hunloaded, -⟩ := demonstration_never_leaks crampedTree [] hconfig
    have hnames : "c".splitOn "/" = ["c"] := by
      rw [String.splitOn, if_neg (by decide), String.splitOnAux, if_neg (by decide +kernel),
        if_neg (by decide +kernel), String.splitOnAux, if_pos (by decide +kernel)]
      decide +kernel
    have hrelative : "c".startsWith "/" = false := by decide +kernel
    have hload : Config.load crampedTree [] "c" = .error (.unreadable "c" .missing) := by
      rw [Config.load, FileTree.resolve, hnames, hrelative]
      rfl
    rw [hrun, hunloaded _ _ rfl hload]
    rfl

end InteropBridge.Command
