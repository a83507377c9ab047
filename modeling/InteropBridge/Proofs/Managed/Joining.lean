import InteropBridge.Proofs.Crossing.Effect
import InteropBridge.Proofs.Managed.Lending
import InteropBridge.Proofs.Managed.TypedCall
import InteropBridge.Proofs.Text.Utf8

/-!
# Joining texts

Two managed texts are joined by two exports, and each can be reached through the
library or by name.  All four ways agree: text is transcoded on the managed side, its
length in bytes is checked on the native side, and only then are the texts joined.
Each step looks at the left text first.
-/

namespace InteropBridge

/-- What joining two texts comes to if native texts of more than `limit` bytes are
refused.  The limit does not apply to the joined text. -/
inductive ManagedText.Joins (limit : Nat) (left right : ManagedText) :
    Except MarshalError ManagedText → Prop
  | leftUnpaired {place : Nat} (hleft : Utf16.FirstUnpaired left.units place) :
      Joins limit left right (.error (.invalidUtf16 place))
  | rightUnpaired {place : Nat} (hleft : Utf16.WellFormed left.units)
      (hright : Utf16.FirstUnpaired right.units place) :
      Joins limit left right (.error (.invalidUtf16 place))
  | leftTooLong {leftText rightText : NativeText} (hleft : left = .ofNative leftText)
      (hright : right = .ofNative rightText)
      (hlong : limit < (Utf8.encode leftText).length) :
      Joins limit left right
        (.error (.tooLong "string" (Utf8.encode leftText).length limit))
  | rightTooLong {leftText rightText : NativeText} (hleft : left = .ofNative leftText)
      (hright : right = .ofNative rightText)
      (hfits : (Utf8.encode leftText).length ≤ limit)
      (hlong : limit < (Utf8.encode rightText).length) :
      Joins limit left right
        (.error (.tooLong "string" (Utf8.encode rightText).length limit))
  | joined {leftText rightText : NativeText} (hleft : left = .ofNative leftText)
      (hright : right = .ofNative rightText)
      (hleftFits : (Utf8.encode leftText).length ≤ limit)
      (hrightFits : (Utf8.encode rightText).length ≤ limit) :
      Joins limit left right (.ok ⟨left.units ++ right.units⟩)

namespace Context

/-- The context but for its log. -/
def unlogged (context : Context) : Context :=
  { context with process.journal := {} }

/-- The context, but for its log, after texts were joined or not.  Text that has no
native form is refused before the export is entered, text that is too long after
it. -/
def afterJoining (context : Context) : Except MarshalError ManagedText → Context
  | .ok _ =>
      { context.unlogged with
        process.tally.callsMade := context.process.tally.callsMade + 1
        thread.lastError := none }
  | .error (.invalidUtf16 _) =>
      { context.unlogged with
        process.tally.marshalErrors := context.process.tally.marshalErrors + 1 }
  | .error _ =>
      { context.unlogged with
        process.tally.callsMade := context.process.tally.callsMade + 1
        process.tally.marshalErrors := context.process.tally.marshalErrors + 1
        thread.lastError := none }

end Context

theorem ManagedText.exists_joins (limit : Nat) (left right : ManagedText) :
    ∃ outcome, Joins limit left right outcome := by
  cases hleft : left.toNative with
  | error fault =>
      obtain ⟨place, -, hplace⟩ := (toNative_eq_error_iff left fault).mp hleft
      exact ⟨_, .leftUnpaired hplace⟩
  | ok leftText =>
      rw [toNative_eq_ok_iff] at hleft
      cases hright : right.toNative with
      | error fault =>
          obtain ⟨place, -, hplace⟩ := (toNative_eq_error_iff right fault).mp hright
          have hwell := (wellFormed_iff_exists_ofNative left).mpr ⟨leftText, hleft⟩
          exact ⟨_, .rightUnpaired hwell hplace⟩
      | ok rightText =>
          rw [toNative_eq_ok_iff] at hright
          rcases Nat.lt_or_ge limit (Utf8.encode leftText).length with hlong | hleftFits
          · exact ⟨_, .leftTooLong hleft hright hlong⟩
          · rcases Nat.lt_or_ge limit (Utf8.encode rightText).length with hlong | hrightFits
            · exact ⟨_, .rightTooLong hleft hright hleftFits hlong⟩
            · exact ⟨_, .joined hleft hright hleftFits hrightFits⟩

/-- A native text is read back through a view of the whole of it, unless it is too
long. -/
theorem TextView.read_ofNative (text : NativeText) (limit : Nat) :
    (ofNative text).read limit =
      if (Utf8.encode text).length > limit then
        .error (.tooLong "string" (Utf8.encode text).length limit)
      else .ok text := by
  rw [ofNative, read, List.take_length, Utf8.decode_encode]
  rfl

namespace Crossing

variable {context : Context} {left right text : NativeText}

theorem run_readText_tooLong
    (hlong : context.process.settings.marshal.maxTextBytes < (Utf8.encode text).length) :
    (readText (.ofNative text)).run.run context =
      (.error (.marshal (.tooLong "string" (Utf8.encode text).length
        context.process.settings.marshal.maxTextBytes)), context) := by
  rw [run_readText, TextView.read_ofNative, if_pos hlong]
  rfl

theorem run_readText_fits
    (hfits : (Utf8.encode text).length ≤ context.process.settings.marshal.maxTextBytes) :
    (readText (.ofNative text)).run.run context = (.ok text, context) := by
  rw [run_readText, TextView.read_ofNative, if_neg (Nat.not_lt.mpr hfits)]
  rfl

theorem run_joinTexts_leftTooLong (right : TextView)
    (hlong : context.process.settings.marshal.maxTextBytes < (Utf8.encode left).length) :
    (joinTexts (.ofNative left) right).run.run context =
      (.error (.marshal (.tooLong "string" (Utf8.encode left).length
        context.process.settings.marshal.maxTextBytes)), context) := by
  rw [joinTexts, Attempt.run_bind_error (run_readText_tooLong hlong)]

theorem run_joinTexts_rightTooLong
    (hfits : (Utf8.encode left).length ≤ context.process.settings.marshal.maxTextBytes)
    (hlong : context.process.settings.marshal.maxTextBytes < (Utf8.encode right).length) :
    (joinTexts (.ofNative left) (.ofNative right)).run.run context =
      (.error (.marshal (.tooLong "string" (Utf8.encode right).length
        context.process.settings.marshal.maxTextBytes)), context) := by
  rw [joinTexts, Attempt.run_bind_ok (run_readText_fits hfits),
    Attempt.run_bind_error (run_readText_tooLong hlong)]

theorem run_joinTexts_fits
    (hleft : (Utf8.encode left).length ≤ context.process.settings.marshal.maxTextBytes)
    (hright : (Utf8.encode right).length ≤ context.process.settings.marshal.maxTextBytes) :
    (joinTexts (.ofNative left) (.ofNative right)).run.run context =
      (.ok (.made (left ++ right)), context) := by
  rw [joinTexts, Attempt.run_bind_ok (run_readText_fits hleft),
    Attempt.run_bind_ok (run_readText_fits hright)]
  rfl

end Crossing

namespace Library

variable {crossing : TextView → TextView → Crossing .text} {context : Context}

theorem run_joinThrough_ofNative (crossing : TextView → TextView → Crossing .text)
    (left right : NativeText) (context : Context) :
    (joinThrough crossing (.ofNative left) (.ofNative right)).run.run context =
      (do
        let buffer ← Managed.ask (crossing (.ofNative left) (.ofNative right))
        Managed.adoptText buffer : Attempt ManagedText).run.run
          (Managed.converted (Managed.converted context)) := by
  rw [joinThrough, Attempt.run_bind_ok (Managed.run_lend_ofNative left context),
    Attempt.run_bind_ok (Managed.run_lend_ofNative right _)]

theorem run_joinThrough_refused {left right : NativeText} {fault : MarshalError}
    (hrun : let call := crossing (.ofNative left) (.ofNative right)
      ∀ before, before.process.settings = context.process.settings →
        call.run.run.run before = (.error (.marshal fault), before)) :
    ∃ after, (joinThrough crossing (.ofNative left) (.ofNative right)).run.run context =
        (.error (.marshal fault), after) ∧
      after.unlogged =
        { context.unlogged with
          process.tally.callsMade := context.process.tally.callsMade + 1
          process.tally.marshalErrors := context.process.tally.marshalErrors + 1
          thread.lastError := none } := by
  have hentered := hrun ((crossing (.ofNative left) (.ofNative right)).entered
    (Managed.converted (Managed.converted context))) rfl
  rw [run_joinThrough_ofNative, Attempt.run_bind, Managed.run_ask, Crossing.attempt_true,
    hentered]
  exact ⟨_, rfl, rfl⟩

theorem run_joinThrough_accepted {left right joined : NativeText}
    (hrun : let call := crossing (.ofNative left) (.ofNative right)
      ∀ before, before.process.settings = context.process.settings →
        call.run.run.run before = (.ok (.made joined), before)) :
    ∃ after, (joinThrough crossing (.ofNative left) (.ofNative right)).run.run context =
        (.ok (.ofNative joined), after) ∧
      after.unlogged =
        { context.unlogged with
          process.tally.callsMade := context.process.tally.callsMade + 1
          thread.lastError := none } := by
  have hentered := hrun ((crossing (.ofNative left) (.ofNative right)).entered
    (Managed.converted (Managed.converted context))) rfl
  rw [run_joinThrough_ofNative, Attempt.run_bind, Managed.run_ask, Crossing.attempt_true,
    hentered]
  exact ⟨_, rfl, rfl⟩

/-- Whichever export joins the texts, what comes of it is what it should be. -/
theorem run_joinThrough
    (hcrossing : ∀ left right, (crossing left right).run = Crossing.joinTexts left right)
    {left right : ManagedText} {outcome : Except MarshalError ManagedText}
    (hjoins : ManagedText.Joins context.process.settings.marshal.maxTextBytes left right outcome) :
    ∃ after, (joinThrough crossing left right).run.run context =
        (outcome.mapError .marshal, after) ∧
      after.unlogged = context.afterJoining outcome := by
  cases hjoins with
  | leftUnpaired hleft =>
      have hnative := (left.toNative_eq_error_iff _).mpr ⟨_, rfl, hleft⟩
      have hlend := Managed.run_lend left context
      rw [hnative] at hlend
      rw [joinThrough, Attempt.run_bind_error hlend]
      exact ⟨_, rfl, rfl⟩
  | rightUnpaired hleft hright =>
      obtain ⟨left, rfl⟩ := (left.wellFormed_iff_exists_ofNative).mp hleft
      have hnative := (right.toNative_eq_error_iff _).mpr ⟨_, rfl, hright⟩
      have hlend := Managed.run_lend right (Managed.converted context)
      rw [hnative] at hlend
      rw [joinThrough, Attempt.run_bind_ok (Managed.run_lend_ofNative left context),
        Attempt.run_bind_error hlend]
      exact ⟨_, rfl, rfl⟩
  -- Lengths are told by the settings, which the way to the export leaves alone.
  | leftTooLong hleft hright hlong =>
      subst hleft hright
      refine run_joinThrough_refused fun before hbefore => ?_
      rw [hcrossing, ← hbefore]
      rw [← hbefore] at hlong
      exact Crossing.run_joinTexts_leftTooLong _ hlong
  | rightTooLong hleft hright hfits hlong =>
      subst hleft hright
      refine run_joinThrough_refused fun before hbefore => ?_
      rw [hcrossing, ← hbefore]
      rw [← hbefore] at hfits hlong
      exact Crossing.run_joinTexts_rightTooLong hfits hlong
  | joined hleft hright hleftFits hrightFits =>
      subst hleft hright
      rw [← ManagedText.ofNative_append]
      refine run_joinThrough_accepted fun before hbefore => ?_
      rw [hcrossing]
      rw [← hbefore] at hleftFits hrightFits
      exact Crossing.run_joinTexts_fits hleftFits hrightFits

end Library

namespace Dynamic

theorem unlogged_settled (name : String) (target : Export) (value : Value)
    (context : Context) : (settled name target value context).unlogged = context.unlogged := by
  rw [settled]
  split <;> rfl

theorem afterJoining_noted (event : Log.Event) (context : Context)
    (outcome : Except MarshalError ManagedText) :
    (noted event context).afterJoining outcome = context.afterJoining outcome := by
  cases outcome with
  | ok text => rfl
  | error fault => cases fault <;> rfl

/-- A call by name that joins texts comes to what joining them comes to. -/
theorem run_call_join {name : String} (typed : TypedCall)
    {join : Attempt ManagedText} {context : Context} {outcome : Except MarshalError ManagedText}
    (hname : Export.ofName? name = some typed.target)
    (hperform : typed.perform = do return .text (← join))
    (hjoin : ∀ before, before.process.settings = context.process.settings →
      ∃ after, join.run.run before = (outcome.mapError .marshal, after) ∧
        after.unlogged = before.afterJoining outcome) :
    ∃ after, (call name typed.args).run.run context =
        ((outcome.mapError .marshal).map .text, after) ∧
      after.unlogged = context.afterJoining outcome := by
  have hresolve : resolve? name typed.args = .ok typed.target :=
    (resolve?_eq_ok_iff name typed.args typed.target).mpr ⟨hname, typed.validate_args⟩
  obtain ⟨after, hrun, hafter⟩ :=
    hjoin (noted (.dispatching typed.target.signature.text) context) rfl
  rw [afterJoining_noted] at hafter
  rw [run_call_resolved hresolve, TypedCall.dispatch_args, hperform, Attempt.run_bind, hrun]
  cases outcome with
  | ok text => exact ⟨_, rfl, (unlogged_settled ..).trans hafter⟩
  | error fault => exact ⟨_, rfl, hafter⟩

end Dynamic

namespace ManagedText

/-- The export was entered if it got as far as a native form of both texts. -/
theorem Joins.callsMade_eq {limit : Nat} {left right : ManagedText}
    {outcome : Except MarshalError ManagedText} (hjoins : Joins limit left right outcome)
    (context : Context) :
    (Utf16.WellFormed left.units ∧ Utf16.WellFormed right.units ∧
      (context.afterJoining outcome).process.tally.callsMade =
        context.process.tally.callsMade + 1) ∨
    (¬ (Utf16.WellFormed left.units ∧ Utf16.WellFormed right.units) ∧
      (context.afterJoining outcome).process.tally.callsMade =
        context.process.tally.callsMade) := by
  cases hjoins with
  | leftUnpaired hleft =>
      refine .inr ⟨fun ⟨hwell, _⟩ => ?_, rfl⟩
      exact (Utf16.wellFormed_iff_forall_not_unpaired _).mp hwell _ hleft.unpaired
  | rightUnpaired _ hright =>
      refine .inr ⟨fun ⟨_, hwell⟩ => ?_, rfl⟩
      exact (Utf16.wellFormed_iff_forall_not_unpaired _).mp hwell _ hright.unpaired
  | leftTooLong hleft hright | rightTooLong hleft hright | joined hleft hright =>
      exact .inl ⟨(wellFormed_iff_exists_ofNative left).mpr ⟨_, hleft⟩,
        (wellFormed_iff_exists_ofNative right).mpr ⟨_, hright⟩, rfl⟩

/-- However two texts are joined, through either export and with or without its name,
the same comes of it and the same is left behind, but for the log.  A call is made
exactly if both texts have native forms. -/
theorem joined_alike (left right : ManagedText) (context : Context) :
    (∃ outcome, Joins context.process.settings.marshal.maxTextBytes left right outcome) ∧
    ∀ outcome, Joins context.process.settings.marshal.maxTextBytes left right outcome →
      (∀ join ∈ [Library.concat, Library.concatLent], ∃ after,
        (join left right).run.run context = (outcome.mapError .marshal, after) ∧
        after.unlogged = context.afterJoining outcome) ∧
      (∀ name ∈ ["TestStaticClass.concat", "TestStaticClass.concat_str"], ∃ after,
        (Dynamic.call name [.text left, .text right]).run.run context =
          ((outcome.mapError .marshal).map .text, after) ∧
        after.unlogged = context.afterJoining outcome) ∧
      (Utf16.WellFormed left.units ∧ Utf16.WellFormed right.units ∧
          (context.afterJoining outcome).process.tally.callsMade =
            context.process.tally.callsMade + 1 ∨
        ¬ (Utf16.WellFormed left.units ∧ Utf16.WellFormed right.units) ∧
          (context.afterJoining outcome).process.tally.callsMade =
            context.process.tally.callsMade) := by
  refine ⟨exists_joins _ left right, fun outcome hjoins => ?_⟩
  have hthrough : ∀ crossing : TextView → TextView → Crossing .text,
      (∀ left right, (crossing left right).run = Crossing.joinTexts left right) →
      ∀ before, before.process.settings = context.process.settings →
        ∃ after, (Library.joinThrough crossing left right).run.run before =
            (outcome.mapError .marshal, after) ∧
          after.unlogged = before.afterJoining outcome := by
    intro crossing hcrossing before hbefore
    rw [← hbefore] at hjoins
    exact Library.run_joinThrough hcrossing hjoins
  refine ⟨?_, ?_, hjoins.callsMade_eq context⟩
  · intro join hjoin
    rcases List.mem_pair.mp hjoin with rfl | rfl
    · exact hthrough .concat (fun _ _ => rfl) context rfl
    · exact hthrough .concatLent (fun _ _ => rfl) context rfl
  · intro name hname
    have hconcat : Export.ofName? "TestStaticClass.concat" = some .concat := by decide
    have hlent : Export.ofName? "TestStaticClass.concat_str" = some .concatLent := by decide
    rcases List.mem_pair.mp hname with rfl | rfl
    · exact Dynamic.run_call_join (.concat left right) hconcat rfl
        (hthrough .concat fun _ _ => rfl)
    · exact Dynamic.run_call_join (.concatLent left right) hlent rfl
        (hthrough .concatLent fun _ _ => rfl)

/-- Two halves of one pair are refused, although they make a pair when put together, and
no export hears of it. -/
theorem joined_alike_split_pair :
    Utf16.FirstUnpaired [0xD83D] 0 ∧
    ∃ after, (Dynamic.call "TestStaticClass.concat_str"
        [.text ⟨[0xD83D]⟩, .text ⟨[0xDE00]⟩]).run.run {} =
          (.error (.marshal (.invalidUtf16 0)), after) ∧
      after.process.tally = { marshalErrors := 1 } := by
  have hleft : Utf16.FirstUnpaired [0xD83D] 0 :=
    ⟨.high (by decide) (by decide), fun place _ => Nat.zero_le place⟩
  obtain ⟨-, hpaths⟩ := joined_alike ⟨[0xD83D]⟩ ⟨[0xDE00]⟩ {}
  obtain ⟨-, hnames, -⟩ := hpaths _ (.leftUnpaired hleft)
  obtain ⟨after, hrun, hafter⟩ := hnames "TestStaticClass.concat_str" (by decide)
  have htally : after.unlogged.process.tally = { marshalErrors := 1 } := by
    rw [hafter]
    rfl
  exact ⟨hleft, after, hrun, htally⟩

end ManagedText

end InteropBridge
