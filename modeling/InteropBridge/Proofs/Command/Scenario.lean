import InteropBridge.Proofs.Command.Scene
import InteropBridge.Proofs.Managed.Joining

/-!
# How far the scenario gets

Three limits decide how the scenario ends.  It has two objects at once, its longest text has
thirteen bytes, and its longest list two items.  If there is room for all of these it goes all
the way.  Otherwise it breaks off where the first limit is met, and lets go of the objects that
it has by then.
-/

namespace InteropBridge.Command

open Attempt

/-- What is printed by a run that goes all the way. -/
def transcript : List String :=
  ["Hello from Rust!", "Number: 123", "3", "Concatenated String", "Concatenated str",
    "TestClass: i = 0", "TestClass: i = 1", "TestClass: i = 4", "4",
    "TestClass by value: i = 4", "Vec length: 2", "1", "2", "3", "TestClass: i = 0", "false"]

/-- The limits leave room for the scenario. -/
def Suffices (settings : Settings) : Prop :=
  2 ≤ settings.handles.maxLive ∧ 13 ≤ settings.marshal.maxTextBytes ∧
    2 ≤ settings.marshal.maxSequenceLength

variable {settings : Settings}

/-! ## Texts -/

section Texts

variable {left right : NativeText} {limit : Nat}

theorem joined_ofNative (hleft : (Utf8.encode left).length ≤ limit)
    (hright : (Utf8.encode right).length ≤ limit) :
    Crossing.joined (.ofNative left) (.ofNative right) limit = .ok (.made (left ++ right)) := by
  rw [Crossing.joined, TextView.read_ofNative, TextView.read_ofNative,
    if_neg (Nat.not_lt.mpr hleft), if_neg (Nat.not_lt.mpr hright)]
  rfl

theorem joined_ofNative_of_lt (hleft : limit < (Utf8.encode left).length) :
    Crossing.joined (.ofNative left) (.ofNative right) limit =
      .error (.marshal (.tooLong "string" (Utf8.encode left).length limit)) := by
  rw [Crossing.joined, TextView.read_ofNative, if_pos hleft]
  rfl

variable {crossing : TextView → TextView → Crossing .text} {before : Scene}
  (hcrossing : ∀ left right, (crossing left right).effect before.ledger.objects settings =
    (Crossing.joined left right settings.marshal.maxTextBytes,
      { objects := before.ledger.objects }))

include hcrossing

theorem plays_joinThrough (hleft : (Utf8.encode left).length ≤ settings.marshal.maxTextBytes)
    (hright : (Utf8.encode right).length ≤ settings.marshal.maxTextBytes) :
    Plays settings before (Library.joinThrough crossing (.ofNative left) (.ofNative right))
      (.ok (.ofNative (left ++ right))) before := by
  have hcall : Plays settings before _ _ _ :=
    (Library.mirrors_joinThrough crossing left right).plays before
  rw [hcrossing, joined_ofNative hleft hright, Scene.after_unchanged] at hcall
  exact hcall

theorem plays_joinThrough_of_lt
    (hleft : settings.marshal.maxTextBytes < (Utf8.encode left).length) :
    Plays settings before (Library.joinThrough crossing (.ofNative left) (.ofNative right))
      (.error (.marshal (.tooLong "string" (Utf8.encode left).length
        settings.marshal.maxTextBytes))) before := by
  have hcall : Plays settings before _ _ _ :=
    (Library.mirrors_joinThrough crossing left right).plays before
  rw [hcrossing, joined_ofNative_of_lt hleft, Scene.after_unchanged] at hcall
  exact hcall

end Texts

theorem sayText_ofNative (native : NativeText) :
    sayText (.ofNative native) = say (String.ofList native) := by
  rw [sayText, ManagedText.shown_ofNative]

/-! ## Without objects -/

/-- A scene without objects. -/
def bare (count : Nat) : Scene :=
  ⟨{}, transcript.take count⟩

/-- What comes before the first text that crosses. -/
theorem plays_greet_of_plays {result : Except BridgeError Unit} {after : Scene}
    (hrest : Plays settings (bare 3) (do
      sayText (← Library.concat (.ofString "Concatenated ") (.ofString "String"))
      sayText (← Library.concatLent (.ofString "Concatenated ") (.ofString "str"))) result after) :
    Plays settings (bare 0) greet result after := by
  have hhello : Plays settings (bare 0) Library.hello (.ok ()) (bare 1) :=
    (Managed.mirrors_ask .hello).plays _
  have hnumber : Plays settings (bare 1) (Library.printNumber 123) (.ok ()) (bare 2) :=
    (Managed.mirrors_ask (.printNumber 123)).plays _
  have hadd : Plays settings (bare 2) (Library.add 1 2) (.ok 3) (bare 2) :=
    (Managed.mirrors_ask (.add 1 2)).plays _
  have hthree : Plays settings (bare 2) (sayInt 3) (.ok ()) (bare 3) := plays_say _
  exact hhello.bind <| hnumber.bind <| hadd.bind <| hthree.bind hrest

theorem plays_greet (htext : 13 ≤ settings.marshal.maxTextBytes) :
    Plays settings (bare 0) greet (.ok ()) (bare 5) := by
  have hgreeting : (Utf8.encode "Concatenated ".toList).length = 13 := by decide
  have hstring : (Utf8.encode "String".toList).length = 6 := by decide
  have hstr : (Utf8.encode "str".toList).length = 3 := by decide
  have hconcat : Plays settings (bare 3)
      (Library.concat (.ofString "Concatenated ") (.ofString "String"))
      (.ok (.ofNative ("Concatenated ".toList ++ "String".toList))) (bare 3) :=
    plays_joinThrough (fun _ _ => rfl) (by omega) (by omega)
  have hfirst : Plays settings (bare 3)
      (sayText (.ofNative ("Concatenated ".toList ++ "String".toList))) (.ok ()) (bare 4) := by
    rw [sayText_ofNative]
    exact plays_say _
  have hconcatLent : Plays settings (bare 4)
      (Library.concatLent (.ofString "Concatenated ") (.ofString "str"))
      (.ok (.ofNative ("Concatenated ".toList ++ "str".toList))) (bare 4) :=
    plays_joinThrough (fun _ _ => rfl) (by omega) (by omega)
  have hsecond : Plays settings (bare 4)
      (sayText (.ofNative ("Concatenated ".toList ++ "str".toList))) (.ok ()) (bare 5) := by
    rw [sayText_ofNative]
    exact plays_say _
  exact plays_greet_of_plays (hconcat.bind <| hfirst.bind <| hconcatLent.bind hsecond)

/-- The first text that crosses is the longest one. -/
theorem plays_greet_of_lt (htext : settings.marshal.maxTextBytes < 13) :
    ∃ error, Plays settings (bare 0) greet (.error error) (bare 3) := by
  have hgreeting : (Utf8.encode "Concatenated ".toList).length = 13 := by decide
  have hconcat : Plays settings (bare 3)
      (Library.concat (.ofString "Concatenated ") (.ofString "String")) (.error _) (bare 3) :=
    plays_joinThrough_of_lt (fun _ _ => rfl) (by omega)
  exact ⟨_, plays_greet_of_plays hconcat.bind_error⟩

/-! ## With objects -/

/-- A scene with one object, which has the first handle. -/
def holding (value : Int32) (count : Nat) : Scene where
  ledger := {
    objects := { kind := className, next := 2, live := 1, entries := [(1, value)] }
    allocated := 1 }
  lines := transcript.take count

/-- The proxy of that object. -/
def object : Proxy :=
  .adopt ⟨1⟩

theorem mirrors_make : Mirrors .make Proxy.adopt Proxy.make :=
  Managed.mirrors_ask_bind _ fun _ => gives_pure _

theorem plays_make (hroom : (bare 5).ledger.objects.live < settings.handles.maxLive) :
    Plays settings (bare 5) Proxy.make (.ok object) (holding 0 5) := by
  have hcall : Plays settings (bare 5) Proxy.make _ _ := mirrors_make.plays _
  rw [Crossing.effect, Objects.storing, if_pos hroom] at hcall
  exact hcall

theorem plays_make_of_no_room
    (hfull : ¬ (bare 5).ledger.objects.live < settings.handles.maxLive) :
    ∃ error, Plays settings (bare 5) Proxy.make (.error error) (bare 5) := by
  have hcall : Plays settings (bare 5) Proxy.make _ _ := mirrors_make.plays _
  rw [Crossing.effect, Objects.storing, if_neg hfull] at hcall
  exact ⟨_, hcall⟩

theorem plays_exercise :
    Plays settings (holding 0 5) (exercise object) (.ok ()) (holding 4 10) := by
  have hfirst : Plays settings (holding 0 5) object.print (.ok ()) (holding 0 6) :=
    (Proxy.mirrors_ask .print rfl).plays _
  have hincrement : Plays settings (holding 0 6) object.increment (.ok ()) (holding 1 6) :=
    (Proxy.mirrors_ask .increment rfl).plays _
  have hsecond : Plays settings (holding 1 6) object.print (.ok ()) (holding 1 7) :=
    (Proxy.mirrors_ask .print rfl).plays _
  have hadd : Plays settings (holding 1 7) (object.add 3) (.ok ()) (holding 4 7) :=
    (Proxy.mirrors_ask (.addTo · 3) rfl).plays _
  have hthird : Plays settings (holding 4 7) object.print (.ok ()) (holding 4 8) :=
    (Proxy.mirrors_ask .print rfl).plays _
  have hget : Plays settings (holding 4 8) object.get (.ok 4) (holding 4 8) :=
    (Proxy.mirrors_ask .get rfl).plays _
  have hfour : Plays settings (holding 4 8) (sayInt 4) (.ok ()) (holding 4 9) := plays_say _
  have hcopy : Plays settings (holding 4 9) object.printCopy (.ok ()) (holding 4 10) :=
    (Proxy.mirrors_ask .printCopy rfl).plays _
  exact hfirst.bind <| hincrement.bind <| hsecond.bind <| hadd.bind <| hthird.bind <|
    hget.bind <| hfour.bind hcopy

/-- What counting comes to depends on how the list is read. -/
theorem plays_printLength (hlist : 2 ≤ settings.marshal.maxSequenceLength) :
    Plays settings (holding 4 10) (Library.printLength [1, 2]) (.ok ()) (holding 4 11) := by
  have hread : (SequenceView.ofList [1, 2]).read settings.marshal.maxSequenceLength = .ok [1, 2] :=
    if_neg (Nat.not_lt.mpr hlist)
  have hcall : Plays settings (holding 4 10) (Library.printLength [1, 2]) _ _ :=
    (Managed.mirrors_ask (.printLength (.ofList [1, 2]))).plays _
  rw [Crossing.effect, hread] at hcall
  exact hcall

theorem plays_count (hlist : 2 ≤ settings.marshal.maxSequenceLength) :
    Plays settings (holding 4 10) count (.ok ()) (holding 4 14) := by
  have hnumbers : Plays settings (holding 4 11) Library.getNumbers (.ok [1, 2, 3])
      (holding 4 11) :=
    Library.mirrors_getNumbers.plays _
  have hfirst : Plays settings (holding 4 11) (sayInt 1) (.ok ()) (holding 4 12) := plays_say _
  have hsecond : Plays settings (holding 4 12) (sayInt 2) (.ok ()) (holding 4 13) := plays_say _
  have hthird : Plays settings (holding 4 13) (sayInt 3) (.ok ()) (holding 4 14) := plays_say _
  have hloop : Plays settings (holding 4 11) (forEach [1, 2, 3] fun number => sayInt number)
      (.ok ⟨⟩) (holding 4 14) :=
    hfirst.forEach_cons <| hsecond.forEach_cons <| hthird.forEach_cons <| plays_forEach_nil _
  exact (plays_printLength hlist).bind <| hnumbers.bind <| hloop.bind (plays_pure _)

theorem plays_count_of_lt (hlist : settings.marshal.maxSequenceLength < 2) :
    ∃ error, Plays settings (holding 4 10) count (.error error) (holding 4 10) := by
  have hread : (SequenceView.ofList [1, 2]).read settings.marshal.maxSequenceLength =
      .error (.tooLong "sequence" 2 settings.marshal.maxSequenceLength) :=
    if_pos hlist
  have hcall : Plays settings (holding 4 10) (Library.printLength [1, 2]) _ _ :=
    (Managed.mirrors_ask (.printLength (.ofList [1, 2]))).plays _
  rw [Crossing.effect, hread] at hcall
  exact ⟨_, Plays.bind_error hcall⟩

/-- A scene with a second object beside the first. -/
def holdingTwo (count : Nat) : Scene where
  ledger := {
    objects := { kind := className, next := 3, live := 2, entries := [(2, 0), (1, 4)] }
    allocated := 2 }
  lines := transcript.take count

/-- What is found of the second object. -/
def found : ManagedOptional Proxy :=
  ⟨some (.adopt ⟨2⟩)⟩

theorem effect_maybeMake (scene : Scene) (htext : 13 ≤ settings.marshal.maxTextBytes) :
    (Crossing.maybeMake ⟨true, .ofNative "asdf".toList⟩).effect scene.ledger.objects settings =
      let stored := Objects.storing scene.ledger.objects 0 settings.handles.maxLive
      (stored.1.map fun handle => .ofOption (some handle), stored.2) := by
  have hname : (Utf8.encode "asdf".toList).length = 4 := by decide
  have hread : (TextView.ofNative "asdf".toList).read settings.marshal.maxTextBytes =
      .ok "asdf".toList := by
    rw [TextView.read_ofNative, if_neg (by omega)]
  rw [Crossing.effect, Flagged.toOption, if_pos rfl, Option.map_some, hread]
  rfl

theorem mirrors_maybeMake :
    Mirrors (.maybeMake ⟨true, .ofNative "asdf".toList⟩)
      (fun made => ⟨made.toOption.map .adopt⟩) (Library.maybeMake ⟨some (.ofString "asdf")⟩) :=
  Library.mirrors_maybeMake (some "asdf".toList)

theorem plays_wonder (htext : 13 ≤ settings.marshal.maxTextBytes)
    (hroom : (holding 4 14).ledger.objects.live < settings.handles.maxLive) :
    Plays settings (holding 4 14) wonder (.ok found) (holdingTwo 16) := by
  have hmade : Plays settings (holding 4 14) (Library.maybeMake ⟨some (.ofString "asdf")⟩)
      (.ok found) (holdingTwo 14) := by
    have hcall : Plays settings (holding 4 14) (Library.maybeMake ⟨some (.ofString "asdf")⟩) _ _ :=
      mirrors_maybeMake.plays _
    rw [effect_maybeMake _ htext, Objects.storing, if_pos hroom] at hcall
    exact hcall
  have hvalue : Plays settings (holdingTwo 14) (MonadExcept.ofExcept found.value)
      (.ok (.adopt ⟨2⟩)) (holdingTwo 14) :=
    plays_ofExcept _
  have hprint : Plays settings (holdingTwo 14) (Proxy.adopt ⟨2⟩).print (.ok ()) (holdingTwo 15) :=
    (Proxy.mirrors_ask .print rfl).plays _
  have hanswer : Plays settings (holdingTwo 15) (Library.maybeAddOne ⟨none⟩) (.ok ⟨none⟩)
      (holdingTwo 15) :=
    (Library.mirrors_maybeAddOne none).plays _
  have hfalse : Plays settings (holdingTwo 15) (say (toString false)) (.ok ()) (holdingTwo 16) :=
    plays_say _
  exact hmade.bind <| (plays_droppingOnFailure <|
    hvalue.bind <| hprint.bind <| hanswer.bind hfalse).bind (plays_pure _)

theorem plays_wonder_of_no_room (htext : 13 ≤ settings.marshal.maxTextBytes)
    (hfull : ¬ (holding 4 14).ledger.objects.live < settings.handles.maxLive) :
    ∃ error, Plays settings (holding 4 14) wonder (.error error) (holding 4 14) := by
  have hcall : Plays settings (holding 4 14) (Library.maybeMake ⟨some (.ofString "asdf")⟩) _ _ :=
    mirrors_maybeMake.plays _
  rw [effect_maybeMake _ htext, Objects.storing, if_neg hfull] at hcall
  exact ⟨_, Plays.bind_error hcall⟩

/-! ## The end -/

/-- A scene where objects have been and are no more. -/
def vacated (handles : Nat) (count : Nat) : Scene where
  ledger := {
    objects := { kind := className, next := 1 + handles.toUInt64 }
    allocated := handles
    released := handles }
  lines := transcript.take count

/-- A scene where only the second object is left. -/
def leftOver : Scene where
  ledger := {
    objects := { kind := className, next := 3, live := 1, entries := [(2, 0)] }
    allocated := 2
    released := 1 }
  lines := transcript

theorem plays_finish :
    Plays settings (holdingTwo 16) (finish object found) (.ok ()) (vacated 2 16) := by
  have hdispose : Plays settings (holdingTwo 16) object.dispose (.ok ()) leftOver :=
    (Proxy.mirrors_dispose rfl).plays _
  have hother : Plays settings leftOver (Proxy.adopt ⟨2⟩).dispose (.ok ()) (vacated 2 16) :=
    (Proxy.mirrors_dispose rfl).plays _
  have hloop : Plays settings leftOver
      (forEach found.content.toList fun proxy => liftM proxy.drop) (.ok ⟨⟩) (vacated 2 16) :=
    (plays_drop hother).forEach_cons <| plays_forEach_nil _
  exact (plays_droppingOnFailure hdispose).bind <| hloop.bind (plays_pure _)

/-- The object does not outlive a failure. -/
theorem plays_letGo (count : Nat) :
    Plays settings (holding 4 count) (forEach [object] fun proxy => liftM proxy.drop)
      (.ok ⟨⟩) (vacated 1 count) := by
  have hafter : (holding 4 count).after ((Crossing.free ⟨1⟩).effect
      (holding 4 count).ledger.objects settings).2 = vacated 1 count :=
    congrArg (Scene.mk _) (List.append_nil _)
  have hdispose : Plays settings (holding 4 count) object.dispose (.ok ()) (vacated 1 count) := by
    rw [← hafter]
    exact (Proxy.mirrors_dispose rfl).plays _
  exact (plays_drop hdispose).forEach_cons <| plays_forEach_nil _

/-- Where there is room, the scenario goes all the way. -/
theorem plays_scenario (hsuffices : Suffices settings) :
    Plays settings (bare 0) scenario (.ok ()) (vacated 2 16) := by
  obtain ⟨hroom, htext, hlist⟩ := hsuffices
  have hmiddle : Plays settings (holding 0 5)
      (do exercise object; count; wonder : Attempt (ManagedOptional Proxy)) (.ok found)
      (holdingTwo 16) :=
    plays_exercise.bind <| (plays_count hlist).bind <| plays_wonder htext hroom
  exact (plays_greet htext).bind <| (plays_make (Nat.zero_lt_of_lt hroom)).bind <|
    (plays_droppingOnFailure hmiddle).bind plays_finish

/-- Where there is not, it fails before it has printed everything. -/
theorem plays_scenario_of_not_suffices (hshort : ¬ Suffices settings) :
    ∃ error handles count, count < 16 ∧
      Plays settings (bare 0) scenario (.error error) (vacated handles count) := by
  by_cases htext : 13 ≤ settings.marshal.maxTextBytes
  case neg =>
    obtain ⟨error, hgreet⟩ := plays_greet_of_lt (Nat.lt_of_not_le htext)
    exact ⟨error, 0, 3, by decide, hgreet.bind_error⟩
  by_cases hfirst : (bare 5).ledger.objects.live < settings.handles.maxLive
  case neg =>
    obtain ⟨error, hmake⟩ := plays_make_of_no_room hfirst
    exact ⟨error, 0, 5, by decide, (plays_greet htext).bind hmake.bind_error⟩
  -- From here on there is an object to let go of.
  have hbreaksOff : ∀ {error : BridgeError} {count : Nat},
      Plays settings (holding 0 5)
        (do exercise object; Command.count; wonder : Attempt (ManagedOptional Proxy))
        (.error error) (holding 4 count) →
      Plays settings (bare 0) scenario (.error error) (vacated 1 count) := by
    intro error count hmiddle
    exact (plays_greet htext).bind <| (plays_make hfirst).bind <|
      (plays_droppingOnFailure_error hmiddle (plays_letGo count)).bind_error
  by_cases hlist : 2 ≤ settings.marshal.maxSequenceLength
  case neg =>
    obtain ⟨error, hcount⟩ := plays_count_of_lt (Nat.lt_of_not_le hlist)
    exact ⟨error, 1, 10, by decide, hbreaksOff (plays_exercise.bind hcount.bind_error)⟩
  have hsecond : ¬ (holding 4 14).ledger.objects.live < settings.handles.maxLive :=
    fun hroom => hshort ⟨hroom, htext, hlist⟩
  obtain ⟨error, hwonder⟩ := plays_wonder_of_no_room htext hsecond
  exact ⟨error, 1, 14, by decide,
    hbreaksOff (plays_exercise.bind <| (plays_count hlist).bind hwonder)⟩

end InteropBridge.Command
