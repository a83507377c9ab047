import InteropBridge.Proofs.Crossing.Allocation
import InteropBridge.Proofs.Managed.Joining
import Mathlib.Algebra.GroupWithZero.Nat

/-!
# Sizes of texts

A managed caller counts units, and the limit on texts counts bytes.  A character of one unit
takes one to three bytes and one of two units takes four, so a text has at least as many
bytes as units and at most three times as many.  The number of units alone decides on a text
that has more of them than the limit allows bytes, and on one that has a third as many at
most.
-/

namespace InteropBridge

theorem Utf8.length_encode (text : NativeText) :
    (encode text).length = (text.map Char.utf8Size).sum := by
  rw [encode, List.length_flatMap]
  congr 1
  exact List.map_congr_left fun c _ => String.length_utf8EncodeChar c

theorem Utf16.utf8Size_bounds (c : Char) :
    (encodeChar c).length ≤ c.utf8Size ∧ c.utf8Size ≤ 3 * (encodeChar c).length := by
  have hval : c.val.toNat = c.toNat := rfl
  rw [← String.length_utf8EncodeChar, length_encodeChar]
  simp only [String.utf8EncodeChar, hval]
  split_ifs <;> simp only [List.length_cons, List.length_nil] <;> omega

namespace ManagedText

/-- The bytes of a text are at least as many as its units, and at most three times as
many. -/
theorem size_bounds (text : NativeText) :
    (ofNative text).length ≤ (Utf8.encode text).length ∧
      (Utf8.encode text).length ≤ 3 * (ofNative text).length := by
  rw [Utf8.length_encode]
  change (Utf16.encode text).length ≤ _ ∧ _ ≤ 3 * (Utf16.encode text).length
  induction text with
  | nil => exact ⟨Nat.le_refl 0, Nat.le_refl 0⟩
  | cons c text ih =>
      obtain ⟨hlower, hupper⟩ := Utf16.utf8Size_bounds c
      rw [Utf16.encode_cons, List.length_append, List.map_cons, List.sum_cons]
      omega

/-- What two native texts come to when they are joined and none of more than `limit` bytes is
read. -/
def joinedWithin (limit : Nat) (left right : NativeText) : Except MarshalError ManagedText :=
  if limit < (Utf8.encode left).length then
    .error (.tooLong "string" (Utf8.encode left).length limit)
  else if limit < (Utf8.encode right).length then
    .error (.tooLong "string" (Utf8.encode right).length limit)
  else .ok (.ofNative (left ++ right))

/-- However two texts are joined, this is what it comes to: through either export, by the
library or by name, or by a direct call with their native forms. -/
structure JoinTo (context : Context) (left right : ManagedText)
    (outcome : Except MarshalError ManagedText) : Prop where
  library : ∀ join ∈ [Library.concat, Library.concatLent],
    ((join left right).run.run context).1 = outcome.mapError .marshal
  byName : ∀ name ∈ ["TestStaticClass.concat", "TestStaticClass.concat_str"],
    ((Dynamic.call name [.text left, .text right]).run.run context).1 =
      (outcome.mapError .marshal).map .text
  direct : ∀ crossing ∈ [Crossing.concat, Crossing.concatLent], ∀ leftText rightText,
    left.toNative = .ok leftText → right.toNative = .ok rightText →
    (crossing (.ofNative leftText) (.ofNative rightText)).outcome true context =
      (outcome.mapError .marshal).map fun _ => .made (leftText ++ rightText)

theorem joins_joinedWithin (limit : Nat) (left right : NativeText) :
    Joins limit (.ofNative left) (.ofNative right) (joinedWithin limit left right) := by
  rw [joinedWithin]
  split
  · next hlong => exact .leftTooLong rfl rfl hlong
  split
  · next hfits hlong => exact .rightTooLong rfl rfl (Nat.le_of_not_lt hfits) hlong
  · next hleft hright =>
      rw [ofNative_append]
      exact .joined rfl rfl (Nat.le_of_not_lt hleft) (Nat.le_of_not_lt hright)

theorem joined_eq_joinedWithin (limit : Nat) (left right : NativeText) :
    Crossing.joined (.ofNative left) (.ofNative right) limit =
      ((joinedWithin limit left right).mapError .marshal).map fun _ => .made (left ++ right) := by
  rw [Crossing.joined, TextView.read_ofNative, TextView.read_ofNative, joinedWithin]
  split
  · rfl
  split <;> rfl

theorem joinTo_joinedWithin (context : Context) (left right : NativeText) :
    JoinTo context (.ofNative left) (.ofNative right)
      (joinedWithin context.process.settings.marshal.maxTextBytes left right) := by
  have hjoins := joins_joinedWithin context.process.settings.marshal.maxTextBytes left right
  have hthrough : ∀ crossing : TextView → TextView → Crossing .text,
      (∀ left right, (crossing left right).run = Crossing.joinTexts left right) →
      ∀ before, before.process.settings = context.process.settings →
        ∃ after, (Library.joinThrough crossing (.ofNative left) (.ofNative right)).run.run before =
            ((joinedWithin context.process.settings.marshal.maxTextBytes left right).mapError
              .marshal, after) ∧
          after.unlogged = before.afterJoining
            (joinedWithin context.process.settings.marshal.maxTextBytes left right) := by
    intro crossing hcrossing before hbefore
    rw [← hbefore] at hjoins ⊢
    exact Library.run_joinThrough hcrossing hjoins
  constructor
  case library =>
    intro join hjoin
    rcases List.mem_pair.mp hjoin with rfl | rfl
    · obtain ⟨after, hrun, -⟩ := hthrough .concat (fun _ _ => rfl) context rfl
      exact congrArg Prod.fst hrun
    · obtain ⟨after, hrun, -⟩ := hthrough .concatLent (fun _ _ => rfl) context rfl
      exact congrArg Prod.fst hrun
  case byName =>
    intro name hname
    have hconcat : Export.ofName? "TestStaticClass.concat" = some .concat := by decide
    have hlent : Export.ofName? "TestStaticClass.concat_str" = some .concatLent := by decide
    rcases List.mem_pair.mp hname with rfl | rfl
    · obtain ⟨after, hrun, -⟩ := Dynamic.run_call_join (.concat _ _) hconcat rfl
        (hthrough .concat fun _ _ => rfl)
      exact congrArg Prod.fst hrun
    · obtain ⟨after, hrun, -⟩ := Dynamic.run_call_join (.concatLent _ _) hlent rfl
        (hthrough .concatLent fun _ _ => rfl)
      exact congrArg Prod.fst hrun
  case direct =>
    intro crossing hcrossing leftText rightText hleft hright
    rw [toNative_ofNative] at hleft hright
    cases hleft
    cases hright
    rcases List.mem_pair.mp hcrossing with rfl | rfl <;>
    · rw [Crossing.outcome_eq, Crossing.effectAt_true]
      exact joined_eq_joinedWithin _ left right

/-- Well-formed text has at least as many bytes as units, and at most three times as many.  So
more units than the limit allows bytes are always too many where the text is read, and a third
as many never are.  Where a text is too long, the sizes of its characters are told, summed
up. -/
theorem size_against_limit (left right : ManagedText) (hleft : Utf16.WellFormed left.units)
    (hright : Utf16.WellFormed right.units) (context : Context) :
    let limit := context.process.settings.marshal.maxTextBytes
    let size := fun text : NativeText => (text.map Char.utf8Size).sum
    ∃ leftText rightText, left.toNative = .ok leftText ∧ right.toNative = .ok rightText ∧
      (left.length ≤ (Utf8.encode leftText).length ∧
        (Utf8.encode leftText).length ≤ 3 * left.length) ∧
      (limit < left.length → (TextView.ofNative leftText).read limit =
        .error (.tooLong "string" (size leftText) limit)) ∧
      (left.length ≤ limit / 3 → (TextView.ofNative leftText).read limit = .ok leftText) ∧
      ∃ outcome, JoinTo context left right outcome ∧
        (limit < left.length → outcome = .error (.tooLong "string" (size leftText) limit)) ∧
        (size leftText ≤ limit → limit < right.length →
          outcome = .error (.tooLong "string" (size rightText) limit)) ∧
        (∀ what length most, outcome = .error (.tooLong what length most) →
          what = "string" ∧ most = limit ∧
            (limit / 3 < left.length ∧ length = size leftText ∨
              size leftText ≤ limit ∧ limit / 3 < right.length ∧ length = size rightText)) ∧
        (left.length ≤ limit / 3 → right.length ≤ limit / 3 →
          outcome = .ok ⟨left.units ++ right.units⟩) := by
  intro limit size
  obtain ⟨leftText, rfl⟩ := left.wellFormed_iff_exists_ofNative.mp hleft
  obtain ⟨rightText, rfl⟩ := right.wellFormed_iff_exists_ofNative.mp hright
  obtain ⟨hleftLower, hleftUpper⟩ := size_bounds leftText
  obtain ⟨hrightLower, hrightUpper⟩ := size_bounds rightText
  have hleftSize : (Utf8.encode leftText).length = size leftText := Utf8.length_encode leftText
  have hrightSize : (Utf8.encode rightText).length = size rightText :=
    Utf8.length_encode rightText
  refine ⟨leftText, rightText, toNative_ofNative leftText, toNative_ofNative rightText,
    ⟨hleftLower, hleftUpper⟩, fun hlong => ?_, fun hshort => ?_,
    joinedWithin limit leftText rightText,
    joinTo_joinedWithin context leftText rightText, fun hlong => ?_, fun hfits hlong => ?_,
    fun what length most houtcome => ?_, fun hleftShort hrightShort => ?_⟩
  · rw [TextView.read_ofNative, if_pos (by omega), hleftSize]
  · rw [TextView.read_ofNative, if_neg (by omega)]
  · rw [joinedWithin, if_pos (by omega), hleftSize]
  · rw [joinedWithin, if_neg (by omega), if_pos (by omega), hrightSize]
  · rw [joinedWithin] at houtcome
    split at houtcome
    · next hlong =>
        cases houtcome
        exact ⟨rfl, rfl, .inl ⟨by omega, hleftSize⟩⟩
    split at houtcome
    · next hfits hlong =>
        cases houtcome
        exact ⟨rfl, rfl, .inr ⟨by omega, by omega, hrightSize⟩⟩
    · cases houtcome
  · rw [joinedWithin, if_neg (by omega), if_neg (by omega), ofNative_append]

/-- Under a limit of six bytes two units of three bytes each may be read, and a pair beside
them; the same two units are too long under a limit of one. -/
theorem size_against_limit_euro :
    let settings := fun limit : Nat => { marshal := { maxTextBytes := limit } : Settings }
    let text : ManagedText := ⟨[0x20AC, 0x20AC]⟩
    let pair : ManagedText := ⟨[0xD83D, 0xDE00]⟩
    Utf16.WellFormed text.units ∧ Utf16.WellFormed pair.units ∧
    ((Library.concat text pair).run.run { process.settings := settings 6 }).1 =
      .ok ⟨[0x20AC, 0x20AC, 0xD83D, 0xDE00]⟩ ∧
    ((Library.concat text pair).run.run { process.settings := settings 1 }).1 =
      .error (.marshal (.tooLong "string" 6 1)) := by
  intro settings text pair
  have htext : Utf16.WellFormed text.units :=
    (Utf16.wellFormed_iff_exists_encode _).mpr ⟨['€', '€'], rfl⟩
  have hpair : Utf16.WellFormed pair.units :=
    (Utf16.wellFormed_iff_exists_encode _).mpr ⟨['😀'], rfl⟩
  obtain ⟨_, _, -, -, -, -, -, wide, hwide, -, -, -, hfits⟩ :=
    size_against_limit text pair htext hpair { process.settings := settings 6 }
  obtain ⟨native, _, hnative, -, -, -, -, narrow, hnarrow, hlong, -, -, -⟩ :=
    size_against_limit text pair htext hpair { process.settings := settings 1 }
  obtain rfl : ['€', '€'] = native := Except.ok.inj hnative
  refine ⟨htext, hpair, ?_, ?_⟩
  · rw [hwide.library _ (List.mem_cons_self ..), hfits (by decide) (by decide)]
    rfl
  · rw [hnarrow.library _ (List.mem_cons_self ..), hlong (by decide)]
    rfl

end ManagedText

end InteropBridge
