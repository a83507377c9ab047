import InteropBridge.Managed.Dynamic
import InteropBridge.Proofs.Boundary.Validation

/-!
# Calls with fitting arguments

A typed call carries arguments that fit its export by construction.  Forgetting
the types gives the export and the loose values that a call by name would bring;
validation accepts exactly the values that come about this way, and dispatching
them is performing the typed call.
-/

namespace InteropBridge

/-- A call of an export with arguments of the right types. -/
inductive TypedCall
  | hello
  | printNumber (number : Int32)
  | add (left right : Int32)
  | concat (left right : ManagedText)
  | concatLent (left right : ManagedText)
  | printCopy (handle : Handle)
  | printLength (items : List Int32)
  | getNumbers
  | maybeMake (name : Option ManagedText)
  | maybeAddOne (number : Option Int32)
  | make
  | free (handle : Handle)
  | duplicate (handle : Handle)
  | print (handle : Handle)
  | increment (handle : Handle)
  | addTo (handle : Handle) (amount : Int32)
  | get (handle : Handle)

namespace TypedCall

def target : TypedCall → Export
  | hello => .hello
  | printNumber _ => .printNumber
  | add .. => .add
  | concat .. => .concat
  | concatLent .. => .concatLent
  | printCopy _ => .printCopy
  | printLength _ => .printLength
  | getNumbers => .getNumbers
  | maybeMake _ => .maybeMake
  | maybeAddOne _ => .maybeAddOne
  | make => .make
  | free _ => .free
  | duplicate _ => .duplicate
  | print _ => .print
  | increment _ => .increment
  | addTo .. => .addTo
  | get _ => .get

/-- The arguments as loose values. -/
def args : TypedCall → List Value
  | hello | getNumbers | make => []
  | printNumber number => [.int number]
  | add left right => [.int left, .int right]
  | concat left right | concatLent left right => [.text left, .text right]
  | printCopy handle | free handle | duplicate handle | print handle | increment handle
  | get handle => [.object handle]
  | printLength items => [.list items]
  | maybeMake name => [.ofOption (name.map .text)]
  | maybeAddOne number => [.ofOption (number.map .int)]
  | addTo handle amount => [.object handle, .int amount]

/-- What a managed caller does to make the call. -/
def perform : TypedCall → Attempt Value
  | hello => do Library.hello; return .void
  | printNumber number => do Library.printNumber number; return .void
  | add left right => do return .int (← Library.add left right)
  | concat left right => do return .text (← Library.concat left right)
  | concatLent left right => do return .text (← Library.concatLent left right)
  | printCopy handle => do Managed.ask (.printCopy handle); return .void
  | printLength items => do Library.printLength items; return .void
  | getNumbers => do return .list (← Library.getNumbers)
  | maybeMake name => do
      let made ← Library.maybeMake ⟨name⟩
      return .ofOption (made.content.map fun proxy => .object proxy.raw)
  | maybeAddOne number => do
      let answer ← Library.maybeAddOne ⟨number⟩
      return .ofOption (answer.content.map .int)
  | make => do return .object (← Managed.ask .make)
  | free handle => do Managed.ask (.free handle); return .void
  | duplicate handle => do return .object (← Managed.ask (.duplicate handle))
  | print handle => do Managed.ask (.print handle); return .void
  | increment handle => do Managed.ask (.increment handle); return .void
  | addTo handle amount => do Managed.ask (.addTo handle amount); return .void
  | get handle => do return .int (← Managed.ask (.get handle))

theorem validate_args (call : TypedCall) :
    call.target.signature.validate call.args = .ok () := by
  cases call with
  | maybeMake name => cases name <;> rfl
  | maybeAddOne number => cases number <;> rfl
  | _ => rfl

theorem dispatch_args (call : TypedCall) :
    Dynamic.dispatch call.target.name call.args = call.perform := by
  cases call with
  | maybeMake name => cases name <;> rfl
  | maybeAddOne number => cases number <;> rfl
  | _ => rfl

private theorem exists_map_eq {α β : Type} {f : α → β} {content : Option β}
    (hcontent : ∀ present ∈ content, ∃ value, present = f value) :
    ∃ inner : Option α, inner.map f = content := by
  cases content with
  | none => exact ⟨none, rfl⟩
  | some present =>
      obtain ⟨value, hvalue⟩ := hcontent present rfl
      exact ⟨some value, by rw [hvalue]; rfl⟩

/-- Whatever validation accepts is a typed call with its types forgotten. -/
theorem exists_of_validate {target : Export} {args : List Value}
    (hvalid : target.signature.validate args = .ok ()) :
    ∃ call : TypedCall, call.target = target ∧ call.args = args := by
  rw [Signature.validate_eq_ok_iff] at hvalid
  cases target <;>
    simp only [Export.signature, List.forall₂_cons_right_iff, List.forall₂_nil_right_iff,
      Value.conforms_int_iff, Value.conforms_ownedText_iff, Value.conforms_lentText_iff,
      Value.conforms_sequence_iff, Value.conforms_object_iff, Value.conforms_optional_iff]
      at hvalid
  case hello => exact ⟨.hello, rfl, hvalid.symm⟩
  case printNumber =>
    obtain ⟨_, _, ⟨number, rfl⟩, rfl, rfl⟩ := hvalid
    exact ⟨.printNumber number, rfl, rfl⟩
  case add =>
    obtain ⟨_, _, ⟨left, rfl⟩, ⟨_, _, ⟨right, rfl⟩, rfl, rfl⟩, rfl⟩ := hvalid
    exact ⟨.add left right, rfl, rfl⟩
  case concat =>
    obtain ⟨_, _, ⟨left, rfl⟩, ⟨_, _, ⟨right, rfl⟩, rfl, rfl⟩, rfl⟩ := hvalid
    exact ⟨.concat left right, rfl, rfl⟩
  case concatLent =>
    obtain ⟨_, _, ⟨left, rfl⟩, ⟨_, _, ⟨right, rfl⟩, rfl, rfl⟩, rfl⟩ := hvalid
    exact ⟨.concatLent left right, rfl, rfl⟩
  case printCopy =>
    obtain ⟨_, _, ⟨handle, rfl⟩, rfl, rfl⟩ := hvalid
    exact ⟨.printCopy handle, rfl, rfl⟩
  case printLength =>
    obtain ⟨_, _, ⟨items, rfl⟩, rfl, rfl⟩ := hvalid
    exact ⟨.printLength items, rfl, rfl⟩
  case getNumbers => exact ⟨.getNumbers, rfl, hvalid.symm⟩
  case maybeMake =>
    obtain ⟨_, _, ⟨content, rfl, hcontent⟩, rfl, rfl⟩ := hvalid
    obtain ⟨name, rfl⟩ := exists_map_eq hcontent
    exact ⟨.maybeMake name, rfl, rfl⟩
  case maybeAddOne =>
    obtain ⟨_, _, ⟨content, rfl, hcontent⟩, rfl, rfl⟩ := hvalid
    obtain ⟨number, rfl⟩ := exists_map_eq hcontent
    exact ⟨.maybeAddOne number, rfl, rfl⟩
  case make => exact ⟨.make, rfl, hvalid.symm⟩
  case free =>
    obtain ⟨_, _, ⟨handle, rfl⟩, rfl, rfl⟩ := hvalid
    exact ⟨.free handle, rfl, rfl⟩
  case duplicate =>
    obtain ⟨_, _, ⟨handle, rfl⟩, rfl, rfl⟩ := hvalid
    exact ⟨.duplicate handle, rfl, rfl⟩
  case print =>
    obtain ⟨_, _, ⟨handle, rfl⟩, rfl, rfl⟩ := hvalid
    exact ⟨.print handle, rfl, rfl⟩
  case increment =>
    obtain ⟨_, _, ⟨handle, rfl⟩, rfl, rfl⟩ := hvalid
    exact ⟨.increment handle, rfl, rfl⟩
  case addTo =>
    obtain ⟨_, _, ⟨handle, rfl⟩, ⟨_, _, ⟨amount, rfl⟩, rfl, rfl⟩, rfl⟩ := hvalid
    exact ⟨.addTo handle amount, rfl, rfl⟩
  case get =>
    obtain ⟨_, _, ⟨handle, rfl⟩, rfl, rfl⟩ := hvalid
    exact ⟨.get handle, rfl, rfl⟩

end TypedCall

end InteropBridge
