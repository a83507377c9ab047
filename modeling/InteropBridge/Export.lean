import InteropBridge.Boundary.Signature

/-!
# Exports

The functions that the native library exports.  Each has a symbol, under which
it is called directly, and a signature, under whose name it is called by loosely
typed hosts.
-/

namespace InteropBridge

/-- An exported function. -/
inductive Export
  | hello
  | printNumber
  | add
  | concat
  | concatLent
  | printCopy
  | printLength
  | getNumbers
  | maybeMake
  | maybeAddOne
  | make
  | free
  | duplicate
  | print
  | increment
  | addTo
  | get
  deriving DecidableEq

namespace Export

/-- Every export, in the order of signature names. -/
def all : List Export :=
  [addTo, duplicate, free, get, increment, make, print, add, concat, concatLent,
    getNumbers, hello, maybeAddOne, maybeMake, printNumber, printLength, printCopy]

/-- The symbol of the export. -/
def symbol : Export → String
  | hello => "dotbridge_hello"
  | printNumber => "dotbridge_print_number"
  | add => "dotbridge_add"
  | concat => "dotbridge_concat"
  | concatLent => "dotbridge_concat_str"
  | printCopy => "dotbridge_test_obj_by_value"
  | printLength => "dotbridge_print_vec_len"
  | getNumbers => "dotbridge_get_vec"
  | maybeMake => "dotbridge_maybe_return_class"
  | maybeAddOne => "dotbridge_maybe_add_one"
  | make => "dotbridge_test_class_new"
  | free => "dotbridge_test_class_free"
  | duplicate => "dotbridge_test_class_clone"
  | print => "dotbridge_test_class_print"
  | increment => "dotbridge_test_class_increment"
  | addTo => "dotbridge_test_class_add"
  | get => "dotbridge_test_class_get"

/-- The signature of the export. -/
def signature : Export → Signature
  | hello => ⟨"TestStaticClass.hello", [], .void⟩
  | printNumber => ⟨"TestStaticClass.print_number", [.int], .void⟩
  | add => ⟨"TestStaticClass.add", [.int, .int], .int⟩
  | concat => ⟨"TestStaticClass.concat", [.ownedText, .ownedText], .ownedText⟩
  | concatLent => ⟨"TestStaticClass.concat_str", [.lentText, .lentText], .ownedText⟩
  | printCopy => ⟨"TestStaticClass.test_obj_by_value", [.object className], .void⟩
  | printLength => ⟨"TestStaticClass.print_vec_len", [.sequence], .void⟩
  | getNumbers => ⟨"TestStaticClass.get_vec", [], .sequence⟩
  | maybeMake =>
      ⟨"TestStaticClass.maybe_return_class", [.optional .ownedText],
        .optional (.object className)⟩
  | maybeAddOne => ⟨"TestStaticClass.maybe_add_one", [.optional .int], .optional .int⟩
  | make => ⟨"TestClass.new", [], .object className⟩
  | free => ⟨"TestClass.free", [.object className], .void⟩
  | duplicate => ⟨"TestClass.clone", [.object className], .object className⟩
  | print => ⟨"TestClass.print", [.object className], .void⟩
  | increment => ⟨"TestClass.increment", [.object className], .void⟩
  | addTo => ⟨"TestClass.add", [.object className, .int], .void⟩
  | get => ⟨"TestClass.get", [.object className], .int⟩

/-- The name of the export for loosely typed hosts. -/
def name (item : Export) : String :=
  item.signature.name

/-- The export with the given name. -/
def ofName? (name : String) : Option Export :=
  all.find? (·.name == name)

end Export

end InteropBridge
