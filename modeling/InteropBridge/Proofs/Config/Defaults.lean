import InteropBridge.Proofs.Config.Validation

/-!
# Given fields and omitted ones

A document gives a field in the section that the field belongs to: under its key if the section
is a table, in its place if it is an array.  A field that is given is read off its value alone.
One that is not given has its default, and it is the same default whether the section is there
without the field or not there at all.
-/

namespace InteropBridge

theorem ReleasePolicy.name_of_ofName? {text : String} {policy : ReleasePolicy}
    (hname : ofName? text = some policy) : policy.name = text := by
  have hfound := List.find?_some hname
  exact beq_iff_eq.mp hfound

theorem ReleasePolicy.name_injective : Function.Injective name := by
  intro left right hnames
  cases left <;> cases right <;> simp_all [name]

theorem Log.Format.name_of_ofName? {text : String} {format : Format}
    (hname : ofName? text = some format) : format.name = text := by
  have hfound := List.find?_some hname
  exact beq_iff_eq.mp hfound

theorem Log.Format.name_injective : Function.Injective name := by
  intro left right hnames
  cases left <;> cases right <;> simp_all [name]

namespace Config

/-- A field of the settings. -/
inductive Field
  | maxLive
  | doubleRelease
  | maxTextBytes
  | maxSequenceLength
  | level
  | format
  | filter
  | directory
  | spanEvents

/-- The value is a way to write a name: the text itself, or a table in which the name alone
stands above an empty value. -/
def NameWritten (value : Toml.Value) (name : String) : Prop :=
  value = .text name ∨ value = .table [(name, .table [])] ∨ value = .table [(name, .array [])]

namespace Field

/-- What the field holds. -/
abbrev Content : Field → Type
  | maxLive | maxTextBytes | maxSequenceLength => Nat
  | doubleRelease => ReleasePolicy
  | level => String
  | format => Log.Format
  | filter | directory => Option String
  | spanEvents => Bool

def content : (field : Field) → Settings → field.Content
  | maxLive, settings => settings.handles.maxLive
  | doubleRelease, settings => settings.handles.doubleRelease
  | maxTextBytes, settings => settings.marshal.maxTextBytes
  | maxSequenceLength, settings => settings.marshal.maxSequenceLength
  | level, settings => settings.logging.level
  | format, settings => settings.logging.format
  | filter, settings => settings.logging.filter
  | directory, settings => settings.logging.directory
  | spanEvents, settings => settings.logging.spanEvents

/-- The value is a way to write the content. -/
def Written : (field : Field) → Toml.Value → field.Content → Prop
  | maxLive, value, size | maxTextBytes, value, size | maxSequenceLength, value, size =>
      value = .integer (Int.ofNat size)
  | doubleRelease, value, policy => NameWritten value policy.name
  | level, value, text => value = .text text
  | format, value, choice => NameWritten value choice.name
  | filter, value, text | directory, value, text => ∃ given, text = some given ∧ value = .text given
  | spanEvents, value, flag => value = .boolean flag

/-! ## Where a document gives it -/

/-- The name of the section that the field belongs to. -/
def heading : Field → String
  | maxLive | doubleRelease => "handles"
  | maxTextBytes | maxSequenceLength => "marshal"
  | level | format | filter | directory | spanEvents => "logging"

/-- The key of the field in a section that is a table. -/
def key : Field → String
  | maxLive => "max_live"
  | doubleRelease => "double_release"
  | maxTextBytes => "max_string_bytes"
  | maxSequenceLength => "max_sequence_len"
  | level => "level"
  | format => "format"
  | filter => "filter"
  | directory => "directory"
  | spanEvents => "span_events"

/-- The place of the field in a section that is an array. -/
def place : Field → Nat
  | maxLive | maxTextBytes | level => 0
  | doubleRelease | maxSequenceLength | format => 1
  | filter => 2
  | directory => 3
  | spanEvents => 4

/-- The value that a document gives for the field. -/
def given? (field : Field) (document : Toml.Value) : Option Toml.Value :=
  match document.lookup? field.heading with
  | some (.table entries) => entries.lookup field.key
  | some (.array items) => items[field.place]?
  | _ => none

theorem given?_of_missing {field : Field} {document : Toml.Value}
    (hsection : document.lookup? field.heading = none) : field.given? document = none := by
  rw [given?, hsection]

/-- A section that has fields at all gives each where it looks for it. -/
theorem given?_of_fields {field : Field} {document value : Toml.Value}
    {find : Nat → String → Option Toml.Value}
    (hsection : document.lookup? field.heading = some value)
    (hfields : fields? value = some find) :
    field.given? document = find field.place field.key := by
  rw [given?, hsection]
  cases value <;> cases hfields <;> rfl

end Field

/-! ## Reading one value -/

theorem size?_eq_some_iff (value : Toml.Value) (size : Nat) :
    size? value = some size ↔ value = .integer (Int.ofNat size) := by
  cases value with
  | integer number =>
      simp only [size?, Toml.Value.integer.injEq]
      split
      · next hsign =>
          simp only [Option.some.injEq, Int.ofNat_eq_natCast]
          omega
      · next hsign =>
          simp only [reduceCtorEq, Int.ofNat_eq_natCast, false_iff]
          omega
  | _ => simp [size?]

theorem text?_eq_some_iff (value : Toml.Value) (text : String) :
    text? value = some text ↔ value = .text text := by
  cases value <;> simp [text?]

theorem flag?_eq_some_iff (value : Toml.Value) (flag : Bool) :
    flag? value = some flag ↔ value = .boolean flag := by
  cases value <;> simp [flag?]

theorem written_of_text? {value : Toml.Value} {content : Option String}
    (hread : some <$> text? value = some content) :
    ∃ given, content = some given ∧ value = .text given := by
  obtain ⟨given, hgiven, rfl⟩ := Option.map_eq_some_iff.mp hread
  exact ⟨given, rfl, (text?_eq_some_iff value given).mp hgiven⟩

theorem written_of_choice? {α : Type} {ofName? : String → Option α} {name : α → String}
    (hname : ∀ {text choice}, ofName? text = some choice → name choice = text)
    {value : Toml.Value} {choice : α} (hread : choice? ofName? value = some choice) :
    NameWritten value (name choice) := by
  rw [choice?.eq_def] at hread
  split at hread
  · exact .inl (hname hread ▸ rfl)
  · exact .inr (.inl (hname hread ▸ rfl))
  · exact .inr (.inr (hname hread ▸ rfl))
  · cases hread

theorem NameWritten.unique {value : Toml.Value} {left right : String}
    (hleft : NameWritten value left) (hright : NameWritten value right) : left = right := by
  rcases hleft with rfl | rfl | rfl <;> simpa [NameWritten, eq_comm] using hright

/-- A value is a way to write one content only. -/
theorem Field.Written.unique {field : Field} {value : Toml.Value} {left right : field.Content}
    (hleft : field.Written value left) (hright : field.Written value right) : left = right := by
  cases field with
  | maxLive | maxTextBytes | maxSequenceLength =>
      exact Int.ofNat.inj (Toml.Value.integer.inj (hleft.symm.trans hright))
  | doubleRelease => exact ReleasePolicy.name_injective (NameWritten.unique hleft hright)
  | format => exact Log.Format.name_injective (NameWritten.unique hleft hright)
  | level => exact Toml.Value.text.inj (hleft.symm.trans hright)
  | filter | directory =>
      obtain ⟨text, rfl, rfl⟩ := hleft
      obtain ⟨other, rfl, hother⟩ := hright
      rw [Toml.Value.text.inj hother]
  | spanEvents => exact Toml.Value.boolean.inj (hleft.symm.trans hright)

/-! ## Reading one field -/

/-- The content is what the value says if there is one, and the default if there is none. -/
structure Field.Settled (field : Field) (given : Option Toml.Value) (content : field.Content) :
    Prop where
  written : ∀ value ∈ given, field.Written value content
  omitted : given = none → content = field.content {}

/-- What is given, or that nothing is, settles one content only. -/
theorem Field.Settled.unique {field : Field} {given : Option Toml.Value}
    {left right : field.Content} (hleft : field.Settled given left)
    (hright : field.Settled given right) : left = right := by
  cases given with
  | none => rw [hleft.omitted rfl, hright.omitted rfl]
  | some value => exact (hleft.written value rfl).unique (hright.written value rfl)

theorem Field.settled_of_orDefault {field : Field} {standard content : field.Content}
    {read : Toml.Value → Option field.Content} {given : Option Toml.Value}
    (hstandard : standard = field.content {})
    (hread : ∀ value content, read value = some content → field.Written value content)
    (hcontent : orDefault standard read given = some content) :
    field.Settled given content := by
  cases given with
  | none =>
      refine ⟨by simp, fun _ => ?_⟩
      rw [← Option.some.inj hcontent, hstandard]
  | some value =>
      refine ⟨?_, by simp⟩
      rintro _ ⟨⟩
      exact hread value content hcontent

/-- A field is settled if its section is the default one where it is missing, and settles the
field where it is there.  `embed` puts the section among the others, which do not matter. -/
theorem Field.settled_of_section {α : Type} (field : Field) {document : Toml.Value}
    {standard part : α} {read : Toml.Value → Option α} (embed : α → Settings)
    (hpart : orDefault standard read (document.lookup? field.heading) = some part)
    (hdefault : field.content (embed standard) = field.content {})
    (hfields : ∀ value, read value = some part →
      ∃ find, fields? value = some find ∧
        field.Settled (find field.place field.key) (field.content (embed part))) :
    field.Settled (field.given? document) (field.content (embed part)) := by
  cases hlookup : document.lookup? field.heading with
  | none =>
      rw [hlookup] at hpart
      obtain rfl : standard = part := Option.some.inj hpart
      rw [given?_of_missing hlookup]
      exact ⟨by simp, fun _ => hdefault⟩
  | some value =>
      rw [hlookup] at hpart
      obtain ⟨find, hfind, hsettled⟩ := hfields value hpart
      rwa [given?_of_fields hlookup hfind]

/-! ## Reading one section -/

theorem settled_of_handles? {field : Field} (hfield : field.heading = "handles")
    {value : Toml.Value} {handles : HandleSettings} (hread : handles? value = some handles) :
    ∃ find, fields? value = some find ∧
      field.Settled (find field.place field.key) (field.content { handles }) := by
  simp only [handles?, bind, Option.bind_eq_some_iff] at hread
  obtain ⟨find, hfind, room, hroom, policy, hpolicy, hhandles⟩ := hread
  obtain rfl := Option.some.inj hhandles
  refine ⟨find, hfind, ?_⟩
  cases field with
  | maxLive =>
      exact Field.settled_of_orDefault rfl (fun _ _ => (size?_eq_some_iff _ _).mp) hroom
  | doubleRelease =>
      exact Field.settled_of_orDefault rfl
        (fun _ _ => written_of_choice? ReleasePolicy.name_of_ofName?) hpolicy
  | _ => simp [Field.heading] at hfield

theorem settled_of_marshal? {field : Field} (hfield : field.heading = "marshal")
    {value : Toml.Value} {marshal : MarshalSettings} (hread : marshal? value = some marshal) :
    ∃ find, fields? value = some find ∧
      field.Settled (find field.place field.key) (field.content { marshal }) := by
  simp only [marshal?, bind, Option.bind_eq_some_iff] at hread
  obtain ⟨find, hfind, bytes, hbytes, items, hitems, hmarshal⟩ := hread
  obtain rfl := Option.some.inj hmarshal
  refine ⟨find, hfind, ?_⟩
  cases field with
  | maxTextBytes =>
      exact Field.settled_of_orDefault rfl (fun _ _ => (size?_eq_some_iff _ _).mp) hbytes
  | maxSequenceLength =>
      exact Field.settled_of_orDefault rfl (fun _ _ => (size?_eq_some_iff _ _).mp) hitems
  | _ => simp [Field.heading] at hfield

theorem settled_of_logging? {field : Field} (hfield : field.heading = "logging")
    {value : Toml.Value} {logging : LogSettings} (hread : logging? value = some logging) :
    ∃ find, fields? value = some find ∧
      field.Settled (find field.place field.key) (field.content { logging }) := by
  simp only [logging?, bind, Option.bind_eq_some_iff] at hread
  obtain ⟨find, hfind, level, hlevel, format, hformat, filter, hfilter, directory, hdirectory,
    spanEvents, hspanEvents, hlogging⟩ := hread
  obtain rfl := Option.some.inj hlogging
  refine ⟨find, hfind, ?_⟩
  cases field with
  | level =>
      exact Field.settled_of_orDefault rfl (fun _ _ => (text?_eq_some_iff _ _).mp) hlevel
  | format =>
      exact Field.settled_of_orDefault rfl
        (fun _ _ => written_of_choice? Log.Format.name_of_ofName?) hformat
  | filter => exact Field.settled_of_orDefault rfl (fun _ _ => written_of_text?) hfilter
  | directory => exact Field.settled_of_orDefault rfl (fun _ _ => written_of_text?) hdirectory
  | spanEvents =>
      exact Field.settled_of_orDefault rfl (fun _ _ => (flag?_eq_some_iff _ _).mp) hspanEvents
  | _ => simp [Field.heading] at hfield

/-! ## Reading a document -/

/-- Every field of the settings is settled by what the document gives for it. -/
theorem settled_of_settings? {document : Toml.Value} {settings : Settings}
    (hread : settings? document = some settings) (field : Field) :
    field.Settled (field.given? document) (field.content settings) := by
  simp only [settings?, bind, Option.bind_eq_some_iff] at hread
  obtain ⟨handles, hhandles, marshal, hmarshal, logging, hlogging, hsettings⟩ := hread
  obtain rfl := Option.some.inj hsettings
  cases field with
  | maxLive | doubleRelease =>
      exact Field.settled_of_section _ (fun handles => { handles }) hhandles rfl
        fun _ => settled_of_handles? rfl
  | maxTextBytes | maxSequenceLength =>
      exact Field.settled_of_section _ (fun marshal => { marshal }) hmarshal rfl
        fun _ => settled_of_marshal? rfl
  | level | format | filter | directory | spanEvents =>
      exact Field.settled_of_section _ (fun logging => { logging }) hlogging rfl
        fun _ => settled_of_logging? rfl

theorem settled_of_parse {text : String} {settings : Settings}
    (hparse : Settings.parse text = .ok settings) :
    ∃ document, Toml.parse? text = some document ∧
      ∀ field : Field, field.Settled (field.given? document) (field.content settings) := by
  obtain ⟨hdecodes, -⟩ := (Settings.parse_eq_ok_iff text settings).mp hparse
  obtain ⟨document, hdocument, hread⟩ := Option.bind_eq_some_iff.mp hdecodes
  exact ⟨document, hdocument, settled_of_settings? hread⟩

/-- In the settings that a text gives, a field that the document gives is as it is written there,
and any other is as in the default settings.  Nothing else in a document counts for a field: two
texts that give settings and the same value for it, or both none, agree on it. -/
theorem fields_given_or_default {text : String} {settings : Settings}
    (hparse : Settings.parse text = .ok settings) :
    ∃ document, Toml.parse? text = some document ∧
      (∀ field : Field,
        (∀ value, field.given? document = some value →
          field.Written value (field.content settings)) ∧
        (field.given? document = none → field.content settings = field.content {})) ∧
      ∀ (otherText : String) (other : Toml.Value) (otherSettings : Settings),
        Toml.parse? otherText = some other → Settings.parse otherText = .ok otherSettings →
        ∀ field : Field, field.given? other = field.given? document →
          field.content otherSettings = field.content settings := by
  obtain ⟨document, hdocument, hsettled⟩ := settled_of_parse hparse
  refine ⟨document, hdocument, fun field => ?_, ?_⟩
  · exact ⟨fun value hvalue => (hsettled field).written value hvalue, (hsettled field).omitted⟩
  · intro otherText other otherSettings hother hparseOther field hgiven
    obtain ⟨found, hfound, hsettledOther⟩ := settled_of_parse hparseOther
    obtain rfl : found = other := Option.some.inj (hfound.symm.trans hother)
    have hfield := hsettledOther field
    rw [hgiven] at hfield
    exact hfield.unique (hsettled field)

/-- A section with one of its fields, an empty one, one that means nothing and a missing one. -/
def sparseText : String :=
  "[handles]\ndouble_release = 'ignore'\n[marshal]\n[paint]\nred = 1\n"

/-- An empty section and one that gives its second field in its place. -/
def orderedText : String :=
  "handles = []\nlogging = ['info', 'json']"

/-- Of all fields only those given differ from their defaults, in whichever way the others are
left out, and two documents that leave out the same field agree on it. -/
theorem fields_given_or_default_sparse :
    Settings.parse sparseText = .ok { handles := { doubleRelease := .ignore } } ∧
    (∀ field : Field, (Toml.parse? sparseText).bind field.given? = none →
      field.content { handles := { doubleRelease := .ignore } } = field.content {}) ∧
    (Toml.parse? sparseText).bind Field.maxLive.given? = none ∧
    Settings.parse orderedText = .ok { logging := { format := .json } } ∧
    ∀ field : Field,
      (Toml.parse? orderedText).bind field.given? = (Toml.parse? sparseText).bind field.given? →
      field.content { logging := { format := .json } } =
        field.content { handles := { doubleRelease := .ignore } } := by
  have hsparse : Settings.parse sparseText = .ok { handles := { doubleRelease := .ignore } } := by
    decide +kernel
  have hordered : Settings.parse orderedText = .ok { logging := { format := .json } } := by
    decide +kernel
  obtain ⟨document, hdocument, hfields, hother⟩ := fields_given_or_default hsparse
  obtain ⟨other, hotherDocument, -⟩ := settled_of_parse hordered
  have homitted : ((Toml.parse? sparseText).bind Field.maxLive.given?).isNone = true := by
    decide +kernel
  refine ⟨hsparse, fun field hgiven => ?_, Option.isNone_iff_eq_none.mp homitted, hordered,
    fun field hgiven => ?_⟩
  · rw [hdocument] at hgiven
    exact (hfields field).2 hgiven
  · rw [hdocument, hotherDocument] at hgiven
    exact hother orderedText other _ hotherDocument hordered field hgiven

end Config

end InteropBridge
