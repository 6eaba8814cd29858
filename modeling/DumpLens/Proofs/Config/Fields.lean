import DumpLens.Config.Reader
import DumpLens.Proofs.Toml.Shown

/-! Reading a configuration field by field. Each field is checked in its turn, so a configuration
has the value of each field or its standard value, and an error is that of the first field that
cannot be read. -/

namespace DumpLens

/-! ## Fields -/

/-- The fields of a configuration. -/
inductive ConfigField
  | host
  | port
  | staticDir
  | toolchain
  | edition
  | crateName
  | timeout
  | language
  | style
  | defaultKind
  deriving DecidableEq, Repr

namespace ConfigField

/-- The fields in the order in which they are read. -/
def all : List ConfigField :=
  [host, port, staticDir, toolchain, edition, crateName, timeout, language, style, defaultKind]

theorem mem_all (field : ConfigField) : field ∈ all := by
  cases field <;> decide

def sectionName : ConfigField → Text
  | host | port | staticDir => "server".toList
  | toolchain | edition | crateName | timeout => "compiler".toList
  | language | style | defaultKind => "render".toList

def key : ConfigField → Text
  | host => "host".toList
  | port => "port".toList
  | staticDir => "static_dir".toList
  | toolchain => "toolchain".toList
  | edition => "edition".toList
  | crateName => "crate_name".toList
  | timeout => "timeout".toList
  | language => "language".toList
  | style => "style".toList
  | defaultKind => "default_kind".toList

/-- The name of the type that the values of a field have. -/
def typeName : ConfigField → Text
  | port | timeout => "int".toList
  | _ => "str".toList

/-- What a configuration holds in a field, as a value of a document. -/
def held (config : Config) : ConfigField → Toml.Value
  | host => .string config.server.host
  | port => .integer config.server.port
  | staticDir => .string config.server.staticDir
  | toolchain => .string config.compiler.toolchain
  | edition => .string config.compiler.edition
  | crateName => .string config.compiler.crateName
  | timeout => .integer config.compiler.timeout
  | language => .string config.render.language
  | style => .string config.render.style
  | defaultKind => .string config.render.defaultKind

/-- The values that a field takes. The edition takes every value that has a text. -/
def Takes : ConfigField → Toml.Value → Prop
  | port, value | timeout, value => ∃ number, value = .integer number
  | edition, value => value.Printable Toml.Value.shownDepth
  | _, value => ∃ text, value = .string text

/-- A configuration holds a given value in a field. As edition it holds the text of the value. -/
def Holds (config : Config) : ConfigField → Toml.Value → Prop
  | edition, value => value.text = .ok config.compiler.edition
  | field, value => value = held config field

/-- The section of a field is a table if the document has it. -/
def SectionIsTable (document : Toml.Table) (field : ConfigField) : Prop :=
  ∀ value, document.find? field.sectionName = some value → ∃ entries, value = .table entries

/-- The sections that a document has are tables. -/
def SectionsAreTables (document : Toml.Table) : Prop :=
  ∀ (field : ConfigField) (value : Toml.Value),
    document.find? field.sectionName = some value → ∃ entries, value = .table entries

/-- The entries of a section. A section that is absent has none. -/
def entries (document : Toml.Table) (name : Text) : Toml.Table :=
  match document.find? name with
  | some (.table entries) => entries
  | _ => []

/-- The value that a document gives for a field. -/
def given? (document : Toml.Table) (field : ConfigField) : Option Toml.Value :=
  (entries document field.sectionName).find? field.key

/-- A document gives no value for a field or one that the field takes. -/
def Readable (document : Toml.Table) (field : ConfigField) : Prop :=
  ∀ value, field.given? document = some value → field.Takes value

/-- The fields that are read before a field. -/
def earlier (field : ConfigField) : List ConfigField :=
  all.takeWhile (· ≠ field)

/-- The error for a field whose value it does not take. Where the value has no text, it is the
reason of that. -/
inductive Refused (document : Toml.Table) : ConfigField → ConfigError → Prop
  | wrongType {field : ConfigField} {value : Toml.Value} {shown : Text} (typed : field ≠ edition)
      (given : field.given? document = some value) (wrong : ¬ field.Takes value)
      (hasText : value.shown = .ok shown) :
      Refused document field
        (.wrongType field.sectionName field.key field.typeName value.typeName shown)
  | notShown {field : ConfigField} {value : Toml.Value} {cause : Toml.Value.ShowError}
      (typed : field ≠ edition) (given : field.given? document = some value)
      (wrong : ¬ field.Takes value) (noText : value.shown = .error cause) :
      Refused document field (.unprintable cause)
  | edition {value : Toml.Value} {cause : Toml.Value.ShowError}
      (given : edition.given? document = some value) (noText : value.text = .error cause) :
      Refused document edition (.unprintable cause)

/-- The error for a field that cannot be read: that of its section where this is no table, or else
that of its value. -/
inductive Fails (document : Toml.Table) (field : ConfigField) : ConfigError → Prop
  | noTable {value : Toml.Value} (given : document.find? field.sectionName = some value)
      (wrong : ¬ ∃ entries, value = .table entries) :
      Fails document field (.notATable value.qualifiedTypeName)
  | refused {cause : ConfigError} (isTable : field.SectionIsTable document)
      (refused : field.Refused document cause) : Fails document field cause

/-! ## Reading one field -/

open ConfigReader

variable {document other : Toml.Table} {field : ConfigField} {value : Toml.Value}
  {cause : ConfigError} {config : Config}

/-- Reading one field, with its value as a value of a document. -/
def read (document : Toml.Table) (field : ConfigField) : Except ConfigError Toml.Value :=
  let sect : Section := ⟨field.sectionName, entries document field.sectionName⟩
  match field, field.held .standard with
  | .edition, .string standard => (anyTextField sect field.key standard).map .string
  | _, .string standard => (textField sect field.key standard).map .string
  | _, .integer standard => (integerField sect field.key standard).map .integer
  | _, standard => .ok standard

/-- Reading one field behind the check that its section is a table. -/
def readChecked (document : Toml.Table) (field : ConfigField) : Except ConfigError Toml.Value :=
  sectionOf document field.sectionName >>= fun _ => read document field

section Readers

variable {sect : Section} {key standard text : Text} {number standardNumber : Int}

theorem textField_eq_ok_iff : textField sect key standard = .ok text ↔
    (sect.table.find? key).getD (.string standard) = .string text := by
  cases found : sect.table.find? key with
  | none => simp [textField, found]
  | some value => cases value <;> simp [textField, found]

theorem textField_eq_error_iff : textField sect key standard = .error cause ↔
    ∃ value, sect.table.find? key = some value ∧ (¬ ∃ text, value = .string text) ∧
      refuse sect key "str".toList value = cause := by
  cases found : sect.table.find? key with
  | none => simp [textField, found]
  | some value => cases value <;> simp [textField, found]

theorem integerField_eq_ok_iff : integerField sect key standardNumber = .ok number ↔
    (sect.table.find? key).getD (.integer standardNumber) = .integer number := by
  cases found : sect.table.find? key with
  | none => simp [integerField, found]
  | some value => cases value <;> simp [integerField, found]

theorem integerField_eq_error_iff : integerField sect key standardNumber = .error cause ↔
    ∃ value, sect.table.find? key = some value ∧ (¬ ∃ number, value = .integer number) ∧
      refuse sect key "int".toList value = cause := by
  cases found : sect.table.find? key with
  | none => simp [integerField, found]
  | some value => cases value <;> simp [integerField, found]

theorem anyTextField_eq_ok_iff : anyTextField sect key standard = .ok text ↔
    ((sect.table.find? key).getD (.string standard)).text = .ok text := by
  cases found : sect.table.find? key with
  | none => simp [anyTextField, found, Toml.Value.text]
  | some value => simp [anyTextField, found]

theorem anyTextField_eq_error_iff : anyTextField sect key standard = .error cause ↔
    ∃ value, sect.table.find? key = some value ∧
      ∃ own, value.text = .error own ∧ .unprintable own = cause := by
  cases found : sect.table.find? key with
  | none => simp [anyTextField, found]
  | some value => simp [anyTextField, found, mapError_eq_error_iff]

/-- Refusing a value gives its text, or the reason why it has none. -/
theorem refuse_eq_iff {expected : Text} : refuse sect key expected value = cause ↔
    (∃ shown, value.shown = .ok shown ∧
      .wrongType sect.name key expected value.typeName shown = cause) ∨
    ∃ own, value.shown = .error own ∧ .unprintable own = cause := by
  cases isShown : value.shown <;> simp [refuse, isShown]

end Readers

theorem sectionOf_eq {name : Text}
    (isTable : ∀ value, document.find? name = some value → ∃ entries, value = .table entries) :
    sectionOf document name = .ok ⟨name, entries document name⟩ := by
  rw [sectionOf, entries]
  cases found : document.find? name with
  | none => rfl
  | some value =>
      rcases isTable value found with ⟨entries, rfl⟩
      rfl

theorem sectionOf_of_no_table {name : Text} (given : document.find? name = some value)
    (wrong : ¬ ∃ entries, value = .table entries) :
    sectionOf document name = .error (.notATable value.qualifiedTypeName) := by
  rw [sectionOf, given]
  cases value with
  | table entries => exact absurd ⟨entries, rfl⟩ wrong
  | string | integer | float | boolean | date | time | dateTime | array => rfl

theorem isTable_or_no_table (document : Toml.Table) (name : Text) :
    (∀ value, document.find? name = some value → ∃ entries, value = .table entries) ∨
      ∃ value, document.find? name = some value ∧ ¬ ∃ entries, value = .table entries := by
  rw [or_iff_not_imp_left]
  simp only [not_forall, exists_prop, imp_self]

/-- A section that is read has the entries that the document gives it. -/
theorem sectionOf_bind {α : Type} (name : Text) (next : Section → Except ConfigError α) :
    sectionOf document name >>= next =
      sectionOf document name >>= fun _ => next ⟨name, entries document name⟩ := by
  rcases isTable_or_no_table document name with isTable | ⟨value, given, wrong⟩
  · rw [sectionOf_eq isTable]
    rfl
  · rw [sectionOf_of_no_table given wrong]
    rfl

theorem refused_iff (typed : field ≠ edition) : field.Refused document cause ↔
    ∃ value, field.given? document = some value ∧ ¬ field.Takes value ∧
      refuse ⟨field.sectionName, entries document field.sectionName⟩ field.key field.typeName
        value = cause := by
  constructor
  · rintro (⟨_, given, wrong, hasText⟩ | ⟨_, given, wrong, noText⟩ | ⟨_, _⟩)
    · exact ⟨_, given, wrong, refuse_eq_iff.mpr (.inl ⟨_, hasText, rfl⟩)⟩
    · exact ⟨_, given, wrong, refuse_eq_iff.mpr (.inr ⟨_, noText, rfl⟩)⟩
    · exact absurd rfl typed
  · rintro ⟨value, given, wrong, refused⟩
    rcases refuse_eq_iff.mp refused with ⟨shown, hasText, rfl⟩ | ⟨own, noText, rfl⟩
    · exact .wrongType typed given wrong hasText
    · exact .notShown typed given wrong noText

theorem read_eq_error_iff : read document field = .error cause ↔ field.Refused document cause := by
  cases field with
  | edition =>
      refine (map_eq_error_iff.trans anyTextField_eq_error_iff).trans ?_
      constructor
      · rintro ⟨value, given, own, noText, rfl⟩
        exact .edition given noText
      · rintro (⟨typed, _⟩ | ⟨typed, _⟩ | ⟨given, noText⟩)
        · exact absurd rfl typed
        · exact absurd rfl typed
        · exact ⟨_, given, _, noText, rfl⟩
  | port | timeout =>
      exact (map_eq_error_iff.trans integerField_eq_error_iff).trans (refused_iff (by decide)).symm
  | host | staticDir | toolchain | crateName | language | style | defaultKind =>
      exact (map_eq_error_iff.trans textField_eq_error_iff).trans (refused_iff (by decide)).symm

theorem read_eq_ok_iff : read document field = .ok (held config field) ↔
    field.Holds config ((field.given? document).getD (held .standard field)) := by
  cases field with
  | edition => exact (map_eq_ok_iff fun _ _ => Toml.Value.string.inj).trans anyTextField_eq_ok_iff
  | port | timeout =>
      exact (map_eq_ok_iff fun _ _ => Toml.Value.integer.inj).trans integerField_eq_ok_iff
  | host | staticDir | toolchain | crateName | language | style | defaultKind =>
      exact (map_eq_ok_iff fun _ _ => Toml.Value.string.inj).trans textField_eq_ok_iff

theorem readable_iff : field.Readable document ↔ ∀ cause, ¬ field.Refused document cause := by
  constructor
  · rintro readable cause (⟨_, given, wrong, _⟩ | ⟨_, given, wrong, _⟩ | ⟨given, noText⟩)
    · exact wrong (readable _ given)
    · exact wrong (readable _ given)
    · rcases Toml.Value.text_isOk_iff.mpr (readable _ given) with ⟨text, hasText⟩
      cases noText.symm.trans hasText
  · intro accepted value given
    by_cases isEdition : field = edition
    · subst isEdition
      cases hasText : value.text with
      | ok text => exact Toml.Value.text_isOk_iff.mp ⟨text, hasText⟩
      | error own => exact absurd (.edition given hasText) (accepted _)
    · refine Classical.byContradiction fun wrong => ?_
      exact accepted _ ((refused_iff isEdition).mpr ⟨value, given, wrong, rfl⟩)

theorem read_isOk_iff : (∃ value, read document field = .ok value) ↔ field.Readable document := by
  rw [readable_iff]
  simp only [← read_eq_error_iff]
  cases read document field with
  | ok value => simp
  | error own => simp

theorem readChecked_of_table (isTable : field.SectionIsTable document) :
    readChecked document field = read document field := by
  rw [readChecked, sectionOf_eq isTable]
  rfl

theorem readChecked_of_no_table (given : document.find? field.sectionName = some value)
    (wrong : ¬ ∃ entries, value = .table entries) :
    readChecked document field = .error (.notATable value.qualifiedTypeName) := by
  rw [readChecked, sectionOf_of_no_table given wrong]
  rfl

theorem readChecked_eq_ok_iff : readChecked document field = .ok value ↔
    field.SectionIsTable document ∧ read document field = .ok value := by
  rcases isTable_or_no_table document field.sectionName with isTable | ⟨own, given, wrong⟩
  · rw [readChecked_of_table isTable]
    exact (and_iff_right isTable).symm
  · rw [readChecked_of_no_table given wrong]
    exact ⟨nofun, fun ⟨isTable, _⟩ => absurd (isTable own given) wrong⟩

theorem readChecked_eq_error_iff :
    readChecked document field = .error cause ↔ field.Fails document cause := by
  constructor
  · intro failed
    rcases isTable_or_no_table document field.sectionName with isTable | ⟨own, given, wrong⟩
    · rw [readChecked_of_table isTable] at failed
      exact .refused isTable (read_eq_error_iff.mp failed)
    · cases (readChecked_of_no_table given wrong).symm.trans failed
      exact .noTable given wrong
  · rintro (⟨given, wrong⟩ | ⟨isTable, refused⟩)
    · exact readChecked_of_no_table given wrong
    · rw [readChecked_of_table isTable]
      exact read_eq_error_iff.mpr refused

theorem readChecked_isOk_iff : (∃ value, readChecked document field = .ok value) ↔
    field.SectionIsTable document ∧ field.Readable document := by
  simp only [readChecked_eq_ok_iff, exists_and_left, read_isOk_iff]

/-! ## Reading all fields -/

theorem all_eq_append (field : ConfigField) : ∃ later, all = field.earlier ++ field :: later := by
  cases field <;> exact ⟨_, rfl⟩

theorem eq_earlier {front behind : List ConfigField} (parts : all = front ++ field :: behind) :
    front = field.earlier := by
  have once : (front ++ field :: behind).Nodup := parts ▸ by decide
  have others : ∀ other ∈ front, decide (other ≠ field) = true := by
    intro other member
    exact decide_eq_true ((List.nodup_append.mp once).2.2 other member field List.mem_cons_self)
  rw [earlier, parts, List.takeWhile_append_of_pos others, List.takeWhile_cons_of_neg (by simp),
    List.append_nil]

/-- The fields of a section need one check of it. -/
theorem mapM_readChecked (name : Text) {first : ConfigField} {others : List ConfigField}
    (sameSection : ∀ field ∈ first :: others, field.sectionName = name) :
    (first :: others).mapM (readChecked document) =
      sectionOf document name >>= fun _ => (first :: others).mapM (read document) := by
  rcases isTable_or_no_table document name with isTable | ⟨value, given, wrong⟩
  · have each : ∀ field ∈ first :: others, readChecked document field = read document field := by
      intro field member
      apply readChecked_of_table
      rw [SectionIsTable, sameSection field member]
      exact isTable
    rw [sectionOf_eq isTable, mapM_congr each]
    rfl
  · have isFirst := sameSection first List.mem_cons_self
    rw [List.mapM_cons, readChecked_of_no_table (isFirst ▸ given) wrong,
      sectionOf_of_no_table given wrong]
    rfl

/-- Reading a configuration is reading its fields in their order. -/
theorem ofTable_eq_mapM (document : Toml.Table) :
    (Config.ofTable document).map (fun config => all.map (held config)) =
      all.mapM (readChecked document) := by
  have mapped {α β : Type} (change : α → β) (first : Except ConfigError α) :
      first.map change = first >>= fun value => pure (change value) := by
    cases first <;> rfl
  have server : [host, port, staticDir].mapM (readChecked document) = _ :=
    mapM_readChecked "server".toList (by decide)
  have compiler : [toolchain, edition, crateName, timeout].mapM (readChecked document) = _ :=
    mapM_readChecked "compiler".toList (by decide)
  have render : [language, style, defaultKind].mapM (readChecked document) = _ :=
    mapM_readChecked "render".toList (by decide)
  have sections : all = [host, port, staticDir] ++
      ([toolchain, edition, crateName, timeout] ++ [language, style, defaultKind]) := rfl
  rw [sections, List.mapM_append, List.mapM_append, server, compiler, render]
  unfold Config.ofTable readServer readCompiler readRender
  rw [sectionOf_bind, sectionOf_bind "compiler".toList, sectionOf_bind "render".toList]
  -- Both sides are now the same chain of sections and fields.
  simp only [mapped, pure_bind, bind_assoc]
  simp only [List.mapM_cons, List.mapM_nil, read, held, mapped, pure_bind, bind_assoc,
    List.map_cons, List.map_nil, List.cons_append, List.nil_append]
  rfl

theorem held_injective : Function.Injective fun config => all.map (held config) := by
  rintro ⟨⟨_, _, _⟩, ⟨_, _, _, _⟩, ⟨_, _, _⟩⟩ ⟨⟨_, _, _⟩, ⟨_, _, _, _⟩, ⟨_, _, _⟩⟩ same
  cases same
  rfl

/-- A configuration is read where the sections are tables and each value is one that its field
takes. -/
theorem ofTable_eq_ok_iff_tables : Config.ofTable document = .ok config ↔
    SectionsAreTables document ∧ ∀ field : ConfigField,
      field.Holds config ((field.given? document).getD (held .standard field)) := by
  rw [← map_eq_ok_iff held_injective, ofTable_eq_mapM, mapM_eq_ok_map_iff]
  simp only [readChecked_eq_ok_iff, read_eq_ok_iff, mem_all, true_implies, forall_and]
  rfl

/-- The error for a document is that of its first field that cannot be read. -/
theorem ofTable_eq_error_iff_fails : Config.ofTable document = .error cause ↔
    ∃ field : ConfigField,
      (∀ before ∈ field.earlier, before.SectionIsTable document ∧ before.Readable document) ∧
        field.Fails document cause := by
  have inOrder : Config.ofTable document = .error cause ↔
      all.mapM (readChecked document) = .error cause := by
    rw [← ofTable_eq_mapM, map_eq_error_iff]
  rw [inOrder, mapM_eq_error_iff]
  simp only [readChecked_eq_error_iff, readChecked_isOk_iff]
  constructor
  · rintro ⟨front, field, behind, parts, readable, fails⟩
    exact ⟨field, eq_earlier parts ▸ readable, fails⟩
  · rintro ⟨field, readable, fails⟩
    rcases all_eq_append field with ⟨later, parts⟩
    exact ⟨_, field, later, parts, readable, fails⟩

/-! ## Documents whose sections are tables -/

theorem ofTable_eq_ok_iff (tables : SectionsAreTables document) :
    Config.ofTable document = .ok config ↔ ∀ field : ConfigField,
      field.Holds config ((field.given? document).getD (held .standard field)) :=
  ofTable_eq_ok_iff_tables.trans (and_iff_right tables)

theorem ofTable_eq_error_iff (tables : SectionsAreTables document) :
    Config.ofTable document = .error cause ↔ ∃ field : ConfigField,
      (∀ before ∈ field.earlier, before.Readable document) ∧ field.Refused document cause := by
  rw [ofTable_eq_error_iff_fails]
  constructor
  · rintro ⟨field, readable, ⟨given, wrong⟩ | ⟨_, refused⟩⟩
    · exact absurd (tables field _ given) wrong
    · exact ⟨field, fun before member => (readable before member).2, refused⟩
  · rintro ⟨field, readable, refused⟩
    exact ⟨field, fun before member => ⟨tables before, readable before member⟩,
      .refused (tables field) refused⟩

theorem ofTable_isOk_iff (tables : SectionsAreTables document) :
    (∃ config, Config.ofTable document = .ok config) ↔
      ∀ field : ConfigField, field.Readable document := by
  constructor
  · rintro ⟨config, isConfig⟩ field
    exact read_isOk_iff.mp ⟨_, read_eq_ok_iff.mpr ((ofTable_eq_ok_iff tables).mp isConfig field)⟩
  · intro readable
    cases result : Config.ofTable document with
    | ok config => exact ⟨config, rfl⟩
    | error cause =>
        rcases (ofTable_eq_error_iff tables).mp result with ⟨field, _, refused⟩
        exact absurd refused (readable_iff.mp (readable field) cause)

theorem ofTable_wrongType (tables : SectionsAreTables document) (typed : field ≠ edition)
    (given : field.given? document = some value) (wrong : ¬ field.Takes value)
    (printable : value.Printable Toml.Value.shownDepth)
    (readable : ∀ before ∈ field.earlier, before.Readable document) :
    ∃ shown, value.shown = .ok shown ∧ Config.ofTable document =
      .error (.wrongType field.sectionName field.key field.typeName value.typeName shown) := by
  rcases (Toml.Value.shownWithin_isOk_iff _ value).mpr printable with ⟨shown, hasText⟩
  exact ⟨shown, hasText, (ofTable_eq_error_iff tables).mpr
    ⟨field, readable, .wrongType typed given wrong hasText⟩⟩

/-- Nothing but the given values of the fields counts. -/
theorem ofTable_congr (tables : SectionsAreTables document) (otherTables : SectionsAreTables other)
    (same : ∀ field : ConfigField, field.given? other = field.given? document) :
    Config.ofTable other = Config.ofTable document := by
  cases result : Config.ofTable document with
  | ok config =>
      apply (ofTable_eq_ok_iff otherTables).mpr
      intro field
      rw [same]
      exact (ofTable_eq_ok_iff tables).mp result field
  | error cause =>
      rcases (ofTable_eq_error_iff tables).mp result with ⟨field, readable, refused⟩
      refine (ofTable_eq_error_iff otherTables).mpr ⟨field, ?_, ?_⟩
      · intro before member value given
        exact readable before member value (same before ▸ given)
      · cases refused with
        | wrongType typed given wrong hasText =>
            exact .wrongType typed ((same _).trans given) wrong hasText
        | notShown typed given wrong noText =>
            exact .notShown typed ((same _).trans given) wrong noText
        | edition given noText => exact .edition ((same _).trans given) noText

end ConfigField

open ConfigField in
/-- A configuration is read where each given value is one that its field takes, and then each field
has its value or its standard value. Otherwise the error is that of the first field that does not
take its value. It names the field where the value has a text, which all values have but those
with too long an integer or with collections too deep in each other. No other entry and no other
section counts, and an absent section counts as an empty one. -/
theorem ofTable_reads (document : Toml.Table) (tables : SectionsAreTables document) :
    (∀ config, Config.ofTable document = .ok config ↔ ∀ field : ConfigField,
      field.Holds config ((field.given? document).getD (held .standard field))) ∧
    ((∃ config, Config.ofTable document = .ok config) ↔
      ∀ field : ConfigField, field.Readable document) ∧
    (∀ cause, Config.ofTable document = .error cause ↔ ∃ field : ConfigField,
      (∀ before ∈ field.earlier, before.Readable document) ∧ field.Refused document cause) ∧
    (edition.Readable document → ∀ (field : ConfigField) (value : Toml.Value),
      field ≠ edition → field.given? document = some value → ¬ field.Takes value →
      (∀ before ∈ field.earlier, before ≠ edition → before.Readable document) →
      value.Printable Toml.Value.shownDepth →
      ∃ shown, value.shown = .ok shown ∧ Config.ofTable document =
        .error (.wrongType field.sectionName field.key field.typeName value.typeName shown)) ∧
    ∀ other, SectionsAreTables other →
      (∀ field : ConfigField, field.given? other = field.given? document) →
      Config.ofTable other = Config.ofTable document := by
  refine ⟨fun config => ofTable_eq_ok_iff tables, ofTable_isOk_iff tables,
    fun cause => ofTable_eq_error_iff tables, ?_, fun other => ofTable_congr tables⟩
  intro editionReadable field value typed given wrong readable printable
  refine ofTable_wrongType tables typed given wrong printable ?_
  intro before member
  by_cases isEdition : before = edition
  · exact isEdition ▸ editionReadable
  · exact readable before member isEdition

/-- A document with a port, an edition that is a number, and entries that are not known. -/
def partlySet : Toml.Table :=
  [("server".toList, .table [("port".toList, .integer 4000), ("colour".toList, .boolean true)]),
    ("compiler".toList, .table [("edition".toList, .integer 2018)]),
    ("extra".toList, .integer 1)]

/-- The same fields in another order, with an empty section and nothing that is not known. -/
def partlySetAgain : Toml.Table :=
  [("render".toList, .table []),
    ("compiler".toList, .table [("edition".toList, .integer 2018)]),
    ("server".toList, .table [("port".toList, .integer 4000)])]

/-- A document with a truth value as timeout, before it one as edition, and a number as style. -/
def misset : Toml.Table :=
  [("render".toList, .table [("style".toList, .integer 1)]),
    ("compiler".toList, .table [("timeout".toList, .boolean true),
      ("edition".toList, .boolean false)])]

open ConfigField in
theorem ofTable_reads_partlySet :
    Config.ofTable partlySet = .ok
      { Config.standard with
        server := { ServerConfig.standard with port := 4000 }
        compiler := { CompilerConfig.standard with edition := "2018".toList } } ∧
    Config.ofTable partlySetAgain = Config.ofTable partlySet ∧
    Config.ofTable misset = .error (.wrongType "compiler".toList "timeout".toList "int".toList
      "bool".toList "True".toList) := by
  have areTables : SectionsAreTables partlySet ∧ SectionsAreTables partlySetAgain ∧
      SectionsAreTables misset := by
    refine ⟨?_, ?_, ?_⟩ <;> intro field value found <;> cases field <;> cases found <;>
      exact ⟨_, rfl⟩
  rcases areTables with ⟨tables, againTables, missetTables⟩
  have absent : ∀ field ∈ all, field ≠ port → field ≠ edition →
      (field.given? partlySet).isNone ∧ (field.given? partlySetAgain).isNone := by
    decide
  have port? : port.given? partlySet = some (.integer 4000) := rfl
  have edition? : edition.given? partlySet = some (.integer 2018) := rfl
  have written : Toml.Value.text (.integer 2018) = .ok "2018".toList := by
    change Toml.Value.shownWithin _ _ = _
    rw [Toml.Value.shownWithin]
    exact Toml.Value.integerText_of_short (by decide +kernel)
  refine ⟨?_, ?_, ?_⟩
  · apply ((ofTable_reads partlySet tables).1 _).mpr
    intro field
    cases field with
    | port =>
        rw [port?]
        rfl
    | edition =>
        rw [edition?]
        exact written
    | _ =>
        rw [Option.isNone_iff_eq_none.mp (absent _ (mem_all _) (by decide) (by decide)).1]
        rfl
  · refine (ofTable_reads partlySet tables).2.2.2.2 _ againTables ?_
    intro field
    by_cases isPort : field = port
    · rw [isPort, port?]
      rfl
    · by_cases isEdition : field = edition
      · rw [isEdition, edition?]
        rfl
      · have neither := absent field (mem_all field) isPort isEdition
        rw [Option.isNone_iff_eq_none.mp neither.1, Option.isNone_iff_eq_none.mp neither.2]
  · have named := (ofTable_reads misset missetTables).2.2.2.1 ?_ .timeout (.boolean true)
      (by decide) rfl nofun ?_ (.boolean true)
    · rcases named with ⟨shown, ⟨⟩, refused⟩
      exact refused
    · rintro value ⟨⟩
      exact .boolean false
    · intro before member notEdition value given
      cases before with
      | edition => exact absurd rfl notEdition
      | timeout | style => exact absurd member (by decide)
      | _ => cases given

/-- An integer that a document can give as a hexadecimal number. It has too many digits. -/
def overlongInteger : Int :=
  .ofNat (Nat.pow 16 3600)

def overlongHost : Toml.Table :=
  [("server".toList, .table [("host".toList, .integer overlongInteger)])]

open ConfigField in
/-- A value of a wrong type that has no text is not named. -/
theorem ofTable_overlongHost :
    SectionsAreTables overlongHost ∧
    host.given? overlongHost = some (.integer overlongInteger) ∧
    ¬ host.Takes (.integer overlongInteger) ∧
    Config.ofTable overlongHost = .error (.unprintable .overlongInteger) ∧
    ¬ ∃ expected found shown, Config.ofTable overlongHost =
      .error (.wrongType "server".toList "host".toList expected found shown) := by
  have tables : SectionsAreTables overlongHost := by
    intro field value found
    cases field <;> cases found <;> exact ⟨_, rfl⟩
  have given : host.given? overlongHost = some (.integer overlongInteger) := rfl
  have wrong : ¬ host.Takes (.integer overlongInteger) := nofun
  have noText : Toml.Value.shown (.integer overlongInteger) = .error .overlongInteger := by
    rw [Toml.Value.shown, Toml.Value.shownWithin]
    exact Toml.Value.integerText_of_long (by decide +kernel)
  have failed : Config.ofTable overlongHost = .error (.unprintable .overlongInteger) :=
    (ofTable_eq_error_iff tables).mpr
      ⟨host, List.forall_mem_nil _, .notShown (by decide) given wrong noText⟩
  refine ⟨tables, given, wrong, failed, ?_⟩
  rintro ⟨expected, found, shown, named⟩
  cases failed.symm.trans named

end DumpLens
