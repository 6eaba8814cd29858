import DumpLens.Proofs.CommandLine.Listed
import DumpLens.Proofs.Config.Fields
import DumpLens.Proofs.Config.Nearest
import DumpLens.Proofs.Text.Encoded
import DumpLens.Proofs.Toml.Inline
import Mathlib

/-! What the program makes of the nearest configuration file. It acts under the configuration that
the file holds. A value of the wrong type is reported on a line of its own, and any other fault of
the document ends the program on the spot. -/

namespace DumpLens

open Text

/-! ## Faults of documents -/

/-- A fault that is reported: the value of a field has the wrong type, and it has a text. -/
def ConfigField.IsReported (document : Toml.Table) (cause : ConfigError) : Prop :=
  ∃ (field : ConfigField) (value : Toml.Value) (shown : Text), field ≠ edition ∧
    field.given? document = some value ∧ ¬ field.Takes value ∧ value.shown = .ok shown ∧
    cause = .wrongType field.sectionName field.key field.typeName value.typeName shown

namespace ConfigField

variable {document : Toml.Table} {field : ConfigField} {cause : ConfigError}

theorem Fails.isReported (tables : SectionsAreTables document)
    (printable : ∀ value, field.given? document = some value →
      value.Printable Toml.Value.shownDepth)
    (fails : field.Fails document cause) : IsReported document cause := by
  rcases fails with ⟨given, wrong⟩ | ⟨_, refused⟩
  · exact absurd (tables field _ given) wrong
  · cases refused with
    | wrongType typed given wrong hasText => exact ⟨field, _, _, typed, given, wrong, hasText, rfl⟩
    | notShown _ given _ noText =>
        rcases (Toml.Value.shownWithin_isOk_iff _ _).mpr (printable _ given) with ⟨shown, hasText⟩
        cases noText.symm.trans hasText
    | edition given noText =>
        rcases Toml.Value.text_isOk_iff.mpr (printable _ given) with ⟨text, hasText⟩
        cases noText.symm.trans hasText

/-- A fault is reported, or it is not that of a value with the wrong type. -/
theorem Fails.cases (fails : field.Fails document cause) :
    IsReported document cause ∨ (∃ typeName, cause = .notATable typeName) ∨
      ∃ own, cause = .unprintable own := by
  rcases fails with ⟨given, wrong⟩ | ⟨_, refused⟩
  · exact .inr (.inl ⟨_, rfl⟩)
  · cases refused with
    | wrongType typed given wrong hasText =>
        exact .inl ⟨field, _, _, typed, given, wrong, hasText, rfl⟩
    | notShown | edition => exact .inr (.inr ⟨_, rfl⟩)

/-- A reported fault is told in a part of a line, whatever the value is. -/
theorem IsReported.inline_message (reported : IsReported document cause) :
    Inline cause.message := by
  rcases reported with ⟨field, value, shown, _, _, _, hasText, rfl⟩
  have sectionName : Inline field.sectionName := by
    cases field <;> decide
  have key : Inline field.key := by
    cases field <;> decide
  have expected : Inline field.typeName := by
    cases field <;> decide
  have found := value.inline_typeName
  have shownInline := Toml.Value.inline_shown hasText
  -- Only strings of a document could bring control characters in, and they are shown quoted.
  unfold ConfigError.message
  simp only [inline_cons, inline_append, sectionName, key, expected, found, shownInline]
  decide

end ConfigField

/-! ## The nearest document -/

/-- The nearest configuration file at or above a place holds a document. -/
def NearestDocument (tree : FileTree) (start : Place) (document : Toml.Table) : Prop :=
  ∃ place bytes text, findConfig tree start = some place ∧
    tree.entry? place = some (.file bytes) ∧ Utf8.decode? bytes = some text ∧
    Toml.parse text = .ok document

theorem NearestDocument.loadNearest_eq {tree : FileTree} {start : Place} {document : Toml.Table}
    (nearest : NearestDocument tree start document) :
    loadNearest tree start = (Config.ofTable document).mapError .config := by
  rcases nearest with ⟨place, bytes, text, found, isFile, isText, parsed⟩
  simp only [loadNearest, found, loadConfig, isFile, Config.ofBytes, isText, parsed, mapError_ok]
  rfl

namespace CommandLine

variable {document : Toml.Table} {cause : ConfigError}

theorem misconfigured_of_isReported (reported : ConfigField.IsReported document cause) :
    misconfigured (.config cause) =
      { ending := .failure, err := "error: ".toList ++ cause.message ++ ['\n'] } := by
  have noEscape : '\x1b' ∉ cause.message := reported.inline_message.not_mem (by decide)
  have plain : Terminal.plain (printedLines ["error: ".toList ++ cause.message]) =
      "error: ".toList ++ cause.message ++ ['\n'] := by
    have line : printedLines ["error: ".toList ++ cause.message] =
        "error: ".toList ++ cause.message ++ ['\n'] := List.flatMap_singleton _ _
    rw [line]
    apply Terminal.plain_of_not_mem
    simp only [List.mem_append, noEscape]
    decide
  rcases reported with ⟨field, value, shown, _, _, _, _, rfl⟩
  simp only [misconfigured, plain]

end CommandLine

open ConfigField CommandLine in
/-- A document is read as a configuration, or it has a first field that cannot be read. Under the
configuration the program runs its command. A value of the wrong type is reported on one line, with
the exit code 1. These are the only two outcomes where the sections of the document are tables and
the values of its fields have a text. A section that is no table, and a value without a text, end
the program on the spot. -/
theorem run_nearestDocument (document : Toml.Table) :
    (∀ config, Config.ofTable document = .ok config ↔
      SectionsAreTables document ∧ ∀ field : ConfigField,
        field.Holds config ((field.given? document).getD (held .standard field))) ∧
    (∀ cause, Config.ofTable document = .error cause ↔ ∃ field : ConfigField,
      (∀ before ∈ field.earlier, before.SectionIsTable document ∧ before.Readable document) ∧
        field.Fails document cause) ∧
    (SectionsAreTables document →
      (∀ (field : ConfigField) (value : Toml.Value), field.given? document = some value →
        value.Printable Toml.Value.shownDepth) →
      ∀ cause, Config.ofTable document = .error cause → IsReported document cause) ∧
    ∀ (workplace : Workplace) (words rest : List Text) (verbosity : Nat) (name : CommandName),
      NearestDocument workplace.files workplace.directory document →
      Directive.read words = .ok (.command verbosity name rest) →
      (∀ config, Config.ofTable document = .ok config →
        run workplace words = runCommand workplace config (logLevel verbosity) name rest) ∧
      ∀ cause, Config.ofTable document = .error cause →
        (IsReported document cause → '\n' ∉ cause.message ∧
          run workplace words =
            { ending := .failure, err := "error: ".toList ++ cause.message ++ ['\n'] } ∧
          (run workplace words).ending.code = 1) ∧
        (¬ IsReported document cause →
          run workplace words = .crashed (.config (.config cause))) := by
  refine ⟨fun config => ofTable_eq_ok_iff_tables, fun cause => ofTable_eq_error_iff_fails, ?_, ?_⟩
  · intro tables printable cause failed
    rcases ofTable_eq_error_iff_fails.mp failed with ⟨field, _, fails⟩
    exact fails.isReported tables (printable field)
  · intro workplace words rest verbosity name nearest isCommand
    refine ⟨?_, ?_⟩
    · intro config isConfig
      exact run_of_loadNearest_eq_ok isCommand (by rw [nearest.loadNearest_eq, isConfig]; rfl)
    · intro cause failed
      have outcome : run workplace words = misconfigured (.config cause) :=
        run_of_loadNearest_eq_error isCommand (by rw [nearest.loadNearest_eq, failed]; rfl)
      refine ⟨?_, ?_⟩
      · intro reported
        rw [outcome, misconfigured_of_isReported reported]
        exact ⟨reported.inline_message.not_mem (by decide), rfl, rfl⟩
      · intro unreported
        rcases ofTable_eq_error_iff_fails.mp failed with ⟨field, _, fails⟩
        rcases fails.cases with reported | ⟨typeName, rfl⟩ | ⟨own, rfl⟩
        · exact absurd reported unreported
        · exact outcome
        · exact outcome

/-- A workplace in a directory without a configuration file, below one whose file holds a text. -/
def workplaceBelow (text : Text) : Workplace where
  files := [([configName], .file (Utf8.encode text)), (["work".toList], .directory)]
  directory := ["work".toList]
  toolchain := ⟨none, .ok ⟨0, []⟩, fun _ => .notFound []⟩

theorem nearestDocument_workplaceBelow {text : Text} {document : Toml.Table}
    (parsed : Toml.parse text = .ok document) :
    NearestDocument (workplaceBelow text).files (workplaceBelow text).directory document := by
  refine ⟨[configName], Utf8.encode text, text, ?_, rfl, Utf8.decode?_encode text, parsed⟩
  have search : ConfigFinder.Search (workplaceBelow text).files ["work".toList] 2
      (some [configName]) := .climbs rfl (by decide) (.found rfl)
  exact search.result_eq.symm

/-- A document with a truth value as port. -/
def truthAsPort : Toml.Table :=
  [("server".toList, .table [("port".toList, .boolean true)])]

open ConfigField CommandLine in
theorem run_nearestDocument_truthAsPort :
    Toml.parse "[server]\nport = true\n".toList = .ok truthAsPort ∧
    run (workplaceBelow "[server]\nport = true\n".toList) ["kinds".toList] =
      { ending := .failure
        err := "error: [server] port: expected int, got bool (True)\n".toList } := by
  have parsed : Toml.parse "[server]\nport = true\n".toList = .ok truthAsPort := by
    cbv
  have tables : SectionsAreTables truthAsPort := by
    intro field value found
    cases field <;> cases found <;> exact ⟨_, rfl⟩
  have printable : ∀ (field : ConfigField) (value : Toml.Value),
      field.given? truthAsPort = some value → value.Printable Toml.Value.shownDepth := by
    intro field value given
    cases field <;> cases given
    exact .boolean true
  have failed : Config.ofTable truthAsPort = .error
      (.wrongType "server".toList "port".toList "int".toList "bool".toList "True".toList) := rfl
  have reported := (run_nearestDocument truthAsPort).2.2.1 tables printable _ failed
  have outcomes := (run_nearestDocument truthAsPort).2.2.2 _ ["kinds".toList] [] 0 .kinds
    (nearestDocument_workplaceBelow parsed) rfl
  exact ⟨parsed, ((outcomes.2 _ failed).1 reported).2.1⟩

open CommandLine in
/-- A section that is a number is no configuration, and it is not reported. -/
theorem run_numberAsSection :
    Toml.parse "server = 1\n".toList = .ok [("server".toList, .integer 1)] ∧
    Config.ofTable [("server".toList, .integer 1)] = .error (.notATable "int".toList) ∧
    (¬ ∃ config, Config.ofTable [("server".toList, .integer 1)] = .ok config) ∧
    (¬ ∃ table key expected found shown, Config.ofTable [("server".toList, .integer 1)] =
      .error (.wrongType table key expected found shown)) ∧
    run (workplaceBelow "server = 1\n".toList) ["kinds".toList] =
      .crashed (.config (.config (.notATable "int".toList))) := by
  have parsed : Toml.parse "server = 1\n".toList = .ok [("server".toList, .integer 1)] := by
    cbv
  have failed : Config.ofTable [("server".toList, .integer 1)] =
      .error (.notATable "int".toList) := rfl
  refine ⟨parsed, failed, ?_, ?_, ?_⟩
  · rintro ⟨config, isConfig⟩
    cases failed.symm.trans isConfig
  · rintro ⟨table, key, expected, found, shown, named⟩
    cases failed.symm.trans named
  · have isCommand : Directive.read ["kinds".toList] = .ok (.command 0 .kinds []) := rfl
    have loaded := (nearestDocument_workplaceBelow parsed).loadNearest_eq
    rw [failed, mapError_error] at loaded
    exact run_of_loadNearest_eq_error isCommand loaded

end DumpLens
