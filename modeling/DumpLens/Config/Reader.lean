import DumpLens.Config.Basic
import DumpLens.Toml.Document

/-! Reading the configuration out of a document. Each value is checked for its type
when its turn comes; what is absent has its standard value, and what is unknown is
passed over. -/

namespace DumpLens

/-- Why a document is no configuration. -/
inductive ConfigError
  /-- A value has the wrong type. `found` names its type and `shown` is its text. -/
  | wrongType (table key expected found shown : Text)
  /-- A section is not a table but a value of the named type. -/
  | notATable (typeName : Text)
  | unprintable (cause : Toml.Value.ShowError)
  deriving DecidableEq, Repr

/-- An error in words. -/
def ConfigError.message : ConfigError → Text
  | wrongType table key expected found shown =>
    '[' :: table ++ "] ".toList ++ key ++ ": expected ".toList ++ expected ++ ", got ".toList ++
      found ++ " (".toList ++ shown ++ [')']
  | notATable typeName => '\'' :: typeName ++ "' object has no attribute 'get'".toList
  | unprintable .tooDeep => "value is nested too deeply".toList
  | unprintable .overlongInteger => Numeral.tooLargeMessage

namespace ConfigReader

/-! ## Fields -/

/-- A section of a document, with its name. -/
structure Section where
  name : Text
  table : Toml.Table

/-- The entries of a section. A section that is absent has none. -/
def sectionOf (document : Toml.Table) (name : Text) : Except ConfigError Section :=
  match document.find? name with
  | none => .ok ⟨name, []⟩
  | some (.table table) => .ok ⟨name, table⟩
  | some value => .error (.notATable value.qualifiedTypeName)

def refuse (sect : Section) (key expected : Text) (value : Toml.Value) : ConfigError :=
  match value.shown with
  | .ok shown => .wrongType sect.name key expected value.typeName shown
  | .error cause => .unprintable cause

/-- A field that holds a text. -/
def textField (sect : Section) (key standard : Text) : Except ConfigError Text :=
  match sect.table.find? key with
  | none => .ok standard
  | some (.string text) => .ok text
  | some value => .error (refuse sect key "str".toList value)

def integerField (sect : Section) (key : Text) (standard : Int) : Except ConfigError Int :=
  match sect.table.find? key with
  | none => .ok standard
  | some (.integer number) => .ok number
  | some value => .error (refuse sect key "int".toList value)

/-- A field that holds the text of any value. -/
def anyTextField (sect : Section) (key standard : Text) : Except ConfigError Text :=
  match sect.table.find? key with
  | none => .ok standard
  | some value => value.text.mapError .unprintable

/-! ## Sections -/

def readServer (document : Toml.Table) : Except ConfigError ServerConfig := do
  let sect ← sectionOf document "server".toList
  let standard := ServerConfig.standard
  let host ← textField sect "host".toList standard.host
  let port ← integerField sect "port".toList standard.port
  let staticDir ← textField sect "static_dir".toList standard.staticDir
  pure { host, port, staticDir }

def readCompiler (document : Toml.Table) : Except ConfigError CompilerConfig := do
  let sect ← sectionOf document "compiler".toList
  let standard := CompilerConfig.standard
  let toolchain ← textField sect "toolchain".toList standard.toolchain
  let edition ← anyTextField sect "edition".toList standard.edition
  let crateName ← textField sect "crate_name".toList standard.crateName
  let timeout ← integerField sect "timeout".toList standard.timeout
  pure { toolchain, edition, crateName, timeout }

def readRender (document : Toml.Table) : Except ConfigError RenderConfig := do
  let sect ← sectionOf document "render".toList
  let standard := RenderConfig.standard
  let language ← textField sect "language".toList standard.language
  let style ← textField sect "style".toList standard.style
  let defaultKind ← textField sect "default_kind".toList standard.defaultKind
  pure { language, style, defaultKind }

end ConfigReader

def Config.ofTable (document : Toml.Table) : Except ConfigError Config := do
  let server ← ConfigReader.readServer document
  let compiler ← ConfigReader.readCompiler document
  let render ← ConfigReader.readRender document
  pure { server, compiler, render }

/-! ## Files -/

inductive ConfigFileError
  /-- The file is a directory. -/
  | directory
  /-- The bytes of the file are no text. -/
  | notText
  | document (cause : Toml.TomlError)
  | config (cause : ConfigError)
  deriving DecidableEq, Repr

def Config.ofBytes (bytes : Bytes) : Except ConfigFileError Config := do
  match Utf8.decode? bytes with
  | none => .error .notText
  | some text =>
    let document ← (Toml.parse text).mapError .document
    (Config.ofTable document).mapError .config

end DumpLens
