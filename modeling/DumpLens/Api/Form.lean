import DumpLens.Api.Message
import DumpLens.Json.Encoding
import DumpLens.Json.Visible
import DumpLens.Text.Blank

/-! Forms: what the bodies of requests have to hold. Every fault of a body is reported
with what is visible of the value at fault, in the order of the fields. -/

namespace DumpLens.Api

/-! ## Faults -/

/-- What can be wrong with a value. -/
inductive FaultKind
  | missing
  | notString
  | notList
  | notObject
  | notJson
  deriving DecidableEq, Repr

def FaultKind.name : FaultKind → Text
  | .missing => "missing".toList
  | .notString => "string_type".toList
  | .notList => "list_type".toList
  | .notObject => "model_attributes_type".toList
  | .notJson => "json_invalid".toList

/-- A step into a value: to a field or to an item. -/
inductive Step
  | field (name : Text)
  | item (index : Nat)
  deriving DecidableEq, Repr

/-- Where a value stands in a body. -/
abbrev Location := List Step

/-- A fault at a location. Where a field is missing, the value is what should hold it. -/
structure Fault where
  kind : FaultKind
  location : Location
  value : Json
  deriving Repr

def Step.json : Step → Json
  | .field name => .ofText name
  | .item index => Json.integer index

/-- A fault as responses report it. -/
def Fault.json (fault : Fault) : Json := Json.record [
  ("type", .ofText fault.kind.name),
  ("loc", .array (.ofText "body".toList :: fault.location.map Step.json)),
  ("input", fault.value.visible)]

/-- A value, or all faults of what should hold it. -/
abbrev Checked (α : Type) := Except (List Fault) α

/-- Two values, or the faults of both. -/
def Checked.both (left : Checked α) (right : Checked β) : Checked (α × β) :=
  match left, right with
  | .ok left, .ok right => .ok (left, right)
  | .ok _, .error faults => .error faults
  | .error faults, .ok _ => .error faults
  | .error faults, .error more => .error (faults ++ more)

/-! ## Checking values -/

/-- A checker of values, which is told where the value stands. -/
abbrev Checker (α : Type) := Location → Json → Checked α

def checkString : Checker CodePoints := fun location value =>
  match value with
  | .string content => .ok content
  | _ => .error [⟨.notString, location, value⟩]

def checkItems (check : Checker α) (location : Location) : Nat → List Json → Checked (List α)
  | _, [] => .ok []
  | index, item :: rest =>
    ((check (location ++ [.item index]) item).both
      (checkItems check location (index + 1) rest)).map fun (value, values) => value :: values

def checkList (check : Checker α) : Checker (List α) := fun location value =>
  match value with
  | .array items => checkItems check location 0 items
  | _ => .error [⟨.notList, location, value⟩]

def checkField (check : Checker α) (name : String) (entries : JsonEntries) : Checked α :=
  let location := [Step.field name.toList]
  match Json.find? entries name.toList with
  | some value => check location value
  | none => .error [⟨.missing, location, .object entries⟩]

/-! ## Forms -/

/-- The body of a request to compile a source for one kind of dump. -/
structure CompileForm where
  source : CodePoints
  kind : CodePoints
  deriving DecidableEq, Repr

/-- The body of a request to compile a source for several kinds of dump. -/
structure CompileAllForm where
  source : CodePoints
  kinds : List CodePoints
  deriving DecidableEq, Repr

def CompileForm.check (entries : JsonEntries) : Checked CompileForm :=
  ((checkField checkString "source" entries).both (checkField checkString "ir_type" entries)).map
    fun (source, kind) => ⟨source, kind⟩

def CompileAllForm.check (entries : JsonEntries) : Checked CompileAllForm :=
  ((checkField checkString "source" entries).both
    (checkField (checkList checkString) "ir_types" entries)).map
    fun (source, kinds) => ⟨source, kinds⟩

example : (CompileForm.check [(CodePoints.ofText "source".toList, .null)]).toOption = none := by
  decide +kernel

/-! ## Bodies -/

/-- Why a body is refused. -/
inductive BodyError
  /-- The body is not what the form asks for. -/
  | faults (all : List Fault)
  /-- The body is at fault, but no text that could be reported. -/
  | unreportable
  /-- The body cannot be read. -/
  | unreadable
  deriving Repr

def BodyError.response : BodyError → Response
  | .faults all => .json 422 (Json.record [("detail", .array (all.map Fault.json))])
  | .unreportable => .internalError
  | .unreadable => .refusal 400 "There was an error parsing the body".toList

/-- Whether a content type is that of JSON. What follows a semicolon does not count. -/
def isJsonType (contentType : Text) : Bool :=
  let bare := Text.trim (contentType.takeWhile (· != ';'))
  match (bare.map Char.toLower).splitOn '/' with
  | [main, sub] =>
    main == "application".toList && (sub == "json".toList || "+json".toList.isSuffixOf sub)
  | _ => false

example : isJsonType "Application/x+JSON; charset=utf-8".toList = true := by decide +kernel

/-- The error of a body that is not read as JSON. -/
def unreadBody (body : Bytes) : BodyError :=
  match Utf8.decode? body with
  | some text => .faults [⟨.notObject, [], .ofText text⟩]
  | none => .unreportable

/-- Reads the body of a request. -/
def Request.form (request : Request) (check : JsonEntries → Checked α) :
    Except BodyError α :=
  if request.body.isEmpty then .error (.faults [⟨.missing, [], .null⟩])
  else if request.contentType.any isJsonType then
    match Json.ofBytes request.body with
    | .ok (.object entries) => (check entries).mapError .faults
    | .ok value => .error (.faults [⟨.notObject, [], value⟩])
    | .error (.text .malformed) => .error (.faults [⟨.notJson, [], .object []⟩])
    | .error _ => .error .unreadable
  else .error (unreadBody request.body)

end DumpLens.Api
