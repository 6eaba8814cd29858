import DumpLens.Api.Message
import DumpLens.Api.Target
import DumpLens.File.Access

/-! Sites: directories of files that are served as they are. -/

namespace DumpLens.Api

/-- A site, given by the place of its directory. -/
structure Site where
  root : Place
  deriving DecidableEq, Repr

namespace Site

/-- The file that stands for a directory. -/
def indexName : Text := "index.html".toList

/-- The file that is served where nothing is found. -/
def notFoundName : Text := "404.html".toList

/-- Whether a path is one of sites: a single line, which a newline may end. -/
def takes (path : Text) : Bool :=
  path.head? == some '/' &&
    !(if path.getLast? = some '\n' then path.dropLast else path).contains '\n'

/-! ## Places -/

/-- The parts of a path that count. A part of two dots takes back the part in front of it,
if there is one. -/
def partsThatCount (path : Text) : List Text :=
  (Path.partsOf path).foldl
    (fun before part =>
      if part = ['.', '.'] ∧ before.getLast?.any (· != ['.', '.']) then before.dropLast
      else before ++ [part]) []

/-- A path that starts with a backslash leads to nothing. -/
def isRefused (parts : List Text) : Bool :=
  match parts with
  | ('\\' :: _) :: _ => true
  | _ => false

/-- The place of the parts of a path, which may be outside the site. -/
def place (site : Site) (parts : List Text) : Place :=
  Place.follow site.root parts

/-- What stands at a place of the site. Nothing outside the site is ever seen. -/
def find (site : Site) (files : FileTree) (place : Place) : Except FileError FileEntry := do
  if place.any (·.contains '\x00') then throw .zeroInPath
  if !site.root.isPrefixOf place then throw .missing
  let place ← files.locate [] ⟨1, place⟩
  match files.entry? place with
  | some entry => pure entry
  | none => throw .missing

example : (find ⟨[['s']]⟩ [([['t']], .file [])]
    (place ⟨[['s']]⟩ (partsThatCount "/../t".toList))).toOption = none := by decide +kernel

def content? (site : Site) (files : FileTree) (place : Place) : Option Bytes :=
  match site.find files place with
  | .ok (.file content) => some content
  | _ => none

/-! ## Responses -/

/-- The response where nothing is found. -/
def absent (site : Site) (files : FileTree) : Response :=
  match site.content? files (site.root ++ [notFoundName]) with
  | some content => ⟨404, none, content⟩
  | none => .notFound

/-- The path of a directory with a slash behind it. -/
def slashed (path : Text) : Text :=
  Uri.clean path ++ ['/']

/-- The response to a request. A directory is served by its index file, under a path
that ends with a slash. Paths that cannot be looked up lead past the file for what is
not found. -/
def respond (site : Site) (files : FileTree) (method path : Text) : Response :=
  let parts := partsThatCount path
  let place := site.place parts
  if method ≠ "GET".toList ∧ method ≠ "HEAD".toList then .methodNotAllowed
  else if isRefused parts then site.absent files
  else
    match site.find files place with
    | .ok (.file content) => ⟨200, none, content⟩
    | .ok .directory =>
      match site.content? files (place ++ [indexName]) with
      | some content =>
        if path.getLast? = some '/' then ⟨200, none, content⟩ else .redirect (slashed path)
      | none => site.absent files
    | .error .zeroInPath | .error (.tooLong _) => .notFound
    | .error _ => site.absent files

end Site

end DumpLens.Api
