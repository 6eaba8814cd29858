import DumpLens.Text.Basic

/-! File paths with slashes between their parts. -/

namespace DumpLens

/-- A path in normal form. `slashes` is how many slashes it starts with: none if
it is relative, two if it starts with exactly two, one otherwise. -/
structure Path where
  slashes : Nat
  parts : List Text
  deriving DecidableEq, Repr

namespace Path

/-- The slashes that count at the start of a path. -/
def leadingSlashes : Text → Nat
  | '/' :: '/' :: '/' :: _ => 1
  | '/' :: '/' :: _ => 2
  | '/' :: _ => 1
  | _ => 0

/-- The parts of a path. Empty parts and parts that name the directory itself
say nothing. -/
def partsOf (text : Text) : List Text :=
  (text.splitOn '/').filter fun part => part != [] && part != ['.']

/-- Reads a path. -/
def ofText (text : Text) : Path :=
  ⟨leadingSlashes text, partsOf text⟩

/-- A path as text. The path without parts names the directory itself. -/
def text (path : Path) : Text :=
  if path.slashes = 0 ∧ path.parts.isEmpty then ['.']
  else List.replicate path.slashes '/' ++ ['/'].intercalate path.parts

example : (ofText "./a//b/../c/.".toList).text = "a/b/../c".toList := by decide +kernel

def isAbsolute (path : Path) : Bool :=
  0 < path.slashes

/-- The directory that a path is in. -/
def parent (path : Path) : Path :=
  { path with parts := path.parts.dropLast }

/-- The last part of a path, if there is one. -/
def fileName (path : Path) : Text :=
  path.parts.getLastD []

/-- A path as seen from another one. -/
def join (path other : Path) : Path :=
  if other.isAbsolute then other else { path with parts := path.parts ++ other.parts }

end Path

end DumpLens
