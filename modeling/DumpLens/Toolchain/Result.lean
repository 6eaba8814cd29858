import DumpLens.Text.Basic

/-! What comes of compiling a source for one kind of dump. -/

namespace DumpLens

/-- Whether the compiler ended well, the dump it wrote and what it had to say. -/
structure CompileResult where
  success : Bool
  output : Text
  messages : Text
  deriving DecidableEq, Repr

/-- A result without a dump, for compilations that failed. -/
def CompileResult.failed (messages : Text) : CompileResult :=
  ⟨false, [], messages⟩

end DumpLens
