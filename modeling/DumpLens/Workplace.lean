import DumpLens.File.Tree
import DumpLens.Toolchain.Compile

/-! What the program finds around it. -/

namespace DumpLens

/-- The files of the system, the directory the program runs in, and the toolchain. -/
structure Workplace where
  files : FileTree
  directory : Place
  toolchain : Toolchain

end DumpLens
