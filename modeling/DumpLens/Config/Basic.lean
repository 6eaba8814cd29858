import DumpLens.Text.Basic
import DumpLens.Toolchain.Kind

/-! The configuration of the explorer. -/

namespace DumpLens

/-- Where the server listens and what else it serves. -/
structure ServerConfig where
  host : Text
  port : Int
  staticDir : Text
  deriving DecidableEq, Repr

structure CompilerConfig where
  toolchain : Text
  edition : Text
  crateName : Text
  /-- Seconds after which the compiler is stopped. -/
  timeout : Int
  deriving DecidableEq, Repr

/-- How dumps are shown. -/
structure RenderConfig where
  language : Text
  style : Text
  defaultKind : Text
  deriving DecidableEq, Repr

/-- The whole configuration. -/
structure Config where
  server : ServerConfig
  compiler : CompilerConfig
  render : RenderConfig
  deriving DecidableEq, Repr

/-! ## What holds where nothing is set -/

def ServerConfig.standard : ServerConfig :=
  ⟨"127.0.0.1".toList, 3000, []⟩

def CompilerConfig.standard : CompilerConfig :=
  ⟨"nightly".toList, "2021".toList, "input".toList, 60⟩

def RenderConfig.standard : RenderConfig :=
  ⟨"rust-ir".toList, "default".toList, DumpKind.standard⟩

def Config.standard : Config :=
  ⟨.standard, .standard, .standard⟩

end DumpLens
