import DumpLens.Api.Server
import DumpLens.Proofs.Session.Whole
import Mathlib

/-! Answers that are superseded. The flag compares how many results there are with how many
kinds were asked for; it tells whether another request began before the last result was
offered. -/

namespace DumpLens.Api

/-- What a form asks a server for. -/
def Server.job (server : Server) (workplace : Workplace) (form : CompileAllForm) :
    Job CodePoints where
  kinds := form.kinds
  compile := compilePoints workplace.toolchain server.config.compiler form.source

end DumpLens.Api
