import DumpLens.Session.Basic

/-! Calls on a session. Whoever uses it can begin a request, store a result under any
generation and look at what is stored. -/

namespace DumpLens

variable {Kind : Type}

/-- What a session is told or asked. -/
inductive SessionCall (Kind : Type)
  | begin
  | store (generation : Int) (kind : Kind) (result : CompileResult)
  | result (kind : Kind)
  | results
  deriving DecidableEq, Repr

inductive SessionAnswer (Kind : Type)
  | begun (generation : Nat)
  | stored (accepted : Bool)
  | result (found : Option CompileResult)
  | results (all : Results Kind)
  deriving DecidableEq, Repr

namespace Session

variable [DecidableEq Kind]

/-- Answers a call, and gives the session afterwards. -/
def call (session : Session Kind) : SessionCall Kind → SessionAnswer Kind × Session Kind
  | .begin => (.begun session.begin.generation, session.begin)
  | .store generation kind result =>
    let (accepted, next) := session.store generation kind result
    (.stored accepted, next)
  | .result kind => (.result (session.result? kind), session)
  | .results => (.results session.results, session)

/-- The session after calls. -/
def afterCalls (session : Session Kind) (calls : List (SessionCall Kind)) : Session Kind :=
  calls.foldl (fun session call => (session.call call).2) session

end Session

end DumpLens
