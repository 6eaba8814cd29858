import DumpLens.Session.Basic
import DumpLens.Toolchain.Compile

/-! Requests to compile one source for several kinds in a session. -/

namespace DumpLens

/-- A list without repetitions: each value stands where it stood first. -/
def distinct [DecidableEq α] : List α → List α
  | [] => []
  | value :: rest => value :: (distinct rest).filter (· ≠ value)

/-- A request: its generation, and its results that were stored. -/
structure Request (Kind : Type) where
  generation : Nat
  collected : Results Kind

namespace Request

def start (session : Session Kind) : Session Kind × Request Kind :=
  (session.begin, ⟨session.begin.generation, []⟩)

/-- Stores the result for a kind, and collects it if it was stored. -/
def finish [DecidableEq Kind] (request : Request Kind) (session : Session Kind) (kind : Kind)
    (result : CompileResult) : Bool × Session Kind × Request Kind :=
  match session.store request.generation kind result with
  | (true, session) =>
    (true, session, { request with collected := request.collected.insert kind result })
  | (false, session) => (false, session, request)

end Request

/-! ## Whole requests -/

/-- Why a request to compile for several kinds fails. -/
inductive RequestError
  /-- There are no workers to compile with. -/
  | noWorkers
  | receiver (failure : SystemFailure)
  deriving DecidableEq, Repr

/-- A failure in words. -/
def RequestError.message : RequestError → Text
  | .noWorkers => "max_workers must be greater than 0".toList
  | .receiver failure => failure.message

/-- The surroundings of a request. While a kind compiles and while a result is
received the session may change, as other requests use it. -/
structure Surroundings (Kind : Type) where
  /-- How many kinds may compile at the same time. -/
  workers : Int
  compile : Kind → Compilation
  /-- What happens to the session while a kind compiles. -/
  meanwhile : Kind → Session Kind → Session Kind
  /-- Receives a result that was stored. This may fail. -/
  receive : Kind → CompileResult → Session Kind → Session Kind × Option SystemFailure

/-- A request on its way: the session, the commands that were run, how far the request
has come, and what the receiver of results was given. -/
structure RequestRun (Kind : Type) where
  session : Session Kind
  invocations : List Invocation
  request : Request Kind
  received : List (Kind × CompileResult)
  failure : Option RequestError

/-- What a compilation counts as: a failure of the system becomes a result. -/
def Compilation.settled (compilation : Compilation) : CompileResult :=
  match compilation.result with
  | .ok result => result
  | .error (.toolchain message) => .failed ("Error: ".toList ++ message)
  | .error (.system failure) => .failed ("Error: ".toList ++ failure.message)

/-- Compiles for one kind and stores the result. After a failure of the receiver
kinds still compile, but nothing is stored. -/
def RequestRun.step [DecidableEq Kind] (surroundings : Surroundings Kind) (run : RequestRun Kind)
    (kind : Kind) : RequestRun Kind :=
  let compilation := surroundings.compile kind
  let session :=
    if compilation.invocation.isSome then surroundings.meanwhile kind run.session else run.session
  let invocations := run.invocations ++ compilation.invocation.toList
  match run.failure with
  | some _ => { run with session, invocations }
  | none =>
    let result := compilation.settled
    match run.request.finish session kind result with
    | (false, session, request) => { run with session, invocations, request }
    | (true, session, request) =>
      let (session, failure) := surroundings.receive kind result session
      { session, invocations, request, received := run.received ++ [(kind, result)],
        failure := failure.map .receiver }

/-- Compiles for all kinds of a list, each kind once. -/
def compileAll [DecidableEq Kind] (surroundings : Surroundings Kind) (session : Session Kind)
    (kinds : List Kind) : RequestRun Kind :=
  let (session, request) := Request.start session
  if surroundings.workers ≤ 0 then ⟨session, [], request, [], some .noWorkers⟩
  else (distinct kinds).foldl (RequestRun.step surroundings) ⟨session, [], request, [], none⟩

end DumpLens
