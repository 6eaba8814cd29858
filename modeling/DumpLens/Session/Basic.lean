import DumpLens.Toolchain.Result

/-! Sessions hold the latest result for every kind of dump. Each request begins a
new generation and drops what is stored; a result is stored only for the current
generation, so that the answer to an old request never replaces a newer one. Kinds can be
of any type in which equality is decided. -/

namespace DumpLens

/-! ## Results by kind -/

/-- Results by the kind of dump, each kind at most once. -/
abbrev Results (Kind : Type) := List (Kind × CompileResult)

namespace Results

def find? [DecidableEq Kind] (results : Results Kind) (kind : Kind) : Option CompileResult :=
  results.lookup kind

def insert [DecidableEq Kind] (results : Results Kind) (kind : Kind) (result : CompileResult) :
    Results Kind :=
  results.filter (·.1 ≠ kind) ++ [(kind, result)]

def kinds (results : Results Kind) : List Kind :=
  results.map Prod.fst

end Results

/-! ## Sessions -/

/-- A session: how many requests have begun, and the results of the latest. -/
structure Session (Kind : Type) where
  generation : Nat
  results : Results Kind

namespace Session

/-- A session without requests. -/
def start : Session Kind := ⟨0, []⟩

/-- Begins a request. -/
def begin (session : Session Kind) : Session Kind :=
  ⟨session.generation + 1, []⟩

/-- Begins several requests one after the other. -/
def beginTimes (session : Session Kind) : Nat → Session Kind
  | 0 => session
  | count + 1 => session.begin.beginTimes count

/-- Stores a result for a request of the current generation, and says whether it
was stored. -/
def store [DecidableEq Kind] (session : Session Kind) (generation : Int) (kind : Kind)
    (result : CompileResult) : Bool × Session Kind :=
  if generation = session.generation then
    (true, { session with results := session.results.insert kind result })
  else (false, session)

def result? [DecidableEq Kind] (session : Session Kind) (kind : Kind) : Option CompileResult :=
  session.results.find? kind

end Session

end DumpLens
