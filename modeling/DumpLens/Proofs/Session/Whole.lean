import DumpLens.Proofs.Session.Offers

/-! Whole requests. A request that compiles one kind after the other is a request at work, if
what happens around it are calls on its session. -/

namespace DumpLens

variable {Kind : Type} [DecidableEq Kind] {job : Job Kind} {workers : Int}
  {session : Session Kind} {allowed : SessionCall Kind → Prop} {work : Work Kind} {kind : Kind}
  {compiled : List Kind} {given : List (Kind × CompileResult)}

/-! ## Changes made of calls -/

/-- What a change does to a session is done by calls, all of which are allowed. -/
def MadeOfCalls (allowed : SessionCall Kind → Prop) (change : Session Kind → Session Kind) :
    Prop :=
  ∀ session, ∃ calls : List (SessionCall Kind),
    (∀ call ∈ calls, allowed call) ∧ change session = session.afterCalls calls

/-- What happens around a request is made of allowed calls, and the receiver of results does
not fail. -/
structure Surroundings.Calling (surroundings : Surroundings Kind) (job : Job Kind)
    (allowed : SessionCall Kind → Prop) : Prop where
  compile : job.compile = surroundings.compile
  meanwhile : ∀ kind, MadeOfCalls allowed (surroundings.meanwhile kind)
  receive : ∀ kind result, MadeOfCalls allowed fun session =>
    (surroundings.receive kind result session).1
  received : ∀ kind result session, (surroundings.receive kind result session).2 = none

/-- Work as it is after some history, in which others have made allowed calls only, some kinds
were compiled and some results given to the receiver. -/
def Reaches (job : Job Kind) (workers : Int) (session : Session Kind)
    (allowed : SessionCall Kind → Prop) (compiled : List Kind)
    (given : List (Kind × CompileResult)) (work : Work Kind) : Prop :=
  ∃ history, WorkRun job workers session history work ∧ OnlyCalls allowed history ∧
    compiledKinds history = compiled ∧ received history = given

namespace Reaches

theorem hear {call : SessionCall Kind} (isAllowed : allowed call)
    (reaches : Reaches job workers session allowed compiled given work) :
    Reaches job workers session allowed compiled given (work.hear call) := by
  rcases reaches with ⟨history, run, only, sameCompiled, sameGiven⟩
  exact ⟨_, run.step (.other call), onlyCalls_other.mpr ⟨isAllowed, only⟩, sameCompiled,
    sameGiven⟩

theorem change {change : Session Kind → Session Kind} (made : MadeOfCalls allowed change)
    (reaches : Reaches job workers session allowed compiled given work) :
    Reaches job workers session allowed compiled given
      { work with session := change work.session } := by
  have afterCalls (calls : List (SessionCall Kind)) (allAllowed : ∀ call ∈ calls, allowed call) :
      ∀ work, Reaches job workers session allowed compiled given work →
        Reaches job workers session allowed compiled given
          { work with session := work.session.afterCalls calls } := by
    induction calls with
    | nil => exact fun _ reaches => reaches
    | cons call calls induction =>
        intro work reaches
        rcases List.forall_mem_cons.mp allAllowed with ⟨first, others⟩
        exact induction others _ (reaches.hear first)
  rcases made work.session with ⟨calls, allAllowed, equal⟩
  rw [equal]
  exact afterCalls calls allAllowed work reaches

theorem start {rest : List Kind} (free : work.busy.length < workers)
    (waiting : work.waiting = kind :: rest)
    (reaches : Reaches job workers session allowed compiled given work) :
    Reaches job workers session allowed (compiled ++ [kind]) given
      { work with waiting := rest, busy := kind :: work.busy } := by
  rcases reaches with ⟨history, run, only, rfl, sameGiven⟩
  exact ⟨_, run.step (.start waiting free), (onlyCalls_own rfl).mpr only, compiledKinds_started,
    sameGiven⟩

theorem finish (busy : kind ∈ work.busy)
    (reaches : Reaches job workers session allowed compiled given work) :
    Reaches job workers session allowed compiled given
      { work with busy := work.busy.erase kind, done := kind :: work.done } := by
  rcases reaches with ⟨history, run, only, sameCompiled, sameGiven⟩
  exact ⟨_, run.step (.finish busy), (onlyCalls_own rfl).mpr only, sameCompiled, sameGiven⟩

theorem offer_accepted (done : kind ∈ work.done)
    (accepted : (work.offer kind (job.result kind)).accepted = true)
    (reaches : Reaches job workers session allowed compiled given work) :
    Reaches job workers session allowed compiled (given ++ [(kind, job.result kind)])
      (work.afterOffer kind (job.result kind)) := by
  rcases reaches with ⟨history, run, only, sameCompiled, rfl⟩
  exact ⟨_, run.step (.offer done), (onlyCalls_own rfl).mpr only, sameCompiled,
    received_offered accepted⟩

theorem offer_refused (done : kind ∈ work.done)
    (refused : (work.offer kind (job.result kind)).accepted = false)
    (reaches : Reaches job workers session allowed compiled given work) :
    Reaches job workers session allowed compiled given
      (work.afterOffer kind (job.result kind)) := by
  rcases reaches with ⟨history, run, only, sameCompiled, rfl⟩
  exact ⟨_, run.step (.offer done), (onlyCalls_own rfl).mpr only, sameCompiled,
    received_refused refused⟩

end Reaches

/-! ## Whole requests -/

variable {surroundings : Surroundings Kind} {request : RequestRun Kind} {kinds : List Kind}

/-- The commands that compiling for kinds runs. -/
def Job.invocations (job : Job Kind) (kinds : List Kind) : List Invocation :=
  kinds.flatMap fun kind => (job.compile kind).invocation.toList

/-- A request on its way is at work, with some kinds still to do. -/
structure RequestRun.IsAt (request : RequestRun Kind) (job : Job Kind) (workers : Int)
    (session : Session Kind) (allowed : SessionCall Kind → Prop) (kinds : List Kind) : Prop where
  going : request.failure = none
  reached : ∃ compiled, request.invocations = job.invocations compiled ∧
    Reaches job workers session allowed compiled request.received
      ⟨request.session, request.request, kinds, [], []⟩

theorem RequestRun.IsAt.step (isAt : request.IsAt job workers session allowed (kind :: kinds))
    (positive : 0 < workers) (calling : surroundings.Calling job allowed) :
    (request.step surroundings kind).IsAt job workers session allowed kinds := by
  rcases isAt with ⟨going, compiled, invoked, reached⟩
  have started := reached.start positive rfl
  have compiling : Reaches job workers session allowed (compiled ++ [kind]) request.received
      ⟨request.sessionAfter surroundings kind, request.request, kinds, [kind], []⟩ := by
    rw [RequestRun.sessionAfter]
    split
    · exact started.change (calling.meanwhile kind)
    · exact started
  have done := compiling.finish List.mem_cons_self
  rw [List.erase_cons_head] at done
  have own : job.result kind = (surroundings.compile kind).settled := by
    rw [Job.result, calling.compile]
  have invocations : request.invocations ++ (surroundings.compile kind).invocation.toList =
      job.invocations (compiled ++ [kind]) := by
    rw [invoked, Job.invocations, Job.invocations, List.flatMap_append, List.flatMap_singleton,
      calling.compile]
  rcases finished : request.request.finish (request.sessionAfter surroundings kind) kind
    (surroundings.compile kind).settled with ⟨stored, after, collecting⟩
  have accepted : (Work.offer ⟨request.sessionAfter surroundings kind, request.request, kinds, [],
      [kind]⟩ kind (job.result kind)).accepted = stored := by
    rw [Work.offer, own, finished]
  have afterwards : Work.afterOffer ⟨request.sessionAfter surroundings kind, request.request,
      kinds, [], [kind]⟩ kind (job.result kind) = ⟨after, collecting, kinds, [], []⟩ := by
    rw [Work.afterOffer, own, finished, List.erase_cons_head]
  cases stored with
  | false =>
      have dropped := done.offer_refused List.mem_cons_self accepted
      rw [afterwards] at dropped
      rw [RequestRun.step_dropped going finished]
      exact ⟨rfl, _, invocations, dropped⟩
  | true =>
      have stored := done.offer_accepted List.mem_cons_self accepted
      rw [afterwards] at stored
      rw [RequestRun.step_stored going finished, calling.received, ← own]
      exact ⟨rfl, _, invocations, stored.change (calling.receive kind (job.result kind))⟩

/-- A request that is compiled one kind after the other is a request at work that comes to
its end. -/
theorem compileAll_isRun (session : Session Kind) (positive : 0 < surroundings.workers)
    (calling : surroundings.Calling job allowed) :
    ∃ history work, WorkRun job surroundings.workers session history work ∧ work.Finished ∧
      OnlyCalls allowed history ∧
      compileAll surroundings session job.kinds =
        ⟨work.session, job.invocations (distinct job.kinds), work.request, received history,
          none⟩ := by
  have steps (kinds : List Kind) : ∀ request : RequestRun Kind,
      request.IsAt job surroundings.workers session allowed kinds →
      (kinds.foldl (RequestRun.step surroundings) request).IsAt job surroundings.workers session
        allowed [] := by
    induction kinds with
    | nil => exact fun _ isAt => isAt
    | cons kind kinds induction => exact fun _ isAt => induction _ (isAt.step positive calling)
  have begun : (⟨(Request.start session).1, [], (Request.start session).2, [],
      none⟩ : RequestRun Kind).IsAt job surroundings.workers session allowed
        (distinct job.kinds) := by
    exact ⟨rfl, [], rfl, [], .start, onlyCalls_nil allowed, rfl, rfl⟩
  have whole : compileAll surroundings session job.kinds =
      (distinct job.kinds).foldl (RequestRun.step surroundings)
        ⟨(Request.start session).1, [], (Request.start session).2, [], none⟩ :=
    if_neg (Int.not_le.mpr positive)
  rcases whole ▸ steps _ _ begun with ⟨going, compiled, invoked, history, run, only, rfl, given⟩
  have finished : Work.Finished ⟨(compileAll surroundings session job.kinds).session,
      (compileAll surroundings session job.kinds).request, [], [], []⟩ := ⟨rfl, rfl, rfl⟩
  refine ⟨history, _, run, finished, only, ?_⟩
  rw [← run.accounted.compiledKinds_of_finished finished, ← invoked, given, ← going]

end DumpLens
