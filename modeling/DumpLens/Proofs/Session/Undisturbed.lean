import DumpLens.Proofs.Session.Whole

/-! Requests that nobody disturbs. If no other request begins while one is at work, it comes
to the result of every kind that it was asked for, whatever the order in which they are done. -/

namespace DumpLens

variable {Kind : Type} {job : Job Kind} {workers : Int} {session : Session Kind}
  {work : Work Kind} {history : List (WorkEvent Kind)}

/-! ## What a request comes to -/

/-- Why a compilation has no result, in words. -/
def CompileError.message : CompileError → Text
  | .toolchain message => message
  | .system failure => failure.message

/-- What comes of a compilation: its own result, or one that says why there is none. -/
def Compilation.Gives (compilation : Compilation) (result : CompileResult) : Prop :=
  match compilation.result with
  | .ok own => result = own
  | .error error => result = ⟨false, [], "Error: ".toList ++ error.message⟩

theorem Compilation.gives_iff {compilation : Compilation} {result : CompileResult} :
    compilation.Gives result ↔ result = compilation.settled := by
  rw [Gives, settled]
  cases compilation.result with
  | ok own => rfl
  | error error =>
      cases error with
      | toolchain message => rfl
      | system failure => rfl

variable [DecidableEq Kind]

/-- Results for just the kinds of a job, each of them what has come of compiling that kind. -/
structure Completes (job : Job Kind) (results : Results Kind) : Prop where
  nodup : results.kinds.Nodup
  found : ∀ kind result, results.find? kind = some result ↔
    kind ∈ job.kinds ∧ (job.compile kind).Gives result

/-- Results that complete the same job are the same map. -/
theorem Completes.find?_eq {left right : Results Kind} (leftCompletes : Completes job left)
    (rightCompletes : Completes job right) (kind : Kind) : left.find? kind = right.find? kind := by
  apply Option.ext
  intro result
  exact (leftCompletes.found kind result).trans (rightCompletes.found kind result).symm

/-! ## What was received -/

/-- Until another request begins, all that is offered is received. -/
theorem WorkRun.received_eq (run : WorkRun job workers session history work)
    (undisturbed : .other .begin ∉ history) :
    received history =
      ((offers history).map Offer.kind).map fun kind => (kind, job.result kind) := by
  have follows := run.follows
  have accepted : (offers history).filter Offer.accepted = offers history := by
    apply List.filter_eq_self.mpr
    intro offer member
    by_contra refused
    apply undisturbed
    exact (follows.refused.mp ⟨offer, member, eq_false_of_ne_true refused⟩).begun
  rw [received, accepted, List.map_map]
  apply List.map_congr_left
  intro offer member
  rw [Function.comp_apply, follows.own offer member]

theorem WorkRun.completes (run : WorkRun job workers session history work)
    (finished : work.Finished) (undisturbed : .other .begin ∉ history) :
    Completes job work.request.collected := by
  have offered := run.accounted.offers_of_finished finished
  have collected := run.follows.collected.trans (run.received_eq undisturbed)
  have kinds : work.request.collected.kinds = (offers history).map Offer.kind := by
    rw [collected, Results.kinds, List.map_map]
    exact List.map_id _
  have nodup : work.request.collected.kinds.Nodup :=
    kinds ▸ offered.nodup_iff.mpr (nodup_distinct job.kinds)
  refine ⟨nodup, ?_⟩
  intro kind result
  rw [Results.find?_eq_some_iff_mem nodup, collected, List.mem_map, Compilation.gives_iff]
  have asked (kind : Kind) : kind ∈ (offers history).map Offer.kind ↔ kind ∈ job.kinds :=
    offered.mem_iff.trans mem_distinct
  constructor
  · rintro ⟨own, member, equal⟩
    cases equal
    exact ⟨(asked kind).mp member, rfl⟩
  · rintro ⟨member, rfl⟩
    exact ⟨kind, (asked kind).mpr member, rfl⟩

/-! ## Undisturbed requests -/

/-- With workers to compile a request comes to its end in any order of its steps, and compiles
each of its kinds once. If no other request begins meanwhile, it comes to the result of each
kind and the receiver is given each of them once; the session has these results and no others
unless somebody stores under the generation of the request. The order makes no difference to
the results. -/
theorem undisturbed_request_completes (job : Job Kind) (positive : 0 < workers) :
    (∀ session history work, WorkRun job workers session history work →
      history.countP WorkEvent.isOwn ≤ 3 * job.kinds.length ∧
      (¬ work.Finished → ∃ event next, WorkStep job workers work event next ∧
        event.isOwn = true) ∧
      (work.Finished →
        (∀ kind, (compiledKinds history).count kind = if kind ∈ job.kinds then 1 else 0) ∧
        (.other .begin ∉ history →
          Completes job work.request.collected ∧
          (received history).Perm work.request.collected) ∧
        (OnlyCalls (SessionCall.Spares (session.generation + 1)) history →
          work.session.results = work.request.collected))) ∧
    (∀ first firstHistory firstWork second secondHistory secondWork,
      WorkRun job workers first firstHistory firstWork →
      WorkRun job workers second secondHistory secondWork →
      firstWork.Finished → secondWork.Finished →
      .other .begin ∉ firstHistory → .other .begin ∉ secondHistory →
      ∀ kind, firstWork.request.collected.find? kind =
        secondWork.request.collected.find? kind) ∧
    ∀ surroundings session, surroundings.workers = workers →
      surroundings.Calling job (SessionCall.Spares (session.generation + 1)) →
      ∃ collected received, Completes job collected ∧ received.Perm collected ∧
        compileAll surroundings session job.kinds =
          ⟨⟨session.generation + 1, collected⟩, job.invocations (distinct job.kinds),
            ⟨session.generation + 1, collected⟩, received, none⟩ := by
  refine ⟨?_, ?_, ?_⟩
  · intro session history work run
    have accounted := run.accounted
    have follows := run.follows
    refine ⟨?_, Work.exists_step job positive, ?_⟩
    · have left := accounted.left
      have fewer := length_distinct_le job.kinds
      omega
    · intro finished
      refine ⟨?_, ?_, ?_⟩
      · intro kind
        rw [accounted.compiledKinds_of_finished finished, (nodup_distinct job.kinds).count]
        simp only [mem_distinct]
      · intro undisturbed
        exact ⟨run.completes finished undisturbed, .of_eq follows.collected.symm⟩
      · intro spared
        rw [← follows.generation] at spared
        exact follows.shares spared
  · intro _ _ _ _ _ _ firstRun secondRun firstFinished secondFinished noneBegan noneBeganEither
    apply (firstRun.completes firstFinished noneBegan).find?_eq
    exact secondRun.completes secondFinished noneBeganEither
  · rintro surroundings session rfl calling
    rcases compileAll_isRun session positive calling with
      ⟨history, work, run, finished, spared, equal⟩
    have undisturbed : .other .begin ∉ history := spared .begin
    have follows := run.follows
    have current := follows.current.mpr undisturbed
    have shares := follows.shares (follows.generation ▸ spared)
    refine ⟨_, _, run.completes finished undisturbed, .of_eq follows.collected.symm, ?_⟩
    rw [equal]
    rcases work with ⟨⟨generation, results⟩, ⟨own, collected⟩, waiting, busy, done⟩
    cases current
    cases shares
    cases follows.generation
    rfl

/-- Compiling for one of the kinds fails. -/
def failingJob : Job Text where
  kinds := ["mir".toList, "hir".toList, "mir".toList]
  compile kind :=
    if kind = "mir".toList then
      ⟨none, [], .error (.system (.named "RuntimeError".toList "boom".toList))⟩
    else ⟨none, [], .ok ⟨true, kind, []⟩⟩

/-- The session has results of an earlier request. -/
def usedSession : Session Text :=
  ⟨3, [("mir".toList, ⟨true, "old".toList, []⟩), ("asm".toList, ⟨true, "old".toList, []⟩)]⟩

/-- The kind that starts last is done first. -/
def lastDoneFirst : List (WorkEvent Text) :=
  [.offered ⟨"mir".toList, ⟨false, [], "Error: boom".toList⟩, true⟩, .finished "mir".toList,
    .offered ⟨"hir".toList, ⟨true, "hir".toList, []⟩, true⟩, .finished "hir".toList,
    .started "hir".toList, .started "mir".toList]

theorem undisturbed_request_completes_failingJob :
    ∃ work, WorkRun failingJob 2 usedSession lastDoneFirst work ∧ work.Finished ∧
      Completes failingJob work.session.results ∧
      work.session.results.find? "mir".toList = some ⟨false, [], "Error: boom".toList⟩ := by
  have run : WorkRun failingJob 2 usedSession lastDoneFirst _ :=
    .step (.step (.step (.step (.step (.step .start (.start rfl (by decide)))
      (.start rfl (by decide))) (.finish (by decide))) (.offer (by decide)))
      (.finish (by decide))) (.offer (by decide))
  refine ⟨_, run, ⟨rfl, rfl, rfl⟩, ?_⟩
  rcases ((undisturbed_request_completes failingJob (by decide)).1 _ _ _ run).2.2
    ⟨rfl, rfl, rfl⟩ with ⟨_, completes, shares⟩
  have spared : OnlyCalls (SessionCall.Spares (usedSession.generation + 1)) lastDoneFirst := by
    intro call member
    simp [lastDoneFirst] at member
  have whole := (completes (by decide)).1
  rw [← shares spared] at whole
  exact ⟨whole, (whole.found _ _).mpr ⟨by decide, rfl⟩⟩

end DumpLens
