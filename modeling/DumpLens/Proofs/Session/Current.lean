import DumpLens.Proofs.Session.Whole

/-! Results that are current. A request collects a result when the session stores it, and keeps
it when another request begins afterwards. So all that it has collected is current until another
request begins, and nothing of it from then on. -/

namespace DumpLens

variable {Kind : Type} {job : Job Kind} {workers : Int} {session : Session Kind}
  {work : Work Kind} {history later earlier : List (WorkEvent Kind)} {offer : Offer Kind}
  {call : SessionCall Kind} {generation : Nat} {kind : Kind} {result : CompileResult}

/-! ## Calls of other requests -/

/-- Whether a call stores nothing under a generation. The calls of all other requests are like
that. -/
def SessionCall.OfOthers (generation : Nat) : SessionCall Kind → Prop
  | .store given _ _ => given ≠ generation
  | .begin | .result _ | .results => True

theorem SessionCall.OfOthers.spares (ofOthers : call.OfOthers generation)
    (notBegun : call ≠ .begin) : call.Spares generation := by
  cases call with
  | begin => exact notBegun rfl
  | store given kind result => exact ofOthers
  | result | results => trivial

/-- As long as they begin no request, other requests leave what one has stored. -/
theorem OnlyCalls.spares (others : OnlyCalls (SessionCall.OfOthers generation) history)
    (undisturbed : .other .begin ∉ history) :
    OnlyCalls (SessionCall.Spares generation) history := by
  intro call member
  apply (others call member).spares
  rintro rfl
  exact undisturbed member

/-! ## Offers in time -/

/-- The result for a kind was offered before another request began. -/
def OfferedInTime (history : List (WorkEvent Kind)) (kind : Kind) : Prop :=
  ∃ later offer earlier, history = later ++ .offered offer :: earlier ∧ offer.kind = kind ∧
    .other .begin ∉ earlier

theorem mem_offers : offer ∈ offers history ↔ .offered offer ∈ history := by
  rw [offers, List.mem_reverse, List.mem_filterMap]
  constructor
  · rintro ⟨event, member, isOffer⟩
    cases event with
    | offered own =>
        cases isOffer
        exact member
    | started | finished | other => cases isOffer
  · intro member
    exact ⟨_, member, rfl⟩

theorem mem_received : (kind, result) ∈ received history ↔
    ∃ offer ∈ offers history, offer.accepted = true ∧ offer.kind = kind ∧
      offer.result = result := by
  simp [received, and_assoc]

variable [DecidableEq Kind]

/-- What has happened up to some moment led to work as it was then. -/
theorem WorkRun.before (run : WorkRun job workers session (later ++ earlier) work) :
    ∃ before, WorkRun job workers session earlier before := by
  induction later generalizing work with
  | nil => exact ⟨work, run⟩
  | cons event later induction =>
      cases run with
      | step run step => exact induction run

/-- The session stores just what is offered before another request begins. -/
theorem WorkRun.accepted_iff
    (run : WorkRun job workers session (later ++ .offered offer :: earlier) work) :
    offer.accepted = true ↔ .other .begin ∉ earlier := by
  rcases run.before with ⟨after, upToOffer⟩
  cases upToOffer with
  | @step _ _ before _ run step =>
      rw [← run.follows.current]
      cases step with
      | offer done =>
          by_cases current : before.request.generation = before.session.generation
          · rw [Work.offer, Request.finish_current current]
            exact iff_of_true rfl current
          · rw [Work.offer, Request.finish_stale current]
            exact iff_of_false Bool.false_ne_true current

theorem WorkRun.mem_collected_iff (run : WorkRun job workers session history work) :
    (kind, result) ∈ work.request.collected ↔
      OfferedInTime history kind ∧ job.result kind = result := by
  rw [run.follows.collected, mem_received]
  constructor
  · rintro ⟨offer, member, accepted, rfl, rfl⟩
    rcases List.append_of_mem (mem_offers.mp member) with ⟨later, earlier, rfl⟩
    refine ⟨⟨later, offer, earlier, rfl, rfl, run.accepted_iff.mp accepted⟩, ?_⟩
    exact (run.follows.own offer member).symm
  · rintro ⟨⟨later, offer, earlier, rfl, rfl, inTime⟩, rfl⟩
    have member : offer ∈ offers (later ++ .offered offer :: earlier) :=
      mem_offers.mpr (List.mem_append_right later List.mem_cons_self)
    exact ⟨offer, member, run.accepted_iff.mpr inTime, rfl, run.follows.own offer member⟩

/-! ## Current results -/

/-- A result belongs to the latest generation, and is what the session has for its kind. -/
structure Work.IsCurrent (work : Work Kind) (kind : Kind) (result : CompileResult) : Prop where
  latest : work.request.generation = work.session.generation
  held : work.session.result? kind = some result

/-- Whatever was collected is current just if no other request has begun. -/
theorem WorkRun.isCurrent_iff (run : WorkRun job workers session history work)
    (others : OnlyCalls (SessionCall.OfOthers (session.generation + 1)) history)
    (member : (kind, result) ∈ work.request.collected) :
    work.IsCurrent kind result ↔ .other .begin ∉ history := by
  have follows := run.follows
  constructor
  · intro isCurrent
    exact follows.current.mp isCurrent.latest
  · intro undisturbed
    have shares := follows.shares (follows.generation ▸ others.spares undisturbed)
    have nodup : work.session.results.kinds.Nodup := by
      rw [shares, follows.collected]
      exact run.accounted.nodup_offers.sublist kinds_received_sublist
    refine ⟨follows.current.mpr undisturbed, ?_⟩
    exact (Results.find?_eq_some_iff_mem nodup).mpr (shares ▸ member)

/-- At any moment, and so behind the last offer, a request has collected its own results for the
kinds that were offered before another request began. All of them are current until another one
begins, and none of them afterwards: a request that is overtaken returns nothing that is current,
but returns what was offered in time. A whole request is such a request at work. -/
theorem collected_current_iff (job : Job Kind) :
    (∀ workers session history work, WorkRun job workers session history work →
      OnlyCalls (SessionCall.OfOthers (session.generation + 1)) history →
      (∀ kind result, (kind, result) ∈ work.request.collected ↔
        OfferedInTime history kind ∧ job.result kind = result) ∧
      (∀ kind result, (kind, result) ∈ work.request.collected →
        (work.IsCurrent kind result ↔ .other .begin ∉ history)) ∧
      ((∀ kind result, (kind, result) ∈ work.request.collected → work.IsCurrent kind result) ↔
        (.other .begin ∈ history → ∀ kind, ¬ OfferedInTime history kind))) ∧
    ∀ surroundings session, 0 < surroundings.workers →
      surroundings.Calling job (SessionCall.OfOthers (session.generation + 1)) →
      ∃ history work, WorkRun job surroundings.workers session history work ∧ work.Finished ∧
        OnlyCalls (SessionCall.OfOthers (session.generation + 1)) history ∧
        compileAll surroundings session job.kinds =
          ⟨work.session, job.invocations (distinct job.kinds), work.request, received history,
            none⟩ := by
  constructor
  · intro workers session history work run others
    refine ⟨fun kind result => run.mem_collected_iff,
      fun kind result member => run.isCurrent_iff others member, ?_⟩
    constructor
    · intro allCurrent begun kind inTime
      have member := run.mem_collected_iff.mpr ⟨inTime, rfl⟩
      exact (run.isCurrent_iff others member).mp (allCurrent kind _ member) begun
    · intro noneInTime kind result member
      have inTime := (run.mem_collected_iff.mp member).1
      exact (run.isCurrent_iff others member).mpr fun begun => noneInTime begun kind inTime
  · exact fun surroundings session positive calling => compileAll_isRun session positive calling

/-- Every kind compiles to its own name. -/
def namingJob : Job Text where
  kinds := ["hir".toList, "mir".toList]
  compile kind := ⟨none, [], .ok ⟨true, kind, []⟩⟩

/-- Another request began long ago, and stores a result while this one is at work. -/
def lateStore : List (WorkEvent Text) :=
  [.offered ⟨"mir".toList, ⟨true, "mir".toList, []⟩, true⟩,
    .other (.store 1 "mir".toList ⟨true, "old".toList, []⟩), .finished "mir".toList,
    .offered ⟨"hir".toList, ⟨true, "hir".toList, []⟩, true⟩, .finished "hir".toList,
    .started "mir".toList, .started "hir".toList]

/-- Whoever receives a result begins another request. -/
def beginningReceiver : Surroundings Text where
  workers := 1
  compile := namingJob.compile
  meanwhile _ session := session
  receive _ _ session := (session.begin, none)

theorem collected_current_iff_lateStore :
    (∃ work, WorkRun namingJob 2 ⟨1, []⟩ lateStore work ∧
      work.IsCurrent "hir".toList ⟨true, "hir".toList, []⟩) ∧
    ∃ history work, WorkRun namingJob 1 .start history work ∧ work.Finished ∧
      compileAll beginningReceiver .start namingJob.kinds =
        ⟨work.session, [], work.request, received history, none⟩ := by
  have run : WorkRun namingJob 2 ⟨1, []⟩ lateStore _ :=
    .step (.step (.step (.step (.step (.step (.step .start (.start rfl (by decide)))
      (.start rfl (by decide))) (.finish (by decide))) (.offer (by decide)))
      (.finish (by decide))) (.other _)) (.offer (by decide))
  have others : OnlyCalls (SessionCall.OfOthers 2) lateStore := by
    intro call member
    simp only [lateStore, List.mem_cons, List.not_mem_nil, reduceCtorEq, or_false, false_or,
      WorkEvent.other.injEq] at member
    subst member
    exact (by decide : (1 : Int) ≠ 2)
  have calling : beginningReceiver.Calling namingJob (SessionCall.OfOthers 1) :=
    { compile := rfl
      meanwhile := fun _ _ => ⟨[], List.forall_mem_nil _, rfl⟩
      receive := fun _ _ _ => ⟨[.begin], List.forall_mem_singleton.mpr trivial, rfl⟩
      received := fun _ _ _ => rfl }
  rcases collected_current_iff namingJob with ⟨atWork, whole⟩
  constructor
  · have current := (atWork _ _ _ _ run others).2.1 "hir".toList ⟨true, "hir".toList, []⟩
      (by decide)
    exact ⟨_, run, current.mpr (by decide)⟩
  · rcases whole beginningReceiver .start (by decide) calling with
      ⟨history, work, isRun, finished, _, same⟩
    exact ⟨history, work, isRun, finished, same⟩

/-- Another request begins between the two results. -/
def beginBetween : List (WorkEvent Text) :=
  [.offered ⟨"mir".toList, ⟨true, "mir".toList, []⟩, false⟩, .finished "mir".toList,
    .started "mir".toList, .other .begin, .offered ⟨"hir".toList, ⟨true, "hir".toList, []⟩, true⟩,
    .finished "hir".toList, .started "hir".toList]

/-- Behind its last offer a request returns a result that the session has dropped. -/
theorem collected_notCurrent_beginBetween :
    (∃ work, WorkRun namingJob 1 .start beginBetween work ∧ work.Finished ∧
      OnlyCalls (SessionCall.OfOthers 1) beginBetween ∧
      work.request.collected = [("hir".toList, ⟨true, "hir".toList, []⟩)] ∧
      work.session.results = [] ∧
      ¬ work.IsCurrent "hir".toList ⟨true, "hir".toList, []⟩) ∧
    (compileAll beginningReceiver .start namingJob.kinds).request =
      ⟨1, [("hir".toList, ⟨true, "hir".toList, []⟩)]⟩ ∧
    (compileAll beginningReceiver .start namingJob.kinds).session = ⟨2, []⟩ := by
  have run : WorkRun namingJob 1 .start beginBetween _ :=
    .step (.step (.step (.step (.step (.step (.step .start (.start rfl (by decide)))
      (.finish (by decide))) (.offer (by decide))) (.other .begin)) (.start rfl (by decide)))
      (.finish (by decide))) (.offer (by decide))
  have others : OnlyCalls (SessionCall.OfOthers 1) beginBetween := by
    intro call member
    simp only [beginBetween, List.mem_cons, List.not_mem_nil, reduceCtorEq, or_false, false_or,
      WorkEvent.other.injEq] at member
    subst member
    trivial
  refine ⟨⟨_, run, ⟨rfl, rfl, rfl⟩, others, rfl, rfl, ?_⟩, rfl, rfl⟩
  intro isCurrent
  cases isCurrent.held

end DumpLens
