import DumpLens.Proofs.Session.Work
import Mathlib.Data.List.Perm.Subperm

/-! What a request at work has collected. The session stores what is offered to it until
somebody else begins a request, and nothing afterwards. -/

namespace DumpLens

variable {Kind : Type} {job : Job Kind} {workers : Int} {session : Session Kind}
  {work next : Work Kind} {history : List (WorkEvent Kind)} {event : WorkEvent Kind} {kind : Kind}

/-! ## Histories -/

/-- Another request had begun before the last result was offered. -/
def Overtaken (history : List (WorkEvent Kind)) : Prop :=
  ∃ later offer earlier, history = later ++ .offered offer :: earlier ∧
    (∀ other, .offered other ∉ later) ∧ .other .begin ∈ earlier

theorem not_overtaken_nil : ¬ Overtaken ([] : List (WorkEvent Kind)) := by
  rintro ⟨later, offer, earlier, impossible, _⟩
  cases later <;> cases impossible

theorem overtaken_offered {offer : Offer Kind} :
    Overtaken (.offered offer :: history) ↔ .other .begin ∈ history := by
  constructor
  · rintro ⟨later, last, earlier, parts, nothing, begun⟩
    cases later with
    | nil =>
        cases parts
        exact begun
    | cons event later =>
        cases parts
        exact absurd List.mem_cons_self (nothing offer)
  · intro begun
    exact ⟨[], offer, history, rfl, fun _ => List.not_mem_nil, begun⟩

theorem overtaken_cons (notOffered : event.offer? = none) :
    Overtaken (event :: history) ↔ Overtaken history := by
  constructor
  · rintro ⟨later, last, earlier, parts, nothing, begun⟩
    cases later with
    | nil =>
        cases parts
        cases notOffered
    | cons event later =>
        cases parts
        exact ⟨later, last, earlier, rfl,
          fun other member => nothing other (List.mem_cons_of_mem _ member), begun⟩
  · rintro ⟨later, last, earlier, rfl, nothing, begun⟩
    refine ⟨event :: later, last, earlier, rfl, ?_, begun⟩
    intro other member
    cases member with
    | head => cases notOffered
    | tail _ member => exact nothing other member

theorem Overtaken.begun (overtaken : Overtaken history) : .other .begin ∈ history := by
  rcases overtaken with ⟨later, offer, earlier, rfl, _, begun⟩
  exact List.mem_append_right later (List.mem_cons_of_mem _ begun)

theorem received_offered {offer : Offer Kind} (accepted : offer.accepted = true) :
    received (.offered offer :: history) = received history ++ [(offer.kind, offer.result)] := by
  rw [received, offers_offered, List.filter_append, List.map_append,
    List.filter_cons_of_pos accepted]
  rfl

theorem received_refused {offer : Offer Kind} (refused : offer.accepted = false) :
    received (.offered offer :: history) = received history := by
  rw [received, offers_offered, List.filter_append, List.filter_cons_of_neg (by simp [refused]),
    List.filter_nil, List.append_nil, received]

/-- Whether a call neither begins a request nor stores under a generation. -/
def SessionCall.Spares (generation : Nat) : SessionCall Kind → Prop
  | .begin => False
  | .store given _ _ => given ≠ generation
  | .result _ | .results => True

/-! ## What holds of every history -/

/-- What a request at work has to do with its session and with what was offered. -/
structure WorkFollows (job : Job Kind) (session : Session Kind) (history : List (WorkEvent Kind))
    (work : Work Kind) : Prop where
  generation : work.request.generation = session.generation + 1
  notAhead : work.request.generation ≤ work.session.generation
  current : work.request.generation = work.session.generation ↔ .other .begin ∉ history
  collected : work.request.collected = received history
  own : ∀ offer ∈ offers history, offer.result = job.result offer.kind
  refused : (∃ offer ∈ offers history, offer.accepted = false) ↔ Overtaken history
  /-- Others that spare the request leave what it has stored. -/
  shares : OnlyCalls (SessionCall.Spares work.request.generation) history →
    work.session.results = work.request.collected

/-- What workers do changes nothing in the session. -/
theorem WorkFollows.atWork (follows : WorkFollows job session history work)
    (notOffered : event.offer? = none) (own : event.isOwn = true)
    (sameSession : next.session = work.session) (sameRequest : next.request = work.request) :
    WorkFollows job session (event :: history) next := by
  have notBegin : WorkEvent.other .begin ≠ event := by
    rintro rfl
    cases own
  have noOffer : offers (event :: history) = offers history := by
    rw [offers, List.filterMap_cons_none notOffered, offers]
  constructor
  · rw [sameRequest]
    exact follows.generation
  · rw [sameRequest, sameSession]
    exact follows.notAhead
  · rw [sameRequest, sameSession, List.mem_cons, or_iff_right notBegin]
    exact follows.current
  · rw [sameRequest, received, noOffer]
    exact follows.collected
  · rw [noOffer]
    exact follows.own
  · rw [noOffer, overtaken_cons notOffered]
    exact follows.refused
  · rw [sameRequest, sameSession, onlyCalls_own own]
    exact follows.shares

/-- What is offered is what compiling has given. -/
theorem WorkFollows.own_offered (follows : WorkFollows job session history work) (accepted : Bool) :
    ∀ offer ∈ offers (.offered ⟨kind, job.result kind, accepted⟩ :: history),
      offer.result = job.result offer.kind := by
  rw [offers_offered]
  intro offer member
  rcases List.mem_append.mp member with earlier | last
  · exact follows.own offer earlier
  · rw [List.mem_singleton.mp last]

/-! ## Steps -/

variable [DecidableEq Kind]

theorem SessionCall.Spares.call_eq {call : SessionCall Kind}
    (spares : call.Spares session.generation) : (session.call call).2 = session := by
  cases call with
  | begin => exact False.elim spares
  | store given kind result =>
      rw [Session.call, Session.store, if_neg spares]
  | result | results => rfl

theorem workFollows_start : WorkFollows job session [] (.start session job.kinds) where
  generation := rfl
  notAhead := Nat.le_refl _
  current := iff_of_true rfl List.not_mem_nil
  collected := rfl
  own := by
    intro offer member
    cases member
  refused := by
    apply iff_of_false _ not_overtaken_nil
    rintro ⟨offer, member, _⟩
    cases member
  shares := fun _ => rfl

namespace WorkFollows

theorem hear (follows : WorkFollows job session history work) (call : SessionCall Kind) :
    WorkFollows job session (.other call :: history) (work.hear call) := by
  have generation : (work.hear call).session.generation =
      if call = .begin then work.session.generation + 1 else work.session.generation :=
    Session.generation_call
  constructor
  · exact follows.generation
  · apply Nat.le_trans follows.notAhead
    rw [generation]
    split
    · exact Nat.le_succ _
    · exact Nat.le_refl _
  · rw [generation]
    by_cases begins : call = .begin
    · subst begins
      rw [if_pos rfl]
      exact iff_of_false (Nat.ne_of_lt (Nat.lt_succ_of_le follows.notAhead))
        (absurd List.mem_cons_self)
    · rw [if_neg begins, List.mem_cons, not_or]
      apply follows.current.trans
      apply (and_iff_right _).symm
      intro equal
      cases equal
      exact begins rfl
  · exact follows.collected
  · exact follows.own
  · exact follows.refused.trans (overtaken_cons rfl).symm
  · intro spares
    rcases onlyCalls_other.mp spares with ⟨spared, sparedBefore⟩
    rw [Work.hear, follows.current.mpr (sparedBefore .begin)] at spared
    rw [Work.hear, spared.call_eq]
    exact follows.shares sparedBefore

/-- As long as nobody else has begun a request, what is offered is stored and collected. -/
theorem offer_current (follows : WorkFollows job session history work)
    (fresh : kind ∉ (offers history).map Offer.kind)
    (current : work.request.generation = work.session.generation) :
    WorkFollows job session (.offered (work.offer kind (job.result kind)) :: history)
      (work.afterOffer kind (job.result kind)) := by
  have unbegun := follows.current.mp current
  have absent : kind ∉ work.request.collected.kinds := by
    rw [follows.collected]
    exact fun member => fresh (kinds_received_sublist.subset member)
  rw [Work.afterOffer, Work.offer, Request.finish_current current]
  constructor
  · exact follows.generation
  · exact follows.notAhead
  · apply follows.current.trans
    simp
  · rw [received_offered rfl, ← follows.collected]
    exact Results.insert_of_not_mem absent
  · exact follows.own_offered _
  · rw [overtaken_offered, offers_offered]
    apply iff_of_false _ unbegun
    rintro ⟨offer, member, refused⟩
    rcases List.mem_append.mp member with earlier | last
    · exact unbegun (follows.refused.mp ⟨offer, earlier, refused⟩).begun
    · rw [List.mem_singleton.mp last] at refused
      cases refused
  · intro spares
    apply congrArg (Results.insert · kind (job.result kind))
    exact follows.shares ((onlyCalls_own rfl).mp spares)

/-- Once somebody else has begun a request, what is offered is dropped. -/
theorem offer_stale (follows : WorkFollows job session history work)
    (stale : work.request.generation ≠ work.session.generation) :
    WorkFollows job session (.offered (work.offer kind (job.result kind)) :: history)
      (work.afterOffer kind (job.result kind)) := by
  have begun : .other .begin ∈ history := by
    by_contra unbegun
    exact stale (follows.current.mpr unbegun)
  rw [Work.afterOffer, Work.offer, Request.finish_stale stale]
  constructor
  · exact follows.generation
  · exact follows.notAhead
  · apply follows.current.trans
    simp
  · rw [received_refused rfl]
    exact follows.collected
  · exact follows.own_offered _
  · rw [overtaken_offered, offers_offered]
    apply iff_of_true _ begun
    exact ⟨_, List.mem_append_right _ List.mem_cons_self, rfl⟩
  · intro spares
    exact False.elim (spares .begin (List.mem_cons_of_mem _ begun))

theorem step (follows : WorkFollows job session history work)
    (accounted : Accounted job history work) (step : WorkStep job workers work event next) :
    WorkFollows job session (event :: history) next := by
  cases step with
  | start | finish => exact follows.atWork rfl rfl rfl rfl
  | offer done =>
      by_cases current : work.request.generation = work.session.generation
      · exact follows.offer_current (accounted.not_mem_offers done) current
      · exact follows.offer_stale current
  | other call => exact follows.hear call

end WorkFollows

theorem WorkRun.follows (run : WorkRun job workers session history work) :
    WorkFollows job session history work := by
  induction run with
  | start => exact workFollows_start
  | step run step induction => exact induction.step run.accounted step

/-! ## Finished requests -/

theorem WorkRun.kinds_subperm (run : WorkRun job workers session history work)
    (finished : work.Finished) :
    work.request.collected.kinds.Subperm (distinct job.kinds) := by
  rw [run.follows.collected]
  exact kinds_received_sublist.subperm.trans
    (run.accounted.offers_of_finished finished).subperm

/-- No result is absent just if there is one for each kind that was asked for. -/
theorem WorkRun.covers_iff (run : WorkRun job workers session history work)
    (finished : work.Finished) :
    (distinct job.kinds).length ≤ work.request.collected.length ↔
      ∀ kind ∈ job.kinds, kind ∈ work.request.collected.kinds := by
  have subperm : List.Subperm _ _ := run.kinds_subperm finished
  have length : work.request.collected.kinds.length = work.request.collected.length :=
    List.length_map ..
  constructor
  · intro enough kind asked
    have perm := subperm.perm_of_length_le (length ▸ enough)
    exact perm.mem_iff.mpr (mem_distinct.mpr asked)
  · intro covers
    rw [← length]
    apply List.Subperm.length_le
    apply (nodup_distinct job.kinds).subperm
    intro kind member
    exact covers kind (mem_distinct.mp member)

end DumpLens
