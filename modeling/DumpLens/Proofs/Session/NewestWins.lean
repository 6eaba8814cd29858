import DumpLens.Proofs.Session.Interleaving

/-! The newest request wins. A result is stored and collected only as long as no later
request has begun, in whatever order requests begin and results are stored. -/

namespace DumpLens

variable {Id Kind : Type} [DecidableEq Kind] {jobs : Id → Job Kind}
  {history : List (SessionEvent Id Kind)} {shared : SharedSession Id Kind}

/-! ## Storing a result -/

/-- A request of the current generation stores and collects its result. -/
theorem Request.finish_current {request : Request Kind} {session : Session Kind} {kind : Kind}
    {result : CompileResult} (current : request.generation = session.generation) :
    request.finish session kind result =
      (true, { session with results := session.results.insert kind result },
        { request with collected := request.collected.insert kind result }) := by
  rw [finish, Session.store, if_pos (by rw [current])]

/-- A request of an earlier generation changes nothing. -/
theorem Request.finish_stale {request : Request Kind} {session : Session Kind} {kind : Kind}
    {result : CompileResult} (stale : request.generation ≠ session.generation) :
    request.finish session kind result = (false, session, request) := by
  have different : (request.generation : Int) ≠ session.generation := by
    intro equal
    exact stale (Int.ofNat.inj equal)
  rw [finish, Session.store, if_neg different]

/-! ## What holds of every history -/

/-- What a request that has begun has to do with the history and the session. -/
structure RequestFollows (jobs : Id → Job Kind) (history : List (SessionEvent Id Kind))
    (shared : SharedSession Id Kind) (id : Id) (request : Request Kind) : Prop where
  notAhead : request.generation ≤ shared.session.generation
  latest : request.generation = shared.session.generation ↔ Latest history id
  unique : request.collected.kinds.Nodup
  collected : ∀ kind result, request.collected.find? kind = some result ↔
    StoredInTime history id kind ∧ (jobs id).result kind = result
  pending : ∀ kind, kind ∈ (jobs id).kinds ↔
    kind ∈ shared.pending id ∨ .store id kind ∈ history
  /-- As long as no later request has begun, the session has what the request has, and no
  result was dropped. -/
  shares : Latest history id → shared.session.results = request.collected ∧
    ∀ kind, .store id kind ∈ history → StoredInTime history id kind

/-- What the session and its requests have to do with the history. -/
structure SessionFollows (jobs : Id → Job Kind) (history : List (SessionEvent Id Kind))
    (shared : SharedSession Id Kind) : Prop where
  begun : ∀ id request, shared.requests id = some request →
    RequestFollows jobs history shared id request
  absent : ∀ id, shared.requests id = none →
    .begin id ∉ history ∧ ∀ kind, .store id kind ∉ history
  unused : (∀ id, .begin id ∉ history) → shared.session.results = []

theorem sessionFollows_start : SessionFollows jobs [] .start where
  begun := by
    intro id request equal
    cases equal
  absent := by
    intro id _
    exact ⟨List.not_mem_nil, fun _ => List.not_mem_nil⟩
  unused := fun _ => rfl

theorem SessionFollows.request_of_latest {id : Id} (follows : SessionFollows jobs history shared)
    (latest : Latest history id) : ∃ request, shared.requests id = some request := by
  cases requested : shared.requests id with
  | none => exact absurd latest.begun (follows.absent id requested).1
  | some request => exact ⟨request, rfl⟩

/-- Every kind of a request is still pending or stored, also after one more is stored. -/
theorem RequestFollows.pending_store {id : Id} {kind : Kind} {request : Request Kind}
    (follows : RequestFollows jobs history shared id request)
    (waiting : kind ∈ shared.pending id) (other : Kind) :
    other ∈ (jobs id).kinds ↔ other ∈ (shared.pending id).erase kind ∨
      SessionEvent.store id other ∈ .store id kind :: history := by
  rw [follows.pending, List.mem_cons]
  by_cases same : other = kind
  · subst same
    exact ⟨fun _ => .inr (.inl rfl), fun _ => .inl waiting⟩
  · rw [List.mem_erase_of_ne same]
    constructor
    · rintro (member | stored)
      · exact .inl member
      · exact .inr (.inr stored)
    · rintro (member | equal | stored)
      · exact .inl member
      · cases equal
        exact absurd rfl same
      · exact .inr stored

/-- A request that is the latest has lost nothing that it stored. -/
theorem RequestFollows.find?_results {id : Id} {request : Request Kind} {kind : Kind}
    {result : CompileResult} (follows : RequestFollows jobs history shared id request)
    (latest : Latest history id) :
    shared.session.results.find? kind = some result ↔
      .store id kind ∈ history ∧ (jobs id).result kind = result := by
  rcases follows.shares latest with ⟨equal, complete⟩
  rw [equal, follows.collected]
  constructor
  · intro ⟨inTime, own⟩
    exact ⟨inTime.stored, own⟩
  · intro ⟨stored, own⟩
    exact ⟨complete kind stored, own⟩

/-- Once the latest request has stored everything, the session has its results for all of
its kinds. -/
theorem RequestFollows.find?_finished {id : Id} {request : Request Kind}
    (follows : RequestFollows jobs history shared id request) (latest : Latest history id)
    (finished : shared.pending id = []) (kind : Kind) :
    shared.session.results.find? kind =
      if kind ∈ (jobs id).kinds then some ((jobs id).result kind) else none := by
  have stored : kind ∈ (jobs id).kinds ↔ .store id kind ∈ history := by
    rw [follows.pending, finished]
    exact ⟨fun either => either.resolve_left List.not_mem_nil, .inr⟩
  by_cases asked : kind ∈ (jobs id).kinds
  · rw [if_pos asked]
    exact (follows.find?_results latest).mpr ⟨stored.mp asked, rfl⟩
  · rw [if_neg asked]
    refine Option.eq_none_iff_forall_ne_some.mpr ?_
    intro result found
    exact asked (stored.mpr ((follows.find?_results latest).mp found).1)

/-! ## Steps -/

variable [DecidableEq Id]

/-- A request that begins is the latest one, and has collected nothing. -/
theorem requestFollows_begin {id : Id} (unstored : ∀ kind, .store id kind ∉ history) :
    RequestFollows jobs (.begin id :: history)
      (shared.put id (Request.start shared.session).1 (Request.start shared.session).2
        (distinct (jobs id).kinds))
      id (Request.start shared.session).2 := by
  have never (kind : Kind) : .store id kind ∉ .begin id :: history := by
    intro member
    cases member with
    | tail _ member => exact unstored kind member
  constructor
  · exact Nat.le_refl _
  · exact ⟨fun _ => latest_begin.mpr rfl, fun _ => rfl⟩
  · exact List.nodup_nil
  · intro kind result
    constructor
    · intro found
      cases found
    · intro ⟨inTime, _⟩
      exact absurd inTime.stored (never kind)
  · intro kind
    rw [SharedSession.put_pending_same, mem_distinct]
    exact ⟨.inl, fun either => either.resolve_right (never kind)⟩
  · intro _
    exact ⟨rfl, fun kind stored => absurd stored (never kind)⟩

/-- A request that has begun earlier keeps what it has collected. -/
theorem RequestFollows.begin_other {id other : Id} {request : Request Kind}
    (follows : RequestFollows jobs history shared other request) (different : other ≠ id) :
    RequestFollows jobs (.begin id :: history)
      (shared.put id (Request.start shared.session).1 (Request.start shared.session).2
        (distinct (jobs id).kinds))
      other request := by
  have stored (kind : Kind) : .store other kind ∈ .begin id :: history ↔
      .store other kind ∈ history := by
    constructor
    · intro member
      cases member with
      | tail _ member => exact member
    · exact List.mem_cons_of_mem _
  have outdated : ¬ Latest (.begin id :: history) other := by
    intro latest
    exact different (latest_begin.mp latest).symm
  constructor
  · exact Nat.le_succ_of_le follows.notAhead
  · constructor
    · intro equal
      have behind : request.generation < shared.session.generation + 1 :=
        Nat.lt_succ_of_le follows.notAhead
      exact absurd equal (Nat.ne_of_lt behind)
    · intro latest
      exact absurd latest outdated
  · exact follows.unique
  · intro kind result
    rw [storedInTime_begin]
    exact follows.collected kind result
  · intro kind
    rw [SharedSession.put_pending_other _ _ _ _ different, stored]
    exact follows.pending kind
  · intro latest
    exact absurd latest outdated

theorem SessionFollows.begin {id : Id} (follows : SessionFollows jobs history shared)
    (fresh : shared.requests id = none) :
    SessionFollows jobs (.begin id :: history)
      (shared.put id (Request.start shared.session).1 (Request.start shared.session).2
        (distinct (jobs id).kinds)) := by
  constructor
  · intro other request requested
    by_cases same : other = id
    · subst same
      rw [SharedSession.put_requests_same] at requested
      cases requested
      exact requestFollows_begin (follows.absent other fresh).2
    · rw [SharedSession.put_requests_other _ _ _ _ same] at requested
      exact (follows.begun other request requested).begin_other same
  · intro other requested
    have different : other ≠ id := by
      intro equal
      rw [equal, SharedSession.put_requests_same] at requested
      cases requested
    rw [SharedSession.put_requests_other _ _ _ _ different] at requested
    rcases follows.absent other requested with ⟨unbegun, unstored⟩
    refine ⟨?_, fun kind => ?_⟩
    · intro member
      cases member with
      | head => exact different rfl
      | tail _ member => exact unbegun member
    · intro member
      cases member with
      | tail _ member => exact unstored kind member
  · intro unbegun
    exact absurd List.mem_cons_self (unbegun id)

/-- A result that is in time is stored and collected. -/
theorem RequestFollows.store_current {id : Id} {kind : Kind} {request : Request Kind}
    (follows : RequestFollows jobs history shared id request)
    (waiting : kind ∈ shared.pending id) (latest : Latest history id) :
    RequestFollows jobs (.store id kind :: history)
      (shared.put id
        { shared.session with
          results := shared.session.results.insert kind ((jobs id).result kind) }
        { request with collected := request.collected.insert kind ((jobs id).result kind) }
        ((shared.pending id).erase kind))
      id { request with collected := request.collected.insert kind ((jobs id).result kind) } := by
  have now : StoredInTime (.store id kind :: history) id kind :=
    storedInTime_store.mpr (.inl ⟨rfl, rfl, latest⟩)
  constructor
  · exact follows.notAhead
  · rw [latest_store]
    exact follows.latest
  · exact Results.nodup_kinds_insert follows.unique
  · intro other result
    by_cases same : other = kind
    · subst same
      rw [Results.find?_insert_same, Option.some_inj]
      exact ⟨fun equal => ⟨now, equal⟩, fun both => both.2⟩
    · rw [Results.find?_insert_other same, follows.collected, storedInTime_store]
      constructor
      · intro ⟨inTime, equal⟩
        exact ⟨.inr inTime, equal⟩
      · rintro ⟨⟨_, equalKind, _⟩ | inTime, equal⟩
        · exact absurd equalKind.symm same
        · exact ⟨inTime, equal⟩
  · intro other
    rw [SharedSession.put_pending_same]
    exact follows.pending_store waiting other
  · intro _
    rcases follows.shares latest with ⟨equal, complete⟩
    refine ⟨congrArg (Results.insert · kind ((jobs id).result kind)) equal, ?_⟩
    intro other stored
    cases stored with
    | head => exact now
    | tail _ stored => exact storedInTime_store.mpr (.inr (complete other stored))

/-- A result that comes too late is dropped. -/
theorem RequestFollows.store_stale {id : Id} {kind : Kind} {request : Request Kind}
    (follows : RequestFollows jobs history shared id request)
    (waiting : kind ∈ shared.pending id) (outdated : ¬ Latest history id) :
    RequestFollows jobs (.store id kind :: history)
      (shared.put id shared.session request ((shared.pending id).erase kind)) id request := by
  constructor
  · exact follows.notAhead
  · rw [latest_store]
    exact follows.latest
  · exact follows.unique
  · intro other result
    rw [follows.collected, storedInTime_store]
    constructor
    · intro ⟨inTime, equal⟩
      exact ⟨.inr inTime, equal⟩
    · rintro ⟨⟨_, _, latest⟩ | inTime, equal⟩
      · exact absurd latest outdated
      · exact ⟨inTime, equal⟩
  · intro other
    rw [SharedSession.put_pending_same]
    exact follows.pending_store waiting other
  · intro latest
    exact absurd (latest_store.mp latest) outdated

/-- What one request stores leaves the others as they are, if it stores nothing in the
session unless it is the latest. -/
theorem RequestFollows.store_other {id other : Id} {kind : Kind} {session : Session Kind}
    {request changed : Request Kind} {left : List Kind}
    (follows : RequestFollows jobs history shared other request) (different : other ≠ id)
    (generation : session.generation = shared.session.generation)
    (kept : ¬ Latest history id → session.results = shared.session.results) :
    RequestFollows jobs (.store id kind :: history) (shared.put id session changed left)
      other request := by
  have stored (otherKind : Kind) : SessionEvent.store other otherKind ∈ .store id kind :: history ↔
      SessionEvent.store other otherKind ∈ history := by
    constructor
    · intro member
      cases member with
      | head => exact absurd rfl different
      | tail _ member => exact member
    · exact List.mem_cons_of_mem _
  have inTime (otherKind : Kind) : StoredInTime (.store id kind :: history) other otherKind ↔
      StoredInTime history other otherKind := by
    rw [storedInTime_store]
    constructor
    · rintro (⟨equal, _⟩ | inTime)
      · exact absurd equal.symm different
      · exact inTime
    · exact .inr
  constructor
  · rw [SharedSession.put_session, generation]
    exact follows.notAhead
  · rw [SharedSession.put_session, generation, latest_store]
    exact follows.latest
  · exact follows.unique
  · intro otherKind result
    rw [inTime]
    exact follows.collected otherKind result
  · intro otherKind
    rw [SharedSession.put_pending_other _ _ _ _ different, stored]
    exact follows.pending otherKind
  · intro latest
    rw [latest_store] at latest
    rcases follows.shares latest with ⟨equal, complete⟩
    refine ⟨(kept fun latestToo => different (latest.unique latestToo)).trans equal, ?_⟩
    intro otherKind member
    rw [inTime]
    exact complete otherKind ((stored otherKind).mp member)

/-- Storing keeps what holds of the history, if it does for the request that stores. -/
theorem SessionFollows.put_store {id : Id} {kind : Kind} {session : Session Kind}
    {request changed : Request Kind} {left : List Kind}
    (follows : SessionFollows jobs history shared) (requested : shared.requests id = some request)
    (generation : session.generation = shared.session.generation)
    (kept : ¬ Latest history id → session.results = shared.session.results)
    (own : RequestFollows jobs (.store id kind :: history) (shared.put id session changed left)
      id changed) :
    SessionFollows jobs (.store id kind :: history) (shared.put id session changed left) := by
  constructor
  · intro other otherRequest otherRequested
    by_cases same : other = id
    · subst same
      rw [SharedSession.put_requests_same] at otherRequested
      cases otherRequested
      exact own
    · rw [SharedSession.put_requests_other _ _ _ _ same] at otherRequested
      exact (follows.begun other otherRequest otherRequested).store_other same generation kept
  · intro other otherRequested
    have different : other ≠ id := by
      intro equal
      rw [equal, SharedSession.put_requests_same] at otherRequested
      cases otherRequested
    rw [SharedSession.put_requests_other _ _ _ _ different] at otherRequested
    rcases follows.absent other otherRequested with ⟨unbegun, unstored⟩
    refine ⟨?_, fun otherKind => ?_⟩
    · intro member
      cases member with
      | tail _ member => exact unbegun member
    · intro member
      cases member with
      | head => exact different rfl
      | tail _ member => exact unstored otherKind member
  · intro unbegun
    have unbegunBefore (other : Id) : .begin other ∉ history := by
      intro member
      exact unbegun other (List.mem_cons_of_mem _ member)
    have outdated : ¬ Latest history id := by
      intro latest
      exact unbegunBefore id latest.begun
    exact (kept outdated).trans (follows.unused unbegunBefore)

theorem SessionFollows.store {id : Id} {kind : Kind} {request : Request Kind}
    (follows : SessionFollows jobs history shared) (requested : shared.requests id = some request)
    (waiting : kind ∈ shared.pending id) :
    SessionFollows jobs (.store id kind :: history)
      (shared.put id (request.finish shared.session kind ((jobs id).result kind)).2.1
        (request.finish shared.session kind ((jobs id).result kind)).2.2
        ((shared.pending id).erase kind)) := by
  have own := follows.begun id request requested
  by_cases current : request.generation = shared.session.generation
  · have latest := own.latest.mp current
    rw [Request.finish_current current]
    exact follows.put_store requested rfl (fun outdated => absurd latest outdated)
      (own.store_current waiting latest)
  · have outdated : ¬ Latest history id := fun latest => current (own.latest.mpr latest)
    rw [Request.finish_stale current]
    exact follows.put_store requested rfl (fun _ => rfl) (own.store_stale waiting outdated)

/-- Whatever happens in a session follows the history. -/
theorem SessionRun.follows (run : SessionRun jobs history shared) :
    SessionFollows jobs history shared := by
  induction run with
  | start => exact sessionFollows_start
  | step run step induction =>
      cases step with
      | begin fresh => exact induction.begin fresh
      | store requested waiting => exact induction.store requested waiting

/-! ## The newest request -/

/-- In whatever order requests begin and store their results, a request collects its own
result for just those of its kinds that were stored before a later request began. The
session has what the latest request has stored, and in the end all of its results. -/
theorem newest_request_wins (run : SessionRun jobs history shared) :
    (∀ id request, shared.requests id = some request →
      request.collected.kinds.Nodup ∧
      ∀ kind result, request.collected.find? kind = some result ↔
        kind ∈ (jobs id).kinds ∧ StoredInTime history id kind ∧
          (jobs id).result kind = result) ∧
    ((∀ id, .begin id ∉ history) → shared.session.results = []) ∧
    ∀ id, Latest history id →
      ∃ request, shared.requests id = some request ∧
        shared.session.results = request.collected ∧
        (∀ kind result, shared.session.results.find? kind = some result ↔
          .store id kind ∈ history ∧ (jobs id).result kind = result) ∧
        (shared.pending id = [] → ∀ kind, shared.session.results.find? kind =
          if kind ∈ (jobs id).kinds then some ((jobs id).result kind) else none) := by
  have follows := run.follows
  refine ⟨?_, follows.unused, ?_⟩
  · intro id request requested
    have own := follows.begun id request requested
    refine ⟨own.unique, ?_⟩
    intro kind result
    rw [own.collected]
    constructor
    · intro ⟨inTime, equal⟩
      exact ⟨(own.pending kind).mpr (.inr inTime.stored), inTime, equal⟩
    · intro ⟨_, inTime, equal⟩
      exact ⟨inTime, equal⟩
  · intro id latest
    rcases follows.request_of_latest latest with ⟨request, requested⟩
    have own := follows.begun id request requested
    exact ⟨request, requested, (own.shares latest).1, fun _ _ => own.find?_results latest,
      own.find?_finished latest⟩

/-- Requests that each compile for two kinds, and get their own number as the dump. -/
def numberedJobs (id : Nat) : Job Text where
  kinds := ["mir".toList, "hir".toList, "mir".toList]
  compile _ := ⟨none, [], .ok ⟨true, (Nat.repr id).toList, []⟩⟩

/-- The second request begins between the two results of the first one. -/
def lateResult : List (SessionEvent Nat Text) :=
  [.store 1 "mir".toList, .store 0 "hir".toList, .store 1 "hir".toList, .begin 1,
    .store 0 "mir".toList, .begin 0]

theorem newest_request_wins_lateResult :
    ∃ shared, SessionRun numberedJobs lateResult shared ∧
      ∀ kind ∈ (numberedJobs 1).kinds,
        shared.session.results.find? kind = some ⟨true, "1".toList, []⟩ := by
  have run : SessionRun numberedJobs lateResult _ :=
    .step (.step (.step (.step (.step (.step .start (.begin rfl)) (.store rfl (by decide)))
      (.begin rfl)) (.store rfl (by decide))) (.store rfl (by decide))) (.store rfl (by decide))
  have latest : Latest lateResult 1 :=
    latest_store.mpr (latest_store.mpr (latest_store.mpr (latest_begin.mpr rfl)))
  rcases (newest_request_wins run).2.2 1 latest with ⟨_, _, _, _, finished⟩
  refine ⟨_, run, ?_⟩
  intro kind asked
  exact (finished (by decide) kind).trans (if_pos asked)

end DumpLens
