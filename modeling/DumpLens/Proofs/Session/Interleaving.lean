import DumpLens.Proofs.Session.Results

/-! Several requests in one session. They begin and store results in any order, and a
history tells what has happened so far, the newest event first. -/

namespace DumpLens

variable {Id Kind : Type}

/-! ## Requests and events -/

/-- What a request asks for, and what comes of compiling for each kind. -/
structure Job (Kind : Type) where
  kinds : List Kind
  compile : Kind → Compilation

def Job.result (job : Job Kind) (kind : Kind) : CompileResult :=
  (job.compile kind).settled

/-- A step of one of the requests. -/
inductive SessionEvent (Id Kind : Type)
  | begin (id : Id)
  | store (id : Id) (kind : Kind)
  deriving DecidableEq, Repr

/-- A session, the requests that have begun in it, and the kinds for which each of them
still has to store its result. -/
structure SharedSession (Id Kind : Type) where
  session : Session Kind
  requests : Id → Option (Request Kind)
  pending : Id → List Kind

namespace SharedSession

/-- A session without requests. -/
def start : SharedSession Id Kind :=
  ⟨.start, fun _ => none, fun _ => []⟩

variable [DecidableEq Id]

/-- One request has changed, and the session with it. -/
def put (shared : SharedSession Id Kind) (id : Id) (session : Session Kind)
    (request : Request Kind) (pending : List Kind) : SharedSession Id Kind where
  session := session
  requests other := if other = id then some request else shared.requests other
  pending other := if other = id then pending else shared.pending other

@[simp] theorem put_session (shared : SharedSession Id Kind) (id : Id) (session : Session Kind)
    (request : Request Kind) (pending : List Kind) :
    (shared.put id session request pending).session = session := rfl

@[simp] theorem put_requests_same (shared : SharedSession Id Kind) (id : Id)
    (session : Session Kind) (request : Request Kind) (pending : List Kind) :
    (shared.put id session request pending).requests id = some request :=
  if_pos rfl

@[simp] theorem put_pending_same (shared : SharedSession Id Kind) (id : Id)
    (session : Session Kind) (request : Request Kind) (pending : List Kind) :
    (shared.put id session request pending).pending id = pending :=
  if_pos rfl

theorem put_requests_other (shared : SharedSession Id Kind) {id other : Id}
    (session : Session Kind) (request : Request Kind) (pending : List Kind)
    (different : other ≠ id) :
    (shared.put id session request pending).requests other = shared.requests other :=
  if_neg different

theorem put_pending_other (shared : SharedSession Id Kind) {id other : Id}
    (session : Session Kind) (request : Request Kind) (pending : List Kind)
    (different : other ≠ id) :
    (shared.put id session request pending).pending other = shared.pending other :=
  if_neg different

end SharedSession

/-! ## Histories -/

variable {history : List (SessionEvent Id Kind)} {id other : Id} {kind : Kind}

/-- No request has begun after this one. -/
def Latest (history : List (SessionEvent Id Kind)) (id : Id) : Prop :=
  ∃ later earlier, history = later ++ .begin id :: earlier ∧ ∀ other, .begin other ∉ later

/-- A request has stored its result for a kind before any later request began. -/
def StoredInTime (history : List (SessionEvent Id Kind)) (id : Id) (kind : Kind) : Prop :=
  ∃ later earlier, history = later ++ .store id kind :: earlier ∧ Latest earlier id

theorem Latest.begun (latest : Latest history id) : .begin id ∈ history := by
  rcases latest with ⟨later, earlier, rfl, _⟩
  exact List.mem_append_right later List.mem_cons_self

theorem not_latest_nil : ¬ Latest ([] : List (SessionEvent Id Kind)) id := by
  intro latest
  cases latest.begun

theorem latest_begin : Latest (.begin other :: history) id ↔ other = id := by
  constructor
  · intro ⟨later, earlier, equal, nothing⟩
    cases later with
    | nil =>
        cases equal
        rfl
    | cons event later =>
        cases equal
        exact absurd List.mem_cons_self (nothing other)
  · intro equal
    exact ⟨[], history, by rw [equal]; rfl, fun _ => List.not_mem_nil⟩

theorem latest_store : Latest (.store other kind :: history) id ↔ Latest history id := by
  constructor
  · intro ⟨later, earlier, equal, nothing⟩
    cases later with
    | nil => cases equal
    | cons event later =>
        cases equal
        exact ⟨later, earlier, rfl, fun request member =>
          nothing request (List.mem_cons_of_mem _ member)⟩
  · intro ⟨later, earlier, equal, nothing⟩
    refine ⟨.store other kind :: later, earlier, by rw [equal]; rfl, ?_⟩
    intro request member
    cases member with
    | tail _ member => exact nothing request member

theorem Latest.unique (latest : Latest history id) (otherLatest : Latest history other) :
    id = other := by
  induction history with
  | nil => exact absurd latest not_latest_nil
  | cons event history induction =>
      cases event with
      | begin newest => rw [← latest_begin.mp latest, ← latest_begin.mp otherLatest]
      | store late kind => exact induction (latest_store.mp latest) (latest_store.mp otherLatest)

theorem StoredInTime.stored (inTime : StoredInTime history id kind) :
    .store id kind ∈ history := by
  rcases inTime with ⟨later, earlier, rfl, _⟩
  exact List.mem_append_right later List.mem_cons_self

theorem storedInTime_begin :
    StoredInTime (.begin other :: history) id kind ↔ StoredInTime history id kind := by
  constructor
  · intro ⟨later, earlier, equal, latest⟩
    cases later with
    | nil => cases equal
    | cons event later =>
        cases equal
        exact ⟨later, earlier, rfl, latest⟩
  · intro ⟨later, earlier, equal, latest⟩
    exact ⟨.begin other :: later, earlier, by rw [equal]; rfl, latest⟩

theorem storedInTime_store {otherKind : Kind} :
    StoredInTime (.store other otherKind :: history) id kind ↔
      (other = id ∧ otherKind = kind ∧ Latest history id) ∨ StoredInTime history id kind := by
  constructor
  · intro ⟨later, earlier, equal, latest⟩
    cases later with
    | nil =>
        cases equal
        exact .inl ⟨rfl, rfl, latest⟩
    | cons event later =>
        cases equal
        exact .inr ⟨later, earlier, rfl, latest⟩
  · rintro (⟨rfl, rfl, latest⟩ | ⟨later, earlier, equal, latest⟩)
    · exact ⟨[], history, rfl, latest⟩
    · exact ⟨.store other otherKind :: later, earlier, by rw [equal]; rfl, latest⟩

/-! ## Steps and runs -/

variable [DecidableEq Id] [DecidableEq Kind]

/-- A request begins once, and then stores its result for each of its kinds once. -/
inductive SessionStep (jobs : Id → Job Kind) :
    SharedSession Id Kind → SessionEvent Id Kind → SharedSession Id Kind → Prop
  | begin {shared : SharedSession Id Kind} {id : Id} :
      shared.requests id = none →
      SessionStep jobs shared (.begin id)
        (shared.put id (Request.start shared.session).1 (Request.start shared.session).2
          (distinct (jobs id).kinds))
  | store {shared : SharedSession Id Kind} {id : Id} {kind : Kind} {request : Request Kind} :
      shared.requests id = some request → kind ∈ shared.pending id →
      SessionStep jobs shared (.store id kind)
        (shared.put id (request.finish shared.session kind ((jobs id).result kind)).2.1
          (request.finish shared.session kind ((jobs id).result kind)).2.2
          ((shared.pending id).erase kind))

/-- What a history leads to from a session without requests. -/
inductive SessionRun (jobs : Id → Job Kind) :
    List (SessionEvent Id Kind) → SharedSession Id Kind → Prop
  | start : SessionRun jobs [] .start
  | step {history : List (SessionEvent Id Kind)} {event : SessionEvent Id Kind}
      {shared next : SharedSession Id Kind} :
      SessionRun jobs history shared → SessionStep jobs shared event next →
      SessionRun jobs (event :: history) next

/-! ## Whole requests -/

variable {jobs : Id → Job Kind} {shared : SharedSession Id Kind} {surroundings : Surroundings Kind}

/-- The session once a kind has compiled. -/
def RequestRun.sessionAfter (request : RequestRun Kind) (surroundings : Surroundings Kind)
    (kind : Kind) : Session Kind :=
  if (surroundings.compile kind).invocation.isSome
  then surroundings.meanwhile kind request.session else request.session

/-- A result that the session does not store is dropped. -/
theorem RequestRun.step_dropped {request : RequestRun Kind} {after : Session Kind}
    {collecting : Request Kind} (going : request.failure = none)
    (dropped : request.request.finish (request.sessionAfter surroundings kind) kind
      (surroundings.compile kind).settled = (false, after, collecting)) :
    request.step surroundings kind =
      ⟨after, request.invocations ++ (surroundings.compile kind).invocation.toList, collecting,
        request.received, none⟩ := by
  rw [sessionAfter] at dropped
  simp only [step, going, dropped]

/-- A result that the session stores is given to the receiver. -/
theorem RequestRun.step_stored {request : RequestRun Kind} {after : Session Kind}
    {collecting : Request Kind} (going : request.failure = none)
    (stored : request.request.finish (request.sessionAfter surroundings kind) kind
      (surroundings.compile kind).settled = (true, after, collecting)) :
    request.step surroundings kind =
      ⟨(surroundings.receive kind (surroundings.compile kind).settled after).1,
        request.invocations ++ (surroundings.compile kind).invocation.toList, collecting,
        request.received ++ [(kind, (surroundings.compile kind).settled)],
        (surroundings.receive kind (surroundings.compile kind).settled after).2.map
          .receiver⟩ := by
  rw [sessionAfter] at stored
  simp only [step, going, stored]

/-- A change of the session that is made of steps of other requests. -/
def ByOthers (jobs : Id → Job Kind) (id : Id) (change : Session Kind → Session Kind) : Prop :=
  ∀ history shared, SessionRun jobs history shared →
    ∃ later next, SessionRun jobs (later ++ history) next ∧
      next.session = change shared.session ∧
      next.requests id = shared.requests id ∧ next.pending id = shared.pending id

/-- What goes on around a request is made of steps of other requests, and the receiver of
results does not fail. -/
structure Surroundings.OfOthers (surroundings : Surroundings Kind) (jobs : Id → Job Kind)
    (id : Id) : Prop where
  compile : (jobs id).compile = surroundings.compile
  meanwhile : ∀ kind, ByOthers jobs id (surroundings.meanwhile kind)
  receive : ∀ kind result, ByOthers jobs id fun session =>
    (surroundings.receive kind result session).1
  received : ∀ kind result session, (surroundings.receive kind result session).2 = none

/-- A request on its way is one of the requests of a run. -/
structure RequestRun.IsOf (request : RequestRun Kind) (jobs : Id → Job Kind)
    (history : List (SessionEvent Id Kind)) (id : Id) (kinds : List Kind) : Prop where
  going : request.failure = none
  shared : ∃ shared, SessionRun jobs history shared ∧ shared.session = request.session ∧
    shared.requests id = some request.request ∧ shared.pending id = kinds

/-- Once the other requests have had their turn, a result is stored. -/
theorem RequestRun.IsOf.step {request : RequestRun Kind} {kinds : List Kind}
    (isOf : request.IsOf jobs history id (kind :: kinds))
    (others : surroundings.OfOthers jobs id) :
    ∃ later, (request.step surroundings kind).IsOf jobs (later ++ history) id kinds := by
  rcases isOf with ⟨going, shared, run, same, requested, pending⟩
  have compiled : ∃ later next, SessionRun jobs (later ++ history) next ∧
      next.session = request.sessionAfter surroundings kind ∧
      next.requests id = some request.request ∧ next.pending id = kind :: kinds := by
    rw [RequestRun.sessionAfter]
    split
    · rcases others.meanwhile kind history shared run with
        ⟨later, next, nextRun, changed, kept, left⟩
      refine ⟨later, next, nextRun, ?_, kept.trans requested, left.trans pending⟩
      rw [changed, same]
    · exact ⟨[], shared, run, same, requested, pending⟩
  rcases compiled with ⟨later, next, nextRun, changed, kept, left⟩
  have waiting : kind ∈ next.pending id := left ▸ List.mem_cons_self
  have stores := nextRun.step (SessionStep.store kept waiting)
  have own : (jobs id).result kind = (surroundings.compile kind).settled := by
    rw [Job.result, others.compile]
  rw [own, changed, left, List.erase_cons_head] at stores
  rcases finished : request.request.finish (request.sessionAfter surroundings kind) kind
    (surroundings.compile kind).settled with ⟨stored, after, collecting⟩
  rw [finished] at stores
  cases stored with
  | false =>
      rw [RequestRun.step_dropped going finished]
      refine ⟨.store id kind :: later, rfl, _, stores, rfl, ?_, ?_⟩
      · exact SharedSession.put_requests_same ..
      · exact SharedSession.put_pending_same ..
  | true =>
      rw [RequestRun.step_stored going finished]
      rcases others.receive kind (surroundings.compile kind).settled _ _ stores with
        ⟨latest, last, lastRun, received, collected, remaining⟩
      refine ⟨latest ++ .store id kind :: later, ?_, last, ?_, received, ?_, ?_⟩
      · exact congrArg (Option.map RequestError.receiver) (others.received ..)
      · rw [List.append_assoc]
        exact lastRun
      · exact collected.trans (SharedSession.put_requests_same ..)
      · exact remaining.trans (SharedSession.put_pending_same ..)

/-- A whole request is a request of a run: it begins, and then stores a result for each
of its kinds while other requests take their steps. -/
theorem compileAll_isOf (run : SessionRun jobs history shared)
    (fresh : shared.requests id = none) (workers : 0 < surroundings.workers)
    (others : surroundings.OfOthers jobs id) :
    ∃ later, (compileAll surroundings shared.session (jobs id).kinds).IsOf jobs
      (later ++ history) id [] := by
  have steps (kinds : List Kind) : ∀ (request : RequestRun Kind)
      (history : List (SessionEvent Id Kind)), request.IsOf jobs history id kinds →
      ∃ later, (kinds.foldl (RequestRun.step surroundings) request).IsOf jobs
        (later ++ history) id [] := by
    induction kinds with
    | nil =>
        intro request history isOf
        exact ⟨[], isOf⟩
    | cons kind kinds induction =>
        intro request history isOf
        rcases isOf.step others with ⟨later, stepped⟩
        rcases induction _ _ stepped with ⟨latest, finished⟩
        refine ⟨latest ++ later, ?_⟩
        rw [List.append_assoc]
        exact finished
  have begun := run.step (SessionStep.begin fresh)
  have first : (⟨(Request.start shared.session).1, [], (Request.start shared.session).2, [],
      none⟩ : RequestRun Kind).IsOf jobs (.begin id :: history) id (distinct (jobs id).kinds) :=
    ⟨rfl, _, begun, rfl, SharedSession.put_requests_same .., SharedSession.put_pending_same ..⟩
  rcases steps _ _ _ first with ⟨later, finished⟩
  have whole : compileAll surroundings shared.session (jobs id).kinds =
      (distinct (jobs id).kinds).foldl (RequestRun.step surroundings)
        ⟨(Request.start shared.session).1, [], (Request.start shared.session).2, [], none⟩ :=
    if_neg (Int.not_le.mpr workers)
  refine ⟨later ++ [.begin id], ?_⟩
  rw [List.append_assoc, whole]
  exact finished

end DumpLens
