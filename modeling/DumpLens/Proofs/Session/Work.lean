import DumpLens.Proofs.Session.Generations
import DumpLens.Proofs.Session.NewestWins

/-! One request at work, among any calls of others on its session. Its kinds wait for a
worker, compile, and wait until their result is offered to the session, in whatever order. A
history tells what has happened since the request began, the newest event first. -/

namespace DumpLens

variable {Kind : Type}

/-! ## Events -/

/-- A result that was offered to the session, and whether the session stored it. -/
structure Offer (Kind : Type) where
  kind : Kind
  result : CompileResult
  accepted : Bool
  deriving DecidableEq, Repr

inductive WorkEvent (Kind : Type)
  | started (kind : Kind)
  | finished (kind : Kind)
  | offered (offer : Offer Kind)
  /-- Somebody else has called the session. -/
  | other (call : SessionCall Kind)
  deriving DecidableEq, Repr

namespace WorkEvent

def started? : WorkEvent Kind → Option Kind
  | started kind => some kind
  | finished _ | offered _ | other _ => none

def offer? : WorkEvent Kind → Option (Offer Kind)
  | offered offer => some offer
  | started _ | finished _ | other _ => none

/-- Whether the request itself takes the step. -/
def isOwn : WorkEvent Kind → Bool
  | started _ | finished _ | offered _ => true
  | other _ => false

end WorkEvent

variable {history : List (WorkEvent Kind)} {event : WorkEvent Kind}

/-- The kinds that were compiled, in the order in which they started. -/
def compiledKinds (history : List (WorkEvent Kind)) : List Kind :=
  (history.filterMap WorkEvent.started?).reverse

/-- What was offered to the session, in order. -/
def offers (history : List (WorkEvent Kind)) : List (Offer Kind) :=
  (history.filterMap WorkEvent.offer?).reverse

/-- What the receiver of results was given: what the session stored, in order. -/
def received (history : List (WorkEvent Kind)) : List (Kind × CompileResult) :=
  ((offers history).filter Offer.accepted).map fun offer => (offer.kind, offer.result)

theorem compiledKinds_started {kind : Kind} :
    compiledKinds (.started kind :: history) = compiledKinds history ++ [kind] :=
  List.reverse_cons

theorem offers_offered {offer : Offer Kind} :
    offers (.offered offer :: history) = offers history ++ [offer] :=
  List.reverse_cons

theorem kinds_received_sublist :
    (Results.kinds (received history)).Sublist ((offers history).map Offer.kind) := by
  rw [Results.kinds, received, List.map_map]
  exact List.filter_sublist.map Offer.kind

/-- Others have made allowed calls only. -/
def OnlyCalls (allowed : SessionCall Kind → Prop) (history : List (WorkEvent Kind)) : Prop :=
  ∀ call, .other call ∈ history → allowed call

theorem onlyCalls_nil (allowed : SessionCall Kind → Prop) : OnlyCalls allowed [] := by
  intro call member
  cases member

theorem onlyCalls_other {allowed : SessionCall Kind → Prop} {call : SessionCall Kind} :
    OnlyCalls allowed (.other call :: history) ↔ allowed call ∧ OnlyCalls allowed history := by
  constructor
  · intro only
    exact ⟨only call List.mem_cons_self,
      fun other member => only other (List.mem_cons_of_mem _ member)⟩
  · rintro ⟨isAllowed, only⟩ other member
    cases member with
    | head => exact isAllowed
    | tail _ member => exact only other member

theorem onlyCalls_own {allowed : SessionCall Kind → Prop} (own : event.isOwn = true) :
    OnlyCalls allowed (event :: history) ↔ OnlyCalls allowed history := by
  constructor
  · intro only other member
    exact only other (List.mem_cons_of_mem _ member)
  · intro only other member
    cases member with
    | head => cases own
    | tail _ member => exact only other member

/-! ## Steps and runs -/

/-- A request at work: its session, what it has collected, and its kinds that wait for a
worker, that compile, and whose results wait to be offered. -/
structure Work (Kind : Type) where
  session : Session Kind
  request : Request Kind
  waiting : List Kind
  busy : List Kind
  done : List Kind

/-- Everything was compiled and offered. -/
structure Work.Finished (work : Work Kind) : Prop where
  waiting : work.waiting = []
  busy : work.busy = []
  done : work.done = []

/-- How many steps a request has still to take, three for each kind that waits. -/
def Work.left (work : Work Kind) : Nat :=
  3 * work.waiting.length + 2 * work.busy.length + work.done.length

variable [DecidableEq Kind] {job : Job Kind} {workers : Int} {session : Session Kind}
  {work next : Work Kind} {kind : Kind}

namespace Work

def start (session : Session Kind) (kinds : List Kind) : Work Kind where
  session := (Request.start session).1
  request := (Request.start session).2
  waiting := distinct kinds
  busy := []
  done := []

/-- Somebody else calls the session. -/
def hear (work : Work Kind) (call : SessionCall Kind) : Work Kind :=
  { work with session := (work.session.call call).2 }

/-- What is offered for a kind that is done, and whether it is accepted now. -/
def offer (work : Work Kind) (kind : Kind) (result : CompileResult) : Offer Kind :=
  ⟨kind, result, (work.request.finish work.session kind result).1⟩

def afterOffer (work : Work Kind) (kind : Kind) (result : CompileResult) : Work Kind :=
  { work with
    session := (work.request.finish work.session kind result).2.1
    request := (work.request.finish work.session kind result).2.2
    done := work.done.erase kind }

end Work

/-- Workers take the kinds in turn, and each of them compiles one kind at a time. Results that
are done are offered in any order. -/
inductive WorkStep (job : Job Kind) (workers : Int) :
    Work Kind → WorkEvent Kind → Work Kind → Prop
  | start {work : Work Kind} {kind : Kind} {rest : List Kind} :
      work.waiting = kind :: rest → work.busy.length < workers →
      WorkStep job workers work (.started kind)
        { work with waiting := rest, busy := kind :: work.busy }
  | finish {work : Work Kind} {kind : Kind} :
      kind ∈ work.busy →
      WorkStep job workers work (.finished kind)
        { work with busy := work.busy.erase kind, done := kind :: work.done }
  | offer {work : Work Kind} {kind : Kind} :
      kind ∈ work.done →
      WorkStep job workers work (.offered (work.offer kind (job.result kind)))
        (work.afterOffer kind (job.result kind))
  | other {work : Work Kind} (call : SessionCall Kind) :
      WorkStep job workers work (.other call) (work.hear call)

/-- What a history leads to after a request has begun in a session. -/
inductive WorkRun (job : Job Kind) (workers : Int) (session : Session Kind) :
    List (WorkEvent Kind) → Work Kind → Prop
  | start : WorkRun job workers session [] (.start session job.kinds)
  | step {history : List (WorkEvent Kind)} {event : WorkEvent Kind} {work next : Work Kind} :
      WorkRun job workers session history work → WorkStep job workers work event next →
      WorkRun job workers session (event :: history) next

/-! ## Where the kinds are -/

/-- Every kind was compiled or waits for it, and every kind that was compiled is at one place. -/
structure Accounted (job : Job Kind) (history : List (WorkEvent Kind)) (work : Work Kind) :
    Prop where
  taken : compiledKinds history ++ work.waiting = distinct job.kinds
  places : (work.busy ++ work.done ++ (offers history).map Offer.kind).Perm
    (compiledKinds history)
  left : history.countP WorkEvent.isOwn + work.left = 3 * (distinct job.kinds).length

theorem accounted_start : Accounted job [] (.start session job.kinds) where
  taken := List.nil_append _
  places := .nil
  left := Nat.zero_add _

theorem Accounted.step (accounted : Accounted job history work)
    (step : WorkStep job workers work event next) : Accounted job (event :: history) next := by
  rcases accounted with ⟨taken, places, left⟩
  rw [Work.left] at left
  cases step with
  | start first free =>
      rename_i kind rest
      rw [first] at taken left
      constructor
      · rw [compiledKinds_started, List.append_assoc]
        exact taken
      · rw [compiledKinds_started]
        exact (places.cons kind).trans (List.perm_append_singleton kind _).symm
      · rw [← left, List.countP_cons_of_pos rfl, Work.left]
        simp only [List.length_cons]
        omega
  | finish busy =>
      rename_i kind
      have moved : (work.busy.erase kind ++ kind :: work.done).Perm (work.busy ++ work.done) :=
        List.perm_middle.trans ((List.perm_cons_erase busy).symm.append_right _)
      constructor
      · exact taken
      · exact (moved.append_right _).trans places
      · have positive := List.length_pos_of_mem busy
        rw [← left, List.countP_cons_of_pos rfl, Work.left]
        simp only [List.length_cons, List.length_erase_of_mem busy]
        omega
  | offer done =>
      rename_i kind
      have moved : (work.done.erase kind ++ ((offers history).map Offer.kind ++ [kind])).Perm
          (work.done ++ (offers history).map Offer.kind) := by
        rw [← List.append_assoc]
        apply (List.perm_append_singleton kind _).trans
        exact (List.perm_cons_erase done).symm.append_right _
      constructor
      · exact taken
      · rw [offers_offered, List.map_append, List.append_assoc]
        rw [List.append_assoc] at places
        exact (moved.append_left _).trans places
      · have positive := List.length_pos_of_mem done
        rw [← left, List.countP_cons_of_pos rfl, Work.left]
        simp only [Work.afterOffer, List.length_erase_of_mem done]
        omega
  | other call =>
      constructor
      · exact taken
      · exact places
      · rw [← left, List.countP_cons_of_neg Bool.false_ne_true]
        rfl

theorem WorkRun.accounted (run : WorkRun job workers session history work) :
    Accounted job history work := by
  induction run with
  | start => exact accounted_start
  | step run step induction => exact induction.step step

namespace Accounted

theorem nodup_compiledKinds (accounted : Accounted job history work) :
    (compiledKinds history).Nodup := by
  have whole := nodup_distinct job.kinds
  rw [← accounted.taken] at whole
  exact (List.nodup_append.mp whole).1

theorem nodup_places (accounted : Accounted job history work) :
    (work.busy ++ work.done ++ (offers history).map Offer.kind).Nodup :=
  accounted.places.nodup_iff.mpr accounted.nodup_compiledKinds

theorem nodup_offers (accounted : Accounted job history work) :
    ((offers history).map Offer.kind).Nodup :=
  (List.nodup_append.mp accounted.nodup_places).2.1

/-- Nothing is offered twice. -/
theorem not_mem_offers (accounted : Accounted job history work) (done : kind ∈ work.done) :
    kind ∉ (offers history).map Offer.kind := by
  have places := accounted.nodup_places
  rw [List.append_assoc] at places
  have apart := (List.nodup_append.mp (List.nodup_append.mp places).2.1).2.2
  exact fun offered => apart kind done kind offered rfl

theorem compiledKinds_of_finished (accounted : Accounted job history work)
    (finished : work.Finished) : compiledKinds history = distinct job.kinds := by
  rw [← accounted.taken, finished.waiting, List.append_nil]

/-- In the end there is one offer for each kind. -/
theorem offers_of_finished (accounted : Accounted job history work) (finished : work.Finished) :
    ((offers history).map Offer.kind).Perm (distinct job.kinds) := by
  have places := accounted.places
  rw [finished.busy, finished.done, accounted.compiledKinds_of_finished finished] at places
  exact places

end Accounted

/-! ## Progress -/

/-- Until everything is finished a request can take a step. -/
theorem Work.exists_step (job : Job Kind) (positive : 0 < workers) (going : ¬ work.Finished) :
    ∃ event next, WorkStep job workers work event next ∧ event.isOwn = true := by
  rcases work with ⟨session, request, waiting, busy, done⟩
  cases done with
  | cons kind done => exact ⟨_, _, .offer List.mem_cons_self, rfl⟩
  | nil =>
      cases busy with
      | cons kind busy => exact ⟨_, _, .finish List.mem_cons_self, rfl⟩
      | nil =>
          cases waiting with
          | cons kind waiting => exact ⟨_, _, .start rfl positive, rfl⟩
          | nil => exact absurd ⟨rfl, rfl, rfl⟩ going

end DumpLens
