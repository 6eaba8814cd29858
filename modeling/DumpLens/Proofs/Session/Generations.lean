import DumpLens.Proofs.Session.Results
import DumpLens.Session.Call
import Mathlib.Data.List.Induction

/-! Sessions by the calls that they have had. Generations count the calls that begin a request,
and what is stored for a kind is what was stored for it last since the latest of them. -/

namespace DumpLens

variable {Kind : Type} [DecidableEq Kind] {session : Session Kind} {call : SessionCall Kind}
  {calls : List (SessionCall Kind)} {kind : Kind} {result : CompileResult}

/-! ## Calls -/

/-- How many calls begin a request. -/
def begins (calls : List (SessionCall Kind)) : Nat :=
  calls.count .begin

/-- The last call that has stored a result for a kind, under the generation of its time. No
request has begun since, so a later one under that generation would have been accepted too. -/
def LastStored (calls : List (SessionCall Kind)) (kind : Kind) (result : CompileResult) : Prop :=
  ∃ before after, calls = before ++ .store (begins before) kind result :: after ∧
    .begin ∉ after ∧ ∀ other, .store (begins before) kind other ∉ after

theorem begins_concat :
    begins (calls ++ [call]) = if call = .begin then begins calls + 1 else begins calls := by
  rw [begins, List.count_append, List.count_singleton]
  split <;> simp_all [begins]

theorem begins_of_stored {before after : List (SessionCall Kind)} {generation : Int}
    (nothing : .begin ∉ after) :
    begins (before ++ .store generation kind result :: after) = begins before := by
  simp [begins, List.count_append, List.count_eq_zero_of_not_mem nothing]

theorem not_lastStored_nil : ¬ LastStored ([] : List (SessionCall Kind)) kind result := by
  rintro ⟨before, after, impossible, _⟩
  cases before <;> cases impossible

theorem lastStored_concat :
    LastStored (calls ++ [call]) kind result ↔
      call = .store (begins calls) kind result ∨
        call ≠ .begin ∧ (∀ other, call ≠ .store (begins calls) kind other) ∧
          LastStored calls kind result := by
  constructor
  · rintro ⟨before, after, parts, notBegun, notStored⟩
    rcases List.eq_nil_or_concat after with rfl | ⟨earlier, last, rfl⟩
    · rcases List.append_inj' parts rfl with ⟨rfl, same⟩
      cases same
      exact .inl rfl
    · rw [List.concat_eq_append, ← List.cons_append, ← List.append_assoc] at parts
      rcases List.append_inj' parts rfl with ⟨rfl, same⟩
      cases same
      rw [List.concat_eq_append, List.mem_append, List.mem_singleton, not_or] at notBegun
      rw [begins_of_stored notBegun.1]
      refine .inr ⟨Ne.symm notBegun.2, ?_, before, earlier, rfl, notBegun.1, ?_⟩
      · rintro other rfl
        exact notStored other (by simp)
      · intro other member
        exact notStored other (by simp [member])
  · rintro (rfl | ⟨notBegun, notStored, before, after, rfl, notBegunAfter, notStoredAfter⟩)
    · exact ⟨calls, [], rfl, List.not_mem_nil, fun _ => List.not_mem_nil⟩
    · rw [begins_of_stored notBegunAfter] at notStored
      refine ⟨before, after ++ [call], by simp, ?_, ?_⟩
      · simp [notBegunAfter, Ne.symm notBegun]
      · intro other
        simp [notStoredAfter other, Ne.symm (notStored other)]

/-! ## Single steps -/

namespace Session

theorem generation_call :
    ((session.call call).2).generation =
      if call = .begin then session.generation + 1 else session.generation := by
  cases call with
  | begin => rfl
  | store generation kind result =>
      simp only [Session.call, store]
      split <;> rfl
  | result | results => rfl

/-- A result is stored after a call that stores it, and after any other that neither begins a
request nor stores another one for the kind. -/
theorem result?_call_eq_some_iff :
    ((session.call call).2).result? kind = some result ↔
      call = .store session.generation kind result ∨
        call ≠ .begin ∧ (∀ other, call ≠ .store session.generation kind other) ∧
          session.result? kind = some result := by
  cases call with
  | begin => simp [Session.call, begin, result?, Results.find?]
  | store generation own stored =>
      by_cases current : generation = session.generation
      · subst current
        simp only [Session.call, store, result?]
        by_cases same : own = kind
        · subst same
          simp [Results.find?_insert_same]
        · simp [Results.find?_insert_other (Ne.symm same), same]
      · simp [Session.call, store, current]
  | result | results => simp [Session.call]

theorem nodup_kinds_call (nodup : session.results.kinds.Nodup) :
    ((session.call call).2).results.kinds.Nodup := by
  cases call with
  | begin => exact List.nodup_nil
  | store generation kind result =>
      simp only [Session.call, store]
      split
      · exact Results.nodup_kinds_insert nodup
      · exact nodup
  | result | results => exact nodup

/-! ## Runs -/

theorem afterCalls_concat (session : Session Kind) (calls : List (SessionCall Kind))
    (call : SessionCall Kind) :
    session.afterCalls (calls ++ [call]) = ((session.afterCalls calls).call call).2 := by
  rw [afterCalls, List.foldl_append]
  rfl

theorem generation_afterCalls (calls : List (SessionCall Kind)) :
    (start.afterCalls calls).generation = begins calls := by
  induction calls using List.reverseRecOn with
  | nil => rfl
  | append_singleton calls call induction =>
      rw [afterCalls_concat, generation_call, begins_concat, induction]

theorem result?_afterCalls_eq_some_iff :
    (start.afterCalls calls).result? kind = some result ↔ LastStored calls kind result := by
  induction calls using List.reverseRecOn with
  | nil => exact iff_of_false (by intro impossible; cases impossible) not_lastStored_nil
  | append_singleton calls call induction =>
      rw [afterCalls_concat, result?_call_eq_some_iff, lastStored_concat, generation_afterCalls,
        induction]

theorem nodup_kinds_afterCalls (calls : List (SessionCall Kind)) :
    (start.afterCalls calls).results.kinds.Nodup := by
  induction calls using List.reverseRecOn with
  | nil => exact List.nodup_nil
  | append_singleton calls call induction =>
      rw [afterCalls_concat]
      exact nodup_kinds_call induction

end Session

/-! ## What a session answers -/

/-- What a session answers, and what it keeps, by the calls that it has had. -/
structure FollowsCalls (calls : List (SessionCall Kind)) (session : Session Kind) : Prop where
  begun : (session.call .begin).1 = .begun (begins calls + 1)
  stored : ∀ generation kind result, (session.call (.store generation kind result)).1 =
    .stored (decide (generation = begins calls))
  refused : ∀ generation kind result,
    (session.call (.store generation kind result)).1 = .stored false →
      (session.call (.store generation kind result)).2 = session
  found : ∀ kind, ∃ found, session.call (.result kind) = (.result found, session) ∧
    ∀ result, found = some result ↔ LastStored calls kind result
  all : ∃ results, session.call .results = (.results results, session) ∧ results.kinds.Nodup ∧
    ∀ kind result, (kind, result) ∈ results ↔ LastStored calls kind result

theorem followsCalls_afterCalls (calls : List (SessionCall Kind)) :
    FollowsCalls calls (Session.start.afterCalls calls) := by
  have generation := Session.generation_afterCalls calls
  have nodup := Session.nodup_kinds_afterCalls calls
  constructor
  · rw [← generation]
    rfl
  · intro given kind result
    rw [← generation]
    simp only [Session.call, Session.store]
    split <;> simp_all
  · intro given kind result notStored
    simp only [Session.call, Session.store] at notStored ⊢
    split at notStored
    · cases notStored
    · rename_i stale
      rw [if_neg stale]
  · intro kind
    exact ⟨_, rfl, fun result => Session.result?_afterCalls_eq_some_iff⟩
  · refine ⟨_, rfl, nodup, ?_⟩
    intro kind result
    rw [← Results.find?_eq_some_iff_mem nodup]
    exact Session.result?_afterCalls_eq_some_iff

/-- What is stored was stored behind the latest call that begins a request. -/
theorem LastStored.mem_after {before after : List (SessionCall Kind)}
    (last : LastStored (before ++ .begin :: after) kind result) :
    .store (begins (before ++ .begin :: after)) kind result ∈ after := by
  rcases last with ⟨front, back, parts, notBegun, _⟩
  rw [parts, begins_of_stored notBegun]
  rcases List.append_eq_append_iff.mp parts with ⟨between, rfl, rest⟩ | ⟨between, rfl, rest⟩
  · cases between with
    | nil => cases rest
    | cons first between =>
        cases rest
        exact List.mem_append_right between List.mem_cons_self
  · cases between with
    | nil => cases rest
    | cons first between =>
        cases rest
        exact absurd (List.mem_append_right between List.mem_cons_self) notBegun

/-- After any calls a session answers by the calls alone. No two calls that begin a request get
the same generation, and nothing is shown that was stored before the latest of them. -/
theorem afterCalls_followHistory (calls : List (SessionCall Kind)) :
    FollowsCalls calls (Session.start.afterCalls calls) ∧
    (∀ before between, calls = before ++ .begin :: between →
      ((Session.start.afterCalls before).call .begin).1 ≠
        ((Session.start.afterCalls calls).call .begin).1) ∧
    ∀ before after, calls = before ++ .begin :: after → ∀ kind result,
      (Session.start.afterCalls calls).result? kind = some result →
        .store (begins calls) kind result ∈ after := by
  refine ⟨followsCalls_afterCalls calls, ?_, ?_⟩
  · rintro before between rfl
    rw [(followsCalls_afterCalls _).begun, (followsCalls_afterCalls _).begun]
    simp [begins]
  · rintro before after rfl kind result shown
    exact (Session.result?_afterCalls_eq_some_iff.mp shown).mem_after

end DumpLens
