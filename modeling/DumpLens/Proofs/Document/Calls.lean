import DumpLens.Document.Call
import DumpLens.Proofs.Document.Analyzed
import DumpLens.Proofs.Lookup
import Mathlib.Data.List.Induction

/-! Open documents over calls. A document is that of the last text that could be analysed
since its URI was closed, and no question finds a line without text. -/

namespace DumpLens

/-! ## Single calls -/

namespace DocumentCall

/-- The text that a call gives to a document. -/
def text? : DocumentCall → Option Text
  | opened _ text => some text
  | changed _ texts => some (texts.getLastD [])
  | closed _ | hover _ _ | definition _ _ | highlights _ _ => none

/-- A call opens or changes a document, and its text can be analysed. -/
def Sets (call : DocumentCall) (uri : Text) (document : Document) : Prop :=
  call.uri = uri ∧ ∃ text, call.text? = some text ∧ document.IsOf text

end DocumentCall

namespace Documents

variable {documents : Documents} {uri other : Text} {document : Document}

theorem find?_insert_same : (documents.insert uri document).find? uri = some document := by
  rw [insert, find?, List.lookup_cons_self]

theorem find?_close_same : (documents.close uri).find? uri = none :=
  lookup_filter_self

theorem find?_close_other (different : other ≠ uri) :
    (documents.close uri).find? other = documents.find? other :=
  lookup_filter_ne different

theorem find?_insert_other (different : other ≠ uri) :
    (documents.insert uri document).find? other = documents.find? other := by
  rw [insert, find?, List.lookup_cons, beq_false_of_ne different]
  exact find?_close_other different

/-- A call with a text succeeds just if the text can be analysed. -/
theorem call_of_text {call : DocumentCall} {text : Text} (gives : call.text? = some text) :
    documents.call call =
      match Document.analyze text with
      | .ok document => (.ok .done, documents.insert call.uri document)
      | .error cause => (.error (.analysis cause), documents) := by
  have settled (uri : Text) :
      documents.settle (documents.openText uri text) =
        match Document.analyze text with
        | .ok document => (.ok .done, documents.insert uri document)
        | .error cause => (.error (.analysis cause), documents) := by
    unfold openText
    cases Document.analyze text <;> rfl
  cases call with
  | opened uri own =>
      cases gives
      exact settled uri
  | changed uri texts =>
      cases gives
      exact settled uri
  | closed | hover | definition | highlights => cases gives

/-- A call without a text that closes no document leaves all as they are. -/
theorem call_of_question {call : DocumentCall} (gives : call.text? = none)
    (notClosed : call ≠ .closed call.uri) : (documents.call call).2 = documents := by
  cases call with
  | opened | changed => cases gives
  | closed uri => exact absurd rfl notClosed
  | hover | definition | highlights => rfl

/-- A document is open after a call if the call sets it, or if it was open before and the
call neither closes its URI nor sets another one. -/
theorem find?_call_eq_some_iff {call : DocumentCall} :
    ((documents.call call).2).find? uri = some document ↔
      call.Sets uri document ∨
        call ≠ .closed uri ∧ (∀ other, ¬ call.Sets uri other) ∧
          documents.find? uri = some document := by
  cases gives : call.text? with
  | some text =>
      have notClosed : call ≠ .closed uri := by
        rintro rfl
        cases gives
      have sets (other : Document) :
          call.Sets uri other ↔ call.uri = uri ∧ Document.analyze text = .ok other := by
        rw [DocumentCall.Sets, gives, Document.analyze_eq_ok_iff]
        simp
      rw [call_of_text gives]
      cases analyzed : Document.analyze text with
      | error cause => simp [sets, analyzed, notClosed]
      | ok own =>
          by_cases same : call.uri = uri
          · subst same
            simp [sets, analyzed, find?_insert_same]
          · simp [sets, same, notClosed, find?_insert_other (Ne.symm same)]
  | none =>
      have notSet (other : Document) : ¬ call.Sets uri other := by
        rintro ⟨_, text, impossible, _⟩
        rw [gives] at impossible
        cases impossible
      by_cases closes : call = .closed uri
      · rw [closes, Documents.call, find?_close_same]
        simp [DocumentCall.Sets, DocumentCall.text?]
      · by_cases closesOther : call = .closed call.uri
        · have different : uri ≠ call.uri := by
            intro equal
            rw [← equal] at closesOther
            exact closes closesOther
          rw [closesOther, Documents.call, find?_close_other different]
          rw [closesOther] at closes notSet
          simp [closes, notSet]
        · rw [call_of_question gives closesOther]
          simp [closes, notSet]

end Documents

/-! ## Questions -/

namespace Document

variable {document : Document}

theorem lineRange_ne_missingLine {line : Nat} (inside : line < document.lines.length) :
    document.lineRange line ≠ .error .missingLine := by
  rw [lineRange, List.getElem?_eq_getElem inside]
  intro missing
  rcases mapError_eq_error_iff.mp missing with ⟨cause, _, impossible⟩
  cases impossible

theorem lineSpans_of_spanAt {line : Int} {span : SourceSpan}
    (shows : document.spanAt line = some span) :
    document.lineSpans[line.toNat]? = some (some span) := by
  unfold spanAt at shows
  split at shows
  · exact Option.join_eq_some_iff.mp shows
  · cases shows

theorem lt_of_spanAt {line : Int} {span : SourceSpan} (shows : document.spanAt line = some span) :
    line.toNat < document.lineSpans.length :=
  (List.getElem?_eq_some_iff.mp (lineSpans_of_spanAt shows)).1

theorem hover_ne_missingLine (sameLength : document.lines.length = document.lineSpans.length)
    (line : Int) : document.hover line ≠ .error .missingLine := by
  intro missing
  unfold hover at missing
  split at missing
  · cases missing
  · rename_i span shows
    rcases bind_eq_error_iff.mp missing with failed | ⟨range, _, impossible⟩
    · exact lineRange_ne_missingLine (sameLength ▸ lt_of_spanAt shows) failed
    · cases impossible

theorem mem_linesWith {span : SourceSpan} {spans : LineSpans} {first line : Nat} :
    line ∈ linesWith span first spans ↔
      ∃ place, line = first + place ∧ spans[place]? = some (some span) := by
  induction spans generalizing first with
  | nil => simp [linesWith]
  | cons own spans induction =>
      have later : line ∈ linesWith span (first + 1) spans ↔
          ∃ place, line = first + (place + 1) ∧ spans[place]? = some (some span) := by
        simp only [induction, Nat.add_assoc, Nat.add_comm 1]
      rw [← Nat.or_exists_add_one]
      by_cases same : own = some span
      · simp [linesWith, same, later]
      · simp [linesWith, same, later]

theorem highlights_eq_ok_iff {number : Int} {span : SourceSpan}
    {answer : Option (List EditorRange)} (shows : document.spanAt number = some span) :
    document.highlights number = .ok answer ↔
      ∃ ranges, List.Forall₂ (fun line range => document.lineRange line = .ok range)
        (linesWith span 0 document.lineSpans) ranges ∧ answer = some ranges := by
  have asked : document.highlights number = (do
      let ranges ← (linesWith span 0 document.lineSpans).mapM document.lineRange
      pure (some ranges)) := by
    rw [highlights, shows]
  rw [asked, bind_eq_ok_iff]
  simp only [mapM_eq_ok_iff, pure, Except.pure, Except.ok.injEq, @eq_comm _ _ answer]

theorem highlights_ne_missingLine
    (sameLength : document.lines.length = document.lineSpans.length) (line : Int) :
    document.highlights line ≠ .error .missingLine := by
  intro missing
  unfold highlights at missing
  split at missing
  · cases missing
  · rename_i span shows
    rcases bind_eq_error_iff.mp missing with failed | ⟨ranges, _, impossible⟩
    · rcases exists_of_mapM_eq_error failed with ⟨own, member, ownFailed⟩
      rcases mem_linesWith.mp member with ⟨place, rfl, shown⟩
      have inside := (List.getElem?_eq_some_iff.mp shown).1
      rw [← sameLength, ← Nat.zero_add place] at inside
      exact lineRange_ne_missingLine inside ownFailed
    · cases impossible

/-- A place is refused for the URI of its file, or where the file is known for its range. -/
theorem definition_eq_error_iff {uri : Text} {line : Int} {cause : QueryError} :
    document.definition uri line = .error cause ↔
      ∃ span, document.spanAt line = some span ∧
        ((∃ own, document.sourceUri? uri = .error own ∧ cause = .uri own) ∨
          ∃ target own, document.sourceUri? uri = .ok (some target) ∧
            EditorRange.ofSpan span = .error own ∧ cause = .position own) := by
  constructor
  · intro refused
    unfold definition at refused
    split at refused
    · cases refused
    · rename_i span shows
      refine ⟨span, shows, ?_⟩
      rcases bind_eq_error_iff.mp refused with failed | ⟨found, isFound, later⟩
      · rcases mapError_eq_error_iff.mp failed with ⟨own, noUri, rfl⟩
        exact .inl ⟨own, noUri, rfl⟩
      · cases found with
        | none => cases later
        | some target =>
            rcases bind_eq_error_iff.mp later with failed | ⟨range, _, impossible⟩
            · rcases mapError_eq_error_iff.mp failed with ⟨own, noRange, rfl⟩
              exact .inr ⟨target, own, mapError_eq_ok_iff.mp isFound, noRange, rfl⟩
            · cases impossible
  · rintro ⟨span, shows, ⟨own, noUri, rfl⟩ | ⟨target, own, isFound, noRange, rfl⟩⟩
    · rw [definition, shows]
      exact bind_eq_error_iff.mpr (.inl (mapError_eq_error_iff.mpr ⟨own, noUri, rfl⟩))
    · rw [definition, shows]
      refine bind_eq_error_iff.mpr (.inr ⟨some target, mapError_eq_ok_iff.mpr isFound, ?_⟩)
      exact bind_eq_error_iff.mpr (.inl (mapError_eq_error_iff.mpr ⟨own, noRange, rfl⟩))

theorem definition_ne_missingLine (document : Document) (uri : Text) (line : Int) :
    document.definition uri line ≠ .error .missingLine := by
  intro missing
  rcases definition_eq_error_iff.mp missing with
    ⟨_, _, ⟨_, _, impossible⟩ | ⟨_, _, _, _, impossible⟩⟩
  · cases impossible
  · cases impossible

end Document

namespace Documents

theorem map_query_eq_error_iff {α : Type} {question : Except QueryError α}
    {answer : α → DocumentAnswer} {cause : QueryError} :
    (question.mapError CallError.query).map answer = .error (.query cause) ↔
      question = .error cause := by
  simp [mapError_eq_error_iff]

/-- Where all open documents have a span entry for every line, no call looks for a line
that is not there. -/
theorem call_ne_missingLine {documents : Documents}
    (sameLength : ∀ uri document, documents.find? uri = some document →
      document.lines.length = document.lineSpans.length) (call : DocumentCall) :
    (documents.call call).1 ≠ .error (.query .missingLine) := by
  intro missing
  cases gives : call.text? with
  | some text =>
      rw [call_of_text gives] at missing
      cases analyzed : Document.analyze text with
      | error cause =>
          rw [analyzed] at missing
          cases missing
      | ok document =>
          rw [analyzed] at missing
          cases missing
  | none =>
      cases call with
      | opened | changed => cases gives
      | closed uri => cases missing
      | hover uri line =>
          have failed := map_query_eq_error_iff.mp missing
          unfold hover at failed
          split at failed
          · rename_i document isOpen
            exact document.hover_ne_missingLine (sameLength uri document isOpen) line failed
          · cases failed
      | definition uri line =>
          have failed := map_query_eq_error_iff.mp missing
          unfold definition at failed
          split at failed
          · rename_i document _
            exact document.definition_ne_missingLine uri line failed
          · cases failed
      | highlights uri line =>
          have failed := map_query_eq_error_iff.mp missing
          unfold highlights at failed
          split at failed
          · rename_i document isOpen
            exact document.highlights_ne_missingLine (sameLength uri document isOpen) line failed
          · cases failed

end Documents

/-! ## Runs of calls -/

/-- The last call that sets the document of a URI, since which no call has closed it. -/
def LastSet (calls : List DocumentCall) (uri : Text) (document : Document) : Prop :=
  ∃ before call after, calls = before ++ call :: after ∧ call.Sets uri document ∧
    ∀ later ∈ after, later ≠ .closed uri ∧ ∀ other, ¬ later.Sets uri other

theorem not_lastSet_nil {uri : Text} {document : Document} : ¬ LastSet [] uri document := by
  rintro ⟨before, call, after, impossible, _⟩
  cases before <;> cases impossible

theorem lastSet_concat {calls : List DocumentCall} {call : DocumentCall} {uri : Text}
    {document : Document} :
    LastSet (calls ++ [call]) uri document ↔
      call.Sets uri document ∨
        call ≠ .closed uri ∧ (∀ other, ¬ call.Sets uri other) ∧ LastSet calls uri document := by
  constructor
  · rintro ⟨before, setting, after, parts, sets, nothingLater⟩
    rcases List.eq_nil_or_concat after with rfl | ⟨earlier, last, rfl⟩
    · rcases List.append_inj_right' parts rfl with same
      cases same
      exact .inl sets
    · rw [List.concat_eq_append, ← List.cons_append, ← List.append_assoc] at parts
      rcases List.append_inj' parts rfl with ⟨rfl, same⟩
      cases same
      have nothing := nothingLater call (by simp)
      refine .inr ⟨nothing.1, nothing.2, before, setting, earlier, rfl, sets, ?_⟩
      intro later member
      exact nothingLater later (by simp [member])
  · rintro (sets | ⟨notClosed, notSet, before, setting, after, rfl, sets, nothingLater⟩)
    · exact ⟨calls, call, [], rfl, sets, fun _ impossible => by cases impossible⟩
    · refine ⟨before, setting, after ++ [call], by simp, sets, ?_⟩
      intro later member
      rcases List.mem_append.mp member with earlier | last
      · exact nothingLater later earlier
      · rw [List.mem_singleton.mp last]
        exact ⟨notClosed, notSet⟩

/-- Some call sets a document of a URI, and no call has closed it since. -/
def IsSet (calls : List DocumentCall) (uri : Text) : Prop :=
  ∃ before call after, calls = before ++ call :: after ∧ (∃ document, call.Sets uri document) ∧
    .closed uri ∉ after

theorem isSet_iff {calls : List DocumentCall} {uri : Text} :
    IsSet calls uri ↔ ∃ document, LastSet calls uri document := by
  constructor
  · rintro ⟨before, call, after, rfl, ⟨document, sets⟩, notClosed⟩
    induction after using List.reverseRecOn with
    | nil => exact ⟨document, lastSet_concat.mpr (.inl sets)⟩
    | append_singleton after last induction =>
        rw [List.mem_append, List.mem_singleton, not_or] at notClosed
        rw [← List.cons_append, ← List.append_assoc]
        by_cases setsAgain : ∃ other, last.Sets uri other
        · rcases setsAgain with ⟨other, sets⟩
          exact ⟨other, lastSet_concat.mpr (.inl sets)⟩
        · rcases induction notClosed.1 with ⟨other, lastSet⟩
          have notSet := not_exists.mp setsAgain
          exact ⟨other, lastSet_concat.mpr (.inr ⟨Ne.symm notClosed.2, notSet, lastSet⟩)⟩
  · rintro ⟨document, before, call, after, parts, sets, nothingLater⟩
    refine ⟨before, call, after, parts, ⟨document, sets⟩, ?_⟩
    intro closed
    exact (nothingLater _ closed).1 rfl

namespace Documents

theorem afterCalls_concat (calls : List DocumentCall) (call : DocumentCall) :
    afterCalls (calls ++ [call]) = ((afterCalls calls).call call).2 := by
  rw [afterCalls, List.foldl_append]
  rfl

/-- After a run the open documents are those that were set last. -/
theorem find?_afterCalls_eq_some_iff {calls : List DocumentCall} {uri : Text}
    {document : Document} :
    (afterCalls calls).find? uri = some document ↔ LastSet calls uri document := by
  induction calls using List.reverseRecOn with
  | nil => exact iff_of_false (by intro impossible; cases impossible) not_lastSet_nil
  | append_singleton calls call induction =>
      rw [afterCalls_concat, find?_call_eq_some_iff, lastSet_concat, induction]

end Documents

/-- What one call does to open documents. -/
structure KeepsDocuments (documents : Documents) (call : DocumentCall) : Prop where
  failed : ∀ cause, (documents.call call).1 = .error cause → (documents.call call).2 = documents
  question : call.text? = none → call ≠ .closed call.uri → (documents.call call).2 = documents
  others : ∀ uri, uri ≠ call.uri →
    ((documents.call call).2).find? uri = documents.find? uri
  /-- An opening or a change fails just if its text cannot be analysed. -/
  analyzed : ∀ text, call.text? = some text →
    ((∃ cause, (documents.call call).1 = .error cause) ↔
      ∀ document : Document, ¬ document.IsOf text)

theorem call_keepsDocuments (documents : Documents) (call : DocumentCall) :
    KeepsDocuments documents call := by
  refine ⟨?_, Documents.call_of_question, ?_, ?_⟩
  · intro cause failed
    cases gives : call.text? with
    | some text =>
        rw [Documents.call_of_text gives] at failed ⊢
        cases analyzed : Document.analyze text with
        | error own => rfl
        | ok document =>
            rw [analyzed] at failed
            cases failed
    | none =>
        refine Documents.call_of_question gives ?_
        intro closes
        rw [closes] at failed
        cases failed
  · intro uri different
    refine Option.ext fun document => ?_
    have notSet (other : Document) : ¬ call.Sets uri other := fun sets => different sets.1.symm
    have notClosed : call ≠ .closed uri := by
      rintro rfl
      exact different rfl
    rw [Documents.find?_call_eq_some_iff]
    simp [notSet, notClosed]
  · intro text gives
    rw [Documents.call_of_text gives]
    simp only [← Document.analyze_eq_ok_iff]
    cases Document.analyze text with
    | error cause => simp
    | ok document => simp

/-- After any run of calls a URI has a document just if one was set since the URI was closed,
and the document is that of the last text which could be analysed. It has a span entry for
every line, so no further call looks for a line that is not there, and what that call can
change is known. -/
theorem afterCalls_keepsLastAnalyses (calls : List DocumentCall) :
    (∀ uri, (∃ document, (Documents.afterCalls calls).find? uri = some document) ↔
      IsSet calls uri) ∧
    (∀ uri document, (Documents.afterCalls calls).find? uri = some document ↔
      LastSet calls uri document) ∧
    (∀ uri document, (Documents.afterCalls calls).find? uri = some document →
      document.lines.length = document.lineSpans.length) ∧
    ∀ call, KeepsDocuments (Documents.afterCalls calls) call ∧
      ((Documents.afterCalls calls).call call).1 ≠ .error (.query .missingLine) := by
  have isOpen {uri : Text} {document : Document} :
      (Documents.afterCalls calls).find? uri = some document ↔ LastSet calls uri document :=
    Documents.find?_afterCalls_eq_some_iff
  have sameLength : ∀ uri document, (Documents.afterCalls calls).find? uri = some document →
      document.lines.length = document.lineSpans.length := by
    intro uri document found
    rcases isOpen.mp found with ⟨_, _, _, _, ⟨_, text, _, isOf⟩, _⟩
    exact isOf.length_eq
  refine ⟨?_, fun _ _ => isOpen, sameLength, ?_⟩
  · intro uri
    rw [isSet_iff]
    exact exists_congr fun _ => isOpen
  · intro call
    exact ⟨call_keepsDocuments _ call, Documents.call_ne_missingLine sameLength call⟩

end DumpLens
