import DumpLens.Hover
import Mathlib.Data.List.Induction

/-! Hovering in step with the source editor. An editor that does what it is asked shows what
hovering holds for active, which is the request of the last line with a span that was entered
since the pointer left. -/

namespace DumpLens

/-! ## Source editors -/

/-- A source editor, which shows one mark at most. -/
structure SourceEditor where
  mark : Option EditorHighlight
  deriving DecidableEq, Repr

namespace SourceEditor

def unmarked : SourceEditor := ⟨none⟩

/-- A request takes the place of the mark that is shown. -/
def obey (editor : SourceEditor) : EditorCall → SourceEditor
  | .highlight request => { editor with mark := some request }
  | .clear => { editor with mark := none }

def afterCalls (editor : SourceEditor) (calls : List EditorCall) : SourceEditor :=
  calls.foldl obey editor

variable {editor : SourceEditor}

theorem afterCalls_append (first second : List EditorCall) :
    editor.afterCalls (first ++ second) = (editor.afterCalls first).afterCalls second :=
  List.foldl_append

end SourceEditor

/-! ## Requests of lines -/

/-- A line asks to mark its span. It asks for whole lines if the span starts in the first
column and ends no later than there. -/
def RenderedLine.Asks (line : RenderedLine) (request : EditorHighlight) : Prop :=
  line.span = some request.range ∧
    (request.wholeLine = true ↔ request.range.startCol = 1 ∧ request.range.endCol ≤ 1)

theorem RenderedLine.editorHighlight_eq_some_iff {line : RenderedLine}
    {request : EditorHighlight} :
    line.editorHighlight = some request ↔ line.Asks request := by
  rcases request with ⟨range, wholeLine⟩
  have sameWhole : range.wholeLine = wholeLine ↔
      (wholeLine = true ↔ range.startCol = 1 ∧ range.endCol ≤ 1) := by
    rw [Bool.eq_iff_iff, SourceSpan.wholeLine, Bool.and_eq_true, beq_iff_eq, decide_eq_true_iff]
    exact Iff.comm
  rw [editorHighlight, Option.map_eq_some_iff, Asks, ← sameWhole]
  constructor
  · rintro ⟨span, shows, same⟩
    cases same
    exact ⟨shows, rfl⟩
  · rintro ⟨shows, rfl⟩
    exact ⟨range, shows, rfl⟩

theorem RenderedLine.Asks.span_ne_none {line : RenderedLine} {request : EditorHighlight}
    (asks : line.Asks request) : line.span ≠ none := by
  rw [asks.1]
  exact Option.some_ne_none _

/-! ## Single events -/

/-- How hovering reacts to an event: what is active before it, what the editor is asked, and
what is active afterwards. -/
inductive Reacts : Option EditorHighlight → HoverEvent → Option EditorCall →
    Option EditorHighlight → Prop
  | marks {active : Option EditorHighlight} {line : RenderedLine} {request : EditorHighlight}
      (asks : line.Asks request) :
      Reacts active (.enter line) (some (.highlight request)) (some request)
  | passes {active : Option EditorHighlight} {line : RenderedLine} (plain : line.span = none) :
      Reacts active (.enter line) none active
  | clears {request : EditorHighlight} : Reacts (some request) .leave (some .clear) none
  | rests : Reacts none .leave none none

/-- An event that neither marks anything nor finds a mark to clear. -/
def HoverEvent.Quiet (active : Option EditorHighlight) : HoverEvent → Prop
  | .enter line => line.span = none
  | .leave => active = none

theorem Hover.step_reacts (hover : Hover) (event : HoverEvent) :
    ∃ call : Option EditorCall, (hover.step event).1 = call.toList ∧
      Reacts hover.active event call (hover.step event).2.active := by
  cases event with
  | enter line =>
      cases asked : line.editorHighlight with
      | some request =>
          simp only [step, asked]
          exact ⟨_, rfl, .marks (RenderedLine.editorHighlight_eq_some_iff.mp asked)⟩
      | none =>
          simp only [step, asked]
          exact ⟨none, rfl, .passes (Option.map_eq_none_iff.mp asked)⟩
  | leave =>
      rcases hover with ⟨active⟩
      cases active with
      | some request => exact ⟨_, rfl, .clears⟩
      | none => exact ⟨none, rfl, .rests⟩

namespace Reacts

variable {active next : Option EditorHighlight} {event : HoverEvent} {call : Option EditorCall}

/-- An editor that shows what is active shows it after the reaction too. -/
theorem afterCalls_eq (reacts : Reacts active event call next) :
    (SourceEditor.mk active).afterCalls call.toList = ⟨next⟩ := by
  cases reacts with
  | marks | passes | clears | rests => rfl

theorem call_eq_none_iff (reacts : Reacts active event call next) :
    call = none ↔ event.Quiet active := by
  cases reacts with
  | marks asks => exact iff_of_false (Option.some_ne_none _) asks.span_ne_none
  | passes plain => exact iff_of_true rfl plain
  | clears => exact iff_of_false (Option.some_ne_none _) (Option.some_ne_none _)
  | rests => exact iff_of_true rfl rfl

theorem active_of_clear (reacts : Reacts active event (some .clear) next) :
    ∃ request, active = some request := by
  cases reacts with
  | clears => exact ⟨_, rfl⟩

theorem next_eq_some_iff {request : EditorHighlight} (reacts : Reacts active event call next) :
    next = some request ↔
      (∃ line, event = .enter line ∧ line.Asks request) ∨
        (∃ line, event = .enter line ∧ line.span = none) ∧ active = some request := by
  cases reacts with
  | @marks _ line own asks =>
      have plain : line.span ≠ none := asks.span_ne_none
      simp only [Option.some.injEq, HoverEvent.enter.injEq, exists_eq_left', plain, false_and,
        or_false]
      rw [← RenderedLine.editorHighlight_eq_some_iff] at asks ⊢
      rw [asks, Option.some.injEq]
  | @passes _ line plain =>
      have asksNothing : ¬ line.Asks request := fun asks => asks.span_ne_none plain
      simp [asksNothing, plain]
  | clears | rests => simp

end Reacts

/-! ## Histories -/

/-- Where one more entry ends a list, any entry of the list is that one or stands before. -/
theorem concat_eq_append_cons_iff {α : Type} {entries before after : List α} {last entry : α} :
    entries ++ [last] = before ++ entry :: after ↔
      entries = before ∧ last = entry ∧ after = [] ∨
        ∃ earlier, entries = before ++ entry :: earlier ∧ after = earlier ++ [last] := by
  constructor
  · intro same
    rcases List.eq_nil_or_concat after with rfl | ⟨earlier, own, rfl⟩
    · rcases List.append_inj' same rfl with ⟨rfl, single⟩
      cases single
      exact .inl ⟨rfl, rfl, rfl⟩
    · rw [List.concat_eq_append, ← List.cons_append, ← List.append_assoc] at same
      rcases List.append_inj' same rfl with ⟨rfl, single⟩
      cases single
      exact .inr ⟨earlier, rfl, List.concat_eq_append⟩
  · rintro (⟨rfl, rfl, rfl⟩ | ⟨earlier, rfl, rfl⟩)
    · rfl
    · simp

/-- The last line with a span that was entered asks for the request, and the pointer has not
left since. -/
def LastEntered (events : List HoverEvent) (request : EditorHighlight) : Prop :=
  ∃ before line after, events = before ++ .enter line :: after ∧ line.Asks request ∧
    .leave ∉ after ∧ ∀ other, .enter other ∈ after → other.span = none

theorem not_lastEntered_nil {request : EditorHighlight} : ¬ LastEntered [] request := by
  rintro ⟨before, line, after, impossible, _⟩
  cases before <;> cases impossible

theorem lastEntered_concat {events : List HoverEvent} {event : HoverEvent}
    {request : EditorHighlight} :
    LastEntered (events ++ [event]) request ↔
      (∃ line, event = .enter line ∧ line.Asks request) ∨
        (∃ line, event = .enter line ∧ line.span = none) ∧ LastEntered events request := by
  constructor
  · rintro ⟨before, line, after, parts, asks, notLeft, plainLater⟩
    rcases concat_eq_append_cons_iff.mp parts with ⟨_, rfl, _⟩ | ⟨earlier, rfl, rfl⟩
    · exact .inl ⟨line, rfl, asks⟩
    · rw [List.mem_append, List.mem_singleton, not_or] at notLeft
      refine .inr ⟨?_, before, line, earlier, rfl, asks, notLeft.1, ?_⟩
      · cases event with
        | enter other => exact ⟨other, rfl, plainLater other (by simp)⟩
        | leave => exact absurd rfl notLeft.2
      · intro other member
        exact plainLater other (List.mem_append_left _ member)
  · rintro (⟨line, rfl, asks⟩ | ⟨⟨passed, rfl, plain⟩, entered⟩)
    · exact ⟨events, line, [], rfl, asks, List.not_mem_nil, fun _ => by simp⟩
    · rcases entered with ⟨before, line, after, rfl, asks, notLeft, plainLater⟩
      refine ⟨before, line, after ++ [.enter passed], by simp, asks, by simp [notLeft], ?_⟩
      intro other member
      rcases List.mem_append.mp member with earlier | last
      · exact plainLater other earlier
      · cases List.mem_singleton.mp last
        exact plain

/-! ## Runs -/

namespace Hover

variable {events : List HoverEvent}

theorem run_append (hover : Hover) (first second : List HoverEvent) :
    hover.run (first ++ second) =
      ((hover.run first).1 ++ ((hover.run first).2.run second).1,
        ((hover.run first).2.run second).2) := by
  induction first generalizing hover with
  | nil => rfl
  | cons event first induction => simp only [List.cons_append, run, induction, List.append_assoc]

theorem run_concat_reacts (hover : Hover) (events : List HoverEvent) (event : HoverEvent) :
    ∃ call : Option EditorCall,
      (hover.run (events ++ [event])).1 = (hover.run events).1 ++ call.toList ∧
      Reacts (hover.run events).2.active event call (hover.run (events ++ [event])).2.active := by
  rcases (hover.run events).2.step_reacts event with ⟨call, asked, reacts⟩
  refine ⟨call, ?_, ?_⟩
  · simp only [run_append, run, List.append_nil, asked]
  · rw [run_append]
    exact reacts

theorem afterCalls_run (events : List HoverEvent) :
    SourceEditor.unmarked.afterCalls (idle.run events).1 = ⟨(idle.run events).2.active⟩ := by
  -- From the last event back, since what it finds active is what the editor shows by then.
  induction events using List.reverseRecOn with
  | nil => rfl
  | append_singleton events event induction =>
      rcases idle.run_concat_reacts events event with ⟨call, asked, reacts⟩
      rw [asked, SourceEditor.afterCalls_append, induction, reacts.afterCalls_eq]

theorem active_run_eq_some_iff {request : EditorHighlight} :
    (idle.run events).2.active = some request ↔ LastEntered events request := by
  induction events using List.reverseRecOn with
  | nil => exact iff_of_false (by intro impossible; cases impossible) not_lastEntered_nil
  | append_singleton events event induction =>
      rcases idle.run_concat_reacts events event with ⟨call, asked, reacts⟩
      rw [reacts.next_eq_some_iff, lastEntered_concat, induction]

theorem marked_before_clear {before after : List EditorCall}
    (clears : (idle.run events).1 = before ++ .clear :: after) :
    ∃ request, (SourceEditor.unmarked.afterCalls before).mark = some request := by
  induction events using List.reverseRecOn generalizing after with
  | nil => cases before <;> cases clears
  | append_singleton events event induction =>
      rcases idle.run_concat_reacts events event with ⟨call, asked, reacts⟩
      rw [asked] at clears
      cases call with
      | none => exact induction (by simpa using clears)
      | some call =>
          -- The clear is this last call, which finds a mark to clear, or one of the run before.
          rcases concat_eq_append_cons_iff.mp clears with ⟨rfl, rfl, _⟩ | ⟨earlier, inRun, _⟩
          · rw [afterCalls_run]
            exact reacts.active_of_clear
          · exact induction inRun

end Hover

/-! ## Hovering and the editor -/

/-- How hovering stands to the editor after events. -/
structure InStep (events : List HoverEvent) : Prop where
  /-- The editor that has obeyed all calls until now shows what is active. -/
  shown : (SourceEditor.unmarked.afterCalls (Hover.idle.run events).1).mark =
    (Hover.idle.run events).2.active
  active : ∀ request, (Hover.idle.run events).2.active = some request ↔
    LastEntered events request
  cleared : ∀ before after, (Hover.idle.run events).1 = before ++ .clear :: after →
    ∃ request, (SourceEditor.unmarked.afterCalls before).mark = some request
  /-- The next event adds a call to those until now, unless it is quiet. -/
  next : ∀ event, ∃ call : Option EditorCall,
    (Hover.idle.run (events ++ [event])).1 = (Hover.idle.run events).1 ++ call.toList ∧
      (call = none ↔ event.Quiet (Hover.idle.run events).2.active)

/-- Hovering and the editor agree after any events, and so after each step on the way. -/
theorem run_inStep (events : List HoverEvent) : InStep events := by
  refine ⟨?_, fun _ => Hover.active_run_eq_some_iff, fun _ _ => Hover.marked_before_clear, ?_⟩
  · rw [Hover.afterCalls_run]
  · intro event
    rcases Hover.idle.run_concat_reacts events event with ⟨call, asked, reacts⟩
    exact ⟨call, asked, reacts.call_eq_none_iff⟩

/-- The second line with a span takes over without a clear, and is cleared once. -/
example : Hover.idle.run [.leave, .enter ⟨[], some ⟨3, 5, 5, 10⟩, none⟩, .enter ⟨[], none, none⟩,
    .enter ⟨[], some ⟨4, 1, 4, 0⟩, none⟩, .leave, .leave] =
    ([.highlight ⟨⟨3, 5, 5, 10⟩, false⟩, .highlight ⟨⟨4, 1, 4, 0⟩, true⟩, .clear], Hover.idle) := by
  decide

end DumpLens
