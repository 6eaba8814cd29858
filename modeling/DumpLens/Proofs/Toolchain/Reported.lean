import DumpLens.Proofs.Text.Digits
import DumpLens.Toolchain.Compile

/-! How compilations end. A source that cannot be written, a compiler that is not there and one
that does not end in time make a result that says so. Of what the system does only two things
leave a compilation without a result: the compiler fails to start in another way, and its time
runs out where the time has too many digits to be told. -/

namespace DumpLens

/-! ## What the system does -/

section

variable (toolchain : Toolchain) (config : CompilerConfig) (source kind : Text)

/-- The compiler was started on the source, and this is how that ended. -/
def Toolchain.Ends (outcome : ProcessOutcome) : Prop :=
  ∃ file, toolchain.sourceFile = .ok file ∧
    toolchain.run ⟨buildCommand file kind config toolchain.managerPath, config.timeout, source⟩ =
      outcome

/-- The compiler ran and ended by itself. -/
def Toolchain.Finishes : Prop :=
  ∃ code output messages, toolchain.Ends config source kind (.exited code output messages)

/-- What the compiler is stopped by, in words. -/
inductive Toolchain.Stops : Text → Prop
  | unwritten {reason : Text} (noFile : toolchain.sourceFile = .error reason) :
      Stops ("Failed to write source: ".toList ++ reason)
  | missing {reason : Text} (ends : toolchain.Ends config source kind (.notFound reason)) :
      Stops ("Failed to run rustc: ".toList ++ reason)
  | late (ends : toolchain.Ends config source kind .timedOut)
      (writable : (Text.ofNat config.timeout.natAbs).length ≤ Numeral.limit) :
      Stops ("Failed to run rustc: timed out after ".toList ++ Text.ofInt config.timeout ++ ['s'])

/-- What leaves a compilation without a result. -/
inductive Toolchain.Breaks : SystemFailure → Prop
  | start {failure : SystemFailure} (ends : toolchain.Ends config source kind (.failed failure)) :
      Breaks failure
  | late (ends : toolchain.Ends config source kind .timedOut)
      (unwritable : Numeral.limit < (Text.ofNat config.timeout.natAbs).length) :
      Breaks .tooLarge

end

variable {toolchain : Toolchain} {config : CompilerConfig} {source kind message : Text}
  {outcome : ProcessOutcome} {failure : SystemFailure} {error : CompileError}
  {result : CompileResult}

theorem Toolchain.Stops.failedTo (stops : toolchain.Stops config source kind message) :
    "Failed to ".toList <+: message := by
  cases stops with
  | unwritten => exact ⟨"write source: ".toList ++ _, rfl⟩
  | missing => exact ⟨"run rustc: ".toList ++ _, rfl⟩
  | late => exact ⟨"run rustc: timed out after ".toList ++ Text.ofInt config.timeout ++ ['s'], rfl⟩

/-! ## Running the compiler -/

theorem Toolchain.Ends.result_eq (ends : toolchain.Ends config source kind outcome) :
    (runCompiler toolchain config source kind).result = outcome.result config.timeout := by
  rcases ends with ⟨file, hasFile, rfl⟩
  simp only [runCompiler, hasFile]

theorem ProcessOutcome.result_timedOut_of_short {timeout : Int}
    (short : (Text.ofNat timeout.natAbs).length ≤ Numeral.limit) :
    timedOut.result timeout = .error (.toolchain
      ("Failed to run rustc: timed out after ".toList ++ Text.ofInt timeout ++ ['s'])) := by
  rw [result.eq_def, Numeral.write?_of_short short]

theorem ProcessOutcome.result_timedOut_of_long {timeout : Int}
    (long : Numeral.limit < (Text.ofNat timeout.natAbs).length) :
    timedOut.result timeout = .error (.system .tooLarge) := by
  rw [result.eq_def, Numeral.write?_of_long long]

theorem Toolchain.Stops.result_eq (stops : toolchain.Stops config source kind message) :
    (runCompiler toolchain config source kind).result = .error (.toolchain message) := by
  cases stops with
  | unwritten noFile => simp only [runCompiler, noFile]
  | missing ends => exact ends.result_eq
  | late ends writable =>
      exact ends.result_eq.trans (ProcessOutcome.result_timedOut_of_short writable)

theorem Toolchain.Breaks.result_eq (breaks : toolchain.Breaks config source kind failure) :
    (runCompiler toolchain config source kind).result = .error (.system failure) := by
  cases breaks with
  | start ends => exact ends.result_eq
  | late ends unwritable =>
      exact ends.result_eq.trans (ProcessOutcome.result_timedOut_of_long unwritable)

/-- The compiler finishes, or is stopped by something that has words, or something breaks. -/
theorem Toolchain.finishes_or (toolchain : Toolchain) (config : CompilerConfig)
    (source kind : Text) :
    toolchain.Finishes config source kind ∨
      (∃ message, toolchain.Stops config source kind message) ∨
      ∃ failure, toolchain.Breaks config source kind failure := by
  cases written : toolchain.sourceFile with
  | error reason => exact .inr (.inl ⟨_, .unwritten written⟩)
  | ok file =>
      cases ran : toolchain.run
        ⟨buildCommand file kind config toolchain.managerPath, config.timeout, source⟩ with
      | exited code output messages => exact .inl ⟨code, output, messages, file, written, ran⟩
      | notFound reason => exact .inr (.inl ⟨_, .missing ⟨file, written, ran⟩⟩)
      | failed failure => exact .inr (.inr ⟨_, .start ⟨file, written, ran⟩⟩)
      | timedOut =>
          have ends : toolchain.Ends config source kind .timedOut := ⟨file, written, ran⟩
          rcases Nat.lt_or_ge Numeral.limit (Text.ofNat config.timeout.natAbs).length with
            many | few
          · exact .inr (.inr ⟨_, .late ends many⟩)
          · exact .inr (.inl ⟨_, .late ends few⟩)

theorem runCompiler_eq_ok_iff :
    (runCompiler toolchain config source kind).result = .ok result ↔
      ∃ code output messages, toolchain.Ends config source kind (.exited code output messages) ∧
        result = ⟨code == 0, Utf8.repair output, Utf8.repair messages⟩ := by
  constructor
  · intro compiled
    rcases toolchain.finishes_or config source kind with
      ⟨code, output, messages, ends⟩ | ⟨message, stops⟩ | ⟨failure, breaks⟩
    · rw [ends.result_eq] at compiled
      cases compiled
      exact ⟨code, output, messages, ends, rfl⟩
    · cases stops.result_eq.symm.trans compiled
    · cases breaks.result_eq.symm.trans compiled
  · rintro ⟨code, output, messages, ends, rfl⟩
    exact ends.result_eq

theorem runCompiler_eq_toolchain_iff :
    (runCompiler toolchain config source kind).result = .error (.toolchain message) ↔
      toolchain.Stops config source kind message := by
  refine ⟨?_, Toolchain.Stops.result_eq⟩
  intro stopped
  rcases toolchain.finishes_or config source kind with
    ⟨code, output, messages, ends⟩ | ⟨own, stops⟩ | ⟨failure, breaks⟩
  · cases ends.result_eq.symm.trans stopped
  · cases stops.result_eq.symm.trans stopped
    exact stops
  · cases breaks.result_eq.symm.trans stopped

theorem runCompiler_eq_system_iff :
    (runCompiler toolchain config source kind).result = .error (.system failure) ↔
      toolchain.Breaks config source kind failure := by
  refine ⟨?_, Toolchain.Breaks.result_eq⟩
  intro broken
  rcases toolchain.finishes_or config source kind with
    ⟨code, output, messages, ends⟩ | ⟨message, stops⟩ | ⟨own, breaks⟩
  · cases ends.result_eq.symm.trans broken
  · cases stops.result_eq.symm.trans broken
  · cases breaks.result_eq.symm.trans broken
    exact breaks

/-! ## Compiling -/

theorem compileSource_eq_ok_iff :
    (compileSource toolchain config source kind).result = .ok result ↔
      (∃ code output messages, toolchain.Ends config source kind (.exited code output messages) ∧
        result = ⟨code == 0, Utf8.repair output, Utf8.repair messages⟩) ∨
      ∃ message, toolchain.Stops config source kind message ∧ result = ⟨false, [], message⟩ := by
  rw [← runCompiler_eq_ok_iff]
  simp only [← runCompiler_eq_toolchain_iff, compileSource]
  cases compiled : (runCompiler toolchain config source kind).result with
  | ok own => simp [compiled]
  | error cause => cases cause <;> simp [compiled, CompileResult.failed, eq_comm]

theorem compileSource_eq_error_iff :
    (compileSource toolchain config source kind).result = .error error ↔
      ∃ failure, error = .system failure ∧ toolchain.Breaks config source kind failure := by
  simp only [← runCompiler_eq_system_iff, compileSource]
  cases compiled : (runCompiler toolchain config source kind).result with
  | ok own => simp [compiled]
  | error cause => cases cause <;> simp [compiled, eq_comm]

/-- A text without halves is compiled as it is. -/
theorem compilePoints_ofText :
    compilePoints toolchain config (CodePoints.ofText source) (CodePoints.ofText kind) =
      compileSource toolchain config source kind := by
  have repaired (text : Text) : (CodePoints.ofText text).repaired = text := by
    rw [CodePoints.repaired, CodePoints.ofText, List.map_map]
    exact List.map_id text
  simp only [compilePoints, CodePoints.toText_ofText, repaired]
  cases toolchain.sourceFile with
  | error reason => rfl
  | ok file => rfl

/-- Unless something breaks there is a result, with success just if the compiler has exited with
code zero. Where the compiler does not finish the result has no dump, and says what has failed.
Only what breaks leaves a compilation without a result, and it always does. -/
theorem compileSource_reportsFailures (toolchain : Toolchain) (config : CompilerConfig)
    (source kind : Text) :
    ((∀ failure, ¬ toolchain.Breaks config source kind failure) →
      ∃ result, (compileSource toolchain config source kind).result = .ok result ∧
        (result.success = true ↔
          ∃ output messages, toolchain.Ends config source kind (.exited 0 output messages)) ∧
        (¬ toolchain.Finishes config source kind →
          ∃ message, toolchain.Stops config source kind message ∧
            "Failed to ".toList <+: message ∧ result = ⟨false, [], message⟩)) ∧
    (∀ error, (compileSource toolchain config source kind).result = .error error ↔
      ∃ failure, error = .system failure ∧ toolchain.Breaks config source kind failure) ∧
    compilePoints toolchain config (CodePoints.ofText source) (CodePoints.ofText kind) =
      compileSource toolchain config source kind := by
  refine ⟨?_, fun error => compileSource_eq_error_iff, compilePoints_ofText⟩
  intro unbroken
  cases compiled : (compileSource toolchain config source kind).result with
  | error error =>
      rcases compileSource_eq_error_iff.mp compiled with ⟨failure, _, breaks⟩
      exact absurd breaks (unbroken failure)
  | ok result =>
      refine ⟨result, rfl, ?_, ?_⟩
      · constructor
        · intro success
          rcases compileSource_eq_ok_iff.mp compiled with
            ⟨code, output, messages, ends, rfl⟩ | ⟨message, _, rfl⟩
          · cases eq_of_beq success
            exact ⟨output, messages, ends⟩
          · cases success
        · rintro ⟨output, messages, ends⟩
          have exited := compileSource_eq_ok_iff.mpr (.inl ⟨_, _, _, ends, rfl⟩)
          cases compiled.symm.trans exited
          rfl
      · intro unfinished
        rcases compileSource_eq_ok_iff.mp compiled with finished | ⟨message, stops, rfl⟩
        · rcases finished with ⟨code, output, messages, ends, _⟩
          exact absurd ⟨code, output, messages, ends⟩ unfinished
        · exact ⟨message, stops, stops.failedTo, rfl⟩

/-- A toolchain whose commands all end in one way. -/
def Toolchain.ending (outcome : ProcessOutcome) : Toolchain :=
  ⟨none, .ok (Path.ofText "/tmp/input.rs".toList), fun _ => outcome⟩

theorem compileSource_reportsFailures_missingCompiler :
    ∃ result, (compileSource (.ending (.notFound "rustup".toList)) .standard
        "fn main() {}".toList "mir".toList).result = .ok result ∧
      result = ⟨false, [], "Failed to run rustc: rustup".toList⟩ := by
  have ends : ∀ outcome, Toolchain.Ends (.ending (.notFound "rustup".toList)) .standard
      "fn main() {}".toList "mir".toList outcome → outcome = .notFound "rustup".toList := by
    rintro outcome ⟨file, _, rfl⟩
    rfl
  have unbroken : ∀ failure, ¬ Toolchain.Breaks (.ending (.notFound "rustup".toList)) .standard
      "fn main() {}".toList "mir".toList failure := by
    rintro failure (failed | ⟨late, _⟩)
    · cases ends _ failed
    · cases ends _ late
  rcases (compileSource_reportsFailures _ _ _ _).1 unbroken with ⟨result, compiled, _, stopped⟩
  rcases stopped (by rintro ⟨code, output, messages, exited⟩; cases ends _ exited) with
    ⟨message, stops, _, rfl⟩
  refine ⟨_, compiled, ?_⟩
  cases stops with
  | unwritten noFile => cases noFile
  | missing notFound =>
      cases ends _ notFound
      rfl
  | late late => cases ends _ late

/-- The compiler is there but may not be started. -/
def permissionDenied : SystemFailure :=
  .named "PermissionError".toList "denied".toList

/-- Where the compiler fails to start in another way than by being absent, there is no result
that says so. -/
theorem compileSource_breaks_permissionDenied :
    (compileSource (.ending (.failed permissionDenied)) .standard "fn main() {}".toList
      "mir".toList).result = .error (.system permissionDenied) ∧
    ¬ ∀ toolchain config source kind, ∃ result,
      (compileSource toolchain config source kind).result = .ok result := by
  refine ⟨rfl, ?_⟩
  intro always
  rcases always (.ending (.failed permissionDenied)) .standard [] [] with ⟨result, compiled⟩
  cases compiled

end DumpLens
