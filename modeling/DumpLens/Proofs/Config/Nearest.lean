import DumpLens.CommandLine.Run
import DumpLens.Proofs.Failure
import Mathlib.Data.List.Induction
import Mathlib.Data.List.Infix

/-! The search for the configuration file. It goes up by one directory in each turn, so it ends at
the root at the latest, and it finds the file of the deepest directory on its way that has one.
Where there is none, the program acts under the standard configuration. -/

namespace DumpLens

namespace ConfigFinder

variable {tree : FileTree} {start directory nearest other : Place} {name : Text} {turns : Nat}
  {result : Option Place}

/-! ## Turns -/

/-- The turns of a search from a directory on, and its result. A turn finds a file, or goes up to
the parent, or ends the search at the directory that is its own parent. -/
inductive Search (tree : FileTree) : Place → Nat → Option Place → Prop
  | found {directory : Place} (present : tree.contains (directory ++ [configName]) = true) :
      Search tree directory 1 (some (directory ++ [configName]))
  | climbs {directory : Place} {turns : Nat} {result : Option Place}
      (absent : tree.contains (directory ++ [configName]) = false)
      (below : directory.parent ≠ directory) (rest : Search tree directory.parent turns result) :
      Search tree directory (turns + 1) result
  | ends {directory : Place} (absent : tree.contains (directory ++ [configName]) = false)
      (atRoot : directory.parent = directory) : Search tree directory 1 none

@[simp] theorem upward_concat :
    upward (directory ++ [name]) = (directory ++ [name]) :: upward directory := by
  cases directory with
  | nil => simp [upward]
  | cons first rest => rw [List.cons_append, upward, ← List.cons_append, List.dropLast_concat]

/-- Only the root is its own parent. -/
theorem eq_nil_of_parent_eq (atRoot : directory.parent = directory) : directory = [] := by
  have length := congrArg List.length atRoot
  rw [Place.parent, List.length_dropLast] at length
  exact List.eq_nil_of_length_eq_zero (by omega)

/-- The first file on the way from a directory up to the root. -/
def findFrom (tree : FileTree) (directory : Place) : Option Place :=
  ((upward directory).map (· ++ [configName])).find? tree.contains

theorem findConfig_eq_findFrom (tree : FileTree) (start : Place) :
    findConfig tree start = findFrom tree (startAt tree start) := rfl

theorem findFrom_of_present (present : tree.contains (directory ++ [configName]) = true) :
    findFrom tree directory = some (directory ++ [configName]) := by
  cases directory with
  | nil => rw [findFrom, upward, List.map_singleton, List.find?_cons_of_pos present]
  | cons first rest => rw [findFrom, upward, List.map_cons, List.find?_cons_of_pos present]

theorem findFrom_concat (absent : tree.contains (directory ++ [name] ++ [configName]) = false) :
    findFrom tree (directory ++ [name]) = findFrom tree directory := by
  rw [findFrom, upward_concat, List.map_cons, List.find?_cons_of_neg (Bool.eq_false_iff.mp absent),
    findFrom]

theorem findFrom_root (absent : tree.contains [configName] = false) :
    findFrom tree [] = none := by
  rw [findFrom, upward, List.map_singleton, List.nil_append,
    List.find?_cons_of_neg (Bool.eq_false_iff.mp absent), List.find?_nil]

/-- The search ends, after no more turns than there are directories on the way to the root. -/
theorem exists_search (tree : FileTree) (directory : Place) :
    ∃ turns ≤ directory.length + 1, Search tree directory turns (findFrom tree directory) := by
  -- The induction goes down from the root, since a search goes on as one from the parent does.
  induction directory using List.reverseRecOn with
  | nil =>
      refine ⟨1, Nat.le_refl 1, ?_⟩
      cases inRoot : tree.contains ([] ++ [configName]) with
      | true => exact findFrom_of_present inRoot ▸ .found inRoot
      | false => exact findFrom_root inRoot ▸ .ends inRoot rfl
  | append_singleton directory name induction =>
      cases here : tree.contains (directory ++ [name] ++ [configName]) with
      | true => exact ⟨1, Nat.le_add_left 1 _, findFrom_of_present here ▸ .found here⟩
      | false =>
          rcases induction with ⟨turns, bounded, rest⟩
          have parent : Place.parent (directory ++ [name]) = directory := List.dropLast_concat
          have longer : turns + 1 ≤ (directory ++ [name]).length + 1 := by
            rw [List.length_append, List.length_singleton]
            omega
          rw [findFrom_concat here]
          refine ⟨turns + 1, longer, .climbs here ?_ (parent.symm ▸ rest)⟩
          exact fun atRoot => absurd (eq_nil_of_parent_eq atRoot) (by simp)

/-! ## The nearest directory -/

/-- A directory has a configuration file, and no deeper one on the way from the start up has. -/
structure Nearest (tree : FileTree) (start directory : Place) : Prop where
  onTheWay : directory <+: start
  present : tree.contains (directory ++ [configName]) = true
  deepest : ∀ other, other <+: start → tree.contains (other ++ [configName]) = true →
    other <+: directory

/-- No directory on the way from the start up has a configuration file. -/
def NoneAbove (tree : FileTree) (start : Place) : Prop :=
  ∀ other, other <+: start → tree.contains (other ++ [configName]) = false

/-- Above a directory there is only what is above its parent. -/
theorem eq_or_prefix_parent (onTheWay : other <+: directory) :
    other = directory ∨ other <+: directory.parent := by
  induction directory using List.reverseRecOn with
  | nil => exact .inl (List.prefix_nil.mp onTheWay)
  | append_singleton directory name _ =>
      rw [Place.parent, List.dropLast_concat]
      exact List.prefix_concat_iff.mp onTheWay

theorem Nearest.of_parent (absent : tree.contains (directory ++ [configName]) = false)
    (isNearest : Nearest tree directory.parent nearest) : Nearest tree directory nearest := by
  refine ⟨isNearest.onTheWay.trans (List.dropLast_prefix _), isNearest.present, ?_⟩
  intro other onTheWay present
  rcases eq_or_prefix_parent onTheWay with rfl | above
  · exact absurd present (Bool.eq_false_iff.mp absent)
  · exact isNearest.deepest other above present

theorem NoneAbove.of_parent (absent : tree.contains (directory ++ [configName]) = false)
    (noneAbove : NoneAbove tree directory.parent) : NoneAbove tree directory := by
  intro other onTheWay
  rcases eq_or_prefix_parent onTheWay with rfl | above
  · exact absent
  · exact noneAbove other above

theorem Nearest.unique {first second : Place} (isFirst : Nearest tree start first)
    (isSecond : Nearest tree start second) : first = second := by
  have below := isSecond.deepest first isFirst.onTheWay isFirst.present
  have above := isFirst.deepest second isSecond.onTheWay isSecond.present
  exact below.eq_of_length (Nat.le_antisymm below.length_le above.length_le)

/-- What a search can answer: the file of the nearest directory, or nothing where there is none. -/
inductive Answers (tree : FileTree) (start : Place) : Option Place → Prop
  | nearest {directory : Place} (isNearest : Nearest tree start directory) :
      Answers tree start (some (directory ++ [configName]))
  | nothing (noneAbove : NoneAbove tree start) : Answers tree start none

theorem Answers.of_parent (absent : tree.contains (directory ++ [configName]) = false)
    (answers : Answers tree directory.parent result) : Answers tree directory result := by
  cases answers with
  | nearest isNearest => exact .nearest (isNearest.of_parent absent)
  | nothing noneAbove => exact .nothing (noneAbove.of_parent absent)

theorem Answers.unique {first second : Option Place} (isFirst : Answers tree start first)
    (isSecond : Answers tree start second) : first = second := by
  cases isFirst with
  | nearest isNearest =>
      cases isSecond with
      | nearest isSame => rw [isNearest.unique isSame]
      | nothing noneAbove =>
          exact absurd isNearest.present (Bool.eq_false_iff.mp (noneAbove _ isNearest.onTheWay))
  | nothing noneAbove =>
      cases isSecond with
      | nearest isNearest =>
          exact absurd isNearest.present (Bool.eq_false_iff.mp (noneAbove _ isNearest.onTheWay))
      | nothing _ => rfl

/-- However many turns a search takes, its result is what it can answer. -/
theorem Search.answers (search : Search tree directory turns result) :
    Answers tree directory result := by
  induction search with
  | found present =>
      exact .nearest ⟨List.prefix_refl _, present, fun _ onTheWay _ => onTheWay⟩
  | climbs absent _ _ induction => exact induction.of_parent absent
  | ends absent atRoot =>
      cases eq_nil_of_parent_eq atRoot
      refine .nothing fun other onTheWay => ?_
      exact List.prefix_nil.mp onTheWay ▸ absent

theorem answers_findFrom (tree : FileTree) (directory : Place) :
    Answers tree directory (findFrom tree directory) := by
  rcases exists_search tree directory with ⟨turns, _, search⟩
  exact search.answers

theorem findFrom_eq_some_iff {place : Place} : findFrom tree start = some place ↔
    ∃ nearest, Nearest tree start nearest ∧ place = nearest ++ [configName] := by
  have answers := answers_findFrom tree start
  constructor
  · intro found
    rw [found] at answers
    rcases answers with ⟨isNearest⟩
    exact ⟨_, isNearest, rfl⟩
  · rintro ⟨nearest, isNearest, rfl⟩
    exact answers.unique (.nearest isNearest)

theorem findFrom_eq_none_iff : findFrom tree start = none ↔ NoneAbove tree start := by
  have answers := answers_findFrom tree start
  constructor
  · intro nothing
    rw [nothing] at answers
    rcases answers with _ | ⟨noneAbove⟩
    exact noneAbove
  · exact fun noneAbove => answers.unique (.nothing noneAbove)

theorem Search.result_eq (search : Search tree directory turns result) :
    result = findFrom tree directory :=
  search.answers.unique (answers_findFrom tree directory)

/-! ## Paths that can be looked up -/

theorem isPrefix_startAt : startAt tree start <+: start := by
  unfold startAt
  split
  · exact List.dropLast_prefix start
  · exact List.prefix_refl start

variable {parts : List Text} {path : Path} {cause : FileError}

/-- The names are short enough for files. -/
def ShortNames (parts : List Text) : Prop :=
  ∀ name ∈ parts, (Utf8.encode name).length ≤ FileTree.nameLimit

/-- A place is short enough to be written as a path. -/
def ShortPath (place : Place) : Prop :=
  (Utf8.encode (Path.text ⟨1, place⟩)).length ≤ FileTree.pathLimit

theorem walk_ne_tooLong (shortNames : ShortNames parts) (path text : Text) :
    tree.walk path directory parts ≠ .error (.tooLong text) := by
  induction parts generalizing directory with
  | nil => exact nofun
  | cons name parts induction =>
      rcases List.forall_mem_cons.mp shortNames with ⟨shortName, shortNames⟩
      unfold FileTree.walk
      split
      · rw [if_neg (Nat.not_lt.mpr shortName)]
        exact induction shortNames
      · exact nofun
      · exact nofun

theorem lookUp_eq_ok (shortNames : ShortNames start) (shortPath : ShortPath start) :
    lookUp tree start = .ok () := by
  have fits (text : Text) : tree.locate [] ⟨1, start⟩ ≠ .error (.tooLong text) := by
    unfold FileTree.locate FileTree.checkPath
    split
    · exact nofun
    · rw [if_neg (Nat.not_lt.mpr shortPath)]
      exact walk_ne_tooLong shortNames _ text
  unfold lookUp
  split
  · rename_i text tooLong
    exact absurd tooLong (fits text)
  · rfl

theorem lookUp_eq_error (failed : lookUp tree start = .error cause) :
    ∃ text, cause = .tooLong text := by
  unfold lookUp at failed
  split at failed
  · rename_i text tooLong
    cases failed
    exact ⟨text, rfl⟩
  · cases failed

/-- A path leads to its place where it has no character with the code zero, and where its names, its
place and the first place that the search looks at are short enough. -/
theorem placeOf_eq_ok (noZero : '\x00' ∉ path.text)
    (shortNames : ShortNames (Place.resolve directory path))
    (shortPath : ShortPath (Place.resolve directory path))
    (shortFirst : ShortPath (startAt tree (Place.resolve directory path) ++ [configName])) :
    placeOf tree directory path = .ok (Place.resolve directory path) := by
  have shortFirstNames :
      ShortNames (startAt tree (Place.resolve directory path) ++ [configName]) := by
    intro name member
    rcases List.mem_append.mp member with onTheWay | isConfig
    · exact shortNames name (isPrefix_startAt.subset onTheWay)
    · rw [List.mem_singleton.mp isConfig]
      decide +kernel
  unfold placeOf
  rw [if_neg (by simp [noZero]), lookUp_eq_ok shortNames shortPath,
    lookUp_eq_ok shortFirstNames shortFirst]
  rfl

theorem placeOf_eq_error (failed : placeOf tree directory path = .error cause) :
    cause = .zeroInPath ∨ ∃ text, cause = .tooLong text := by
  unfold placeOf at failed
  split at failed
  · cases failed
    exact .inl rfl
  · rcases bind_eq_error_iff.mp failed with placeFailed | ⟨_, _, failed⟩
    · exact .inr (lookUp_eq_error placeFailed)
    · rcases bind_eq_error_iff.mp failed with firstFailed | ⟨_, _, ⟨⟩⟩
      exact .inr (lookUp_eq_error firstFailed)

theorem eq_resolve_of_placeOf (isPlace : placeOf tree directory path = .ok start) :
    start = Place.resolve directory path := by
  unfold placeOf at isPlace
  split at isPlace
  · cases isPlace
  · rcases bind_eq_ok_iff.mp isPlace with ⟨_, _, isPlace⟩
    rcases bind_eq_ok_iff.mp isPlace with ⟨_, _, ⟨⟩⟩
    rfl

end ConfigFinder

namespace CommandLine

variable {workplace : Workplace} {words rest : List Text} {verbosity : Nat} {name : CommandName}

theorem run_of_loadNearest_eq_ok {config : Config}
    (isCommand : Directive.read words = .ok (.command verbosity name rest))
    (loaded : loadNearest workplace.files workplace.directory = .ok config) :
    run workplace words = runCommand workplace config (logLevel verbosity) name rest := by
  simp only [run, isCommand, loaded]

theorem run_of_loadNearest_eq_error {cause : ConfigFileError}
    (isCommand : Directive.read words = .ok (.command verbosity name rest))
    (failed : loadNearest workplace.files workplace.directory = .error cause) :
    run workplace words = misconfigured cause := by
  simp only [run, isCommand, failed]

end CommandLine

/-! ## The nearest configuration -/

open ConfigFinder CommandLine in
/-- From an absolute path that can be looked up, the search for the configuration ends, and it finds
the file of the deepest directory that has one, among the place of the path and all that is above
it. From a file the search starts at its directory. It finds nothing only where no directory on the
way has a configuration file, and then the program acts under the standard configuration. A path
cannot be looked up only for a character with the code zero or for its length. -/
theorem findConfig_nearest (tree : FileTree) (directory : Place) (path : Path)
    (absolute : path.isAbsolute = true) :
    ('\x00' ∉ path.text → ShortNames (Place.follow [] path.parts) →
      ShortPath (Place.follow [] path.parts) →
      ShortPath (startAt tree (Place.follow [] path.parts) ++ [configName]) →
      placeOf tree directory path = .ok (Place.follow [] path.parts)) ∧
    (∀ cause, placeOf tree directory path = .error cause →
      cause = .zeroInPath ∨ ∃ text, cause = .tooLong text) ∧
    ∀ start, placeOf tree directory path = .ok start →
      start = Place.follow [] path.parts ∧
      (∃ turns ≤ (startAt tree start).length + 1,
        Search tree (startAt tree start) turns (findConfig tree start)) ∧
      (∀ turns result, Search tree (startAt tree start) turns result →
        result = findConfig tree start) ∧
      (∀ place, findConfig tree start = some place ↔
        ∃ nearest, Nearest tree (startAt tree start) nearest ∧ place = nearest ++ [configName]) ∧
      (findConfig tree start = none ↔ NoneAbove tree (startAt tree start)) ∧
      (findConfig tree start = none → loadNearest tree start = .ok .standard ∧
        ∀ (toolchain : Toolchain) (words rest : List Text) (verbosity : Nat) (name : CommandName),
          Directive.read words = .ok (.command verbosity name rest) →
          run ⟨tree, start, toolchain⟩ words =
            runCommand ⟨tree, start, toolchain⟩ .standard (logLevel verbosity) name rest) := by
  have resolved : Place.resolve directory path = Place.follow [] path.parts := if_pos absolute
  refine ⟨?_, fun cause => placeOf_eq_error, ?_⟩
  · rw [← resolved]
    exact placeOf_eq_ok
  · intro start isPlace
    have whenNothing (nothing : findConfig tree start = none) :
        loadNearest tree start = .ok .standard := by
      rw [loadNearest, nothing]
    rw [findConfig_eq_findFrom] at whenNothing ⊢
    refine ⟨(eq_resolve_of_placeOf isPlace).trans resolved, exists_search _ _,
      fun turns result search => search.result_eq, fun place => findFrom_eq_some_iff,
      findFrom_eq_none_iff, ?_⟩
    exact fun nothing => ⟨whenNothing nothing, fun toolchain words rest verbosity name isCommand =>
      run_of_loadNearest_eq_ok isCommand (whenNothing nothing)⟩

/-- A project with a configuration file, and a source deeper in it. -/
def projectTree : FileTree :=
  [(["p".toList, configName], .file []),
    (["p".toList, "src".toList, "main.rs".toList], .file [])]

/-- A directory of a project without a configuration file. -/
def bareWorkplace : Workplace where
  files := [(["p".toList, "src".toList, "main.rs".toList], .file [])]
  directory := ["p".toList, "src".toList]
  toolchain := ⟨none, .ok ⟨0, []⟩, fun _ => .notFound []⟩

open ConfigFinder CommandLine in
theorem findConfig_nearest_twoProjects :
    Search projectTree ["p".toList, "src".toList] 2 (some ["p".toList, configName]) ∧
    findConfig projectTree ["p".toList, "src".toList, "main.rs".toList] =
      some ["p".toList, configName] ∧
    findConfig bareWorkplace.files bareWorkplace.directory = none ∧
    run bareWorkplace ["kinds".toList] =
      runCommand bareWorkplace .standard .warning .kinds [] := by
  have search : Search projectTree ["p".toList, "src".toList] 2 (some ["p".toList, configName]) :=
    .climbs (by decide +kernel) (by decide) (.found (by decide +kernel))
  have fromSource := (findConfig_nearest projectTree []
    (Path.ofText "/p/src/main.rs".toList) rfl).2.2 _ rfl
  have fromBare := (findConfig_nearest bareWorkplace.files []
    (Path.ofText "/p/src".toList) rfl).2.2 bareWorkplace.directory rfl
  have nothing : findConfig bareWorkplace.files bareWorkplace.directory = none := by
    decide +kernel
  exact ⟨search, (fromSource.2.2.1 _ _ search).symm, nothing,
    (fromBare.2.2.2.2.2 nothing).2 bareWorkplace.toolchain ["kinds".toList] [] 0 .kinds rfl⟩

def overlongPath : Path :=
  Path.ofText ('/' :: List.replicate 256 'a')

open ConfigFinder in
/-- No file is found from a path with too long a name, but not since there is none. -/
theorem placeOf_overlongPath :
    overlongPath.isAbsolute = true ∧
    NoneAbove bareWorkplace.files
      (startAt bareWorkplace.files (Place.follow [] overlongPath.parts)) ∧
    placeOf bareWorkplace.files [] overlongPath = .error (.tooLong overlongPath.text) := by
  refine ⟨rfl, ?_, by decide +kernel⟩
  apply findFrom_eq_none_iff.mp
  decide +kernel

end DumpLens
