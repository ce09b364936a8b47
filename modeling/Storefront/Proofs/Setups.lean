import Mathlib.Data.List.Induction
import Storefront.Log.Registry
import Storefront.Proofs.Items

/-! The logger after any number of setups and records. As long as every file can be opened, its
handlers stand in the order in which they came: one for the console, which the first setup that
succeeds brings, and behind it one for every time that a file was opened. The last setup that
succeeded has set the level of the logger and that of the console. -/
namespace Storefront

/-- A text with an ended line has a line. -/
theorem Text.endedLines_ne_nil {before cs : List Char} (h : '\n' ∈ cs) :
    endedLines before cs ≠ [] := by
  fun_induction endedLines before cs with
  | case1 => cases h
  | case2 => simp
  | case3 => simp
  | case4 before c cs _ hbreak ih =>
    rcases List.mem_cons.mp h with rfl | h
    · exact absurd rfl hbreak
    · exact ih h

namespace Log

/-- The level of a setup that does not fail. -/
def Setup.granted? (s : Setup) : Option Level :=
  if (s.file.map (·.opens)).getD true then s.level.toOption else none

def Setup.path? (directory : List (List Char)) (s : Setup) : Option String :=
  s.file.map fun f => fullPath directory f.path

/-- What is done with a logger. -/
inductive Use where
  | setup (s : Setup)
  | emit (name : Option String) (rank : Int) (message : String)

def Use.setup? : Use → Option Setup
  | .setup s => some s
  | .emit _ _ _ => none

def setups (uses : List Use) : List Setup := uses.filterMap Use.setup?

/-- Holds when every file that a setup names can be opened. -/
def AllOpen (uses : List Use) : Prop := ∀ s ∈ setups uses, ∀ f ∈ s.file, f.opens = true

/-- The level of the last setup that did not fail. -/
def lastLevel? (uses : List Use) : Option Level := ((setups uses).filterMap Setup.granted?).getLast?

/-- The files that were opened, each as often as it was. -/
def openedPaths (directory : List (List Char)) (uses : List Use) : List String :=
  (setups uses).filterMap fun s => s.granted?.bind fun _ => s.path? directory

/-- The level below which a logger with this level of its own logs nothing. -/
def Level.threshold (l : Level) : Level := if l = .notSet then .warning else l

theorem Level.rank_le_threshold (l : Level) :
    l.rank ≤ l.threshold.rank ∧ Level.debug.rank ≤ l.threshold.rank := by
  cases l <;> decide

/-- Lines, as often as they were written. -/
def copies (n : Nat) (new : List String) : List String := (List.replicate n new).flatten

theorem copies_one (new : List String) : copies 1 new = new := List.append_nil new

theorem length_copies (n : Nat) (new : List String) : (copies n new).length = n * new.length := by
  simp [copies]

theorem setups_append (uses later : List Use) :
    setups (uses ++ later) = setups uses ++ setups later :=
  List.filterMap_append

theorem setups_emit (uses : List Use) (name : Option String) (rank : Int) (message : String) :
    setups (uses ++ [.emit name rank message]) = setups uses := by
  simp [setups, Use.setup?]

theorem AllOpen.of_append {uses later : List Use} (h : AllOpen (uses ++ later)) :
    AllOpen uses ∧ AllOpen later := by
  unfold AllOpen at h
  rw [setups_append] at h
  exact ⟨fun s hs => h s (List.mem_append_left _ hs), fun s hs => h s (List.mem_append_right _ hs)⟩

theorem lastLevel?_setup (uses : List Use) (s : Setup) :
    lastLevel? (uses ++ [.setup s]) = s.granted?.or (lastLevel? uses) := by
  unfold lastLevel?
  rw [setups_append, List.filterMap_append, List.getLast?_append]
  cases h : s.granted? <;> simp [setups, Use.setup?, h]

theorem openedPaths_setup (directory : List (List Char)) (uses : List Use) (s : Setup) :
    openedPaths directory (uses ++ [.setup s]) = openedPaths directory uses ++
      (s.granted?.bind fun _ => s.path? directory).toList := by
  unfold openedPaths
  rw [setups_append, List.filterMap_append]
  cases h : s.granted?.bind fun _ => s.path? directory <;> simp [setups, Use.setup?, h]

namespace Registry

variable {r r₀ : Registry} {s : Setup} {u : Use} {uses : List Use} {level : Level}
  {level? : Option Level} {paths : List String}

def use (r : Registry) : Use → Registry
  | .setup s => (r.setup s).2
  | .emit name rank message => (r.emit name rank message).2

def after (r : Registry) (uses : List Use) : Registry := uses.foldl use r

theorem after_append (r : Registry) (uses later : List Use) :
    r.after (uses ++ later) = (r.after uses).after later := List.foldl_append

/-! Writing -/

theorem contents_append (r : Registry) (path path' : String) (new : List String) :
    (r.append path new).contents path' =
      r.contents path' ++ copies (if path = path' then 1 else 0) new := by
  unfold contents append
  rw [Pairs.get?_put]
  split
  · rename_i h
    rw [copies_one, ← h]
    rfl
  · exact (List.append_nil _).symm

/-- The console shows a record as often as a handler of the console takes it. -/
theorem foldl_hand_fst (new : List String) (hs : List Handler) (console : List String)
    (r : Registry) : (hs.foldl (hand new) (console, r)).1 =
      console ++ copies (hs.countP (·.sink = .console)) new := by
  induction hs generalizing console r with
  | nil => exact (List.append_nil console).symm
  | cons h hs ih =>
    rw [List.foldl_cons, List.countP_cons, hand]
    cases hsink : h.sink with
    | console =>
      rw [ih, List.append_assoc]
      simp [copies, List.replicate_succ]
    | file path =>
      rw [ih]
      simp

/-- A file has a record as often as a handler of the file takes it. -/
theorem foldl_hand_contents (new : List String) (hs : List Handler) (console : List String)
    (r : Registry) (path : String) : (hs.foldl (hand new) (console, r)).2.contents path =
      r.contents path ++ copies (hs.countP (·.sink = .file path)) new := by
  induction hs generalizing console r with
  | nil => exact (List.append_nil _).symm
  | cons h hs ih =>
    rw [List.foldl_cons, List.countP_cons, hand]
    cases hsink : h.sink with
    | console =>
      rw [ih]
      simp
    | file path' =>
      rw [ih, contents_append, List.append_assoc]
      by_cases hpath : path' = path
      · simp [hpath, copies, List.replicate_succ]
      · simp [hpath, copies]

theorem foldl_hand_snd (new : List String) (hs : List Handler) (console : List String)
    (r : Registry) :
    ∃ files, (hs.foldl (hand new) (console, r)).2 = { r with files := files } := by
  induction hs generalizing console r with
  | nil => exact ⟨r.files, rfl⟩
  | cons h hs ih =>
    rw [List.foldl_cons, hand]
    cases h.sink with
    | console => exact ih _ r
    | file path =>
      obtain ⟨files, hfiles⟩ := ih console (r.append path new)
      exact ⟨files, hfiles⟩

theorem emit_fst (r : Registry) (name : Option String) (rank : Int) (message : String) :
    (r.emit name rank message).1 =
      copies ((r.takers rank).countP (·.sink = .console)) (lines name rank message) :=
  foldl_hand_fst _ _ [] r

theorem contents_emit (r : Registry) (name : Option String) (rank : Int) (message path : String) :
    (r.emit name rank message).2.contents path = r.contents path ++
      copies ((r.takers rank).countP (·.sink = .file path)) (lines name rank message) :=
  foldl_hand_contents _ _ [] r path

/-- Writing changes nothing but the files. -/
theorem emit_snd (r : Registry) (name : Option String) (rank : Int) (message : String) :
    ∃ files, (r.emit name rank message).2 = { r with files := files } :=
  foldl_hand_snd _ _ [] r

/-! Handlers -/

/-- The handlers that come of a level that was set and of files that were opened. -/
def arrangement (paths : List String) : Option Level → List Handler
  | none => []
  | some level => ⟨.console, level⟩ :: paths.map (⟨.file ·, .debug⟩)

/-- The level and the handlers are those that the setups have left behind. -/
structure Arranged (r : Registry) (level? : Option Level) (paths : List String) : Prop where
  level : ∀ level ∈ level?, r.level = level
  handlers : r.handlers = arrangement paths level?
  /-- No file is opened before a level is set. -/
  first : level? = none → paths = []

theorem withConsole_arrangement (level : Level) (h : level? = none → paths = []) :
    withConsole level (arrangement paths level?) = arrangement paths (some level) := by
  cases level? with
  | none =>
    rw [h rfl]
    rfl
  | some level' => simp [withConsole, arrangement]

theorem arrangement_append (paths : List String) (path : String) (level : Level) :
    arrangement (paths ++ [path]) (some level) =
      arrangement paths (some level) ++ [⟨.file path, .debug⟩] := by
  simp [arrangement]

theorem setup_eq_ok_iff : (r.setup s).1 = .ok () ↔ s.granted?.isSome = true := by
  unfold setup Setup.granted?
  cases s.level with
  | error e => simp [Except.toOption]
  | ok level =>
    cases s.file with
    | none => simp [Except.toOption]
    | some f => cases h : f.opens <;> simp [h, Except.toOption]

theorem setup_directory (r : Registry) (s : Setup) : (r.setup s).2.directory = r.directory := by
  unfold setup
  cases s.level with
  | error e => rfl
  | ok level =>
    cases s.file with
    | none => rfl
    | some f => cases h : f.opens <;> simp [h, attach, append]

theorem arranged_setup (hopen : ∀ f ∈ s.file, f.opens = true) (h : r.Arranged level? paths) :
    (r.setup s).2.Arranged (s.granted?.or level?)
      (paths ++ (s.granted?.bind fun _ => s.path? r.directory).toList) := by
  unfold setup Setup.granted? Setup.path?
  cases s.level with
  | error e => simpa [Except.toOption] using h
  | ok level =>
    cases hfile : s.file with
    | none =>
      refine ⟨?_, ?_, nofun⟩
      · rintro _ ⟨⟩
        rfl
      · simpa [Except.toOption, h.handlers] using withConsole_arrangement level h.first
    | some f =>
      have hf : f.opens = true := hopen f hfile
      refine ⟨?_, ?_, ?_⟩
      · simp [hf, Except.toOption, attach, append]
      · simp [hf, Except.toOption, attach, append, h.handlers,
          withConsole_arrangement level h.first, arrangement_append]
      · simp [hf, Except.toOption]

theorem arranged_emit (h : r.Arranged level? paths) (name : Option String) (rank : Int)
    (message : String) : (r.emit name rank message).2.Arranged level? paths := by
  obtain ⟨files, hfiles⟩ := r.emit_snd name rank message
  rw [hfiles]
  exact ⟨h.level, h.handlers, h.first⟩

theorem after_directory (r : Registry) (uses : List Use) :
    (r.after uses).directory = r.directory := by
  induction uses generalizing r with
  | nil => rfl
  | cons u uses ih =>
    refine (ih (r.use u)).trans ?_
    cases u with
    | setup s => exact setup_directory r s
    | emit name rank message =>
      obtain ⟨files, hfiles⟩ := r.emit_snd name rank message
      rw [use, hfiles]

/-- What any history leaves behind of a logger without handlers. -/
theorem arranged_after (h₀ : r₀.handlers = []) (hopen : AllOpen uses) :
    (r₀.after uses).Arranged (lastLevel? uses) (openedPaths r₀.directory uses) := by
  induction uses using List.reverseRecOn with
  | nil => exact ⟨nofun, h₀, fun _ => rfl⟩
  | append_singleton uses u ih =>
    obtain ⟨huses, hu⟩ := hopen.of_append
    rw [after_append]
    cases u with
    | setup s =>
      have hs := arranged_setup (hu s List.mem_cons_self) (ih huses)
      rw [after_directory] at hs
      rw [lastLevel?_setup, openedPaths_setup]
      exact hs
    | emit name rank message =>
      unfold lastLevel? openedPaths
      rw [setups_emit]
      exact arranged_emit (ih huses) name rank message

/-! Records -/

/-- Every handler takes a record that the logger lets pass. -/
theorem takers_of_arranged (h : r.Arranged (some level) paths) (rank : Int) :
    r.takers rank =
      if level.threshold.rank ≤ rank then arrangement paths (some level) else [] := by
  have heffective : r.effectiveLevel = level.threshold := by
    rw [effectiveLevel, h.level level rfl, Level.threshold]
  unfold takers
  rw [heffective, h.handlers]
  by_cases hrank : level.threshold.rank ≤ rank
  · obtain ⟨hconsole, hfile⟩ := level.rank_le_threshold
    rw [if_neg (by omega), if_pos hrank, List.filter_eq_self]
    intro handler hmem
    rcases List.mem_cons.mp hmem with rfl | hmem
    · simpa using by omega
    · obtain ⟨path, -, rfl⟩ := List.mem_map.mp hmem
      simpa using by omega
  · rw [if_pos (by omega), if_neg hrank]

theorem countP_console_takers (h : r.Arranged (some level) paths) (rank : Int) :
    (r.takers rank).countP (·.sink = .console) = if level.threshold.rank ≤ rank then 1 else 0 := by
  rw [takers_of_arranged h]
  split
  · simp [arrangement, List.countP_map, Function.comp_def]
  · rfl

theorem countP_file_takers (h : r.Arranged (some level) paths) (rank : Int) (path : String) :
    (r.takers rank).countP (·.sink = .file path) =
      if level.threshold.rank ≤ rank then paths.countP (· = path) else 0 := by
  rw [takers_of_arranged h]
  split
  · simp [arrangement, List.countP_map, Function.comp_def]
  · rfl

theorem lines_ne_nil (name : Option String) (rank : Int) (message : String) :
    lines name rank message ≠ [] := by
  unfold lines Text.lines
  rw [Ne, List.map_eq_nil_iff]
  exact Text.endedLines_ne_nil (List.mem_append_right _ List.mem_cons_self)

end Registry

end Log

end Storefront
