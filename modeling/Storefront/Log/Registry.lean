import Storefront.Log.Level
import Storefront.Pairs
import Storefront.Text.Lines
import Storefront.Text.Pieces

/-! The logger of the library, its handlers, and the files they write. -/
namespace Storefront.Log

/-- The name above the names of all loggers of the library. -/
def rootName : String := "buy_client"

/-- The full name of a logger: names outside the library are nested below it. -/
def loggerName (name : Option String) : String :=
  match name with
  | none => rootName
  | some n =>
    if n.isEmpty then rootName
    else if n = rootName || (rootName ++ ".").isPrefixOf n then n
    else rootName ++ "." ++ n

/-- Where a handler writes: on the console, or to the file with a path from the root. -/
inductive Sink where
  | console
  | file (path : String)
deriving DecidableEq

/-- Walks along a part of a path: a dot and nothing stay, two dots go back. Nothing goes back from
the root. -/
def walk (place : List (List Char)) (part : List Char) : List (List Char) :=
  if part.isEmpty || part = ['.'] then place
  else if part = ['.', '.'] then place.dropLast
  else place ++ [part]

/-- The path from the root: a path that does not begin there begins in the directory. -/
def fullPath (directory : List (List Char)) (path : String) : String :=
  let start := if path.toList.head? = some '/' then [] else directory
  String.ofList ('/' :: ['/'].intercalate ((Text.splitOnChar '/' path.toList).foldl walk start))

structure Handler where
  sink : Sink
  level : Level
deriving DecidableEq

/-- A file to log to, and whether it can be opened. -/
structure LogFile where
  path : String
  opens : Bool := true

/-- Why a level is refused: nobody knows its name, or there is none. -/
inductive LevelError where
  | unknown (name : String)
  | absent
deriving DecidableEq

def LevelError.message : LevelError → String
  | .unknown name => "Unknown log level: " ++ name
  | .absent => "'NoneType' object has no attribute 'upper'"

/-- Why a setup fails: its level is refused, or its file cannot be opened. -/
inductive SetupError where
  | level (cause : LevelError)
  | unopened (path : String)
deriving DecidableEq

/-- What a setup asks for: a level by its name, with a default behind it, and maybe a file. -/
structure Setup where
  defaultLevel : Option String
  name : Option String := none
  file : Option LogFile := none

/-- The name of a level that a setup asks for. The default stands in for an empty name. -/
def Setup.wanted? (s : Setup) : Option String := s.name.filter (!·.isEmpty) <|> s.defaultLevel

def Setup.level (s : Setup) : Except LevelError Level :=
  match s.wanted? with
  | none => .error .absent
  | some wanted =>
    match Level.ofName? wanted with
    | some level => .ok level
    | none => .error (.unknown wanted)

/-- The state of the logger, the directory in which paths begin, and the lines of every file that
was opened. -/
structure Registry where
  directory : List (List Char) := []
  level : Level := .notSet
  handlers : List Handler := []
  files : Pairs (List String) := []

namespace Registry

/-- Sets the level of the console handler, which comes to the list when there is none. -/
def withConsole (level : Level) (handlers : List Handler) : List Handler :=
  if handlers.any (·.sink = .console) then
    let before := handlers.takeWhile (·.sink ≠ .console)
    before ++ ⟨.console, level⟩ :: handlers.drop (before.length + 1)
  else handlers ++ [⟨.console, level⟩]

def contents (r : Registry) (path : String) : List String := (r.files.get? path).getD []

def append (r : Registry) (path : String) (new : List String) : Registry :=
  { r with files := r.files.put path (r.contents path ++ new) }

/-- Opens a file, and adds a handler that writes there from the lowest level on. -/
def attach (r : Registry) (path : String) : Registry :=
  { r.append path [] with handlers := r.handlers ++ [⟨.file path, .debug⟩] }

/-- Sets the level, and adds a handler for the file if there is one. An unknown level changes
nothing; a file that cannot be opened is noticed when the level is set. -/
def setup (r : Registry) (s : Setup) : Except SetupError Unit × Registry :=
  match s.level with
  | .error e => (.error (.level e), r)
  | .ok level =>
    let r := { r with level, handlers := withConsole level r.handlers }
    match s.file with
    | none => (.ok (), r)
    | some f =>
      if f.opens then (.ok (), r.attach (fullPath r.directory f.path))
      else (.error (.unopened f.path), r)

/-- The level below which nothing is logged; a logger without one has that of all loggers. -/
def effectiveLevel (r : Registry) : Level := if r.level = .notSet then .warning else r.level

/-- The handlers that take a record. Its rank is that of a level, or any other number. -/
def takers (r : Registry) (rank : Int) : List Handler :=
  if rank < r.effectiveLevel.rank then [] else r.handlers.filter fun h => h.level.rank ≤ rank

/-- The lines of a record; a message may fill more than one. -/
def lines (name : Option String) (rank : Int) (message : String) : List String :=
  Text.lines s!"{loggerName name} - {Level.rankName rank} - {message}"

/-- Hands lines to a handler: they come to the console, or to a file. -/
def hand (new : List String) : List String × Registry → Handler → List String × Registry
  | (console, r), h =>
    match h.sink with
    | .console => (console ++ new, r)
    | .file path => (console, r.append path new)

/-- Logs a record: the lines on the console, and the registry after writing to the files. -/
def emit (r : Registry) (name : Option String) (rank : Int) (message : String) :
    List String × Registry :=
  (r.takers rank).foldl (hand (lines name rank message)) ([], r)

end Registry

end Storefront.Log
