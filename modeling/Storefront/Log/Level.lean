/-! Levels of log lines. -/
namespace Storefront.Log

inductive Level where
  | notSet
  | debug
  | info
  | warning
  | error
  | critical
deriving DecidableEq

/-- The upper-case letters of a character as far as they are ASCII; other characters stay. -/
def upperChar (c : Char) : List Char :=
  match c with
  | 'ß' => ['S', 'S']
  | 'ı' => ['I']
  | 'ſ' => ['S']
  | 'ﬀ' => ['F', 'F']
  | 'ﬁ' => ['F', 'I']
  | 'ﬂ' => ['F', 'L']
  | 'ﬃ' => ['F', 'F', 'I']
  | 'ﬄ' => ['F', 'F', 'L']
  | 'ﬅ' => ['S', 'T']
  | 'ﬆ' => ['S', 'T']
  | c => [c.toUpper]

def upperCase (s : String) : String := String.ofList (s.toList.flatMap upperChar)

namespace Level

def rank : Level → Nat
  | .notSet => 0
  | .debug => 10
  | .info => 20
  | .warning => 30
  | .error => 40
  | .critical => 50

def name : Level → String
  | .notSet => "NOTSET"
  | .debug => "DEBUG"
  | .info => "INFO"
  | .warning => "WARNING"
  | .error => "ERROR"
  | .critical => "CRITICAL"

def names : List (String × Level) :=
  [("CRITICAL", .critical), ("FATAL", .critical), ("ERROR", .error), ("WARN", .warning),
    ("WARNING", .warning), ("INFO", .info), ("DEBUG", .debug), ("NOTSET", .notSet)]

def ofName? (s : String) : Option Level :=
  (names.find? (·.1 = upperCase s)).map (·.2)

/-- The name of a rank: that of its level, or its number. -/
def rankName (rank : Int) : String :=
  match names.find? (fun p => (p.2.rank : Int) = rank) with
  | some p => p.2.name
  | none => s!"Level {rank}"

end Level

end Storefront.Log
