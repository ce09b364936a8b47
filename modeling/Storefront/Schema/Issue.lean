import Storefront.Json.Display
import Storefront.Time.Reader

/-! What is wrong with a value that does not fit its shape, and where. -/
namespace Storefront.Schema

open Json Time

inductive Problem where
  | missing
  | notRecord (shape : String)
  | notText
  | notUnicode
  | emptyText
  | notWhole
  | unreadableWhole
  | oversizedWhole
  | notFinite
  | fractional
  | notFlag
  | unreadableFlag
  | notInstant
  | badDate (issue : DateIssue)
  | badUnix (issue : UnixIssue)
  | yearZero
  | notList
  | notTuple
  | frozen
deriving DecidableEq

/-- A problem with a value, and the path to that value from the outside in. What is missing is a problem
with the value in which it is missing. -/
structure Issue where
  path : List String
  problem : Problem
  input : Value

/-- The issue seen from the container that holds the value under a name. -/
def Issue.under (name : String) (i : Issue) : Issue := { i with path := name :: i.path }

/-- All issues of a value that was read as a shape. -/
structure Rejection where
  shape : String
  issues : List Issue

def unixText : UnixIssue → String
  | .tooEarly => "dates before 0000 are not supported as unix timestamps"
  | .tooLate => "dates after 9999 are not supported as unix timestamps"
  | .notANumber => "NaN values not permitted"

def dateText : DateIssue → String
  | .tooShort => "input is too short"
  | .yearCharacter => "invalid character in year"
  | .separator => "invalid date separator, expected " ++ String.ofList ['\x60', '-', '\x60']
  | .monthCharacter => "invalid character in month"
  | .dayCharacter => "invalid character in day"
  | .monthRange => "month value is outside expected range of 1-12"
  | .dayRange => "day value is outside expected range"
  | .extraCharacters => "unexpected extra characters at the end of the input"
  | .unix issue => unixText issue

def Problem.words : Problem → String × String
  | .missing => ("Field required", "missing")
  | .notRecord shape =>
    (s!"Input should be a valid dictionary or instance of {shape}", "model_type")
  | .notText => ("Input should be a valid string", "string_type")
  | .notUnicode =>
    ("Input should be a valid string, unable to parse raw data as a unicode string", "string_unicode")
  | .emptyText => ("String should have at least 1 character", "string_too_short")
  | .notWhole => ("Input should be a valid integer", "int_type")
  | .unreadableWhole =>
    ("Input should be a valid integer, unable to parse string as an integer", "int_parsing")
  | .oversizedWhole =>
    ("Unable to parse input string as an integer, exceeded maximum size", "int_parsing_size")
  | .notFinite => ("Input should be a finite number", "finite_number")
  | .fractional =>
    ("Input should be a valid integer, got a number with a fractional part", "int_from_float")
  | .notFlag => ("Input should be a valid boolean", "bool_type")
  | .unreadableFlag =>
    ("Input should be a valid boolean, unable to interpret input", "bool_parsing")
  | .notInstant => ("Input should be a valid datetime", "datetime_type")
  | .badDate issue =>
    ("Input should be a valid datetime or date, " ++ dateText issue, "datetime_from_date_parsing")
  | .badUnix issue => ("Input should be a valid datetime, " ++ unixText issue, "datetime_parsing")
  | .yearZero => ("Input should be a valid datetime, year 0 is out of range", "datetime_parsing")
  | .notList => ("Input should be a valid list", "list_type")
  | .notTuple => ("Input should be a valid tuple", "tuple_type")
  | .frozen => ("Instance is frozen", "frozen_instance")

/-- The lines of one issue: its path, unless that is empty, and the sentence with its tag and the value
that has the problem. A third line, which points to a page about the tag, is left out. -/
def Issue.lines (i : Issue) : List String :=
  let (sentence, tag) := i.problem.words
  let input := i.input.shown
  let kind := i.input.kindName
  (if i.path.isEmpty then [] else [".".intercalate i.path]) ++
    [s!"  {sentence} [type={tag}, input_value={input}, input_type={kind}]"]

def Rejection.message (r : Rejection) : String :=
  let n := r.issues.length
  let head := s!"{n} validation error" ++ (if n = 1 then "" else "s") ++ s!" for {r.shape}"
  "\n".intercalate (head :: r.issues.flatMap Issue.lines)

end Storefront.Schema
