import Storefront.Pairs

/-! Matching the arguments of a call with the names that an operation has for them. -/
namespace Storefront

/-- An operation as its callers see it: its name, and the names of its arguments in order. -/
structure Signature where
  name : String
  params : List String

/-- Why arguments do not match. -/
inductive BindError where
  | twice (operation param : String)
  | tooMany (operation : String) (taken given : Nat)
  | missing (operation : String) (params : List String)
deriving DecidableEq

namespace BindError

def enumeration : List String → String
  | [] => ""
  | [a] => s!"'{a}'"
  | [a, b] => s!"'{a}' and '{b}'"
  | names =>
    ", ".intercalate (names.dropLast.map fun a => s!"'{a}'") ++ ", and " ++
      "".intercalate (names.getLast?.toList.map fun a => s!"'{a}'")

/-- The plural of a word goes with every number but one. -/
def plural (n : Nat) (word : String) : String := if n = 1 then word else word ++ "s"

def message : BindError → String
  | .twice operation param => s!"{operation}() got multiple values for argument '{param}'"
  | .tooMany operation taken given =>
    let were := if given = 1 then "was" else "were"
    let arguments := plural taken "positional argument"
    s!"{operation}() takes {taken} {arguments} but {given} {were} given"
  | .missing operation params =>
    let n := params.length
    let arguments := plural n "argument"
    let names := enumeration params
    s!"{operation}() missing {n} required positional {arguments}: {names}"

end BindError

/-- Matches arguments that come by place and arguments that come by name. Those whose name is
none of the operation's are left over. -/
def Signature.bind {α : Type} (s : Signature) (placed : List α) (named : Pairs α) :
    Except BindError (List α × Pairs α) :=
  let others := s.params.drop placed.length
  match named.find? fun p => (s.params.take placed.length).contains p.1 with
  | some p => .error (.twice s.name p.1)
  | none =>
    if s.params.length < placed.length then
      .error (.tooMany s.name s.params.length placed.length)
    else
      let unfilled := others.filter fun param => (named.get? param).isNone
      if unfilled.isEmpty then
        .ok (placed ++ others.filterMap named.get?, named.filter (!s.params.contains ·.1))
      else .error (.missing s.name unfilled)

end Storefront
