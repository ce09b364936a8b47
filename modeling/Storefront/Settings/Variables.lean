import Storefront.Pairs
import Storefront.Text.Blank

/-! Files of variables: a name and a value on each line, with comments, quotes and an optional word
`export` before the name. -/
namespace Storefront.Variables

open Text

def isLineEnd (c : Char) : Bool := c == '\n' || c == '\r'

def isGap (c : Char) : Bool := isBlank c && !isLineEnd c

def afterLine (cs : List Char) : List Char :=
  match cs.dropWhile (!isLineEnd ·) with
  | '\r' :: '\n' :: rest => rest
  | _ :: rest => rest
  | [] => []

/-- The character for a letter after a backslash in double quotes. -/
def doubleEscape? (c : Char) : Option Char :=
  if c = '\\' || c = '\'' || c = '"' then some c
  else if c = 'a' then some '\x07'
  else if c = 'b' then some '\x08'
  else if c = 'f' then some '\x0c'
  else if c = 'n' then some '\n'
  else if c = 'r' then some '\r'
  else if c = 't' then some '\t'
  else if c = 'v' then some '\x0b'
  else none

/-- The character for a letter after a backslash in single quotes. -/
def singleEscape? (c : Char) : Option Char := if c = '\\' || c = '\'' then some c else none

/-- A quoted value with its escapes resolved; a backslash before another letter stays. -/
def unescape (escape? : Char → Option Char) : List Char → List Char
  | '\\' :: c :: rest =>
    match escape? c with
    | some x => x :: unescape escape? rest
    | none => '\\' :: unescape escape? (c :: rest)
  | c :: rest => c :: unescape escape? rest
  | [] => []

/-- Splits at the closing quote; a character after a backslash closes nothing. -/
def splitQuote? (quote : Char) : List Char → Option (List Char × List Char)
  | [] => none
  | '\\' :: c :: rest => (splitQuote? quote rest).map fun r => ('\\' :: c :: r.1, r.2)
  | c :: rest =>
    if c = quote then some ([], rest) else (splitQuote? quote rest).map fun r => (c :: r.1, r.2)

/-- A value without the comment after it: a number sign that follows a blank begins a comment. -/
def dropComment : List Char → List Char
  | [] => []
  | c :: rest =>
    if isBlank c && (rest.dropWhile isBlank).head? == some '#' then [] else c :: dropComment rest

/-- A name: a text in single quotes, or characters other than blanks, `=` and `#`. -/
def readName? : List Char → Option (List Char × List Char)
  | '\'' :: rest =>
    let name := rest.takeWhile (· != '\'')
    match rest.dropWhile (· != '\'') with
    | _ :: tail => if name.isEmpty then none else some (name, tail)
    | [] => none
  | cs =>
    let isPart := fun c => !(isBlank c || c == '=' || c == '#')
    let name := cs.takeWhile isPart
    if name.isEmpty then none else some (name, cs.dropWhile isPart)

/-- A value after the sign before it: in quotes, or up to the end of the line without a comment and
blanks around it. Only a number sign that follows a blank begins a comment. -/
def readValue? (cs : List Char) : Option (List Char × List Char) :=
  match cs.dropWhile isGap with
  | '\'' :: rest => (splitQuote? '\'' rest).map fun r => (unescape singleEscape? r.1, r.2)
  | '"' :: rest => (splitQuote? '"' rest).map fun r => (unescape doubleEscape? r.1, r.2)
  | _ =>
    let line := cs.takeWhile (!isLineEnd ·)
    some (trimBy isBlank (dropComment line), cs.drop line.length)

/-- The text after the word `export`, if the word and a blank stand in front. -/
def dropExport (cs : List Char) : List Char :=
  if "export".toList.isPrefixOf cs && ((cs.drop 6).head?.map isGap).getD false then
    (cs.drop 6).dropWhile isGap
  else cs

def afterComment (cs : List Char) : List Char :=
  match cs.dropWhile isGap with
  | '#' :: rest => rest.dropWhile (!isLineEnd ·)
  | _ => cs

/-- The text after a binding that ends its line; otherwise the text where reading stops. -/
def afterBinding (cs : List Char) : Except (List Char) (List Char) :=
  let cs := afterComment cs
  match cs.dropWhile isGap with
  | [] => .ok []
  | c :: rest => if isLineEnd c then .ok (c :: rest) else .error cs

/-- A variable with its value, or a name alone. -/
structure Binding where
  name : String
  value : Option String
deriving DecidableEq

/-- Reads a binding, or a comment, at the front of a text. What comes with a refusal is the text
where reading stopped. -/
def readBinding (cs : List Char) : Except (List Char) (Option Binding × List Char) :=
  let cs := dropExport cs
  if cs.head? = some '#' then .ok (none, afterLine cs)
  else
    match readName? cs with
    | none => .error cs
    | some (name, cs) =>
      let name := String.ofList name
      let cs := cs.dropWhile isGap
      match cs with
      | '=' :: after =>
        match readValue? after with
        | none => .error (after.dropWhile isGap)
        | some (value, cs) =>
          (afterBinding cs).map fun cs => (some ⟨name, some (String.ofList value)⟩, cs)
      | cs => (afterBinding cs).map fun cs => (some ⟨name, none⟩, cs)

/-- Reads bindings one after the other. Where reading stops, the rest of that line is
passed over. -/
def readFrom : (fuel : Nat) → List Char → List Binding
  | 0, _ => []
  | fuel + 1, cs =>
    match cs.dropWhile isBlank with
    | [] => []
    | c :: rest =>
      match readBinding (c :: rest) with
      | .ok (some b, tail) => b :: readFrom fuel tail
      | .ok (none, tail) => readFrom fuel tail
      | .error tail => readFrom fuel (afterLine tail)

/-- The bindings of a file in order. A mark of the byte order at its start belongs to none. -/
def read (s : String) : List Binding :=
  let cs := match s.toList with
    | '\uFEFF' :: cs => cs
    | cs => cs
  readFrom (cs.length + 1) cs

/-- A reference to a variable at the front of a text: its name, the text that stands in for it, and
the text after the reference. -/
def reference? (cs : List Char) : Option (String × List Char × List Char) :=
  match cs with
  | '$' :: '\x7b' :: rest =>
    let name := rest.takeWhile fun c => c != '\x7d' && c != ':'
    match rest.drop name.length with
    | '\x7d' :: tail => some (String.ofList name, [], tail)
    | ':' :: '-' :: tail =>
      let instead := tail.takeWhile (· != '\x7d')
      match tail.drop instead.length with
      | _ :: tail => some (String.ofList name, instead, tail)
      | [] => none
    | _ => none
  | _ => none

/-- A value with each reference replaced by the variable it names. -/
def expand (vars : String → Option String) : (fuel : Nat) → List Char → List Char
  | 0, cs => cs
  | _ + 1, [] => []
  | fuel + 1, c :: cs =>
    match reference? (c :: cs) with
    | some (name, instead, tail) =>
      ((vars name).map String.toList).getD instead ++ expand vars fuel tail
    | none => c :: expand vars fuel cs

/-- What a name stands for: the environment goes before the bindings found so far, and a name
without a value stands for nothing. -/
def lookUp? (env : Pairs String) (found : Pairs (Option String)) (name : String) : Option String :=
  env.get? name <|> (found.get? name).map (·.getD "")

/-- Resolves the references of bindings in order. A name that comes again takes the later value. -/
def resolve (env : Pairs String) (bindings : List Binding) : Pairs (Option String) :=
  bindings.foldl (fun found b =>
    let value := b.value.map fun v =>
      String.ofList (expand (lookUp? env found) (v.length + 1) v.toList)
    Pairs.put found b.name value) []

end Storefront.Variables
