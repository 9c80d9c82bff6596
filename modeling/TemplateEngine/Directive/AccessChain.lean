import TemplateEngine.Text.CharClass

/-!
# Access chains

Interpolated expressions write member access with dots, artifacts with arrows. `arrows` turns the
dots of access chains into arrows and leaves those of quoted texts and of decimal numbers. A run of
digits is a number unless it follows such a dot, so `items.0.name` is an access chain and `1.5` is
not.
-/

namespace TemplateEngine
namespace Directive

open Text (isNamePart isNameStart isLetter isBlank)

/-- What the text before a character tells of it. -/
structure ChainState where
  /-- The quote of the quoted text it is in. -/
  quote : Option Char := none
  /-- A backslash stands before it in that text. -/
  escaped : Bool := false
  /-- The run of name characters it follows, if it follows one: whether that run is a number. -/
  run : Option Bool := none
  /-- An arrow was written just before it. -/
  afterArrow : Bool := false
  /-- The last character written. -/
  last : Option Char := none

def endsObject (c : Char) : Bool :=
  isNamePart c || c == ']' || c == ')'

def ChainState.inQuote (s : ChainState) (quote c : Char) : ChainState :=
  if s.escaped then { s with escaped := false, last := some c }
  else if c = '\\' then { s with escaped := true, last := some c }
  else if c = quote then { s with quote := none, last := some c }
  else { s with last := some c }

def ChainState.inRun (s : ChainState) (c : Char) : ChainState :=
  let number :=
    match s.run with
    | none => !s.afterArrow && c.isDigit
    | some number => number && c.isDigit
  { s with run := some number, afterArrow := false, last := some c }

def ChainState.other (s : ChainState) (c : Char) : ChainState :=
  { s with
    quote := if c = '\'' || c = '"' then some c else none
    run := none
    afterArrow := false
    last := some c }

/-- The rest of an expression with arrows for the dots of its access chains. -/
def arrowsFrom (s : ChainState) : List Char → List Char
  | [] => []
  | c :: cs =>
      match s.quote with
      | some quote => c :: arrowsFrom (s.inQuote quote c) cs
      | none =>
          if isNamePart c then c :: arrowsFrom (s.inRun c) cs
          else if c = '.' && s.run == some true then
            c :: arrowsFrom { s with last := some c } cs
          else if c = '.' && s.last.any endsObject && cs.head?.any isNamePart then
            '-' :: '>' :: arrowsFrom { s with run := none, afterArrow := true, last := some '>' } cs
          else c :: arrowsFrom (s.other c) cs

def arrows (expression : List Char) : List Char :=
  arrowsFrom {} expression

/-- Whether an expression begins with the bare name of a variable: a name that is no constant and is
not called. -/
def needsSigil (expression : List Char) : Bool :=
  let name := expression.takeWhile isNamePart
  expression.head?.any isNameStart &&
    !(["true".toList, "false".toList, "null".toList].contains name) &&
    ((expression.dropWhile isNamePart).dropWhile isBlank).head? != some '('

/-- What an interpolation echoes: the expression with arrows, and the sigil where it needs one. -/
def echoed (expression : List Char) : List Char :=
  let chain := arrows expression
  if needsSigil chain then '$' :: chain else chain

end Directive
end TemplateEngine
