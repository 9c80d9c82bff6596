import TemplateEngine.Text.Scan

/-!
# Directives that are not closed

What still opens a directive in the literal text of an artifact was never closed. Islands are passed
over, with all that their quoted texts hold.
-/

namespace TemplateEngine
namespace Directive

/-- Where a character of an artifact stands. -/
inductive Place
  | text
  | island
  /-- In a quoted text of an island, maybe after a backslash. -/
  | quoted (quote : Char) (escaped : Bool)
  deriving DecidableEq, Repr

/-- The place after a character of an island that does not close it. -/
def Place.after : Place → Char → Place
  | .text, _ => .text
  | .island, c => if c = '\'' || c = '"' then .quoted c false else .island
  | .quoted quote true, _ => .quoted quote false
  | .quoted quote false, c =>
      if c = '\\' then .quoted quote true else if c = quote then .island else .quoted quote false

/-- The line of the first opening in the literal text of what is left of an artifact, which begins
on the given line. The first character is passed over if it belongs to a marker read already. -/
def openingLine? (line : Nat) (place : Place) (passed : Bool) : List Char → Option Nat
  | [] => none
  | c :: cs =>
      let next := if c = '\n' then line + 1 else line
      if passed then openingLine? next place false cs
      else if place = .text && c = '<' && cs.head? == some '%' then
        openingLine? next .island true cs
      else if place = .text && c = '\x7b' && cs.head? == some '\x7b' then some line
      else if place = .island && c = '%' && cs.head? == some '>' then
        openingLine? next .text true cs
      else openingLine? next (place.after c) false cs

/-- The line, counted from one, of the first directive in the literal text of an artifact that is not
closed. -/
def unterminatedLine? (artifact : String) : Option Nat :=
  openingLine? 1 .text false artifact.toList

end Directive
end TemplateEngine
