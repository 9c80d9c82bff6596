import TemplateEngine.Directive.Marker

/-!
# Include directives

An `include` or an `extend` names another template, whose text takes its place. Quotes around the
name are optional, and need not match.
-/

namespace TemplateEngine
namespace Directive

open Text (isBlank until? Recogniser)

def isQuote (c : Char) : Bool :=
  c == '\'' || c == '"'

/-- The text after the closing of an include directive and the quote that may stand before it. -/
def closeQuoted? : List Char → Option (List Char)
  | [] => none
  | c :: cs => if isQuote c then close? cs else close? (c :: cs)

/-- An include directive: the name of the template, which is on one line. -/
def inclusion : Recogniser (List Char) := fun cs =>
  match (argument? "include" cs).or (argument? "extend" cs) with
  | none => none
  | some inside =>
      let name :=
        match inside with
        | c :: rest => if isQuote c then rest else inside
        | [] => inside
      until? closeQuoted? (fun c => c != '\n') name

/-- The parts of a template: single characters, and the names of the templates it includes. -/
def includes (template : String) : List (Text.Piece (List Char)) :=
  Text.pieces inclusion template.toList

end Directive
end TemplateEngine
