import TemplateEngine.Text.Scan

/-!
# Markers of directives

A directive opens with two braces and an at sign, or with two braces alone for an interpolation, and
closes with two braces; white space inside the markers is free. The words of directives are read
without regard to case, by simple case folding: a long s is an s and a Kelvin sign a k.
-/

namespace TemplateEngine
namespace Directive

open Text (isBlank after? Recogniser)

def interpolationOpen : List Char := ['\x7b', '\x7b']

def directiveOpen : List Char := ['\x7b', '\x7b', '@']

def directiveClose : List Char := ['\x7d', '\x7d']

def skipBlanks (cs : List Char) : List Char :=
  cs.dropWhile isBlank

/-- Whether a character is a small letter or a form of it by simple case folding. -/
def folds (letter c : Char) : Bool :=
  c.toLower == letter || (letter == 's' && c == 'ſ') || (letter == 'k' && c == '\u212a')

/-- The text after a word given in small letters, its case being free. -/
def word? : List Char → List Char → Option (List Char)
  | [], cs => some cs
  | _ :: _, [] => none
  | letter :: letters, c :: cs => if folds letter c then word? letters cs else none

/-- The text after the head of a directive: its opening, and one of its words. -/
def head? (word : String) (cs : List Char) : Option (List Char) :=
  (after? directiveOpen cs).bind fun inside => word? word.toList (skipBlanks inside)

/-- The text after the head of a directive whose word must end there, and any white space. -/
def argument? (word : String) (cs : List Char) : Option (List Char) :=
  match head? word cs with
  | some inside => if Text.wordEnds inside then some (skipBlanks inside) else none
  | none => none

/-- The text after the closing of a directive, white space before it being free. -/
def close? (cs : List Char) : Option (List Char) :=
  after? directiveClose (skipBlanks cs)

end Directive
end TemplateEngine
