import TemplateEngine.Directive.AccessChain
import TemplateEngine.Directive.Marker

/-!
# Code and interpolations

Every other directive is code and becomes an island with its body as written; an interpolation
becomes an island that echoes its expression. The body goes from the first character that is not
white space to the nearest closing after that character. A directive of white space alone takes its
last blank for its body where no closing follows its own; otherwise its own closing is part of the
body.
-/

namespace TemplateEngine
namespace Directive

open Text (isBlank after? until? Recogniser)

def body : Recogniser (List Char) := fun inside =>
  let blanks := inside.takeWhile isBlank
  match inside.dropWhile isBlank with
  | [] => none
  | c :: cs =>
      match until? close? (fun _ => true) cs with
      | some (read, rest) => some (c :: read, rest)
      | none =>
          match blanks.getLast?, after? directiveClose (c :: cs) with
          | some blank, some rest => some ([blank], rest)
          | _, _ => none

def code : Recogniser (List Char) := fun cs =>
  (after? directiveOpen cs).bind body

def interpolation : Recogniser (List Char) := fun cs =>
  (after? interpolationOpen cs).bind body

def codeIsland (read : List Char) : List Char :=
  "<% ".toList ++ read ++ " %>".toList

def echoIsland (read : List Char) : List Char :=
  "<% echo ".toList ++ echoed read ++ " %>".toList

def codeToIslands (text : String) : String :=
  String.ofList (Text.replaceSpans code codeIsland text.toList)

def interpolationsToIslands (text : String) : String :=
  String.ofList (Text.replaceSpans interpolation echoIsland text.toList)

end Directive
end TemplateEngine
