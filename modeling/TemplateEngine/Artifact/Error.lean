import TemplateEngine.Artifact.Token

/-!
# Syntax errors

An artifact that is not well formed is refused at the furthest place that any reading of it reached.
-/

namespace TemplateEngine
namespace Artifact

/-- Why an artifact cannot be read. -/
inductive SyntaxError
  /-- No token begins or goes on with this character. -/
  | badCharacter (c : Char)
  /-- No statement goes on with this token. -/
  | badToken (t : Token)
  /-- The artifact ends in the middle of an island, a text or a block. -/
  | endOfInput
  /-- An arrow has this token after it, which is no member name. -/
  | notMemberName (t : Token)
  deriving DecidableEq, Repr

/-- What was found where the reading stopped. -/
def SyntaxError.message : SyntaxError → String
  | .badCharacter c => "found '" ++ String.ofList [c] ++ "'"
  | .badToken t => "found '" ++ t.shown ++ "'"
  | .endOfInput => "found end of input"
  | .notMemberName t => "expected member name, found " ++ t.shown

/-- A syntax error on a line, counted from one. -/
structure Fault where
  line : Nat
  cause : SyntaxError
  deriving DecidableEq, Repr

end Artifact
end TemplateEngine
