import TemplateEngine.Artifact.Syntax
import TemplateEngine.Number.Decimal
import TemplateEngine.Text.Quoted

/-!
# Tokens of artifacts

Outside islands the text up to the next `<%` is one token. Inside, tokens are those of the script
language; the end of an island counts as a semicolon, so an island always ends a statement.
-/

namespace TemplateEngine
namespace Artifact

/-- Words that are not names. After an arrow they are member names all the same. -/
inductive Keyword
  | echoWord | ifWord | elseWord | forWord | inWord | trueWord | falseWord | nullWord
  deriving DecidableEq, Repr

inductive Symbol
  | openBrace | closeBrace | openParen | closeParen | openBracket | closeBracket
  | comma | semicolon | arrow | assign
  | plus | minus | star | slash | percent | bang
  | equal | notEqual | less | lessEqual | greater | greaterEqual | and | or
  deriving DecidableEq, Repr

inductive Token
  /-- Literal text outside islands. -/
  | text (s : String)
  /-- A name with its sigil. -/
  | var (name : String)
  /-- A name by itself. -/
  | name (name : String)
  | number (d : Double)
  /-- The content of a quoted text. -/
  | quoted (s : String)
  | keyword (k : Keyword)
  | symbol (s : Symbol)
  deriving DecidableEq, Repr

def Keyword.spelling : Keyword → String
  | .echoWord => "echo"
  | .ifWord => "if"
  | .elseWord => "else"
  | .forWord => "for"
  | .inWord => "in"
  | .trueWord => "true"
  | .falseWord => "false"
  | .nullWord => "null"

def Keyword.all : List Keyword :=
  [.echoWord, .ifWord, .elseWord, .forWord, .inWord, .trueWord, .falseWord, .nullWord]

def Keyword.ofWord? (word : String) : Option Keyword :=
  Keyword.all.find? fun k => k.spelling == word

def Symbol.spelling : Symbol → String
  | .openBrace => "\x7b"
  | .closeBrace => "\x7d"
  | .openParen => "("
  | .closeParen => ")"
  | .openBracket => "["
  | .closeBracket => "]"
  | .comma => ","
  | .semicolon => ";"
  | .arrow => "->"
  | .assign => "="
  | .plus => "+"
  | .minus => "-"
  | .star => "*"
  | .slash => "/"
  | .percent => "%"
  | .bang => "!"
  | .equal => "=="
  | .notEqual => "!="
  | .less => "<"
  | .lessEqual => "<="
  | .greater => ">"
  | .greaterEqual => ">="
  | .and => "&&"
  | .or => "||"

def Symbol.infixOp? : Symbol → Option BinaryOp
  | .or => some .or
  | .and => some .and
  | .equal => some .equal
  | .notEqual => some .notEqual
  | .less => some .less
  | .lessEqual => some .lessEqual
  | .greater => some .greater
  | .greaterEqual => some .greaterEqual
  | .plus => some .add
  | .minus => some .sub
  | .star => some .mul
  | .slash => some .div
  | .percent => some .mod
  | _ => none

def Symbol.prefixOp? : Symbol → Option UnaryOp
  | .bang => some .not
  | .minus => some .neg
  | _ => none

def Token.shown : Token → String
  | .text _ => "text"
  | .var s => "$" ++ s
  | .name s => s
  | .number d => d.write .plain "NaN" "inf"
  | .quoted s => Text.quoted s
  | .keyword k => k.spelling
  | .symbol s => s.spelling

/-- The largest member name that a number can be. -/
def maxMemberNumber : Nat := Nat.pow 2 64 - 1

/-- The member name that a token is after an arrow: a name, a keyword by its spelling, or a whole
number by its digits. -/
def Token.memberName? : Token → Option String
  | .name s => some s
  | .keyword k => some k.spelling
  | .number d =>
      match d.toInt? with
      | some _ => some (String.ofList (Decimal.digits (d.toNatUpTo maxMemberNumber)))
      | none => none
  | _ => none

/-- A token with the places in the artifact where it starts and where it stops. -/
structure Lexeme where
  token : Token
  start : Nat
  stop : Nat
  deriving DecidableEq, Repr

end Artifact
end TemplateEngine
