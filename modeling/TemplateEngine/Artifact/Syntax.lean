import TemplateEngine.Number.Double

/-!
# Syntax of artifacts

An artifact is literal text interleaved with code islands `<% … %>`. Its program is a list of
statements; literal text is a statement too, so a block that one island opens and a later one closes
holds the text between them.
-/

namespace TemplateEngine
namespace Artifact

inductive BinaryOp
  | add | sub | mul | div | mod
  | equal | notEqual | less | lessEqual | greater | greaterEqual
  | and | or
  deriving DecidableEq, Repr

inductive UnaryOp
  | not | neg
  deriving DecidableEq, Repr

inductive Expr
  /-- The value of a name, with or without its sigil. -/
  | var (name : String)
  | number (d : Double)
  | text (s : String)
  | boolean (b : Bool)
  | null
  /-- The list of some values. -/
  | list (items : List Expr)
  | binary (op : BinaryOp) (left right : Expr)
  | unary (op : UnaryOp) (operand : Expr)
  /-- A call of a builtin function. -/
  | call (name : String) (args : List Expr)
  /-- A member of an object, or an item of a list, by a name written in the artifact. -/
  | member (object : Expr) (field : String)
  /-- A member of an object, or an item of a list, by a computed value. -/
  | index (object position : Expr)
  deriving Inhabited

inductive Statement
  /-- Literal text between islands. -/
  | text (s : String)
  /-- Writes the texts of some values. -/
  | echo (values : List Expr)
  | assign (name : String) (value : Expr)
  | ifThen (condition : Expr) (body : List Statement)
  | ifElse (condition : Expr) (body otherwise : List Statement)
  /-- A loop over the entries of a value; `key` names their keys, `item` the items. -/
  | forEach (key : Option String) (item : String) (source : Expr) (body : List Statement)
  /-- An expression by itself. -/
  | eval (e : Expr)
  deriving Inhabited

/-- A program: the statements of an artifact. -/
abbrev Program := List Statement

/-- How tightly an operator binds: operators of a higher level are applied first. -/
def BinaryOp.level : BinaryOp → Nat
  | .or => 1
  | .and => 2
  | .equal | .notEqual => 3
  | .less | .lessEqual | .greater | .greaterEqual => 4
  | .add | .sub => 5
  | .mul | .div | .mod => 6

/-- The level of the operand of an operator before an expression: no operator between expressions
reaches it, while access by member or index binds tighter still. -/
def unaryLevel : Nat := 7

end Artifact
end TemplateEngine
