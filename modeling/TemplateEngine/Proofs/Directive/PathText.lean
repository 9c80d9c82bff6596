import TemplateEngine.Execution.Context
import TemplateEngine.Proofs.Artifact.Printer
import TemplateEngine.Proofs.Directive.BlockText

/-!
# Texts of data paths

Templates made of prose and of interpolations that show a place in the data, as data. A path starts at
a variable and goes down by steps, each a name or a position; it is written with dots. Beside the text
of such a template stand the program that shows the same, and the output, which is said of the data
alone: it takes each step of a path at the value reached so far.
-/

namespace TemplateEngine
namespace Directive

open Artifact (Expr Statement Program islandOpen)

/-! ## Paths -/

/-- A step from a value to a part of it. -/
inductive PathStep
  /-- By a name, which may be a keyword. -/
  | name (word : String) (isName : Text.isName word.toList = true)
  | position (n : Nat) (small : n < Nat.pow 2 53)

def PathStep.text : PathStep → String
  | .name word _ => word
  | .position n _ => String.ofList (Decimal.digits n)

/-- The part of a value that a step leads to: a member of an object, an item of a list, and null where
there is none. -/
def PathStep.take (step : PathStep) (v : Value) : Value :=
  match v, step with
  | .object members, _ => (Keyed.get? step.text members).getD .null
  | .list items, .position n _ => items.getD n .null
  | _, _ => .null

/-- A place in the data: a variable and the steps down from it. -/
structure DataPath where
  root : String
  isName : Text.isName root.toList = true
  notConstant : root ∉ ["true", "false", "null"]
  steps : List PathStep

def stepChars (mark : List Char) (steps : List PathStep) : List Char :=
  steps.flatMap fun step => mark ++ step.text.toList

def DataPath.chars (path : DataPath) : List Char :=
  path.root.toList ++ stepChars ['.'] path.steps

/-- The value at a path: each step is taken from the value that the steps before it lead to. -/
def DataPath.value (path : DataPath) (context : Execution.Context) : Value :=
  path.steps.foldl (fun v step => step.take v) ((context.get? path.root).getD .null)

def DataPath.expr (path : DataPath) : Expr :=
  path.steps.foldl (fun e step => .member e step.text) (.var path.root)

/-! ## Templates -/

structure Prose extends Literal where
  noIsland : Text.occurs islandOpen chars = false

/-- An interpolation of a path, in any spacing. -/
structure PathInterpolation where
  opening : Spacing
  path : DataPath
  closing : Spacing

def PathInterpolation.chars (i : PathInterpolation) : List Char :=
  interpolationOpen ++ (i.opening.chars ++ (i.path.chars ++ (i.closing.chars ++ directiveClose)))

abbrev PathParts := List (PathInterpolation × Prose)

/-- Prose and interpolations by turns. -/
structure PathTemplate where
  first : Prose
  parts : PathParts

def pathPartChars (parts : PathParts) : List Char :=
  parts.flatMap fun part => part.1.chars ++ part.2.chars

def PathTemplate.text (template : PathTemplate) : String :=
  String.ofList (template.first.chars ++ pathPartChars template.parts)

/-- What the parts of a template show: the prose as it is, and the texts of the values. -/
def pathPartOutput (context : Execution.Context) (parts : PathParts) : List Char :=
  parts.flatMap fun part => (part.1.path.value context).toText.toList ++ part.2.chars

def PathTemplate.output (template : PathTemplate) (context : Execution.Context) : String :=
  String.ofList (template.first.chars ++ pathPartOutput context template.parts)

/-! ## Programs -/

/-- Prose as statements: no text is no statement. -/
def Prose.statements (prose : Prose) : List Statement :=
  if prose.chars = [] then [] else [.text (String.ofList prose.chars)]

def pathPartStatements (parts : PathParts) : List Statement :=
  parts.flatMap fun part => .echo [part.1.path.expr] :: part.2.statements

/-- The program that shows what a template shows. -/
def PathTemplate.program (template : PathTemplate) : Program :=
  template.first.statements ++ pathPartStatements template.parts

end Directive
end TemplateEngine
