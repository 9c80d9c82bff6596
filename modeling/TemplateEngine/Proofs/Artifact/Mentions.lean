import TemplateEngine.Artifact.Syntax

/-!
# Names in programs

Two lists of names are read off a program: those it assigns to, and all that it mentions as variables,
as targets of assignments or as names of loops. A run changes no binding of a name that is not assigned
to, and looks up no name that is not mentioned.
-/

namespace TemplateEngine
namespace Artifact

mutual

/-- The names that the assignments of a statement are for, at any depth. -/
def Statement.assigned : Statement → List String
  | .assign name _ => [name]
  | .ifThen _ body => programAssigned body
  | .ifElse _ body otherwise => programAssigned body ++ programAssigned otherwise
  | .forEach _ _ _ body => programAssigned body
  | _ => []

def programAssigned : List Statement → List String
  | [] => []
  | s :: rest => s.assigned ++ programAssigned rest

end

mutual

def Expr.mentioned : Expr → List String
  | .var name => [name]
  | .list items => exprsMentioned items
  | .binary _ left right => left.mentioned ++ right.mentioned
  | .unary _ operand => operand.mentioned
  | .call _ args => exprsMentioned args
  | .member object _ => object.mentioned
  | .index object position => object.mentioned ++ position.mentioned
  | _ => []

def exprsMentioned : List Expr → List String
  | [] => []
  | e :: es => e.mentioned ++ exprsMentioned es

end

mutual

/-- The names in a statement: variables, targets of assignments and names of loops. -/
def Statement.mentioned : Statement → List String
  | .text _ => []
  | .echo values => exprsMentioned values
  | .assign name value => name :: value.mentioned
  | .ifThen condition body => condition.mentioned ++ programMentioned body
  | .ifElse condition body otherwise =>
      condition.mentioned ++ (programMentioned body ++ programMentioned otherwise)
  | .forEach key item source body =>
      key.toList ++ item :: (source.mentioned ++ programMentioned body)
  | .eval e => e.mentioned

def programMentioned : List Statement → List String
  | [] => []
  | s :: rest => s.mentioned ++ programMentioned rest

end

end Artifact
end TemplateEngine
