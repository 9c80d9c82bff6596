import TemplateEngine.Artifact.Error
import TemplateEngine.Value.Basic

/-!
# Execution errors

What can go wrong while a program runs, each cause with the types or names that its message shows.
-/

namespace TemplateEngine
namespace Execution

/-- Why a running program stops. -/
inductive RuntimeError
  | notIterable (kind : Value.Kind)
  | notNegatable (kind : Value.Kind)
  | notIndexable (subject position : Value.Kind)
  | notAddable (left right : Value.Kind)
  | notNumeric (left right : Value.Kind)
  | notComparable (left right : Value.Kind)
  | divisionByZero
  | moduloByZero
  | unknownFunction (name : String)
  | argumentCount (name : String) (count : Nat)
  | joinArgumentCount
  | unpairedArguments
  | noLength (kind : Value.Kind)
  | notJoinable (kind : Value.Kind)
  | noKeys (kind : Value.Kind)
  | malformedContext
  | contextNotObject (kind : Value.Kind)
  deriving DecidableEq, Repr

def RuntimeError.message : RuntimeError → String
  | .notIterable k => "Cannot iterate over " ++ k.name
  | .notNegatable k => "Cannot negate " ++ k.name
  | .notIndexable subject position => "Cannot index " ++ subject.name ++ " with " ++ position.name
  | .notAddable left right => "Cannot add " ++ left.name ++ " and " ++ right.name
  | .notNumeric left right =>
      "Cannot perform numeric operation on " ++ left.name ++ " and " ++ right.name
  | .notComparable left right => "Cannot compare " ++ left.name ++ " and " ++ right.name
  | .divisionByZero => "Division by zero"
  | .moduloByZero => "Modulo by zero"
  | .unknownFunction name => "Unknown function: " ++ name ++ "()"
  | .argumentCount name count =>
      name ++ "() takes exactly " ++ String.ofList (Decimal.digits count) ++ " argument" ++
        (if count = 1 then "" else "s")
  | .joinArgumentCount => "join() takes 1 or 2 arguments"
  | .unpairedArguments => "object() takes key/value pairs"
  | .noLength k => "Cannot get length of " ++ k.name
  | .notJoinable k => "Cannot join " ++ k.name
  | .noKeys k => "Cannot get keys of " ++ k.name
  | .malformedContext => "Invalid context JSON"
  | .contextNotObject k => "Context must be an object, got " ++ k.name

/-- Why an artifact has no output: it cannot be read, or it stops while it runs. -/
inductive Error
  | parse (fault : Artifact.Fault)
  | runtime (cause : RuntimeError)
  deriving DecidableEq, Repr

def Error.message : Error → String
  | .parse fault =>
      "Parse error on line " ++ String.ofList (Decimal.digits fault.line) ++ ": " ++
        fault.cause.message
  | .runtime cause => "Runtime error: " ++ cause.message

end Execution
end TemplateEngine
