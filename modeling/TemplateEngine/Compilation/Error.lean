import TemplateEngine.Execution.Error
import TemplateEngine.Files.Error

/-!
# Compilation errors

Why a template cannot be compiled, cached or rendered. Each cause has a message of its own; some
have causes further down, whose messages a caller may add.
-/

namespace TemplateEngine

inductive CompileError
  | sourceNotFound (path : String) (cause : FileError)
  | writeFailed (path : String) (cause : FileError)
  | execution (cause : Execution.Error)
  /-- The identities of the templates that are open, outermost first, and the one opened again. -/
  | includeCycle (chain : List String)
  | includeDepthExceeded (path : String) (limit : Nat)
  | unknownBlock (source block : String)
  | unterminatedDirective (source : String) (line : Nat)
  /-- The settings file cannot be read, or does not hold settings. -/
  | settings (path : String)
  | io (cause : FileError)
  deriving DecidableEq, Repr

namespace CompileError

def message : CompileError → String
  | .sourceNotFound path _ => "Template not found: " ++ path
  | .writeFailed path _ => "Cannot write compiled template " ++ path
  | .execution cause => "Template execution failed: " ++ cause.message
  | .includeCycle chain => "Include cycle detected: " ++ " -> ".intercalate chain
  | .includeDepthExceeded path limit =>
      "Include depth limit of " ++ String.ofList (Decimal.digits limit) ++
        " exceeded while including " ++ path
  | .unknownBlock source block => "Unknown block '" ++ block ++ "' referenced in " ++ source
  | .unterminatedDirective source line =>
      "Unterminated directive on line " ++ String.ofList (Decimal.digits line) ++ " of " ++ source
  | .settings path => "Invalid configuration in " ++ path
  | .io cause => "I/O error: " ++ cause.message

/-- The text of what caused a compilation error, if something else did. -/
def cause? : CompileError → Option String
  | .sourceNotFound _ cause | .writeFailed _ cause | .io cause => some cause.message
  | .execution cause => some cause.message
  | _ => none

/-- The text of an error with that of its cause. -/
def fullMessage (e : CompileError) : String :=
  match e.cause? with
  | none => e.message
  | some cause => e.message ++ ": " ++ cause

end CompileError
end TemplateEngine
