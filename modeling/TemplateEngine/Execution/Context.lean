import TemplateEngine.Execution.Error
import TemplateEngine.Value.Json

/-!
# Data contexts

The named values that a caller supplies to a template. A context is read from a JSON object, each
member of which becomes a variable; null stands for no data at all.
-/

namespace TemplateEngine
namespace Execution

/-- Values by name, in the order of their names. -/
structure Context where
  vars : Keyed Value := []

namespace Context

def empty : Context := ⟨[]⟩

def insert (name : String) (value : Value) (context : Context) : Context :=
  ⟨Keyed.insert name value context.vars⟩

def get? (name : String) (context : Context) : Option Value :=
  Keyed.get? name context.vars

/-- The context of some pairs, a later pair of a name counting. -/
def ofPairs (pairs : List (String × Value)) : Context :=
  ⟨Keyed.ofPairs pairs⟩

def ofJson (text : String) : Except RuntimeError Context :=
  match Value.ofJsonText? text with
  | none => .error .malformedContext
  | some (.object members) => .ok ⟨members⟩
  | some .null => .ok empty
  | some other => .error (.contextNotObject other.kind)

end Context
end Execution
end TemplateEngine
