import TemplateEngine.Execution.Context
import TemplateEngine.Text.CharClass

/-!
# Scopes

Variables live in scopes: the global one, which holds the data of the caller, and one for each loop
body that is running. A name means its innermost binding, and an assignment goes there too; a name
without a binding is bound in the innermost scope. There is always a global scope, so popping leaves
it alone.
-/

namespace TemplateEngine
namespace Execution

/-- The scopes of running loop bodies, innermost first, and the global scope. -/
structure Scopes where
  inner : List (Keyed Value) := []
  globals : Keyed Value := []

namespace Scopes

def toList (scopes : Scopes) : List (Keyed Value) :=
  scopes.inner ++ [scopes.globals]

def get? (name : String) (scopes : Scopes) : Option Value :=
  scopes.toList.findSome? (Keyed.get? name)

def push (scopes : Scopes) : Scopes :=
  { scopes with inner := [] :: scopes.inner }

def pop (scopes : Scopes) : Scopes :=
  { scopes with inner := scopes.inner.tail }

def define (name : String) (value : Value) (scopes : Scopes) : Scopes :=
  match scopes.inner with
  | [] => { scopes with globals := Keyed.insert name value scopes.globals }
  | scope :: outer => { scopes with inner := Keyed.insert name value scope :: outer }

/-- Some scopes with the value of a name changed in the first one that binds it. -/
def update? (name : String) (value : Value) : List (Keyed Value) → Option (List (Keyed Value))
  | [] => none
  | scope :: outer =>
      if (Keyed.get? name scope).isSome then some (Keyed.insert name value scope :: outer)
      else (update? name value outer).map (scope :: ·)

/-- The scopes after an assignment: to the innermost binding of the name, or to a new one. -/
def assign (name : String) (value : Value) (scopes : Scopes) : Scopes :=
  match update? name value scopes.inner with
  | some inner => { scopes with inner := inner }
  | none =>
      if (Keyed.get? name scopes.globals).isSome then
        { scopes with globals := Keyed.insert name value scopes.globals }
      else scopes.define name value

/-- Global variables with some more bound, those excepted that are bound already or whose names no
template can mention. -/
def bindGlobals (globals : Keyed Value) (vars : List (String × Value)) : Keyed Value :=
  vars.foldl
    (fun globals (name, value) =>
      if Text.isName name.toList && (Keyed.get? name globals).isNone then
        Keyed.insert name value globals
      else globals)
    globals

def bind (context : Context) (scopes : Scopes) : Scopes :=
  { scopes with globals := bindGlobals scopes.globals context.vars }

end Scopes
end Execution
end TemplateEngine
