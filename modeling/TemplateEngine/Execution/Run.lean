import TemplateEngine.Artifact.Parser
import TemplateEngine.Execution.Machine

/-!
# Running artifacts

A machine runs artifacts one after another and keeps its variables between them. The output of a run
is what it wrote; a run that fails has none, and one whose artifact cannot be read changes nothing.
-/

namespace TemplateEngine
namespace Execution

namespace Machine

def ofContext (context : Context) : Machine :=
  { scopes := Scopes.bind context {} }

/-- Runs a program: the output, and the machine without it. -/
def runProgram (program : Artifact.Program) (m : Machine) : Except RuntimeError String × Machine :=
  let ran := execAll program m
  match ran.error with
  | some e => (.error e, ran.machine.clearOutput)
  | none => (.ok ran.machine.output, ran.machine.clearOutput)

def run (artifact : String) (m : Machine) : Except Error String × Machine :=
  match Artifact.parse artifact with
  | .error fault => (.error (.parse fault), m)
  | .ok program =>
      let (result, m) := m.runProgram program
      (result.mapError .runtime, m)

end Machine

def execute (artifact : String) (context : Context) : Except Error String :=
  ((Machine.ofContext context).run artifact).1

end Execution
end TemplateEngine
