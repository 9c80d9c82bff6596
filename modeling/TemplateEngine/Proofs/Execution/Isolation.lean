import TemplateEngine.Proofs.Execution.Relevance
import TemplateEngine.Proofs.Execution.Sequencing

/-!
# Runs one after another

A machine serves one artifact after another. Whatever became of the runs before, of a run that failed
inside loops too, nothing is left of them but the variables of the global scope: the next run cannot tell
the machine from a new one that holds the same variables.
-/

namespace TemplateEngine
namespace Execution

open Artifact (Lexeme Program parse programMentioned tokenize)

/-! ## Machines at rest -/

/-- No output is kept, and there is one scope, which is the global one. -/
structure Machine.AtRest (m : Machine) : Prop where
  output : m.output = ""
  scopes : m.scopes.toList.length = 1

/-- The machines that come about from a new one, or from one with a context bound, by running artifacts
one after another, whether the runs succeed or fail. -/
inductive Machine.Served : Machine → Prop
  | new : Served {}
  | ofContext (context : Context) : Served (Machine.ofContext context)
  | run {m : Machine} (served : Served m) (artifact : String) : Served (m.run artifact).2

/-- The result of a run, whatever the outcome, leaves a machine without output and with the scopes of
the outcome. -/
theorem Outcome.result_machine (ran : Outcome) : ran.result.2 = ran.machine.clearOutput := by
  unfold Outcome.result
  cases ran.error <;> rfl

namespace Machine

/-- An artifact that cannot be read changes nothing. -/
theorem run_of_fault {artifact : String} {fault : Artifact.Fault}
    (unread : parse artifact = .error fault) (m : Machine) :
    m.run artifact = (.error (.parse fault), m) := by
  unfold run
  rw [unread]

/-- A program opens as many scopes as it closes, also where it fails inside its loops. -/
theorem AtRest.run {m : Machine} (rest : m.AtRest) (artifact : String) :
    (m.run artifact).2.AtRest := by
  cases read : parse artifact with
  | error fault =>
      rw [run_of_fault read]
      exact rest
  | ok program =>
      have frames := (execAll_framed program m).forall₂
      rw [run_of_parse read, Outcome.result_machine]
      exact ⟨rfl, frames.length_eq.symm.trans rest.scopes⟩

/-- A served machine is at rest. -/
theorem Served.atRest {m : Machine} (served : m.Served) : m.AtRest := by
  induction served with
  | new => exact ⟨rfl, rfl⟩
  | ofContext context => exact ⟨rfl, rfl⟩
  | run _ artifact ih => exact ih.run artifact

/-! ## Machines with the same variables -/

/-- At rest a machine is known by its variables. -/
theorem AtRest.alike {m m' : Machine} (rest : m.AtRest) (rest' : m'.AtRest)
    (same : ∀ name, m.scopes.get? name = m'.scopes.get? name) :
    Machine.Alike (fun _ => True) m m' := by
  rcases m with ⟨⟨inner, globals⟩, output⟩
  rcases m' with ⟨⟨inner', globals'⟩, output'⟩
  have single : inner = [] := by simpa [Scopes.toList] using rest.scopes
  have single' : inner' = [] := by simpa [Scopes.toList] using rest'.scopes
  subst single single'
  refine ⟨⟨.nil, fun name _ => ?_⟩, rest.output.trans rest'.output.symm⟩
  simpa [Scopes.get?, Scopes.toList] using same name

/-- Machines that bind the names of an artifact alike give the same for it, and bind them alike
afterwards. -/
theorem Alike.run_of_mentioned {names : String → Prop} {m m' : Machine}
    (alike : Machine.Alike names m m') {artifact : String}
    (only : ∀ program, parse artifact = .ok program → ∀ name ∈ programMentioned program, names name) :
    (m.run artifact).1 = (m'.run artifact).1 ∧
      Scopes.Alike names (m.run artifact).2.scopes (m'.run artifact).2.scopes := by
  cases read : parse artifact with
  | error fault =>
      rw [run_of_fault read, run_of_fault read]
      exact ⟨rfl, alike.scopes⟩
  | ok program =>
      have ran := (indistinct_alike names).execAll program (only program read) alike
      rw [run_of_parse read, run_of_parse read]
      refine ⟨?_, ?_⟩
      · unfold Outcome.result
        rw [ran.error]
        cases (execAll program m').error with
        | some e => rfl
        | none => exact congrArg Except.ok ran.machine.output
      · rw [Outcome.result_machine, Outcome.result_machine]
        exact ran.machine.scopes

/-- Machines that bind all names alike give the same, and bind all names alike afterwards. -/
theorem Alike.run {m m' : Machine} (alike : Machine.Alike (fun _ => True) m m')
    (artifact : String) :
    (m.run artifact).1 = (m'.run artifact).1 ∧
      Scopes.Alike (fun _ => True) (m.run artifact).2.scopes (m'.run artifact).2.scopes :=
  alike.run_of_mentioned fun _ _ _ _ => trivial

/-- After any runs a machine is at rest, and a run on it leaves it at rest; where the artifact cannot be
read the machine is as it was. The run gives what it gives on any machine at rest with the same
variables, and both have the same variables then. -/
theorem run_isolated {m : Machine} (served : m.Served) (artifact : String) :
    (m.run artifact).2.AtRest ∧
      (∀ fault, (m.run artifact).1 = .error (.parse fault) → (m.run artifact).2 = m) ∧
      ∀ fresh : Machine, fresh.AtRest →
        (∀ name, fresh.scopes.get? name = m.scopes.get? name) →
          (fresh.run artifact).1 = (m.run artifact).1 ∧
            ∀ name, (fresh.run artifact).2.scopes.get? name = (m.run artifact).2.scopes.get? name := by
  refine ⟨served.atRest.run artifact, ?_, ?_⟩
  · intro fault failed
    cases read : parse artifact with
    | error fault => rw [run_of_fault read]
    | ok program =>
        -- A program that runs has no parse error to give.
        rw [run_of_parse read, Outcome.result] at failed
        split at failed <;> cases failed
  · intro fresh rest same
    rcases (rest.alike served.atRest same).run artifact with ⟨result, scopes⟩
    exact ⟨result, fun name => scopes.get? trivial⟩

/-- An artifact that fails in a loop inside a loop, with output and names of the loops at hand. -/
def failingArtifact : String :=
  "<% $n = ''; for $x in $xs \x7b for $y in $xs \x7b $m = $y; echo $m; $n = $x; echo -$y \x7d \x7d %>"

def brokenArtifact : String := "<% $n = $x; echo ("

def servedMachine : Machine :=
  (((ofContext ⟨[("xs", .list [.text "a", .text "b"])]⟩).run failingArtifact).2.run
    brokenArtifact).2

theorem servedMachine_eq :
    servedMachine = ⟨⟨[], [("n", .text "a"), ("xs", .list [.text "a", .text "b"])]⟩, ""⟩ := by
  have scanned : (tokenize failingArtifact).toOption.map (List.map Lexeme.token) = some
      [.var "n", .symbol .assign, .quoted "", .symbol .semicolon, .keyword .forWord, .var "x",
        .keyword .inWord, .var "xs", .symbol .openBrace, .keyword .forWord, .var "y",
        .keyword .inWord, .var "xs", .symbol .openBrace, .var "m", .symbol .assign, .var "y",
        .symbol .semicolon, .keyword .echoWord, .var "m", .symbol .semicolon, .var "n",
        .symbol .assign, .var "x", .symbol .semicolon, .keyword .echoWord, .symbol .minus, .var "y",
        .symbol .closeBrace, .symbol .closeBrace, .symbol .semicolon] := by
    decide +kernel
  have read : parse failingArtifact = .ok
      [.assign "n" (.text ""), .forEach none "x" (.var "xs")
        [.forEach none "y" (.var "xs")
          [.assign "m" (.var "y"), .echo [.var "m"], .assign "n" (.var "x"),
            .echo [.unary .neg (.var "y")]]]] :=
    Artifact.parse_of_tokens scanned (by cbv)
  have stuck : tokenize brokenArtifact = .error ⟨1, .endOfInput⟩ := by decide +kernel
  have unread : parse brokenArtifact = .error ⟨1, .endOfInput⟩ := Artifact.parse_of_fault stuck
  unfold servedMachine
  rw [run_of_fault unread, run_of_parse read]
  rfl

/-- The assignment that was done before the failure stays, and neither the names of the loops nor the
output. A new machine with its variables bound the other way round gives the same. -/
theorem run_isolated_servedMachine :
    servedMachine.Served ∧
      (servedMachine.run "<% echo $n, $m, $x %>").2.AtRest ∧
      (servedMachine.run "<% echo $n, $m, $x %>").1 = .ok "a" ∧
      (Machine.run "<% echo $n, $m, $x %>"
        ⟨⟨[], [("xs", .list [.text "a", .text "b"]), ("n", .text "a")]⟩, ""⟩).1 = .ok "a" := by
  have served : servedMachine.Served := ((Served.ofContext _).run _).run _
  rcases run_isolated served "<% echo $n, $m, $x %>" with ⟨rest, _, isolated⟩
  have scanned : (tokenize "<% echo $n, $m, $x %>").toOption.map (List.map Lexeme.token) = some
      [.keyword .echoWord, .var "n", .symbol .comma, .var "m", .symbol .comma, .var "x",
        .symbol .semicolon] := by
    decide +kernel
  have read : parse "<% echo $n, $m, $x %>" = .ok [.echo [.var "n", .var "m", .var "x"]] :=
    Artifact.parse_of_tokens scanned (by cbv)
  have result : (servedMachine.run "<% echo $n, $m, $x %>").1 = .ok "a" := by
    rw [servedMachine_eq, run_of_parse read]
    rfl
  refine ⟨served, rest, result, ?_⟩
  have fresh := isolated
    ⟨⟨[], [("xs", .list [.text "a", .text "b"]), ("n", .text "a")]⟩, ""⟩ ⟨rfl, rfl⟩
  refine (fresh fun name => ?_).1.trans result
  rw [servedMachine_eq]
  by_cases isList : name = "xs"
  · rw [isList]
    rfl
  · by_cases isNumber : name = "n"
    · rw [isNumber]
      rfl
    · simp [Scopes.get?, Scopes.toList, Keyed.get?_cons, Ne.symm isList, Ne.symm isNumber]

end Machine
end Execution
end TemplateEngine
