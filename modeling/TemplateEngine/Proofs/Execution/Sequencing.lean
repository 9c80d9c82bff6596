import TemplateEngine.Proofs.Artifact.Joining
import TemplateEngine.Proofs.Execution.PathValues
import TemplateEngine.Proofs.Execution.TwoRuns

/-!
# Running joined artifacts

Output is only ever added to, and nothing that runs looks at it. So to run two artifacts joined is to run
one and then the other on the machine that it left, and to join what they wrote.
-/

namespace TemplateEngine
namespace Execution

open Artifact (Lexeme Program Joins parse tokenize)

/-! ## Output in front -/

/-- The same scopes, and the second machine has some more output in front. -/
structure Machine.Follows (front : String) (m m' : Machine) : Prop where
  scopes : m.scopes = m'.scopes
  output : m'.output = front ++ m.output

theorem Machine.Follows.clearOutput {front : String} {m m' : Machine} (h : Machine.Follows front m m') :
    m.clearOutput = m'.clearOutput := by
  rw [Machine.clearOutput, h.scopes]
  rfl

/-- A machine that has written more is indistinct from one that has not. -/
theorem indistinct_follows (front : String) :
    Indistinct (fun _ => True) (Machine.Follows front) where
  get? h _ := congrArg (Scopes.get? _) h.scopes
  emit text h := ⟨h.scopes, by simp only [Machine.emit, h.output, String.append_assoc]⟩
  define v h _ := ⟨congrArg (Scopes.define _ v) h.scopes, h.output⟩
  assign v h _ := ⟨congrArg (Scopes.assign _ v) h.scopes, h.output⟩
  push h := ⟨congrArg Scopes.push h.scopes, h.output⟩
  pop h := ⟨congrArg Scopes.pop h.scopes, h.output⟩

/-- What a program leaves does not depend on the output that is there, which stays in front. -/
theorem execAll_clearOutput (program : Program) (m : Machine) :
    Outcome.Match (Machine.Follows m.output) (execAll program m.clearOutput) (execAll program m) :=
  (indistinct_follows m.output).execAll program (fun _ _ => trivial)
    ⟨rfl, by simp [Machine.clearOutput]⟩

/-! ## One program after another -/

/-- A literal text in two parts is written as one. -/
theorem execAll_joins {p q r : Program} (joins : Joins p q r) (m : Machine) :
    execAll r m = (execAll p m).andThen (execAll q) := by
  rw [← execAll_append_eq]
  cases joins with
  | apart => rfl
  | merged before s s' after =>
      rw [List.append_assoc, execAll_append_eq, execAll_append_eq before]
      unfold Outcome.andThen
      cases (execAll before m).error with
      | some e => rfl
      | none => simp [execAll, exec]

/-- What a run gives, and the machine it leaves without the output. -/
def Outcome.result (ran : Outcome) : Except Error String × Machine :=
  match ran.error with
  | some e => (.error (.runtime e), ran.machine.clearOutput)
  | none => (.ok ran.machine.output, ran.machine.clearOutput)

namespace Machine

/-- What can be read runs as its program. -/
theorem run_of_parse {artifact : String} {p : Program} (read : parse artifact = .ok p)
    (m : Machine) : m.run artifact = (execAll p m).result := by
  unfold run runProgram Outcome.result
  rw [read]
  cases failed : (execAll p m).error <;> simp [failed, Except.mapError]

/-- Runs one artifact and then another: the outputs joined, or the first failure. -/
def runBoth (a b : String) (m : Machine) : Except Error String × Machine :=
  match m.run a with
  | (.error e, left) => (.error e, left)
  | (.ok out, left) =>
      match left.run b with
      | (.error e, left) => (.error e, left)
      | (.ok more, left) => (.ok (out ++ more), left)

theorem runBoth_of_parse {a b : String} {p q : Program} (readsA : parse a = .ok p)
    (readsB : parse b = .ok q) (m : Machine) :
    m.runBoth a b = ((execAll p m).andThen (execAll q)).result := by
  rw [runBoth, run_of_parse readsA]
  rcases execAll p m with ⟨left, _ | e⟩
  · -- The second artifact runs with no output there, which is in front when both run as one.
    have second := execAll_clearOutput q left
    simp only [Outcome.result, Outcome.andThen, run_of_parse readsB, second.error,
      second.machine.clearOutput, second.machine.output]
    cases (execAll q left).error <;> rfl
  · rfl

/-- Two artifacts that can be read can be read joined, unless an opening marker comes about at the seam.
Any machine that runs them joined gives the same, and is left the same, as if it ran one and then the
other. -/
theorem run_append {a b : String} {p q : Program} (readsA : parse a = .ok p)
    (readsB : parse b = .ok q)
    (seam : ¬ (a.toList.getLast? = some '<' ∧ b.toList.head? = some '%')) :
    (∃ r, parse (a ++ b) = .ok r) ∧ ∀ m : Machine, m.run (a ++ b) = m.runBoth a b := by
  rcases Artifact.parse_append readsA readsB fun last head => seam ⟨last, head⟩ with
    ⟨r, reads, joins⟩
  refine ⟨⟨r, reads⟩, fun m => ?_⟩
  rw [run_of_parse reads, execAll_joins joins, runBoth_of_parse readsA readsB]

/-- Texts meet at the seam, and a variable of the first artifact is seen by the second. -/
theorem run_append_greeting :
    let first := "<% $name = 'Ada' %>Hello"
    let second := ", <% echo $name; echo -$name %>!"
    (∃ p, parse first = .ok p) ∧ (∃ q, parse second = .ok q) ∧
      (∃ r, parse (first ++ second) = .ok r) ∧
      ∀ m : Machine, m.run (first ++ second) = m.runBoth first second := by
  intro first second
  have scansA : (tokenize first).toOption.map (List.map Lexeme.token) = some
      [.var "name", .symbol .assign, .quoted "Ada", .symbol .semicolon, .text "Hello"] := by
    decide +kernel
  have scansB : (tokenize second).toOption.map (List.map Lexeme.token) = some
      [.text ", ", .keyword .echoWord, .var "name", .symbol .semicolon, .keyword .echoWord,
        .symbol .minus, .var "name", .symbol .semicolon, .text "!"] := by
    decide +kernel
  have readsA : parse first = .ok [.assign "name" (.text "Ada"), .text "Hello"] :=
    Artifact.parse_of_tokens scansA (by cbv)
  have readsB : parse second =
      .ok [.text ", ", .echo [.var "name"], .echo [.unary .neg (.var "name")], .text "!"] :=
    Artifact.parse_of_tokens scansB (by cbv)
  exact ⟨⟨_, readsA⟩, ⟨_, readsB⟩, run_append readsA readsB (by decide)⟩

/-- Alone each of the two is a literal text; joined they open an island. -/
example : tokenize "a <" = .ok [⟨.text "a <", 0, 3⟩] ∧ tokenize "% b" = .ok [⟨.text "% b", 0, 3⟩] ∧
    tokenize ("a <" ++ "% b") = .error ⟨1, .endOfInput⟩ := by
  decide +kernel

end Machine
end Execution
end TemplateEngine
