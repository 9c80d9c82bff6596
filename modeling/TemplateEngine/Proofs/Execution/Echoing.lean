import TemplateEngine.Proofs.Artifact.EchoedText
import TemplateEngine.Proofs.Execution.Sequencing

/-!
# Literal text means echo

To write a literal text and to echo the same text quoted leave the same machine. So an artifact with its
literal texts echoed can be read exactly where the artifact can, and runs as it does.
-/

namespace TemplateEngine
namespace Execution

open Artifact (Echoes Lexeme Program Statement parse tokenize withTextsEchoed)

theorem exec_echo_text (s : String) : exec (.echo [.text s]) = exec (.text s) := rfl

theorem execAll_cons_congr {s s' : Statement} {p q : Program} (first : exec s' = exec s)
    (later : execAll q = execAll p) : execAll (s' :: q) = execAll (s :: p) := by
  funext m
  simp only [execAll, first, later]

/-- A program runs as one that echoes it. -/
theorem execAll_echoes {p q : Program} (h : Echoes p q) : execAll q = execAll p := by
  induction h with
  | nil => rfl
  | same s _ ih => exact execAll_cons_congr rfl ih
  | text s _ ih => exact execAll_cons_congr (exec_echo_text s) ih
  | @ifThen condition body body' p q _ _ within later =>
      refine execAll_cons_congr ?_ later
      funext m
      simp only [exec, within]
  | @ifElse condition body body' otherwise otherwise' p q _ _ _ within without later =>
      refine execAll_cons_congr ?_ later
      funext m
      simp only [exec, within, without]
  | @forEach key item source body body' p q _ _ within later =>
      refine execAll_cons_congr ?_ later
      funext m
      simp only [exec, within]

/-- An artifact with its literal texts echoed can be read exactly if the artifact can. Then for every
context both give the same output or fail in the same way. -/
theorem execute_withTextsEchoed {artifact : String} {lexemes : List Lexeme}
    (tokenized : tokenize artifact = .ok lexemes) :
    ((∃ p, parse artifact = .ok p) ↔ ∃ q, parse (withTextsEchoed artifact lexemes) = .ok q) ∧
      ((∃ p, parse artifact = .ok p) → ∀ context,
        execute (withTextsEchoed artifact lexemes) context = execute artifact context) := by
  rcases Artifact.parse_withTextsEchoed tokenized with ⟨p, q, reads, reads', echoes⟩ | ⟨stops, stops'⟩
  · refine ⟨⟨fun _ => ⟨q, reads'⟩, fun _ => ⟨p, reads⟩⟩, fun _ context => ?_⟩
    have same := execAll_echoes echoes
    calc
      execute (withTextsEchoed artifact lexemes) context
          = (execAll q (.ofContext context)).result.1 := by
        rw [execute, Machine.run_of_parse reads']
      _ = (execAll p (.ofContext context)).result.1 := by rw [same]
      _ = execute artifact context := by
        rw [execute, Machine.run_of_parse reads]
  · refine ⟨⟨?_, ?_⟩, ?_⟩
    · rintro ⟨p, reads⟩
      exact absurd reads (stops p)
    · rintro ⟨q, reads'⟩
      exact absurd reads' (stops' q)
    · rintro ⟨p, reads⟩
      exact absurd reads (stops p)

/-- Texts in blocks that go over islands, with a quote and a backslash in them. -/
theorem execute_withTextsEchoed_branches :
    let artifact := "<% if ($x) \x7b %>it's<% \x7d else \x7b %>\\<% \x7d %>!"
    let echoed := "<% if ($x) \x7b %><% echo 'it\\'s' %><% \x7d else \x7b %><% echo '\\\\' %>" ++
      "<% \x7d %><% echo '!' %>"
    (∃ lexemes, tokenize artifact = .ok lexemes ∧ withTextsEchoed artifact lexemes = echoed) ∧
      (∃ p, parse artifact = .ok p) ∧ (∃ q, parse echoed = .ok q) ∧
      ∀ context, execute echoed context = execute artifact context := by
  intro artifact echoed
  let lexemes : List Lexeme := [⟨.keyword .ifWord, 3, 5⟩, ⟨.symbol .openParen, 6, 7⟩,
    ⟨.var "x", 7, 9⟩, ⟨.symbol .closeParen, 9, 10⟩, ⟨.symbol .openBrace, 11, 12⟩,
    ⟨.symbol .semicolon, 13, 15⟩, ⟨.text "it's", 15, 19⟩, ⟨.symbol .closeBrace, 22, 23⟩,
    ⟨.keyword .elseWord, 24, 28⟩, ⟨.symbol .openBrace, 29, 30⟩, ⟨.symbol .semicolon, 31, 33⟩,
    ⟨.text "\\", 33, 34⟩, ⟨.symbol .closeBrace, 37, 38⟩, ⟨.symbol .semicolon, 39, 41⟩,
    ⟨.text "!", 41, 42⟩]
  have tokenized : tokenize artifact = .ok lexemes := by decide +kernel
  have texts : withTextsEchoed artifact lexemes = echoed := by decide +kernel
  have reads : parse artifact =
      .ok [.ifElse (.var "x") [.text "it's"] [.text "\\"], .text "!"] :=
    Artifact.parse_of_program tokenized (by cbv)
  rcases execute_withTextsEchoed tokenized with ⟨together, same⟩
  rw [texts] at together same
  exact ⟨⟨lexemes, tokenized, texts⟩, ⟨_, reads⟩, together.1 ⟨_, reads⟩, same ⟨_, reads⟩⟩

end Execution
end TemplateEngine
