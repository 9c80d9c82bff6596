import TemplateEngine.Proofs.Artifact.PrintedText
import TemplateEngine.Proofs.Artifact.PrintedStatements

/-!
# RoundTrip — parsing undoes printing

The two halves meet at the tokens: the text of a printed program splits into the tokens of its marks,
and those tokens are read as the program.
-/

namespace TemplateEngine
namespace Artifact

/-- The tokens of an artifact are those of the marks it is spelled with. -/
theorem tokenize_print (p : Program) (writable : ProgramWritable p) :
    ∃ lexemes, tokenize (print p) = .ok lexemes ∧
      lexemes.map Lexeme.token = tokensOf (programMarks p) := by
  rcases lexAll_spell p writable with ⟨lexemes, lexed, tokens⟩
  refine ⟨lexemes, ?_, tokens⟩
  unfold tokenize print
  rw [String.toList_ofList, lexed]
  rfl

/-- The artifact of a program that can be written is parsed as that program. -/
theorem parse_print (p : Program) (writable : ProgramWritable p) : parse (print p) = .ok p := by
  rcases tokenize_print p writable with ⟨lexemes, tokenized, tokens⟩
  have read := program_tokensOf p writable
  rw [← tokens] at read
  exact parse_of_program tokenized read

/-- Two texts side by side, an `else`, a loop with a key, parentheses on either side of an operator,
signs before a member and island markers inside a quoted text. -/
def nestedProgram : Program :=
  [.text "Total: ", .text "%> ",
    .ifElse (.binary .and (.binary .or (.var "paid") .null) (.call "len" [.var "items"]))
      [.echo [.member (.unary .neg (.var "sum")) "if", .text "it's <% no \\ end %>"]]
      [.forEach (some "k") "v" (.index (.var "items") (.number (.ofNat 0)))
        [.text "\n<", .assign "n" (.binary .sub (.var "n") (.binary .sub (.var "k") (.var "v")))]],
    .eval (.unary .not (.binary .mod (.member (.var "v") "10") (.list [])))]

/-- The program is read back with its marker texts, its `else` and its parentheses. -/
theorem parse_print_nestedProgram :
    ProgramWritable nestedProgram ∧ parse (print nestedProgram) = .ok nestedProgram := by
  have ten : IsField "10" := Or.inr ⟨10, by decide, by decide⟩
  have word : IsField "if" := Or.inl (by decide)
  have zero : ∃ n < Nat.pow 2 53, Double.ofNat 0 = .ofNat n := ⟨0, by decide, rfl⟩
  have writable : ProgramWritable nestedProgram := by
    simp only [nestedProgram, ProgramWritable, Statement.Writable, Expr.Writable, AllWritable, ten,
      word, zero, and_true]
    decide
  exact ⟨writable, parse_print nestedProgram writable⟩

end Artifact
end TemplateEngine
