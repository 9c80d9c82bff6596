import TemplateEngine.Proofs.Artifact.PrintedTokens

/-!
# The statements of a printed program read back

A printed statement begins with a token of its own, never with a semicolon or an `else`, so the
semicolons that the ends of islands stand for are passed over where they are met, and no statement
lends its beginning to the one before it. The induction goes over statements and, through blocks,
over programs; what it carries along is the list of tokens that follow.
-/

namespace TemplateEngine
namespace Artifact

/-! ## How printed statements begin -/

/-- The tokens begin neither with a semicolon nor with an `else`. -/
def Fresh (ts : List Token) : Prop :=
  ts.head? ≠ some (.symbol .semicolon) ∧ ts.head? ≠ some (.keyword .elseWord)

theorem Fresh.unseparated_eq {ts : List Token} (h : Fresh ts) : unseparated ts = ts := by
  cases ts with
  | nil => rfl
  | cons t ts =>
      have ne : t ≠ .symbol .semicolon := by simpa using h.1
      simp [isSemicolon, ne]

/-- In front of fresh tokens an `if` has no alternative. -/
theorem Fresh.noElse {ts : List Token} (h : Fresh ts) :
    (unseparated ts).head? ≠ some (.keyword .elseWord) := by
  rw [h.unseparated_eq]
  exact h.2

@[simp]
theorem unseparated_semicolon (ts : List Token) :
    unseparated (.symbol .semicolon :: ts) = unseparated ts := rfl

/-- A printed expression begins no other statement, unless an assignment sign follows it. -/
theorem marks_begin (e : Expr) (level : Nat) (rest : List Token)
    (noAssign : rest.head? ≠ some (.symbol .assign)) :
    StartsExpr (tokensOf (e.marks level) ++ rest) ∧ Fresh (tokensOf (e.marks level) ++ rest) := by
  cases e with
  | var name => simpa [Expr.marks, StartsExpr, Fresh] using noAssign
  | boolean b => cases b <;> simp [Expr.marks, StartsExpr, Fresh]
  | binary op left right =>
      -- Either a parenthesis comes first or the left operand does.
      by_cases needed : op.level < level
      · simp [Expr.marks, enclosed, needed, StartsExpr, Fresh]
      · have next : (Token.symbol op.symbol ::
            (tokensOf (right.marks (op.level + 1)) ++ rest)).head? ≠ some (.symbol .assign) := by
          cases op <;> simp [BinaryOp.symbol]
        simpa [Expr.marks, enclosed, needed] using marks_begin left op.level _ next
  | unary op operand =>
      by_cases needed : unaryLevel < level
      · simp [Expr.marks, enclosed, needed, StartsExpr, Fresh]
      · cases op <;> simp [Expr.marks, enclosed, needed, StartsExpr, Fresh, UnaryOp.symbol]
  | member object field =>
      have next : (Token.symbol .arrow :: Token.ofField field :: rest).head? ≠
          some (.symbol .assign) := by simp
      simpa [Expr.marks] using marks_begin object accessLevel _ next
  | index object position =>
      have next : (Token.symbol .openBracket ::
          (tokensOf (position.marks 1) ++ .symbol .closeBracket :: rest)).head? ≠
            some (.symbol .assign) := by simp
      simpa [Expr.marks] using marks_begin object accessLevel _ next
  | _ => simp [Expr.marks, StartsExpr, Fresh]

/-- A printed statement begins neither with a semicolon nor with an `else`. -/
theorem fresh_statement (s : Statement) (rest : List Token) :
    Fresh (tokensOf s.marks ++ rest) := by
  cases s with
  | eval e =>
      have start := marks_begin e 1 (.symbol .semicolon :: rest) (by simp)
      simpa [Statement.marks, island] using start.2
  | _ => simp [Statement.marks, island, Fresh]

/-- The tokens end a list of statements: nothing is left, or a closing brace. -/
def EndsBody (ts : List Token) : Prop := ts = [] ∨ ∃ rest, ts = .symbol .closeBrace :: rest

theorem EndsBody.fresh {ts : List Token} (h : EndsBody ts) : Fresh ts := by
  rcases h with rfl | ⟨rest, rfl⟩ <;> simp [Fresh]

/-- Nor does a printed program, where a body ends behind it. -/
theorem fresh_program (p : List Statement) {rest : List Token} (ends : EndsBody rest) :
    Fresh (tokensOf (programMarks p) ++ rest) := by
  cases p with
  | nil =>
      rw [programMarks]
      exact ends.fresh
  | cons s more =>
      simp only [programMarks, tokensOf_append, List.append_assoc]
      exact fresh_statement s _

/-! ## What is left after a statement -/

/-- The semicolon that ends the last island of a statement. -/
def closing : Statement → List Token
  | .text _ => []
  | _ => [.symbol .semicolon]

/-- The semicolon that ends a printed statement is passed over. -/
theorem unseparated_closing (s : Statement) (ts : List Token) :
    unseparated (closing s ++ ts) = unseparated ts := by
  cases s <;> rfl

/-- So is the empty island between two literal texts. -/
theorem unseparated_separator (s : Statement) (more : List Statement) (ts : List Token) :
    unseparated (tokensOf (separator s more) ++ ts) = unseparated ts := by
  unfold separator
  split <;> rfl

theorem loose_semicolon (ts : List Token) : Loose 1 (.symbol .semicolon :: ts) :=
  loose_symbol rfl 1 ts

/-! ## Statements and programs -/

/-- An expression printed for the loosest level reads back before looser tokens. -/
theorem expr_marks (e : Expr) {rest : List Token} (writable : e.Writable) (loose : Loose 1 rest) :
    (expr 1 (.ofList (tokensOf (e.marks 1) ++ rest))).Gives e rest :=
  (readsAs_marks e 1 writable (by decide)).gives (by decide) loose

/-- The opening brace of a block ends an island, so a semicolon stands behind it. -/
theorem tokensOf_braces (body : List Statement) (rest : List Token) :
    tokensOf (braces (programMarks body)) ++ rest =
      .symbol .openBrace :: .symbol .semicolon ::
        (tokensOf (programMarks body) ++ .symbol .closeBrace :: rest) := by
  simp [braces]

/-- A printed expression reads back before a block. -/
theorem expr_marks_block (e : Expr) (body : List Statement) (rest : List Token)
    (writable : e.Writable) :
    (expr 1 (.ofList
      (tokensOf (e.marks 1) ++ (tokensOf (braces (programMarks body)) ++ rest)))).Gives e
      (tokensOf (braces (programMarks body)) ++ rest) := by
  have loose : Loose 1 (tokensOf (braces (programMarks body)) ++ rest) := by
    rw [tokensOf_braces]
    exact loose_symbol rfl 1 _
  exact expr_marks e writable loose

mutual

/-- A printed statement reads back, where no `else` comes next. -/
theorem statement_marks (s : Statement) (rest : List Token) (writable : s.Writable)
    (noElse : (unseparated rest).head? ≠ some (.keyword .elseWord)) :
    (statement (.ofList (tokensOf s.marks ++ rest))).Gives s (closing s ++ rest) := by
  cases s with
  | text s =>
      rw [Statement.marks]
      exact statement_text s rest
  | echo values =>
      cases values with
      | nil => exact absurd rfl writable.1
      | cons e es =>
          have loose := loose_semicolon rest
          have first := expr_marks e writable.2.1 (moreItemMarks_loose es _ loose)
          have more := moreItemMarks_gives es _ writable.2.2 loose (by simp)
          have eq : tokensOf (Statement.echo (e :: es)).marks ++ rest =
              .keyword .echoWord ::
                (tokensOf (e.marks 1) ++
                  (tokensOf (moreItemMarks es) ++ .symbol .semicolon :: rest)) := by
            simp [Statement.marks, island, itemMarks]
          rw [eq]
          exact statement_echo first more
  | assign name value =>
      have here := expr_marks value writable.2 (loose_semicolon rest)
      have eq : tokensOf (Statement.assign name value).marks ++ rest =
          .var name :: .symbol .assign ::
            (tokensOf (value.marks 1) ++ .symbol .semicolon :: rest) := by
        simp [Statement.marks, island]
      rw [eq]
      exact statement_assign here
  | ifThen condition body =>
      have bodyHere := block_marks body (.symbol .semicolon :: rest) writable.2
      have conditionHere := expr_marks_block condition body (.symbol .semicolon :: rest) writable.1
      have eq : tokensOf (Statement.ifThen condition body).marks ++ rest =
          .keyword .ifWord :: (tokensOf (condition.marks 1) ++
            (tokensOf (braces (programMarks body)) ++ .symbol .semicolon :: rest)) := by
        simp [Statement.marks, island]
      rw [eq]
      exact statement_if (conditional_then conditionHere bodyHere noElse)
  | ifElse condition body otherwise =>
      have otherHere := block_marks otherwise (.symbol .semicolon :: rest) writable.2.2
      -- Behind the `else` comes a block, so it is not read as an `else if`.
      have noIf : (tokensOf (braces (programMarks otherwise)) ++
          Token.symbol .semicolon :: rest).head? ≠ some (.keyword .ifWord) := by
        simp [tokensOf_braces]
      have start : unseparated (.keyword .elseWord ::
          (tokensOf (braces (programMarks otherwise)) ++ .symbol .semicolon :: rest)) =
          .keyword .elseWord ::
            (tokensOf (braces (programMarks otherwise)) ++ .symbol .semicolon :: rest) := rfl
      have elseHere := alternative_block start noIf otherHere
      have bodyHere := block_marks body (.keyword .elseWord ::
        (tokensOf (braces (programMarks otherwise)) ++ .symbol .semicolon :: rest)) writable.2.1
      have conditionHere := expr_marks_block condition body (.keyword .elseWord ::
        (tokensOf (braces (programMarks otherwise)) ++ .symbol .semicolon :: rest)) writable.1
      have eq : tokensOf (Statement.ifElse condition body otherwise).marks ++ rest =
          .keyword .ifWord :: (tokensOf (condition.marks 1) ++
            (tokensOf (braces (programMarks body)) ++ .keyword .elseWord ::
              (tokensOf (braces (programMarks otherwise)) ++ .symbol .semicolon :: rest))) := by
        simp [Statement.marks, island]
      rw [eq]
      exact statement_if (conditional_else conditionHere bodyHere elseHere)
  | forEach key item source body =>
      have bodyHere := block_marks body (.symbol .semicolon :: rest) writable.2.2.2
      have sourceHere := expr_marks_block source body (.symbol .semicolon :: rest) writable.2.2.1
      cases key with
      | none =>
          have eq : tokensOf (Statement.forEach none item source body).marks ++ rest =
              .keyword .forWord :: .var item :: .keyword .inWord ::
                (tokensOf (source.marks 1) ++
                  (tokensOf (braces (programMarks body)) ++ .symbol .semicolon :: rest)) := by
            simp [Statement.marks, island, loopNameMarks]
          rw [eq]
          exact statement_for (loopHead_item sourceHere) bodyHere
      | some key =>
          have eq : tokensOf (Statement.forEach (some key) item source body).marks ++ rest =
              .keyword .forWord :: .var key :: .symbol .comma :: .var item :: .keyword .inWord ::
                (tokensOf (source.marks 1) ++
                  (tokensOf (braces (programMarks body)) ++ .symbol .semicolon :: rest)) := by
            simp [Statement.marks, island, loopNameMarks]
          rw [eq]
          exact statement_for (loopHead_key sourceHere) bodyHere
  | eval e =>
      have here := expr_marks e writable (loose_semicolon rest)
      have start := marks_begin e 1 (.symbol .semicolon :: rest) (by simp)
      have eq : tokensOf (Statement.eval e).marks ++ rest =
          tokensOf (e.marks 1) ++ .symbol .semicolon :: rest := by
        simp [Statement.marks, island]
      rw [eq]
      exact statement_eval start.1 here

/-- A printed block reads back. -/
theorem block_marks (body : List Statement) (rest : List Token) (writable : ProgramWritable body) :
    (block (.ofList (tokensOf (braces (programMarks body)) ++ rest))).Gives body rest := by
  have ends : EndsBody (.symbol .closeBrace :: rest) := Or.inr ⟨rest, rfl⟩
  have here := statements_marks body (.symbol .closeBrace :: rest) writable ends
  rw [← (fresh_program body ends).unseparated_eq] at here
  rw [tokensOf_braces]
  exact block_gives here

/-- The statements of a printed program read back, up to where a list of statements ends. -/
theorem statements_marks (p : List Statement) (rest : List Token) (writable : ProgramWritable p)
    (ends : EndsBody rest) :
    (statements (.ofList (tokensOf (programMarks p) ++ rest))).Gives p rest := by
  cases p with
  | nil =>
      rw [programMarks]
      exact statements_none (statement_stops ends)
  | cons s more =>
      have freshMore := fresh_program more ends
      have moreHere := statements_marks more rest writable.2 ends
      -- What separates two statements comes to semicolons, which are passed over.
      have left : unseparated (tokensOf (separator s more) ++
          (tokensOf (programMarks more) ++ rest)) = tokensOf (programMarks more) ++ rest := by
        rw [unseparated_separator, freshMore.unseparated_eq]
      have first := statement_marks s
        (tokensOf (separator s more) ++ (tokensOf (programMarks more) ++ rest)) writable.1
        (by rw [left]; exact freshMore.2)
      rw [← left, ← unseparated_closing s] at moreHere
      have eq : tokensOf (programMarks (s :: more)) ++ rest =
          tokensOf s.marks ++
            (tokensOf (separator s more) ++ (tokensOf (programMarks more) ++ rest)) := by
        simp [programMarks]
      rw [eq]
      exact statements_cons first moreHere

end

/-- The tokens of a printed program are the tokens of that program. -/
theorem program_tokensOf (p : Program) (writable : ProgramWritable p) :
    program (tokensOf (programMarks p)) = .ok p := by
  have ends : EndsBody [] := Or.inl rfl
  have here := statements_marks p [] writable ends
  have fresh := fresh_program p ends
  rw [List.append_nil] at here fresh
  rw [← fresh.unseparated_eq] at here
  rcases here with ⟨reach, less, eq⟩
  rcases skipSemicolons_eq (tokensOf (programMarks p)) with ⟨le, eqSkip⟩
  unfold program
  rw [eqSkip]
  simp only [eq]
  rfl

end Artifact
end TemplateEngine
