import TemplateEngine.Proofs.Artifact.Lexing

/-!
# The text of a printed program splits into its tokens

Between any two marks of a printed program the first character of the second goes on with nothing that
the first could be. So its marks lex: by induction on expressions and on statements, with the marks
that follow carried along.
-/

namespace TemplateEngine
namespace Artifact

open Text (isBlank isNameStart isNamePart isName)

/-! ## Edges between marks -/

/-- No token before these marks could go on with their first character. -/
def Edge (ms : List Mark) : Prop := Breaks (spell ms) ∧ Calm (spell ms)

theorem calm_of_head {cs more : List Char} {c : Char} (chars : cs = c :: more)
    (calm : c ≠ '=' ∧ c ≠ '>') : Calm cs := by
  intro d member
  rw [chars] at member
  rw [← Option.some.inj member]
  exact calm

theorem breaks_of_head {cs more : List Char} {c : Char} (chars : cs = c :: more)
    (stops : isNamePart c = false ∧ c ≠ '.') : Breaks cs := by
  intro d member
  rw [chars] at member
  rw [← Option.some.inj member]
  exact stops

/-- Marks that begin with such a character are an edge. -/
theorem edge_of_head {ms : List Mark} {c : Char} {cs : List Char} (spelled : spell ms = c :: cs)
    (stops : isNamePart c = false ∧ c ≠ '.') (calm : c ≠ '=' ∧ c ≠ '>') : Edge ms :=
  ⟨breaks_of_head spelled stops, calm_of_head spelled calm⟩

theorem edge_blank (ms : List Mark) : Edge (.blank :: ms) :=
  edge_of_head rfl (by decide) (by decide)

/-- The symbols that stand right behind an expression or a name in a printed artifact. -/
theorem edge_symbol {s : Symbol}
    (behind : s ∈ [Symbol.closeParen, .closeBracket, .comma, .arrow, .openBracket, .openParen])
    (ms : List Mark) : Edge (.symbol s :: ms) := by
  simp only [List.mem_cons, List.not_mem_nil, or_false] at behind
  rcases behind with rfl | rfl | rfl | rfl | rfl | rfl <;>
    exact edge_of_head rfl (by decide) (by decide)

/-! ## Expressions -/

/-- No symbol goes on with a name. -/
theorem calm_name {name cs : List Char} (h : isName name = true) : Calm (name ++ cs) := by
  cases name with
  | nil => simp [isName] at h
  | cons c more =>
      have start : isNameStart c = true := (Bool.and_eq_true_iff.1 h).1
      exact calm_of_head rfl
        ⟨Text.ne_of_class start (by decide), Text.ne_of_class start (by decide)⟩

/-- No symbol goes on with a digit. -/
theorem calm_digits (n : Nat) (cs : List Char) : Calm (Decimal.digits n ++ cs) := by
  rcases digits_cons n with ⟨c, more, digits, digit⟩
  rw [digits]
  exact calm_of_head rfl
    ⟨Text.ne_of_class digit (by decide), Text.ne_of_class digit (by decide)⟩

theorem calm_field {field : String} (isField : IsField field) (cs : List Char) :
    Calm ((Token.ofField field).spelling ++ cs) := by
  rcases isField with name | ⟨n, small, spelled⟩
  · rw [Token.ofField, if_pos name, spelling_ofWord]
    exact calm_name name
  · rw [ofField_digits spelled, spelling_number small]
    exact calm_digits n cs

/-- No expression begins with a character that a sign before it would take. -/
theorem calm_marks (e : Expr) (level : Nat) (writable : e.Writable) (ms : List Mark) :
    Calm (spell (e.marks level ++ ms)) := by
  cases e with
  | number d => exact calm_digits _ _
  | boolean b =>
      cases b with
      | false => exact calm_name (isName_keyword .falseWord)
      | true => exact calm_name (isName_keyword .trueWord)
  | null => exact calm_name (isName_keyword .nullWord)
  | call name args => exact calm_name writable.1
  | binary op left right =>
      -- A binary expression begins with a parenthesis or as its left operand does.
      by_cases needed : op.level < level
      · simp only [Expr.marks, enclosed, needed, decide_true, if_true]
        exact calm_of_head rfl (by decide)
      · have here := calm_marks left op.level writable.1
          (.blank :: .symbol op.symbol :: .blank :: (right.marks (op.level + 1) ++ ms))
        simpa [Expr.marks, enclosed, needed] using here
  | unary op operand =>
      by_cases needed : unaryLevel < level
      · simp only [Expr.marks, enclosed, needed, decide_true, if_true]
        exact calm_of_head rfl (by decide)
      · simp only [Expr.marks, enclosed, needed, decide_false]
        cases op with
        | not => exact calm_of_head rfl (by decide)
        | neg => exact calm_of_head rfl (by decide)
  | member object field =>
      have here := calm_marks object accessLevel writable.1
        (.symbol .arrow :: .token (.ofField field) :: ms)
      simpa [Expr.marks] using here
  | index object position =>
      have here := calm_marks object accessLevel writable.1
        (.symbol .openBracket :: (position.marks 1 ++ .symbol .closeBracket :: ms))
      simpa [Expr.marks] using here
  | _ => exact calm_of_head rfl (by decide)

theorem calm_itemMarks (es : List Expr) (writable : AllWritable es) {ms : List Mark}
    (edge : Edge ms) : Calm (spell (itemMarks es ++ ms)) := by
  cases es with
  | nil => exact edge.2
  | cons e es =>
      rw [itemMarks, List.append_assoc]
      exact calm_marks e 1 writable.1 _

theorem edge_moreItemMarks (es : List Expr) {ms : List Mark} (edge : Edge ms) :
    Edge (moreItemMarks es ++ ms) := by
  cases es with
  | nil => exact edge
  | cons e es => exact edge_symbol (s := .comma) (by simp) _

/-- Marks lex in parentheses as they do without them. -/
theorem lexes_enclosed (needed : Bool) {marks ms : List Mark} (edge : Edge ms)
    (h : Lexes .island ms) (calm : ∀ ms, Calm (spell (marks ++ ms)))
    (inside : ∀ ms, Edge ms → Lexes .island ms → Lexes .island (marks ++ ms)) :
    Lexes .island (enclosed needed marks ++ ms) := by
  cases needed with
  | false => exact inside ms edge h
  | true =>
      have closed := inside (.symbol .closeParen :: ms) (edge_symbol (by simp) ms)
        (lexes_symbol .closeParen edge.2 h)
      simpa [enclosed] using lexes_symbol .openParen (calm _) closed

mutual

/-- A printed expression lexes in front of marks that lex and do not go on with it. -/
theorem lexes_marks (e : Expr) (level : Nat) (writable : e.Writable) {ms : List Mark}
    (edge : Edge ms) (h : Lexes .island ms) : Lexes .island (e.marks level ++ ms) := by
  cases e with
  | var name => exact lexes_var writable edge.1 h
  | number d =>
      rcases writable with ⟨n, small, whole⟩
      rw [Expr.marks, whole]
      exact lexes_digits small edge.1 h
  | text s => exact lexes_quoted s h
  | boolean b =>
      cases b with
      | false => exact lexes_keyword .falseWord edge.1 h
      | true => exact lexes_keyword .trueWord edge.1 h
  | null => exact lexes_keyword .nullWord edge.1 h
  | list items =>
      have inside := lexes_itemMarks items writable (edge_symbol (s := .closeBracket) (by simp) ms)
        (lexes_symbol .closeBracket edge.2 h)
      have calm := calm_itemMarks items writable (edge_symbol (s := .closeBracket) (by simp) ms)
      simpa [Expr.marks] using lexes_symbol .openBracket calm inside
  -- From the last mark to the first: each one asks how the marks behind it begin.
  | call name args =>
      have inside := lexes_itemMarks args writable.2.2 (edge_symbol (s := .closeParen) (by simp) ms)
        (lexes_symbol .closeParen edge.2 h)
      have calm := calm_itemMarks args writable.2.2 (edge_symbol (s := .closeParen) (by simp) ms)
      have opened := lexes_symbol .openParen calm inside
      have named := lexes_word writable.1
        (edge_symbol (s := .openParen) (by simp) (itemMarks args ++ .symbol .closeParen :: ms)).1
        opened
      rw [ofWord_of_name writable.2.1] at named
      simpa [Expr.marks] using named
  | binary op left right =>
      refine lexes_enclosed _ edge h (fun next => ?_) fun ms edge h => ?_
      · have calm := calm_marks left op.level writable.1
          (.blank :: .symbol op.symbol :: .blank :: (right.marks (op.level + 1) ++ next))
        simpa using calm
      · have rightHere := lexes_marks right (op.level + 1) writable.2 edge h
        have symbolHere := lexes_symbol op.symbol (edge_blank _).2 (lexes_blank rightHere)
        have whole := lexes_marks left op.level writable.1 (edge_blank _) (lexes_blank symbolHere)
        simpa using whole
  | unary op operand =>
      refine lexes_enclosed _ edge h (fun next => ?_) fun ms edge h => ?_
      · cases op with
        | not => exact calm_of_head rfl (by decide)
        | neg => exact calm_of_head rfl (by decide)
      · have operandHere := lexes_marks operand unaryLevel writable edge h
        exact lexes_symbol op.symbol (calm_marks operand unaryLevel writable ms) operandHere
  | member object field =>
      have fieldHere := lexes_field writable.2 edge.1 h
      have calm : Calm (spell (.token (.ofField field) :: ms)) := calm_field writable.2 (spell ms)
      have whole := lexes_marks object accessLevel writable.1
        (edge_symbol (s := .arrow) (by simp) _) (lexes_symbol .arrow calm fieldHere)
      simpa [Expr.marks] using whole
  | index object position =>
      have positionHere := lexes_marks position 1 writable.2
        (edge_symbol (s := .closeBracket) (by simp) ms) (lexes_symbol .closeBracket edge.2 h)
      have calm := calm_marks position 1 writable.2 (.symbol .closeBracket :: ms)
      have whole := lexes_marks object accessLevel writable.1
        (edge_symbol (s := .openBracket) (by simp) _) (lexes_symbol .openBracket calm positionHere)
      simpa [Expr.marks] using whole

/-- Expressions between commas are read back. -/
theorem lexes_itemMarks (es : List Expr) (writable : AllWritable es) {ms : List Mark}
    (edge : Edge ms) (h : Lexes .island ms) : Lexes .island (itemMarks es ++ ms) := by
  cases es with
  | nil => exact h
  | cons e es =>
      have more := lexes_moreItemMarks es writable.2 edge h
      have here := lexes_marks e 1 writable.1 (edge_moreItemMarks es edge) more
      simpa [itemMarks] using here

theorem lexes_moreItemMarks (es : List Expr) (writable : AllWritable es) {ms : List Mark}
    (edge : Edge ms) (h : Lexes .island ms) : Lexes .island (moreItemMarks es ++ ms) := by
  cases es with
  | nil => exact h
  | cons e es =>
      have more := lexes_moreItemMarks es writable.2 edge h
      have here := lexes_marks e 1 writable.1 (edge_moreItemMarks es edge) more
      have comma := lexes_symbol .comma (edge_blank _).2 (lexes_blank here)
      simpa [moreItemMarks] using comma

end

/-! ## Statements -/

/-- Literal text in front of the marks would end there. -/
def Opens (ms : List Mark) : Prop := spell ms = [] ∨ ∃ more, spell ms = islandOpen ++ more

theorem opens_enter (ms : List Mark) : Opens (.enter :: ms) := Or.inr ⟨spell ms, rfl⟩

/-- An island is read back if its marks are, with the blank and the closing marker behind them. -/
theorem lexes_island {marks ms : List Mark}
    (inside : Lexes .island (marks ++ .blank :: .leave :: ms)) :
    Lexes .text (island marks ++ ms) := by
  have entered := lexes_enter (lexes_blank inside)
  simpa [island] using entered

/-- The island between two literal texts is read back as nothing. -/
theorem lexes_separator (s : Statement) (more : List Statement) {ms : List Mark}
    (h : Lexes .text ms) : Lexes .text (separator s more ++ ms) := by
  unfold separator
  split
  · exact lexes_enter (lexes_blank (lexes_leave h))
  · exact h

/-- After literal text comes an island, if anything does. -/
theorem opens_separator (s : String) (more : List Statement) {ms : List Mark} (opens : Opens ms) :
    Opens (separator (.text s) more ++ (programMarks more ++ ms)) := by
  cases more with
  | nil =>
      rw [programMarks]
      exact opens
  | cons next more =>
      cases next with
      | text t => exact opens_enter _
      | _ =>
          simp only [separator, programMarks, Statement.marks, island]
          exact opens_enter _

mutual

/-- A printed statement lexes. -/
theorem lexes_statement (s : Statement) (writable : s.Writable) {ms : List Mark}
    (opens : ∀ t, s = .text t → Opens ms) (h : Lexes .text ms) : Lexes .text (s.marks ++ ms) := by
  have left := lexes_leave h
  -- A statement is lexed from its last mark to its first: what stands behind a mark decides where
  -- its token ends.
  cases s with
  | text t =>
      rw [Statement.marks]
      exact lexes_text writable.1 writable.2 (opens t rfl) h
  | echo values =>
      have items := lexes_itemMarks values writable.2 (edge_blank _) (lexes_blank left)
      have word := lexes_keyword .echoWord (edge_blank _).1 (lexes_blank items)
      rw [Statement.marks]
      exact lexes_island word
  | assign name value =>
      have valueHere := lexes_marks value 1 writable.2 (edge_blank _) (lexes_blank left)
      have sign := lexes_symbol .assign (edge_blank _).2 (lexes_blank valueHere)
      have named := lexes_var writable.1 (edge_blank _).1 (lexes_blank sign)
      rw [Statement.marks]
      exact lexes_island named
  | ifThen condition body =>
      have bodyHere := lexes_braces body writable.2 (edge_blank _).2 (lexes_blank left)
      have head := lexes_marks condition 1 writable.1 (edge_blank _) (lexes_blank bodyHere)
      have word := lexes_keyword .ifWord (edge_blank _).1 (lexes_blank head)
      rw [Statement.marks]
      refine lexes_island ?_
      simpa using word
  | ifElse condition body otherwise =>
      have otherHere := lexes_braces otherwise writable.2.2 (edge_blank _).2 (lexes_blank left)
      have elseWord := lexes_keyword .elseWord (edge_blank _).1 (lexes_blank otherHere)
      have bodyHere := lexes_braces body writable.2.1 (edge_blank _).2 (lexes_blank elseWord)
      have head := lexes_marks condition 1 writable.1 (edge_blank _) (lexes_blank bodyHere)
      have word := lexes_keyword .ifWord (edge_blank _).1 (lexes_blank head)
      rw [Statement.marks]
      refine lexes_island ?_
      simpa using word
  | forEach key item source body =>
      have bodyHere := lexes_braces body writable.2.2.2 (edge_blank _).2 (lexes_blank left)
      have head := lexes_marks source 1 writable.2.2.1 (edge_blank _) (lexes_blank bodyHere)
      have inWord := lexes_keyword .inWord (edge_blank _).1 (lexes_blank head)
      have itemHere := lexes_var writable.2.1 (edge_blank _).1 (lexes_blank inWord)
      rw [Statement.marks]
      refine lexes_island ?_
      cases key with
      | none =>
          have word := lexes_keyword .forWord (edge_blank _).1 (lexes_blank itemHere)
          simpa [loopNameMarks] using word
      | some key =>
          have comma := lexes_symbol .comma (edge_blank _).2 (lexes_blank itemHere)
          have keyHere := lexes_var (writable.1 key rfl)
            (edge_symbol (s := .comma) (by simp) _).1 comma
          have word := lexes_keyword .forWord (edge_blank _).1 (lexes_blank keyHere)
          simpa [loopNameMarks] using word
  | eval e =>
      rw [Statement.marks]
      exact lexes_island (lexes_marks e 1 writable (edge_blank _) (lexes_blank left))

/-- A block is read back if its statements are. -/
theorem lexes_braces (body : List Statement) (writable : ProgramWritable body) {ms : List Mark}
    (calm : Calm (spell ms)) (h : Lexes .island ms) :
    Lexes .island (braces (programMarks body) ++ ms) := by
  have closed := lexes_enter (lexes_blank (lexes_symbol .closeBrace calm h))
  have inside := lexes_program body writable (opens_enter _) closed
  have opened := lexes_symbol .openBrace (edge_blank _).2 (lexes_blank (lexes_leave inside))
  simpa [braces] using opened

/-- A printed program lexes, up to where an island begins or the text ends. -/
theorem lexes_program (p : List Statement) (writable : ProgramWritable p) {ms : List Mark}
    (opens : Opens ms) (h : Lexes .text ms) : Lexes .text (programMarks p ++ ms) := by
  cases p with
  | nil =>
      rw [programMarks]
      exact h
  | cons s more =>
      have moreHere := lexes_separator s more (lexes_program more writable.2 opens h)
      have opensMore : ∀ t, s = .text t → Opens (separator s more ++ (programMarks more ++ ms)) := by
        rintro t rfl
        exact opens_separator t more opens
      have first := lexes_statement s writable.1 opensMore moreHere
      simpa [programMarks] using first

end

/-- The tokens of a printed program are those of its marks. -/
theorem lexAll_spell (p : Program) (writable : ProgramWritable p) :
    ∃ lexemes, lexAll (spell (programMarks p)) = .ok lexemes ∧
      lexemes.map Lexeme.token = tokensOf (programMarks p) := by
  have opens : Opens [] := Or.inl rfl
  have lexed := lexes_program p writable opens lexes_nil
  rw [List.append_nil] at lexed
  exact lexed 0

end Artifact
end TemplateEngine
