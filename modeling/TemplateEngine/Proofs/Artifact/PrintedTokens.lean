import TemplateEngine.Proofs.Artifact.Spelling
import TemplateEngine.Proofs.Artifact.StatementReadings

/-!
# The tokens of a printed program read back

Reading an expression that was printed for some level and stands before looser tokens comes to reading
what follows it, with the expression already at hand. Said this way the statement goes through the
left operand of an operator, where the reader is still in the middle of its loop. The induction is on
the expression; that on statements follows the blocks of the program.
-/

namespace TemplateEngine
namespace Artifact

/-! ## Tokens of marks -/

@[simp]
theorem tokensOf_nil : tokensOf [] = [] := rfl

@[simp]
theorem tokensOf_append (ms ms' : List Mark) :
    tokensOf (ms ++ ms') = tokensOf ms ++ tokensOf ms' := by
  simp [tokensOf]

@[simp]
theorem tokensOf_token (t : Token) (ms : List Mark) :
    tokensOf (.token t :: ms) = t :: tokensOf ms := rfl

@[simp]
theorem tokensOf_symbol (s : Symbol) (ms : List Mark) :
    tokensOf (.symbol s :: ms) = .symbol s :: tokensOf ms := rfl

@[simp]
theorem tokensOf_keyword (k : Keyword) (ms : List Mark) :
    tokensOf (.keyword k :: ms) = .keyword k :: tokensOf ms := rfl

@[simp]
theorem tokensOf_text (s : String) (ms : List Mark) :
    tokensOf (.text s :: ms) = .text s :: tokensOf ms := rfl

@[simp]
theorem tokensOf_blank (ms : List Mark) : tokensOf (.blank :: ms) = tokensOf ms := rfl

@[simp]
theorem tokensOf_enter (ms : List Mark) : tokensOf (.enter :: ms) = tokensOf ms := rfl

/-- The end of an island is the one mark that is read as a token without being written as one. -/
@[simp]
theorem tokensOf_leave (ms : List Mark) :
    tokensOf (.leave :: ms) = .symbol .semicolon :: tokensOf ms := rfl

/-! ## Member names -/

/-- Any word can be a member name, a keyword too. -/
theorem memberName?_ofWord (word : List Char) :
    (Token.ofWord word).memberName? = some (String.ofList word) := by
  simp only [Token.ofWord]
  split
  · next k found =>
      unfold Keyword.ofWord? at found
      have same := List.find?_some found
      simp [Token.memberName?, eq_of_beq same]
  · simp [Token.memberName?]

/-- A number that is whole can be a member name. -/
theorem memberName?_number {d : Double} {i : Int} (whole : d.toInt? = some i) :
    (Token.number d).memberName? =
      some (String.ofList (Decimal.digits (d.toNatUpTo maxMemberNumber))) := by
  simp only [Token.memberName?, whole]

/-- The token of a member name is read as that name. -/
theorem memberName?_ofField {field : String} (h : IsField field) :
    (Token.ofField field).memberName? = some field := by
  rcases h with name | ⟨n, small, spelled⟩
  · rw [Token.ofField, if_pos name, memberName?_ofWord, String.ofList_toList]
  · have le : n ≤ maxMemberNumber := by
      have top : Nat.pow 2 53 ≤ maxMemberNumber := by decide
      exact Nat.le_trans (Nat.le_of_lt small) top
    rw [ofField_digits spelled]
    rw [memberName?_number (Double.toInt?_ofNat small), Double.toNatUpTo_ofNat small le, ← spelled,
      String.ofList_toList]

/-! ## Levels -/

theorem BinaryOp.level_pos (op : BinaryOp) : 1 ≤ op.level := by cases op <;> decide

/-- No operator between expressions reaches the operand of one before an expression. -/
theorem BinaryOp.level_lt (op : BinaryOp) : op.level < unaryLevel := by cases op <;> decide

/-- Nothing holds on more tightly than an access. -/
theorem loose_all {level : Nat} (high : accessLevel < level) (ts : List Token) :
    Loose level ts := by
  intro s hold _ holds
  unfold Symbol.hold? at holds
  split at holds
  · cases holds
    exact high
  · obtain ⟨op, _, rfl⟩ := Option.map_eq_some_iff.1 holds
    exact Nat.lt_trans (Nat.lt_trans op.level_lt (by decide)) high

/-- Between the level of a sign before an expression and that of an access there is no operator. -/
theorem Loose.unary {ts : List Token} (h : Loose accessLevel ts) : Loose unaryLevel ts := by
  intro s hold head holds
  have below := h s hold head holds
  unfold Symbol.hold? at holds
  split at holds
  · cases holds
    exact absurd below (Nat.lt_irrefl _)
  · obtain ⟨op, _, rfl⟩ := Option.map_eq_some_iff.1 holds
    exact op.level_lt

/-! ## Expressions -/

/-- Some tokens are read as `e` at a level: reading them at any level up to it, before tokens that are
looser than that level, is reading on with `e` at hand. -/
def ReadsAs (ts : List Token) (e : Expr) (level : Nat) : Prop :=
  ∀ (l : Nat) (rest rest' : List Token) (e' : Expr), l ≤ level → Loose (level + 1) rest →
    (accesses l e (.ofList rest)).Gives e' rest' →
      (expr l (.ofList (ts ++ rest))).Gives e' rest'

/-- Reading a whole expression, where the tokens after it are looser than the reader's level. -/
theorem ReadsAs.gives {ts rest : List Token} {e : Expr} {level : Nat} (h : ReadsAs ts e level)
    (small : level ≤ accessLevel) (loose : Loose level rest) :
    (expr level (.ofList (ts ++ rest))).Gives e rest :=
  h level rest rest e (Nat.le_refl level) (loose.mono (Nat.le_succ level))
    (accesses_loose loose small e)

/-- What an operand reader takes at once reads so at every level. -/
theorem readsAs_of_operand {ts : List Token} {e : Expr} {level : Nat}
    (h : ∀ rest, (operand (.ofList (ts ++ rest))).Gives e rest) : ReadsAs ts e level := by
  intro l rest rest' e' _ _ follow
  exact expr_gives (h rest) follow

/-- Parentheses make an expression of one level read at any other. -/
theorem readsAs_enclosed {marks : List Mark} {e : Expr} {own level : Nat} (positive : 1 ≤ own)
    (h : ReadsAs (tokensOf marks) e own) :
    ReadsAs (tokensOf (enclosed (own < level) marks)) e level := by
  by_cases needed : own < level
  -- In parentheses the expression is read from the loosest level on, up to the closing one.
  · have closed (rest : List Token) :
        (expr 1 (.ofList (tokensOf marks ++ .symbol .closeParen :: rest))).Gives e
          (.symbol .closeParen :: rest) :=
      h 1 _ _ e positive (loose_symbol rfl _ _)
        (accesses_loose (loose_symbol rfl _ _) (by decide) e)
    refine readsAs_of_operand fun rest => ?_
    have eq : tokensOf (enclosed (own < level) marks) ++ rest =
        .symbol .openParen :: (tokensOf marks ++ .symbol .closeParen :: rest) := by
      simp [enclosed, needed]
    rw [eq]
    exact operand_parens (closed rest)
  -- Without them its own level is as high as the one asked for.
  · intro l rest rest' e' le loose follow
    have le_own : level ≤ own := Nat.le_of_not_lt needed
    have eq : enclosed (own < level) marks = marks := by simp [enclosed, needed]
    rw [eq]
    exact h l rest rest' e' (Nat.le_trans le le_own) (loose.mono (Nat.succ_le_succ le_own)) follow

/-- Behind an item a comma or the end follows, and neither is an operator. -/
theorem moreItemMarks_loose (es : List Expr) (rest : List Token) (loose : Loose 1 rest) :
    Loose 1 (tokensOf (moreItemMarks es) ++ rest) := by
  cases es with
  | nil => exact loose
  | cons e es =>
      simp only [moreItemMarks, List.cons_append, tokensOf_symbol]
      exact loose_symbol rfl 1 _

mutual

/-- A printed expression reads back at the level it was printed for. -/
theorem readsAs_marks (e : Expr) (level : Nat) (writable : e.Writable)
    (small : level ≤ accessLevel) : ReadsAs (tokensOf (e.marks level)) e level := by
  cases e with
  | var name => exact readsAs_of_operand fun rest => operand_literal rfl rest
  | number d => exact readsAs_of_operand fun rest => operand_literal rfl rest
  | text s => exact readsAs_of_operand fun rest => operand_literal rfl rest
  | boolean b =>
      cases b with
      | false => exact readsAs_of_operand fun rest => operand_literal rfl rest
      | true => exact readsAs_of_operand fun rest => operand_literal rfl rest
  | null => exact readsAs_of_operand fun rest => operand_literal rfl rest
  | list items =>
      refine readsAs_of_operand fun rest => ?_
      have inside := itemMarks_gives items .closeBracket (Or.inr (Or.inl rfl)) rest writable
      have eq : tokensOf ((Expr.list items).marks level) ++ rest =
          .symbol .openBracket ::
            (tokensOf (itemMarks items) ++ .symbol .closeBracket :: rest) := by
        simp [Expr.marks]
      rw [eq]
      exact operand_list inside
  | call name args =>
      refine readsAs_of_operand fun rest => ?_
      have inside := itemMarks_gives args .closeParen (Or.inl rfl) rest writable.2.2
      have eq : tokensOf ((Expr.call name args).marks level) ++ rest =
          .name name :: .symbol .openParen ::
            (tokensOf (itemMarks args) ++ .symbol .closeParen :: rest) := by
        simp [Expr.marks]
      rw [eq]
      exact operand_call inside
  | binary op left right =>
      have top : op.level + 1 ≤ accessLevel := Nat.le_trans op.level_lt (by decide)
      have leftReads := readsAs_marks left op.level writable.1 (Nat.le_of_succ_le top)
      have rightReads := readsAs_marks right (op.level + 1) writable.2 top
      rw [Expr.marks]
      refine readsAs_enclosed op.level_pos ?_
      intro l rest rest' e' le loose follow
      have eq : tokensOf (left.marks op.level ++ [.blank, .symbol op.symbol, .blank] ++
          right.marks (op.level + 1)) ++ rest =
          tokensOf (left.marks op.level) ++
            .symbol op.symbol :: (tokensOf (right.marks (op.level + 1)) ++ rest) := by
        simp
      rw [eq]
      -- The left operand is read up to the operator, and then the loop goes on with the whole.
      have rightHere := rightReads.gives top loose
      exact leftReads l _ rest' e' le (loose_operator (Nat.lt_succ_self _) _)
        (accesses_operator le rightHere follow)
  | unary op operand =>
      have operandReads := readsAs_marks operand unaryLevel writable (by decide)
      rw [Expr.marks]
      refine readsAs_enclosed (by decide) ?_
      intro l rest rest' e' le loose follow
      have here := operandReads.gives (by decide) (Loose.unary loose)
      exact expr_gives (operand_unary here) follow
  | member object field =>
      have objectReads := readsAs_marks object accessLevel writable.1 (Nat.le_refl _)
      intro l rest rest' e' le loose follow
      have eq : tokensOf ((Expr.member object field).marks level) ++ rest =
          tokensOf (object.marks accessLevel) ++
            .symbol .arrow :: Token.ofField field :: rest := by
        simp [Expr.marks]
      rw [eq]
      exact objectReads l _ rest' e' (Nat.le_trans le small) (loose_all (Nat.lt_succ_self _) _)
        (accesses_member (memberName?_ofField writable.2) follow)
  | index object position =>
      have objectReads := readsAs_marks object accessLevel writable.1 (Nat.le_refl _)
      have positionReads := readsAs_marks position 1 writable.2 (by decide)
      intro l rest rest' e' le loose follow
      have eq : tokensOf ((Expr.index object position).marks level) ++ rest =
          tokensOf (object.marks accessLevel) ++
            .symbol .openBracket ::
              (tokensOf (position.marks 1) ++ .symbol .closeBracket :: rest) := by
        simp [Expr.marks]
      rw [eq]
      have inside := positionReads.gives (by decide) (loose_symbol (s := .closeBracket) rfl 1 rest)
      exact objectReads l _ rest' e' (Nat.le_trans le small) (loose_all (Nat.lt_succ_self _) _)
        (accesses_index inside follow)

/-- Printed expressions between commas read back before a closing symbol. -/
theorem itemMarks_gives (es : List Expr) (s : Symbol)
    (closing : s = .closeParen ∨ s = .closeBracket ∨ s = .closeBrace) (rest : List Token)
    (writable : AllWritable es) :
    (expressions (.ofList (tokensOf (itemMarks es) ++ .symbol s :: rest))).Gives es
      (.symbol s :: rest) := by
  have loose : Loose 1 (.symbol s :: rest) := by
    rcases closing with rfl | rfl | rfl <;> exact loose_symbol rfl 1 rest
  have noComma : (Token.symbol s :: rest).head? ≠ some (.symbol .comma) := by
    rcases closing with rfl | rfl | rfl <;> simp
  cases es with
  | nil => exact expressions_none closing rest
  | cons e es =>
      have more := moreItemMarks_gives es (.symbol s :: rest) writable.2 loose noComma
      have first := (readsAs_marks e 1 writable.1 (by decide)).gives (by decide)
        (moreItemMarks_loose es (.symbol s :: rest) loose)
      rw [itemMarks, tokensOf_append, List.append_assoc]
      exact expressions_cons first more

/-- Printed expressions after a comma each read back. -/
theorem moreItemMarks_gives (es : List Expr) (rest : List Token) (writable : AllWritable es)
    (loose : Loose 1 rest) (noComma : rest.head? ≠ some (.symbol .comma)) :
    (moreExpressions (.ofList (tokensOf (moreItemMarks es) ++ rest))).Gives es rest := by
  cases es with
  | nil => exact moreExpressions_none noComma
  | cons e es =>
      have more := moreItemMarks_gives es rest writable.2 loose noComma
      have first := (readsAs_marks e 1 writable.1 (by decide)).gives (by decide)
        (moreItemMarks_loose es rest loose)
      have eq : tokensOf (moreItemMarks (e :: es)) ++ rest =
          .symbol .comma :: (tokensOf (e.marks 1) ++ (tokensOf (moreItemMarks es) ++ rest)) := by
        simp [moreItemMarks]
      rw [eq]
      exact moreExpressions_cons first more

end

end Artifact
end TemplateEngine
