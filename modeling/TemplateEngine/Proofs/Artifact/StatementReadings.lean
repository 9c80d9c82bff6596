import TemplateEngine.Proofs.Artifact.Readings

/-!
# Readings of statements

The rules of the grammar above expressions: statements, the parts of conditionals and loops, blocks,
and programs. Semicolons between statements are passed over wherever a rule allows them, so a rule
speaks of the tokens that are left after them.
-/

namespace TemplateEngine
namespace Artifact

open Reading (gives_of_eq leaves_of_eq)

def isSemicolon (t : Token) : Bool := t == .symbol .semicolon

/-- Some tokens without the semicolons at their head. -/
abbrev unseparated (ts : List Token) : List Token := ts.dropWhile isSemicolon

theorem length_unseparated_le (ts : List Token) : (unseparated ts).length ≤ ts.length :=
  (List.dropWhile_suffix isSemicolon).length_le

theorem skipSemicolons_eq (ts : List Token) :
    ∃ h, skipSemicolons (.ofList ts) = ⟨.ofList (unseparated ts), h⟩ := by
  induction ts with
  | nil =>
      refine ⟨Nat.le_refl _, ?_⟩
      rw [skipSemicolons]
      rfl
  | cons t ts ih =>
      rcases ih with ⟨le, eq⟩
      have less : (Tokens.ofList ts).left < (Tokens.ofList (t :: ts)).left := Nat.lt_succ_self _
      by_cases semicolon : t = .symbol .semicolon
      · subst semicolon
        refine ⟨Nat.le_trans le (Nat.le_of_lt less), ?_⟩
        rw [skipSemicolons]
        simp only [Tokens.next?_cons, eq]
        rfl
      · have kept : unseparated (t :: ts) = t :: ts := by
          simp [unseparated, isSemicolon, semicolon]
        rw [kept]
        refine ⟨Nat.le_refl _, ?_⟩
        rw [skipSemicolons]
        cases t with
        | symbol s =>
            have ne : s ≠ .semicolon := by simpa using semicolon
            cases s with
            | semicolon => exact absurd rfl ne
            | _ => rfl
        | _ => rfl

/-! ## Blocks and lists of statements -/

/-- Where no statement begins the list of statements is empty. -/
theorem statements_none {ts : List Token} (h : (statement (.ofList ts)).Stops) :
    (statements (.ofList ts)).Gives [] ts := by
  rcases h with ⟨reach, eq⟩
  rw [statements, eq]
  exact gives_of_eq rfl

/-- A statement is followed by the others, past semicolons. -/
theorem statements_cons {ts rest rest' : List Token} {s : Statement} {body : List Statement}
    (h : (statement (.ofList ts)).Gives s rest)
    (h' : (statements (.ofList (unseparated rest))).Gives body rest') :
    (statements (.ofList ts)).Gives (s :: body) rest' := by
  rcases h with ⟨reach, less, eq⟩
  rcases skipSemicolons_eq rest with ⟨le, eqSkip⟩
  rcases h' with ⟨reach', less', eq'⟩
  rw [statements, eq]
  simp only [Reading.map, Reading.after]
  rw [eqSkip]
  simp only [eq', Option.map_some]
  exact gives_of_eq rfl

/-- A block is the statements up to its closing brace. -/
theorem block_gives {ts rest : List Token} {body : List Statement}
    (h : (statements (.ofList (unseparated ts))).Gives body (.symbol .closeBrace :: rest)) :
    (block (.ofList (.symbol .openBrace :: ts))).Gives body rest := by
  rcases symbol_leaves .openBrace ts with ⟨reachOpen, lessOpen, eqOpen⟩
  rcases skipSemicolons_eq ts with ⟨le, eqSkip⟩
  rcases h with ⟨reach, less, eq⟩
  rcases symbol_leaves .closeBrace rest with ⟨reachClose, lessClose, eqClose⟩
  rw [block, eqOpen]
  simp only [Reading.map, Reading.after]
  rw [eqSkip]
  simp only [eq, eqClose, Option.map_some]
  exact gives_of_eq rfl

/-! ## Conditionals -/

/-- Without an `else` there is no alternative, and the semicolons are left. -/
theorem alternative_none {ts : List Token}
    (h : (unseparated ts).head? ≠ some (.keyword .elseWord)) :
    (alternative (.ofList ts)).Gives none ts := by
  rcases skipSemicolons_eq ts with ⟨le, eqSkip⟩
  rcases keyword_stops h with ⟨reach, eq⟩
  rw [alternative, eqSkip]
  simp only [eq]
  exact gives_of_eq rfl

/-- Behind an `else` a block is the alternative. -/
theorem alternative_block {ts more rest : List Token} {body : List Statement}
    (start : unseparated ts = .keyword .elseWord :: more)
    (noIf : more.head? ≠ some (.keyword .ifWord))
    (h : (block (.ofList more)).Gives body rest) :
    (alternative (.ofList ts)).Gives (some body) rest := by
  rcases skipSemicolons_eq ts with ⟨le, eqSkip⟩
  rcases keyword_leaves .elseWord more with ⟨reachElse, lessElse, eqElse⟩
  rcases keyword_stops noIf with ⟨reachIf, eqIf⟩
  rcases h with ⟨reach, less, eq⟩
  have eqStart : skipSemicolons (.ofList ts) = ⟨.ofList (.keyword .elseWord :: more), start ▸ le⟩ := by
    rw [eqSkip]
    congr
  rw [alternative, eqStart]
  simp only [eqElse, eqIf, eq]
  exact gives_of_eq rfl

/-- A conditional without an `else` has one block. -/
theorem conditional_then {ts rest rest' : List Token} {condition : Expr} {body : List Statement}
    (hCondition : (expr 1 (.ofList ts)).Gives condition rest)
    (hBody : (block (.ofList rest)).Gives body rest')
    (noElse : (unseparated rest').head? ≠ some (.keyword .elseWord)) :
    (conditional (.ofList ts)).Gives (.ifThen condition body) rest' := by
  rcases hCondition with ⟨reach, less, eq⟩
  rcases hBody with ⟨reachBody, lessBody, eqBody⟩
  rcases alternative_none noElse with ⟨reachElse, lessElse, eqElse⟩
  rw [conditional, eq]
  simp only [eqBody, eqElse, Reading.map, Reading.after, Option.map_some]
  exact gives_of_eq rfl

/-- A conditional with an `else` has another list of statements. -/
theorem conditional_else {ts rest rest' rest'' : List Token} {condition : Expr}
    {body otherwise : List Statement} (hCondition : (expr 1 (.ofList ts)).Gives condition rest)
    (hBody : (block (.ofList rest)).Gives body rest')
    (hElse : (alternative (.ofList rest')).Gives (some otherwise) rest'') :
    (conditional (.ofList ts)).Gives (.ifElse condition body otherwise) rest'' := by
  rcases hCondition with ⟨reach, less, eq⟩
  rcases hBody with ⟨reachBody, lessBody, eqBody⟩
  rcases hElse with ⟨reachElse, lessElse, eqElse⟩
  rw [conditional, eq]
  simp only [eqBody, eqElse, Reading.map, Reading.after, Option.map_some]
  exact gives_of_eq rfl

/-! ## Loops -/

theorem variableName_eq (name : String) (ts : List Token) :
    ∃ h, variableName (.ofList (.var name :: ts)) =
      .done (.ofList (.var name :: ts)) (name, ⟨.ofList ts, h⟩) :=
  ⟨Nat.lt_succ_self _, rfl⟩

/-- A loop with one name binds the items to it. -/
theorem loopHead_item {item : String} {ts rest : List Token} {source : Expr}
    (h : (expr 1 (.ofList ts)).Gives source rest) :
    (loopHead (.ofList (.var item :: .keyword .inWord :: ts))).Gives (none, item, source) rest := by
  rcases variableName_eq item (.keyword .inWord :: ts) with ⟨lessItem, eqItem⟩
  have noComma : (Token.keyword .inWord :: ts).head? ≠ some (.symbol .comma) := by simp
  rcases symbol_stops noComma with ⟨reachComma, eqComma⟩
  rcases keyword_leaves .inWord ts with ⟨reachIn, lessIn, eqIn⟩
  rcases h with ⟨reach, less, eq⟩
  simp only [loopHead, loopNames, eqItem, Reading.done, eqComma, eqIn, eq, Reading.map,
    Reading.after, Option.map_some]
  exact gives_of_eq rfl

/-- A loop with two names binds the keys to the first. -/
theorem loopHead_key {key item : String} {ts rest : List Token} {source : Expr}
    (h : (expr 1 (.ofList ts)).Gives source rest) :
    (loopHead (.ofList
      (.var key :: .symbol .comma :: .var item :: .keyword .inWord :: ts))).Gives
      (some key, item, source) rest := by
  rcases variableName_eq key (.symbol .comma :: .var item :: .keyword .inWord :: ts) with
    ⟨lessKey, eqKey⟩
  rcases symbol_leaves .comma (.var item :: .keyword .inWord :: ts) with
    ⟨reachComma, lessComma, eqComma⟩
  rcases variableName_eq item (.keyword .inWord :: ts) with ⟨lessItem, eqItem⟩
  rcases keyword_leaves .inWord ts with ⟨reachIn, lessIn, eqIn⟩
  rcases h with ⟨reach, less, eq⟩
  simp only [loopHead, loopNames, eqKey, Reading.done, eqComma, eqItem, eqIn, eq, Reading.map,
    Reading.after, Option.map_some]
  exact gives_of_eq rfl

/-! ## Statements -/

theorem statement_text (s : String) (ts : List Token) :
    (statement (.ofList (.text s :: ts))).Gives (.text s) ts := by
  rw [statement]
  exact gives_of_eq (h := Nat.lt_succ_self _) rfl

/-- An `echo` has one expression or more. -/
theorem statement_echo {ts rest rest' : List Token} {e : Expr} {es : List Expr}
    (h : (expr 1 (.ofList ts)).Gives e rest)
    (h' : (moreExpressions (.ofList rest)).Gives es rest') :
    (statement (.ofList (.keyword .echoWord :: ts))).Gives (.echo (e :: es)) rest' := by
  rcases h with ⟨reach, less, eq⟩
  rcases h' with ⟨reach', less', eq'⟩
  rw [statement]
  simp only [Tokens.next?_cons, echoStatement, eq, eq', Reading.map, Reading.after,
    Option.map_some]
  exact gives_of_eq rfl

theorem statement_if {ts rest : List Token} {s : Statement}
    (h : (conditional (.ofList ts)).Gives s rest) :
    (statement (.ofList (.keyword .ifWord :: ts))).Gives s rest := by
  rcases h with ⟨reach, less, eq⟩
  rw [statement]
  simp only [Tokens.next?_cons, eq, Reading.map, Option.map_some]
  exact gives_of_eq rfl

/-- A loop is its head and its block. -/
theorem statement_for {ts rest rest' : List Token} {key : Option String} {item : String}
    {source : Expr} {body : List Statement}
    (h : (loopHead (.ofList ts)).Gives (key, item, source) rest)
    (h' : (block (.ofList rest)).Gives body rest') :
    (statement (.ofList (.keyword .forWord :: ts))).Gives (.forEach key item source body)
      rest' := by
  rcases h with ⟨reach, less, eq⟩
  rcases h' with ⟨reach', less', eq'⟩
  rw [statement]
  simp only [Tokens.next?_cons, eq, eq', Reading.map, Reading.after, Option.map_some]
  exact gives_of_eq rfl

/-- A variable before an equals sign is assigned to. -/
theorem statement_assign {name : String} {ts rest : List Token} {value : Expr}
    (h : (expr 1 (.ofList ts)).Gives value rest) :
    (statement (.ofList (.var name :: .symbol .assign :: ts))).Gives (.assign name value)
      rest := by
  rcases symbol_leaves .assign ts with ⟨reachAssign, lessAssign, eqAssign⟩
  rcases h with ⟨reach, less, eq⟩
  rw [statement]
  simp only [Tokens.next?_cons, eqAssign, eq]
  exact gives_of_eq rfl

/-- The tokens begin no statement other than an expression. -/
def StartsExpr (ts : List Token) : Prop :=
  (∀ s, ts.head? ≠ some (.text s)) ∧
    (∀ k ∈ [Keyword.echoWord, .ifWord, .forWord], ts.head? ≠ some (.keyword k)) ∧
      ∀ name, ts.head? = some (.var name) → ts.tail.head? ≠ some (.symbol .assign)

/-- Where no other statement begins, a statement is an expression. -/
theorem statement_eq_expression {ts : List Token} (start : StartsExpr ts) :
    (statement (.ofList ts)).read = (expressionStatement (.ofList ts)).read := by
  rcases start with ⟨noText, noWord, noAssign⟩
  rw [statement]
  cases ts with
  | nil => rfl
  | cons t ts =>
      cases t with
      | text s => exact absurd rfl (noText s)
      | keyword k =>
          cases k with
          | echoWord => exact absurd rfl (noWord .echoWord (by simp))
          | ifWord => exact absurd rfl (noWord .ifWord (by simp))
          | forWord => exact absurd rfl (noWord .forWord (by simp))
          | _ => rfl
      | var name =>
          -- Without an assignment sign the variable begins an expression.
          rcases symbol_stops (noAssign name rfl) with ⟨reach, eq⟩
          simp only [List.tail_cons] at eq
          simp only [Tokens.next?_cons, eq]
          rfl
      | _ => rfl

/-- Any other expression is a statement by itself. -/
theorem statement_eval {ts rest : List Token} {e : Expr} (start : StartsExpr ts)
    (h : (expr 1 (.ofList ts)).Gives e rest) :
    (statement (.ofList ts)).Gives (.eval e) rest := by
  rcases h with ⟨reach, less, eq⟩
  have read : (statement (.ofList ts)).read = some (.eval e, ⟨.ofList rest, less⟩) := by
    rw [statement_eq_expression start, expressionStatement, eq]
    rfl
  refine ⟨(statement (.ofList ts)).reach, less, ?_⟩
  rw [← read]

/-- A closing brace begins no statement, and neither does the end. -/
theorem statement_stops {ts : List Token}
    (h : ts = [] ∨ ∃ rest, ts = .symbol .closeBrace :: rest) : (statement (.ofList ts)).Stops := by
  have stops : (expr 1 (.ofList ts)).Stops := by
    rcases h with rfl | ⟨rest, rfl⟩
    · exact expr_stops operand_nil_stops
    · exact expr_stops (operand_stops (Or.inr (Or.inr rfl)) rest)
  have start : StartsExpr ts := by
    rcases h with rfl | ⟨rest, rfl⟩ <;> simp [StartsExpr]
  rcases stops with ⟨reach, eq⟩
  have read : (statement (.ofList ts)).read = none := by
    rw [statement_eq_expression start, expressionStatement, eq]
    rfl
  refine ⟨(statement (.ofList ts)).reach, ?_⟩
  rw [← read]

end Artifact
end TemplateEngine
