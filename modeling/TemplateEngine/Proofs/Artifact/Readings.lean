import TemplateEngine.Proofs.Artifact.Printer

/-!
# Readings — the rules of the grammar

What the readers of the grammar do on a list of tokens, said as rules: a reader *gives* something and
the tokens after it, or it *stops*. Each rule is about one reader and one way through it, and takes
the readings of its parts as premises. How far a reader looked is left out; it only tells where a
program that cannot be read is refused.
-/

namespace TemplateEngine
namespace Artifact

namespace Reading

/-- The reading has `a` as its result and leaves the tokens `rest`. -/
def Gives {α : Type} {p : Tokens → Prop} (r : Reading (α × { rest : Tokens // p rest })) (a : α)
    (rest : List Token) : Prop :=
  ∃ reach h, r = ⟨reach, some (a, ⟨.ofList rest, h⟩)⟩

def Leaves {p : Tokens → Prop} (r : Reading { rest : Tokens // p rest }) (rest : List Token) :
    Prop :=
  ∃ reach h, r = ⟨reach, some ⟨.ofList rest, h⟩⟩

def Stops {α : Type} (r : Reading α) : Prop := ∃ reach, r = ⟨reach, none⟩

theorem gives_of_eq {α : Type} {p : Tokens → Prop} {r : Reading (α × { rest : Tokens // p rest })}
    {reach : Reach} {a : α} {rest : List Token} {h : p (.ofList rest)}
    (eq : r = ⟨reach, some (a, ⟨.ofList rest, h⟩)⟩) : r.Gives a rest :=
  ⟨reach, h, eq⟩

theorem leaves_of_eq {p : Tokens → Prop} {r : Reading { rest : Tokens // p rest }} {reach : Reach}
    {rest : List Token} {h : p (.ofList rest)} (eq : r = ⟨reach, some ⟨.ofList rest, h⟩⟩) :
    r.Leaves rest :=
  ⟨reach, h, eq⟩

end Reading

open Reading (gives_of_eq leaves_of_eq)

namespace Tokens

@[simp]
theorem next?_nil : (Tokens.ofList []).next? = none := rfl

@[simp]
theorem next?_cons (t : Token) (ts : List Token) :
    (Tokens.ofList (t :: ts)).next? = some (t, .ofList ts) := rfl

end Tokens

/-! ## Single tokens -/

theorem symbol_leaves (s : Symbol) (ts : List Token) :
    (symbol s (.ofList (.symbol s :: ts))).Leaves ts := by
  have eq : symbol s (.ofList (.symbol s :: ts)) =
      .done _ ⟨.ofList ts, Nat.lt_succ_self _⟩ := if_pos rfl
  exact leaves_of_eq eq

/-- Another symbol is not read. -/
theorem symbol_stops {s : Symbol} {ts : List Token} (h : ts.head? ≠ some (.symbol s)) :
    (symbol s (.ofList ts)).Stops := by
  cases ts with
  | nil => exact ⟨_, rfl⟩
  | cons t ts =>
      cases t with
      | symbol t =>
          have ne : t ≠ s := by simpa using h
          exact ⟨_, if_neg ne⟩
      | _ => exact ⟨_, rfl⟩

theorem keyword_leaves (k : Keyword) (ts : List Token) :
    (keyword k (.ofList (.keyword k :: ts))).Leaves ts := by
  have eq : keyword k (.ofList (.keyword k :: ts)) =
      .done _ ⟨.ofList ts, Nat.lt_succ_self _⟩ := if_pos rfl
  exact leaves_of_eq eq

theorem keyword_stops {k : Keyword} {ts : List Token} (h : ts.head? ≠ some (.keyword k)) :
    (keyword k (.ofList ts)).Stops := by
  cases ts with
  | nil => exact ⟨_, rfl⟩
  | cons t ts =>
      cases t with
      | keyword t =>
          have ne : t ≠ k := by simpa using h
          exact ⟨_, if_neg ne⟩
      | _ => exact ⟨_, rfl⟩

/-- Any token that has a member name is read as one. -/
theorem memberName_gives {t : Token} {field : String} (h : t.memberName? = some field)
    (ts : List Token) : (memberName (.ofList (t :: ts))).Gives field ts := by
  have less : (Tokens.ofList ts).left < (Tokens.ofList (t :: ts)).left := Nat.lt_succ_self _
  have eq : memberName (.ofList (t :: ts)) =
      .done (.ofList (t :: ts)) (field, ⟨.ofList ts, less⟩) := by
    simp only [memberName, Tokens.next?_cons, h]
  exact gives_of_eq eq

/-! ## Expressions -/

/-- An expression is an operand and what follows it. -/
theorem expr_gives {level : Nat} {ts rest rest' : List Token} {first e : Expr}
    (h : (operand (.ofList ts)).Gives first rest)
    (h' : (accesses level first (.ofList rest)).Gives e rest') :
    (expr level (.ofList ts)).Gives e rest' := by
  rcases h with ⟨reach, less, eq⟩
  rcases h' with ⟨reach', less', eq'⟩
  rw [expr, eq]
  simp only [eq', Reading.map, Reading.after, Option.map_some]
  exact gives_of_eq rfl

theorem expr_stops {level : Nat} {ts : List Token} (h : (operand (.ofList ts)).Stops) :
    (expr level (.ofList ts)).Stops := by
  rcases h with ⟨reach, eq⟩
  rw [expr, eq]
  exact ⟨_, rfl⟩

theorem operand_literal {t : Token} {e : Expr} (h : t.literal? = some e) (ts : List Token) :
    (operand (.ofList (t :: ts))).Gives e ts := by
  rw [operand]
  simp only [Tokens.next?_cons]
  cases t with
  | text s => simp [Token.literal?] at h
  | name s => simp [Token.literal?] at h
  | symbol s => simp [Token.literal?] at h
  | _ =>
      simp only [h]
      exact gives_of_eq rfl

/-- A name with arguments in parentheses is a call. -/
theorem operand_call {name : String} {inside rest : List Token} {args : List Expr}
    (h : (expressions (.ofList inside)).Gives args (.symbol .closeParen :: rest)) :
    (operand (.ofList (.name name :: .symbol .openParen :: inside))).Gives (.call name args)
      rest := by
  rcases symbol_leaves .openParen inside with ⟨reachOpen, lessOpen, eqOpen⟩
  rcases h with ⟨reach, less, eq⟩
  rcases symbol_leaves .closeParen rest with ⟨reachClose, lessClose, eqClose⟩
  rw [operand]
  simp only [Tokens.next?_cons, eqOpen, eq, eqClose]
  exact gives_of_eq rfl

theorem operand_list {inside rest : List Token} {items : List Expr}
    (h : (expressions (.ofList inside)).Gives items (.symbol .closeBracket :: rest)) :
    (operand (.ofList (.symbol .openBracket :: inside))).Gives (.list items) rest := by
  rcases h with ⟨reach, less, eq⟩
  rcases symbol_leaves .closeBracket rest with ⟨reachClose, lessClose, eqClose⟩
  rw [operand]
  simp only [Tokens.next?_cons, eq, eqClose, Reading.map, Reading.after, Option.map_some]
  exact gives_of_eq rfl

/-- Parentheses leave nothing behind in the tree. -/
theorem operand_parens {inside rest : List Token} {e : Expr}
    (h : (expr 1 (.ofList inside)).Gives e (.symbol .closeParen :: rest)) :
    (operand (.ofList (.symbol .openParen :: inside))).Gives e rest := by
  rcases h with ⟨reach, less, eq⟩
  rcases symbol_leaves .closeParen rest with ⟨reachClose, lessClose, eqClose⟩
  rw [operand]
  simp only [Tokens.next?_cons, eq, eqClose, Reading.map, Reading.after, Option.map_some]
  exact gives_of_eq rfl

/-- An operator before an expression takes an operand of its level. -/
theorem operand_unary {op : UnaryOp} {more rest : List Token} {e : Expr}
    (h : (expr unaryLevel (.ofList more)).Gives e rest) :
    (operand (.ofList (.symbol op.symbol :: more))).Gives (.unary op e) rest := by
  rcases h with ⟨reach, less, eq⟩
  rw [operand]
  cases op with
  | not =>
      simp only [Tokens.next?_cons, UnaryOp.symbol, Token.literal?, Symbol.prefixOp?, eq,
        Reading.map, Option.map_some]
      exact gives_of_eq rfl
  | neg =>
      simp only [Tokens.next?_cons, UnaryOp.symbol, Token.literal?, Symbol.prefixOp?, eq,
        Reading.map, Option.map_some]
      exact gives_of_eq rfl

/-- No expression begins with a closing symbol. -/
theorem operand_stops {s : Symbol} (closing : s = .closeParen ∨ s = .closeBracket ∨ s = .closeBrace)
    (ts : List Token) : (operand (.ofList (.symbol s :: ts))).Stops := by
  rw [operand]
  rcases closing with rfl | rfl | rfl <;> exact ⟨_, rfl⟩

theorem operand_nil_stops : (operand (.ofList [])).Stops := by
  rw [operand]
  exact ⟨_, rfl⟩

/-! ## What follows an expression -/

/-- How tightly a symbol holds on to what stands before it, if it can follow an expression. -/
def Symbol.hold? (s : Symbol) : Option Nat :=
  if s = .arrow ∨ s = .openBracket then some accessLevel else s.infixOp?.map BinaryOp.level

/-- No operator of the given level or above stands before these tokens, and from the access level
down no access does. -/
def Loose (level : Nat) (ts : List Token) : Prop :=
  ∀ s hold, ts.head? = some (.symbol s) → s.hold? = some hold → hold < level

/-- What holds on to nothing at a level does not at a higher one. -/
theorem Loose.mono {level level' : Nat} {ts : List Token} (h : Loose level ts)
    (le : level ≤ level') : Loose level' ts := by
  intro s hold head holds
  exact Nat.lt_of_lt_of_le (h s hold head holds) le

/-- A symbol that no expression goes on with. -/
theorem loose_symbol {s : Symbol} (h : s.hold? = none) (level : Nat) (ts : List Token) :
    Loose level (.symbol s :: ts) := by
  intro t hold head holds
  have same : s = t := by simpa using head
  rw [← same, h] at holds
  cases holds

/-- An operator of a lower level is left for others. -/
theorem loose_operator {op : BinaryOp} {level : Nat} (h : op.level < level) (ts : List Token) :
    Loose level (.symbol op.symbol :: ts) := by
  intro s hold head holds
  have same : op.symbol = s := by simpa using head
  have level_eq : hold = op.level := by
    rw [← same] at holds
    cases op <;> simpa [Symbol.hold?, BinaryOp.symbol, Symbol.infixOp?, eq_comm] using holds
  rwa [level_eq]

/-- An expression ends before what is loose. -/
theorem accesses_loose {level : Nat} {ts : List Token} (loose : Loose level ts)
    (small : level ≤ accessLevel) (e : Expr) : (accesses level e (.ofList ts)).Gives e ts := by
  rw [accesses]
  cases ts with
  | nil => exact gives_of_eq rfl
  | cons t ts =>
      cases t with
      | symbol s =>
          have free : ¬ (s = .arrow ∨ s = .openBracket) := by
            intro access
            have below := loose s accessLevel rfl (by simp [Symbol.hold?, access])
            exact absurd small (Nat.not_le_of_lt below)
          have notArrow : s ≠ .arrow := fun same => free (Or.inl same)
          have notBracket : s ≠ .openBracket := fun same => free (Or.inr same)
          simp only [Tokens.next?_cons, notArrow, notBracket, if_false]
          cases found : s.infixOp? with
          | none => exact gives_of_eq rfl
          | some op =>
              have below : op.level < level :=
                loose s op.level rfl (by simp [Symbol.hold?, free, found])
              simp only [Nat.not_le_of_lt below, if_false]
              exact gives_of_eq rfl
      | _ => exact gives_of_eq rfl

/-- An arrow and a name behind it take a member. -/
theorem accesses_member {level : Nat} {object e : Expr} {t : Token} {field : String}
    {rest rest' : List Token} (name : t.memberName? = some field)
    (h : (accesses level (.member object field) (.ofList rest)).Gives e rest') :
    (accesses level object (.ofList (.symbol .arrow :: t :: rest))).Gives e rest' := by
  rcases memberName_gives name rest with ⟨reachName, lessName, eqName⟩
  rcases h with ⟨reach, less, eq⟩
  rw [accesses]
  simp only [Tokens.next?_cons, if_true, eqName, eq, Reading.map, Reading.after, Option.map_some]
  exact gives_of_eq rfl

/-- Brackets take an item. -/
theorem accesses_index {level : Nat} {object position e : Expr} {more rest rest' : List Token}
    (hPosition : (expr 1 (.ofList more)).Gives position (.symbol .closeBracket :: rest))
    (h : (accesses level (.index object position) (.ofList rest)).Gives e rest') :
    (accesses level object (.ofList (.symbol .openBracket :: more))).Gives e rest' := by
  rcases hPosition with ⟨reachPosition, lessPosition, eqPosition⟩
  rcases symbol_leaves .closeBracket rest with ⟨reachClose, lessClose, eqClose⟩
  rcases h with ⟨reach, less, eq⟩
  rw [accesses]
  simp only [Tokens.next?_cons, reduceCtorEq, if_false, if_true, eqPosition, eqClose, eq,
    Reading.map, Reading.after, Option.map_some]
  exact gives_of_eq rfl

/-- An operator takes a right operand that binds tighter, and the whole becomes its left operand. -/
theorem accesses_operator {level : Nat} {op : BinaryOp} {left right e : Expr}
    {more rest rest' : List Token} (le : level ≤ op.level)
    (hRight : (expr (op.level + 1) (.ofList more)).Gives right rest)
    (h : (accesses level (.binary op left right) (.ofList rest)).Gives e rest') :
    (accesses level left (.ofList (.symbol op.symbol :: more))).Gives e rest' := by
  rcases hRight with ⟨reachRight, lessRight, eqRight⟩
  rcases h with ⟨reach, less, eq⟩
  have notArrow : op.symbol ≠ .arrow := by cases op <;> simp [BinaryOp.symbol]
  have notBracket : op.symbol ≠ .openBracket := by cases op <;> simp [BinaryOp.symbol]
  have found : op.symbol.infixOp? = some op := by cases op <;> rfl
  rw [accesses]
  simp only [Tokens.next?_cons, notArrow, notBracket, if_false]
  rw [found]
  simp only [le, if_true, eqRight, eq, Reading.map, Reading.after, Option.map_some]
  exact gives_of_eq rfl

/-! ## Expressions between commas -/

/-- A closing bracket of any kind ends a list before it has begun. -/
theorem expressions_none {s : Symbol}
    (closing : s = .closeParen ∨ s = .closeBracket ∨ s = .closeBrace) (ts : List Token) :
    (expressions (.ofList (.symbol s :: ts))).Gives [] (.symbol s :: ts) := by
  have stops : (expr 1 (.ofList (.symbol s :: ts))).Stops := expr_stops (operand_stops closing ts)
  rcases stops with ⟨reach, eq⟩
  rw [expressions, eq]
  exact gives_of_eq rfl

/-- The first of some expressions is followed by the others. -/
theorem expressions_cons {ts rest rest' : List Token} {e : Expr} {es : List Expr}
    (h : (expr 1 (.ofList ts)).Gives e rest)
    (h' : (moreExpressions (.ofList rest)).Gives es rest') :
    (expressions (.ofList ts)).Gives (e :: es) rest' := by
  rcases h with ⟨reach, less, eq⟩
  rcases h' with ⟨reach', less', eq'⟩
  rw [expressions, eq]
  simp only [eq', Reading.map, Reading.after, Option.map_some]
  exact gives_of_eq rfl

/-- Without a comma no further expression follows. -/
theorem moreExpressions_none {ts : List Token} (h : ts.head? ≠ some (.symbol .comma)) :
    (moreExpressions (.ofList ts)).Gives [] ts := by
  rcases symbol_stops h with ⟨reach, eq⟩
  rw [moreExpressions, eq]
  exact gives_of_eq rfl

theorem moreExpressions_cons {ts rest rest' : List Token} {e : Expr} {es : List Expr}
    (h : (expr 1 (.ofList ts)).Gives e rest)
    (h' : (moreExpressions (.ofList rest)).Gives es rest') :
    (moreExpressions (.ofList (.symbol .comma :: ts))).Gives (e :: es) rest' := by
  rcases symbol_leaves .comma ts with ⟨reachComma, lessComma, eqComma⟩
  rcases h with ⟨reach, less, eq⟩
  rcases h' with ⟨reach', less', eq'⟩
  rw [moreExpressions, eqComma]
  simp only [eq, eq', Reading.map, Reading.after, Option.map_some]
  exact gives_of_eq rfl

/-! ## Whole artifacts -/

section Tokenized

variable {artifact : String}

/-- An artifact that is not tokenized is not parsed. -/
theorem parse_of_fault {fault : Fault} (stuck : tokenize artifact = .error fault) :
    parse artifact = .error fault := by
  unfold parse
  rw [stuck]
  rfl

/-- An artifact is parsed as the program that its tokens are read as. -/
theorem parse_of_program {lexemes : List Lexeme} {p : Program}
    (tokenized : tokenize artifact = .ok lexemes)
    (read : program (lexemes.map Lexeme.token) = .ok p) : parse artifact = .ok p := by
  unfold parse
  rw [tokenized]
  show (program (lexemes.map Lexeme.token)).mapError _ = .ok p
  rw [read]
  rfl

variable {tokens : List Token}
  (scanned : (tokenize artifact).toOption.map (List.map Lexeme.token) = some tokens)
include scanned

/-- Only the tokens count for the program, and not their places. -/
theorem parse_of_tokens {p : Program} (read : program tokens = .ok p) : parse artifact = .ok p := by
  cases tokenized : tokenize artifact with
  | error fault =>
      rw [tokenized] at scanned
      cases scanned
  | ok lexemes =>
      rw [tokenized] at scanned
      cases scanned
      exact parse_of_program tokenized read

end Tokenized

end Artifact
end TemplateEngine
