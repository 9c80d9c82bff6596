import TemplateEngine.Proofs.Artifact.StatementReadings

/-!
# Outcomes — the readers as functions on lists of tokens

How far a reader looked left out, it is a function from a list of tokens to what it read and the tokens
after it. Each of these functions satisfies one equation, which says what it reads first and how it goes
on; where a longer reading fails, the equation gives the shorter one.
-/

namespace TemplateEngine
namespace Artifact

/-- A reading as a function on lists: what is read from some tokens, and the tokens left. -/
abbrev Outcome (α : Type) := Option (α × List Token)

/-! ## Outcomes of readings -/

namespace Reading

variable {α : Type} {p : Tokens → Prop}

/-- What a reading read and the tokens after it. -/
def outcome (r : Reading (α × { rest : Tokens // p rest })) : Outcome α :=
  r.read.map fun (a, rest) => (a, rest.1.list)

theorem Gives.outcome {r : Reading (α × { rest : Tokens // p rest })} {a : α} {rest : List Token}
    (h : r.Gives a rest) : r.outcome = some (a, rest) := by
  rcases h with ⟨reach, here, rfl⟩
  rfl

theorem Stops.outcome {r : Reading (α × { rest : Tokens // p rest })} (h : r.Stops) :
    r.outcome = none := by
  rcases h with ⟨reach, rfl⟩
  rfl

/-- A reading stops, or it gives its outcome. -/
theorem stops_or_gives (r : Reading (α × { rest : Tokens // p rest })) :
    r.Stops ∨ ∃ a rest, r.Gives a rest := by
  rcases r with ⟨reach, none | ⟨a, ⟨list, left, rfl⟩, h⟩⟩
  · exact .inl ⟨reach, rfl⟩
  · exact .inr ⟨a, list, reach, h, rfl⟩

@[simp]
theorem outcome_none (reach : Reach) :
    (⟨reach, none⟩ : Reading (α × { rest : Tokens // p rest })).outcome = none := rfl

@[simp]
theorem outcome_some (reach : Reach) (a : α) (rest : List Token) (h : p (.ofList rest)) :
    (⟨reach, some (a, ⟨.ofList rest, h⟩)⟩ : Reading (α × { rest : Tokens // p rest })).outcome =
      some (a, rest) := rfl

/-- How far a reader looked is no part of its outcome. -/
@[simp]
theorem outcome_after (r : Reading (α × { rest : Tokens // p rest })) (reach : Reach) :
    (r.after reach).outcome = r.outcome := rfl

/-- A reading of something else has the outcome changed in the same way. -/
theorem outcome_map {β : Type} {q : Tokens → Prop}
    {f : α × { rest : Tokens // p rest } → β × { rest : Tokens // q rest }} (g : α → β)
    (r : Reading (α × { rest : Tokens // p rest }))
    (maps : ∀ read, ((f read).1, (f read).2.1) = (g read.1, read.2.1)) :
    (r.map f).outcome = r.outcome.map fun (a, rest) => (g a, rest) := by
  rcases r with ⟨reach, none | read⟩
  · rfl
  · simp only [Prod.mk.injEq] at maps
    simp [Reading.map, outcome, maps]

/-- A reading that is only known to leave other tokens. -/
theorem outcome_map_same {q : Tokens → Prop}
    {f : α × { rest : Tokens // p rest } → α × { rest : Tokens // q rest }}
    (r : Reading (α × { rest : Tokens // p rest }))
    (maps : ∀ read, ((f read).1, (f read).2.1) = (read.1, read.2.1)) :
    (r.map f).outcome = r.outcome :=
  (outcome_map id r maps).trans Option.map_id_apply

end Reading

/-! ## Readers after and before a token -/

/-- What is read after one given token. -/
def afterToken {α : Type} (t : Token) (read : List Token → Outcome α) : List Token → Outcome α
  | [] => none
  | u :: us => if u = t then read us else none

/-- What is read before one given token, which is passed over. -/
def upToToken {α : Type} (t : Token) (read : List Token → Outcome α) (ts : List Token) :
    Outcome α :=
  (read ts).bind fun (a, rest) => afterToken t (fun rest => some (a, rest)) rest

theorem afterToken_self {α : Type} (t : Token) (read : List Token → Outcome α) (ts : List Token) :
    afterToken t read (t :: ts) = read ts :=
  if_pos rfl

/-- Nothing is read where another token comes first. -/
theorem afterToken_of_head {α : Type} {t : Token} (read : List Token → Outcome α)
    {ts : List Token} (other : ts.head? ≠ some t) : afterToken t read ts = none := by
  cases ts with
  | nil => rfl
  | cons u us =>
      have ne : u ≠ t := by simpa using other
      exact if_neg ne

theorem map_afterToken {α β : Type} (f : α × List Token → β × List Token) (t : Token)
    (read : List Token → Outcome α) (ts : List Token) :
    (afterToken t read ts).map f = afterToken t (fun ts => (read ts).map f) ts := by
  cases ts with
  | nil => rfl
  | cons u us =>
      simp only [afterToken]
      split <;> rfl

/-- What is read up to a token has that token behind it. -/
theorem upToToken_eq_some {α : Type} {t : Token} {read : List Token → Outcome α}
    {ts rest : List Token} {a : α} (h : upToToken t read ts = some (a, rest)) :
    read ts = some (a, t :: rest) := by
  rcases Option.bind_eq_some_iff.1 h with ⟨⟨b, left⟩, found, closed⟩
  cases left with
  | nil => cases closed
  | cons u us =>
      simp only [afterToken] at closed
      split at closed
      · next same =>
          cases closed
          rw [found, same]
      · cases closed

/-- A symbol is read exactly where it stands. -/
theorem symbol_leaves_or_stops (s : Symbol) (ts : List Token) :
    (∃ more, ts = .symbol s :: more ∧ (symbol s (.ofList ts)).Leaves more) ∨
      (ts.head? ≠ some (.symbol s) ∧ (symbol s (.ofList ts)).Stops) := by
  by_cases head : ts.head? = some (.symbol s)
  · rcases List.head?_eq_some_iff.1 head with ⟨more, rfl⟩
    exact .inl ⟨more, rfl, symbol_leaves s more⟩
  · exact .inr ⟨head, symbol_stops head⟩

/-- A keyword is read exactly where it stands. -/
theorem keyword_leaves_or_stops (k : Keyword) (ts : List Token) :
    (∃ more, ts = .keyword k :: more ∧ (keyword k (.ofList ts)).Leaves more) ∨
      (ts.head? ≠ some (.keyword k) ∧ (keyword k (.ofList ts)).Stops) := by
  by_cases head : ts.head? = some (.keyword k)
  · rcases List.head?_eq_some_iff.1 head with ⟨more, rfl⟩
    exact .inl ⟨more, rfl, keyword_leaves k more⟩
  · exact .inr ⟨head, keyword_stops head⟩

/-- A closing symbol ends a reading that has its result already. -/
theorem outcome_closing {α : Type} {p : Tokens → Prop} {a : α} (s : Symbol) {ts : List Token}
    {f : Tokens.Fewer (.ofList ts) → α × { rest : Tokens // p rest }}
    (maps : ∀ left, ((f left).1, (f left).2.1) = (a, left.1)) :
    ((symbol s (.ofList ts)).map f).outcome =
      afterToken (.symbol s) (fun rest => some (a, rest)) ts := by
  rcases symbol_leaves_or_stops s ts with ⟨more, rfl, reach, less, eq⟩ | ⟨other, reach, eq⟩
  · simp only [Prod.mk.injEq] at maps
    rw [eq, afterToken_self]
    simp only [Reading.map, Reading.outcome, Option.map_some, maps]
    rfl
  · rw [eq, afterToken_of_head _ other]
    rfl

/-! ## Expressions -/

def exprAt (level : Nat) (ts : List Token) : Outcome Expr := (expr level (.ofList ts)).outcome

def operandAt (ts : List Token) : Outcome Expr := (operand (.ofList ts)).outcome

def accessesAt (level : Nat) (left : Expr) (ts : List Token) : Outcome Expr :=
  (accesses level left (.ofList ts)).outcome

def expressionsAt (ts : List Token) : Outcome (List Expr) := (expressions (.ofList ts)).outcome

def moreExpressionsAt (ts : List Token) : Outcome (List Expr) :=
  (moreExpressions (.ofList ts)).outcome

/-- An expression is an operand and what follows it. -/
theorem exprAt_eq (level : Nat) (ts : List Token) :
    exprAt level ts = (operandAt ts).bind fun (first, rest) => accessesAt level first rest := by
  unfold exprAt operandAt
  rcases (operand (.ofList ts)).stops_or_gives with ⟨reach, eq⟩ | ⟨first, rest, reach, less, eq⟩
  · rw [expr, eq]
    rfl
  · rw [expr, eq]
    simp only [Reading.outcome_after, Reading.outcome_some, Option.bind_some]
    exact Reading.outcome_map_same _ fun _ => rfl

def memberAt : List Token → Outcome String
  | [] => none
  | t :: ts => t.memberName?.map fun field => (field, ts)

/-- The reader of member names is the list function. -/
theorem memberName_gives_or_stops (ts : List Token) :
    (memberAt ts = none ∧ (memberName (.ofList ts)).Stops) ∨
      ∃ field rest, memberAt ts = some (field, rest) ∧
        (memberName (.ofList ts)).Gives field rest := by
  cases ts with
  | nil => exact .inl ⟨rfl, _, rfl⟩
  | cons t ts =>
      cases name : t.memberName? with
      | none =>
          refine .inl ⟨by simp [memberAt, name], ?_⟩
          unfold memberName
          simp only [Tokens.next?_cons, name]
          exact ⟨_, rfl⟩
      | some field =>
          exact .inr ⟨field, ts, by simp [memberAt, name], memberName_gives name ts⟩

/-- One access, or one operator of the given level or above with its right operand. -/
def accessAt (level : Nat) (left : Expr) : List Token → Outcome Expr
  | .symbol s :: more =>
      if s = .arrow then (memberAt more).map fun (field, rest) => (.member left field, rest)
      else if s = .openBracket then
        (upToToken (.symbol .closeBracket) (exprAt 1) more).map fun (position, rest) =>
          (.index left position, rest)
      else
        s.infixOp?.bind fun op =>
          if level ≤ op.level then
            (exprAt (op.level + 1) more).map fun (right, rest) => (.binary op left right, rest)
          else none
  | _ => none

/-- Accesses and operators are read one at a time, until none follows. -/
theorem accessesAt_eq (level : Nat) (left : Expr) (ts : List Token) :
    accessesAt level left ts =
      match accessAt level left ts with
      | none => some (left, ts)
      | some (e, rest) => accessesAt level e rest := by
  rw [accessesAt, accesses]
  cases ts with
  | nil => rfl
  | cons t more =>
      cases t with
      | symbol s =>
          simp only [Tokens.next?_cons, accessAt]
          by_cases arrow : s = .arrow
          · simp only [arrow, if_true]
            -- The reader says how far it came; the outcome forgets that, and so does each case
            -- here.
            rcases memberName_gives_or_stops more with ⟨none, reach, eq⟩ |
              ⟨field, rest, some, reach, less, eq⟩
            · rw [eq, none]
              rfl
            · rw [eq, some]
              exact Reading.outcome_map_same _ fun _ => rfl
          simp only [arrow, if_false]
          by_cases bracket : s = .openBracket
          · simp only [bracket, if_true, upToToken, exprAt]
            rcases (expr 1 (.ofList more)).stops_or_gives with ⟨reach, eq⟩ |
              ⟨position, rest, reach, less, eq⟩
            · rw [eq]
              rfl
            · rw [eq]
              simp only [Reading.outcome_some, Option.bind_some]
              rcases symbol_leaves_or_stops .closeBracket rest with
                ⟨behind, rfl, reach', less', eq'⟩ | ⟨other, reach', eq'⟩
              · rw [afterToken_self, eq']
                exact Reading.outcome_map_same _ fun _ => rfl
              · rw [afterToken_of_head _ other, eq']
                rfl
          simp only [bracket, if_false]
          cases found : s.infixOp? with
          | none => rfl
          | some op =>
              simp only [Option.bind_some]
              split
              · unfold exprAt
                rcases (expr (op.level + 1) (.ofList more)).stops_or_gives with ⟨reach, eq⟩ |
                  ⟨right, rest, reach, less, eq⟩
                · rw [eq]
                  rfl
                · rw [eq]
                  exact Reading.outcome_map_same _ fun _ => rfl
              · rfl
      | _ => rfl

def argumentsAt : List Token → Outcome (List Expr) :=
  afterToken (.symbol .openParen) (upToToken (.symbol .closeParen) expressionsAt)

def operandAfter (t : Token) (more : List Token) : Outcome Expr :=
  match t with
  | .name name =>
      some (((argumentsAt more).map fun (args, rest) => (.call name args, rest)).getD
        (.var name, more))
  | .symbol .openBracket =>
      (upToToken (.symbol .closeBracket) expressionsAt more).map fun (items, rest) =>
        (.list items, rest)
  | .symbol .openParen => upToToken (.symbol .closeParen) (exprAt 1) more
  | .symbol s =>
      s.prefixOp?.bind fun op =>
        (exprAt unaryLevel more).map fun (e, rest) => (.unary op e, rest)
  | t => t.literal?.map fun e => (e, more)

theorem operandAt_nil : operandAt [] = none := operand_nil_stops.outcome

theorem operandAt_cons (t : Token) (more : List Token) :
    operandAt (t :: more) = operandAfter t more := by
  rw [operandAt, operand]
  cases t with
  | name name =>
      simp only [Tokens.next?_cons, operandAfter, argumentsAt]
      -- A name with a parenthesis behind it is a call if the arguments end in time, else a
      -- variable.
      rcases symbol_leaves_or_stops .openParen more with ⟨inside, rfl, reach, less, eq⟩ |
        ⟨other, reach, eq⟩
      · rw [afterToken_self, eq]
        simp only [upToToken, expressionsAt]
        rcases (expressions (.ofList inside)).stops_or_gives with ⟨reach', eq'⟩ |
          ⟨args, rest, reach', less', eq'⟩
        · rw [eq']
          rfl
        · rw [eq']
          simp only [Reading.outcome_some, Option.bind_some]
          rcases symbol_leaves_or_stops .closeParen rest with ⟨behind, rfl, reach'', less'', eq''⟩ |
            ⟨other, reach'', eq''⟩
          · rw [afterToken_self, eq'']
            rfl
          · rw [afterToken_of_head _ other, eq'']
            rfl
      · rw [afterToken_of_head _ other, eq]
        rfl
  | symbol s =>
      cases s with
      | openBracket =>
          simp only [Tokens.next?_cons, operandAfter, upToToken, expressionsAt]
          rcases (expressions (.ofList more)).stops_or_gives with ⟨reach, eq⟩ |
            ⟨items, rest, reach, less, eq⟩
          · rw [eq]
            rfl
          · rw [eq]
            simp only [Reading.outcome_after, Reading.outcome_some, Option.bind_some, map_afterToken,
              Option.map_some]
            exact outcome_closing .closeBracket fun _ => rfl
      | openParen =>
          simp only [Tokens.next?_cons, operandAfter, upToToken, exprAt]
          rcases (expr 1 (.ofList more)).stops_or_gives with ⟨reach, eq⟩ |
            ⟨inner, rest, reach, less, eq⟩
          · rw [eq]
            rfl
          · rw [eq]
            exact outcome_closing .closeParen fun _ => rfl
      | bang => exact Reading.outcome_map (Expr.unary .not) _ fun _ => rfl
      | minus => exact Reading.outcome_map (Expr.unary .neg) _ fun _ => rfl
      | _ => rfl
  | keyword k => cases k <;> rfl
  | _ => rfl

/-- The first of some expressions has no comma before it. -/
theorem expressionsAt_eq (ts : List Token) :
    expressionsAt ts =
      match exprAt 1 ts with
      | none => some ([], ts)
      | some (e, rest) => (moreExpressionsAt rest).map fun (es, rest) => (e :: es, rest) := by
  rw [expressionsAt, expressions, exprAt]
  rcases (expr 1 (.ofList ts)).stops_or_gives with ⟨reach, eq⟩ | ⟨e, rest, reach, less, eq⟩
  · rw [eq]
    rfl
  · rw [eq]
    exact Reading.outcome_map (e :: ·) _ fun _ => rfl

/-- Each further expression has a comma before it. -/
theorem moreExpressionsAt_eq (ts : List Token) :
    moreExpressionsAt ts =
      match afterToken (.symbol .comma) (exprAt 1) ts with
      | none => some ([], ts)
      | some (e, rest) => (moreExpressionsAt rest).map fun (es, rest) => (e :: es, rest) := by
  rw [moreExpressionsAt, moreExpressions]
  rcases symbol_leaves_or_stops .comma ts with ⟨more, rfl, reach, less, eq⟩ | ⟨other, reach, eq⟩
  · rw [afterToken_self, eq, exprAt]
    simp only
    rcases (expr 1 (.ofList more)).stops_or_gives with ⟨reach', eq'⟩ |
      ⟨e, rest, reach', less', eq'⟩
    · rw [eq']
      rfl
    · rw [eq']
      exact Reading.outcome_map (e :: ·) _ fun _ => rfl
  · rw [afterToken_of_head _ other, eq]
    rfl

/-! ## Statements -/

def statementAt (ts : List Token) : Outcome Statement := (statement (.ofList ts)).outcome

def conditionalAt (ts : List Token) : Outcome Statement := (conditional (.ofList ts)).outcome

def alternativeAt (ts : List Token) : Outcome (Option (List Statement)) :=
  (alternative (.ofList ts)).outcome

def blockAt (ts : List Token) : Outcome (List Statement) := (block (.ofList ts)).outcome

def statementsAt (ts : List Token) : Outcome (List Statement) := (statements (.ofList ts)).outcome

def loopHeadAt (ts : List Token) : Outcome (Option String × String × Expr) :=
  (loopHead (.ofList ts)).outcome

def evalAt (ts : List Token) : Outcome Statement :=
  (exprAt 1 ts).map fun (e, rest) => (.eval e, rest)

/-- An expression is a statement by itself. -/
theorem outcome_expressionStatement (ts : List Token) :
    (expressionStatement (.ofList ts)).outcome = evalAt ts :=
  Reading.outcome_map Statement.eval _ fun _ => rfl

def statementAfter (t : Token) (more : List Token) : Outcome Statement :=
  match t with
  | .text s => some (.text s, more)
  | .keyword .echoWord =>
      (exprAt 1 more).bind fun (e, rest) =>
        (moreExpressionsAt rest).map fun (es, rest) => (.echo (e :: es), rest)
  | .keyword .ifWord => conditionalAt more
  | .keyword .forWord =>
      (loopHeadAt more).bind fun ((key, item, source), rest) =>
        (blockAt rest).map fun (body, rest) => (.forEach key item source body, rest)
  | .var name =>
      ((afterToken (.symbol .assign) (exprAt 1) more).map fun (value, rest) =>
        (.assign name value, rest)).or (evalAt (t :: more))
  | _ => evalAt (t :: more)

theorem statementAt_nil : statementAt [] = none := (statement_stops (.inl rfl)).outcome

theorem statementAt_cons (t : Token) (more : List Token) :
    statementAt (t :: more) = statementAfter t more := by
  rw [statementAt, statement]
  -- What no other form begins is read as an expression, and so is an assignment that fails.
  have expression := outcome_expressionStatement (t :: more)
  cases t with
  | text s => rfl
  | keyword k =>
      cases k with
      | echoWord =>
          simp only [Tokens.next?_cons, statementAfter, echoStatement, exprAt]
          rcases (expr 1 (.ofList more)).stops_or_gives with ⟨reach, eq⟩ | ⟨e, rest, reach, less, eq⟩
          · rw [eq]
            rfl
          · rw [eq]
            refine (Reading.outcome_map_same _ ?_).trans ?_
            · intro read
              rfl
            exact Reading.outcome_map (fun es => Statement.echo (e :: es)) _ fun _ => rfl
      | ifWord =>
          exact Reading.outcome_map_same _ fun _ => rfl
      | forWord =>
          simp only [Tokens.next?_cons, statementAfter, loopHeadAt]
          rcases (loopHead (.ofList more)).stops_or_gives with ⟨reach, eq⟩ |
            ⟨⟨key, item, source⟩, rest, reach, less, eq⟩
          · rw [eq]
            rfl
          · rw [eq]
            exact Reading.outcome_map (Statement.forEach key item source) _ fun _ => rfl
      | _ => exact expression
  | var name =>
      simp only [Tokens.next?_cons, statementAfter]
      rcases symbol_leaves_or_stops .assign more with ⟨rest, rfl, reach, less, eq⟩ |
        ⟨other, reach, eq⟩
      · rw [afterToken_self, eq]
        simp only [exprAt]
        rcases (expr 1 (.ofList rest)).stops_or_gives with ⟨reach', eq'⟩ |
          ⟨value, rest', reach', less', eq'⟩
        · rw [eq']
          exact expression
        · rw [eq']
          rfl
      · rw [afterToken_of_head _ other, eq]
        exact expression
  | _ => exact expression

/-- A block is what stands between its braces, past semicolons at its head. -/
theorem blockAt_eq (ts : List Token) :
    blockAt ts = afterToken (.symbol .openBrace)
      (fun ts => upToToken (.symbol .closeBrace) statementsAt (unseparated ts)) ts := by
  rw [blockAt, block]
  rcases symbol_leaves_or_stops .openBrace ts with ⟨more, rfl, reach, less, eq⟩ | ⟨other, reach, eq⟩
  · rcases skipSemicolons_eq more with ⟨le, skipped⟩
    rw [afterToken_self, eq]
    simp only
    rw [skipped]
    simp only [upToToken, statementsAt]
    rcases (statements (.ofList (unseparated more))).stops_or_gives with ⟨reach', eq'⟩ |
      ⟨body, rest, reach', le', eq'⟩
    · rw [eq']
      rfl
    · rw [eq']
      exact outcome_closing .closeBrace fun _ => rfl
  · rw [afterToken_of_head _ other, eq]
    rfl

/-- What stands after an `else`: a conditional of its own, or a block. -/
def otherwiseAt (ts : List Token) : Outcome (List Statement) :=
  match ts with
  | .keyword .ifWord :: inner => (conditionalAt inner).map fun (s, rest) => ([s], rest)
  | _ => blockAt ts

/-- Behind an `else` a block stands where no condition does. -/
theorem otherwiseAt_of_head {ts : List Token} (noIf : ts.head? ≠ some (.keyword .ifWord)) :
    otherwiseAt ts = blockAt ts := by
  unfold otherwiseAt
  split
  · exact absurd rfl noIf
  · rfl

/-- An alternative may be missing, and semicolons may stand before its `else`. -/
theorem alternativeAt_eq (ts : List Token) :
    alternativeAt ts =
      some (((afterToken (.keyword .elseWord) otherwiseAt (unseparated ts)).map
        fun (body, rest) => (some body, rest)).getD (none, ts)) := by
  rcases skipSemicolons_eq ts with ⟨le, skipped⟩
  rw [alternativeAt, alternative, skipped]
  simp only
  generalize unseparated ts = start at le skipped
  rcases keyword_leaves_or_stops .elseWord start with ⟨more, rfl, reach, less, eq⟩ |
    ⟨other, reach, eq⟩
  · rw [eq, afterToken_self]
    simp only
    rcases keyword_leaves_or_stops .ifWord more with ⟨inner, rfl, reach', less', eq'⟩ |
      ⟨other, reach', eq'⟩
    · rw [eq']
      simp only [otherwiseAt, conditionalAt]
      rcases (conditional (.ofList inner)).stops_or_gives with ⟨reach'', eq''⟩ |
        ⟨s, rest, reach'', less'', eq''⟩ <;>
      · rw [eq'']
        rfl
    · rw [eq', otherwiseAt_of_head other]
      simp only [blockAt]
      rcases (block (.ofList more)).stops_or_gives with ⟨reach'', eq''⟩ |
        ⟨body, rest, reach'', less'', eq''⟩ <;>
      · rw [eq'']
        rfl
  · rw [afterToken_of_head _ other, eq]
    rfl

def Statement.conditional (condition : Expr) (body : List Statement) :
    Option (List Statement) → Statement
  | none => .ifThen condition body
  | some other => .ifElse condition body other

/-- A conditional is a condition, a block and maybe an alternative. -/
theorem conditionalAt_eq (ts : List Token) :
    conditionalAt ts =
      (exprAt 1 ts).bind fun (condition, rest) =>
        (blockAt rest).bind fun (body, rest) =>
          (alternativeAt rest).map fun (other, rest) =>
            (Statement.conditional condition body other, rest) := by
  rw [conditionalAt, conditional, exprAt]
  rcases (expr 1 (.ofList ts)).stops_or_gives with ⟨reach, eq⟩ | ⟨condition, rest, reach, less, eq⟩
  · rw [eq]
    rfl
  · rw [eq]
    simp only [Reading.outcome_some, Option.bind_some, blockAt]
    rcases (block (.ofList rest)).stops_or_gives with ⟨reach', eq'⟩ |
      ⟨body, rest', reach', less', eq'⟩
    · rw [eq']
      rfl
    · rw [eq']
      refine Reading.outcome_map (Statement.conditional condition body) _ ?_
      rintro ⟨none | other, left⟩ <;> rfl

/-- Statements are read one at a time, each with the semicolons behind it. -/
theorem statementsAt_eq (ts : List Token) :
    statementsAt ts =
      match statementAt ts with
      | none => some ([], ts)
      | some (s, rest) =>
          (statementsAt (unseparated rest)).map fun (body, rest) => (s :: body, rest) := by
  rw [statementsAt, statements, statementAt]
  rcases (statement (.ofList ts)).stops_or_gives with ⟨reach, eq⟩ | ⟨s, rest, reach, less, eq⟩
  · rw [eq]
    rfl
  · rcases skipSemicolons_eq rest with ⟨le, skipped⟩
    rw [eq]
    simp only
    rw [skipped]
    exact Reading.outcome_map (s :: ·) _ fun _ => rfl

def variableAt : List Token → Outcome String
  | .var name :: ts => some (name, ts)
  | _ => none

/-- The reader of variables is the list function. -/
theorem variableName_gives_or_stops (ts : List Token) :
    (variableAt ts = none ∧ (variableName (.ofList ts)).Stops) ∨
      ∃ name rest, variableAt ts = some (name, rest) ∧
        (variableName (.ofList ts)).Gives name rest := by
  cases ts with
  | nil => exact .inl ⟨rfl, _, rfl⟩
  | cons t ts =>
      cases t with
      | var name => exact .inr ⟨name, ts, rfl, _, Nat.lt_succ_self _, rfl⟩
      | _ => exact .inl ⟨rfl, _, rfl⟩

def loopNamesAt (ts : List Token) : Outcome (Option String × String) :=
  (variableAt ts).map fun (first, rest) =>
    ((afterToken (.symbol .comma) variableAt rest).map fun (second, rest) =>
      ((some first, second), rest)).getD ((none, first), rest)

/-- The reader of loop names is the list function. -/
theorem loopNames_eq (ts : List Token) :
    (loopNamesAt ts = none ∧ (loopNames (.ofList ts)).Stops) ∨
      ∃ key item rest reach h, loopNamesAt ts = some ((key, item), rest) ∧
        loopNames (.ofList ts) = ⟨reach, some (key, item, ⟨.ofList rest, h⟩)⟩ := by
  unfold loopNames loopNamesAt
  rcases variableName_gives_or_stops ts with ⟨none, reach, eq⟩ | ⟨first, rest, some, reach, less, eq⟩
  · rw [eq, none]
    exact .inl ⟨rfl, _, rfl⟩
  · rw [eq, some]
    simp only [Option.map_some]
    rcases symbol_leaves_or_stops .comma rest with ⟨more, rfl, reach', less', eq'⟩ |
      ⟨other, reach', eq'⟩
    · rw [afterToken_self, eq']
      simp only
      rcases variableName_gives_or_stops more with ⟨none, reach'', eq''⟩ |
        ⟨second, rest', some, reach'', less'', eq''⟩
      · rw [eq'', none]
        exact .inr ⟨_, _, _, _, less, rfl, rfl⟩
      · rw [eq'', some]
        exact .inr ⟨_, _, _, _, Nat.lt_trans less'' (Nat.lt_trans less' less), rfl, rfl⟩
    · rw [afterToken_of_head _ other, eq']
      exact .inr ⟨_, _, _, _, less, rfl, rfl⟩

/-- The head of a loop is its names, the word `in` and an expression. -/
theorem loopHeadAt_eq (ts : List Token) :
    loopHeadAt ts =
      (loopNamesAt ts).bind fun ((key, item), rest) =>
        (afterToken (.keyword .inWord) (exprAt 1) rest).map fun (source, rest) =>
          ((key, item, source), rest) := by
  rw [loopHeadAt, loopHead]
  rcases loopNames_eq ts with ⟨none, reach, eq⟩ | ⟨key, item, rest, reach, less, some, eq⟩
  · rw [eq, none]
    rfl
  · rw [eq, some]
    simp only [Option.bind_some]
    rcases keyword_leaves_or_stops .inWord rest with ⟨more, rfl, reach', less', eq'⟩ |
      ⟨other, reach', eq'⟩
    · rw [afterToken_self, eq']
      exact Reading.outcome_map (fun source => (key, item, source)) _ fun _ => rfl
    · rw [afterToken_of_head _ other, eq']
      rfl

/-- A program is the statements of its tokens, if they go up to the end. -/
theorem program_eq_ok_iff {ts : List Token} {p : Program} :
    program ts = .ok p ↔ statementsAt (unseparated ts) = some (p, []) := by
  rcases skipSemicolons_eq ts with ⟨le, skipped⟩
  rw [program, skipped, statementsAt]
  simp only
  rcases (statements (.ofList (unseparated ts))).stops_or_gives with ⟨reach, eq⟩ |
    ⟨body, rest, reach, less, eq⟩
  · rw [eq]
    simp
  · rw [eq]
    simp only [Reading.outcome_some, Option.some.injEq, Prod.mk.injEq]
    cases rest with
    | nil => simp [Tokens.ofList]
    | cons t rest => simp [Tokens.ofList]

end Artifact
end TemplateEngine
