import TemplateEngine.Artifact.Lexer

/-!
# Reading programs

A reader of the grammar looks at the tokens that are left and gives what it read with the tokens
after it. Where a longer reading fails the shorter one stands: an operator whose right operand
cannot be read, an access that does not close, a comma without an expression after it, and an `else`
without a block are left for what comes next. Each reader also tells the furthest place where an
alternative stopped, since that is where a program that cannot be read is refused.
-/

namespace TemplateEngine
namespace Artifact

/-- Tokens still to be read, with their number at hand. -/
structure Tokens where
  list : List Token
  left : Nat
  left_eq : left = list.length

namespace Tokens

def ofList (list : List Token) : Tokens := ⟨list, list.length, rfl⟩

def next? : Tokens → Option (Token × Tokens)
  | ⟨[], _, _⟩ => none
  | ⟨t :: ts, n, h⟩ => some (t, ⟨ts, n - 1, by simp [h]⟩)

theorem left_lt_of_next? {ts more : Tokens} {t : Token} (h : ts.next? = some (t, more)) :
    more.left < ts.left := by
  obtain ⟨list, n, hn⟩ := ts
  cases list with
  | nil => simp [next?] at h
  | cons u us =>
      simp only [next?, Option.some.injEq, Prod.mk.injEq] at h
      obtain ⟨-, rfl⟩ := h
      simp only [List.length_cons] at hn
      simp only
      omega

/-- Some tokens after at least one was read. -/
abbrev Fewer (ts : Tokens) := { rest : Tokens // rest.left < ts.left }

/-- Some tokens after none or more were read. -/
abbrev NoMore (ts : Tokens) := { rest : Tokens // rest.left ≤ ts.left }

end Tokens

/-- The furthest place where an alternative stopped: how many tokens were left there, and whether a
member name was wanted. -/
structure Reach where
  left : Nat
  memberName : Bool
  deriving DecidableEq, Repr

/-- The further one of two places. -/
def Reach.join (a b : Reach) : Reach :=
  if a.left < b.left then a
  else if b.left < a.left then b
  else ⟨a.left, a.memberName || b.memberName⟩

/-- What a reader gives: how far it looked, and what it read, if it did. -/
structure Reading (α : Type) where
  reach : Reach
  read : Option α

namespace Reading

def stop {α : Type} (ts : Tokens) : Reading α := ⟨⟨ts.left, false⟩, none⟩

/-- What was read, with nothing beyond these tokens looked at. -/
def done {α : Type} (ts : Tokens) (a : α) : Reading α := ⟨⟨ts.left, false⟩, some a⟩

def map {α β : Type} (f : α → β) (r : Reading α) : Reading β := ⟨r.reach, r.read.map f⟩

/-- The same reading, after another one looked so far. -/
def after {α : Type} (r : Reading α) (reach : Reach) : Reading α := ⟨reach.join r.reach, r.read⟩

end Reading

open Tokens (Fewer NoMore left_lt_of_next?)

def symbol (s : Symbol) (ts : Tokens) : Reading (Fewer ts) :=
  match h : ts.next? with
  | some (.symbol t, more) =>
      if t = s then .done ts ⟨more, left_lt_of_next? h⟩ else .stop ts
  | _ => .stop ts

def keyword (k : Keyword) (ts : Tokens) : Reading (Fewer ts) :=
  match h : ts.next? with
  | some (.keyword t, more) =>
      if t = k then .done ts ⟨more, left_lt_of_next? h⟩ else .stop ts
  | _ => .stop ts

def variableName (ts : Tokens) : Reading (String × Fewer ts) :=
  match h : ts.next? with
  | some (.var name, more) => .done ts (name, ⟨more, left_lt_of_next? h⟩)
  | _ => .stop ts

def memberName (ts : Tokens) : Reading (String × Fewer ts) :=
  match h : ts.next? with
  | some (t, more) =>
      match t.memberName? with
      | some field => .done ts (field, ⟨more, left_lt_of_next? h⟩)
      | none => ⟨⟨ts.left, true⟩, none⟩
  | none => .stop ts

def Token.literal? : Token → Option Expr
  | .number d => some (.number d)
  | .quoted s => some (.text s)
  | .keyword .trueWord => some (.boolean true)
  | .keyword .falseWord => some (.boolean false)
  | .keyword .nullWord => some .null
  | .var s => some (.var s)
  | _ => none

mutual

/-- An expression whose operators are of the given level or above. -/
def expr (level : Nat) (ts : Tokens) : Reading (Expr × Fewer ts) :=
  match operand ts with
  | ⟨reach, none⟩ => ⟨reach, none⟩
  | ⟨reach, some (first, ⟨rest, h⟩)⟩ =>
      ((accesses level first rest).map fun (e, ⟨rest', h'⟩) =>
        (e, ⟨rest', Nat.lt_of_le_of_lt h' h⟩)).after reach
termination_by (ts.left, 1)

/-- An expression up to where an operator or an access could follow. -/
def operand (ts : Tokens) : Reading (Expr × Fewer ts) :=
  match h : ts.next? with
  | none => .stop ts
  | some (.name name, more) =>
      have less := left_lt_of_next? h
      -- A name is a variable where the call that it could begin does not close.
      match symbol .openParen more with
      | ⟨reach, none⟩ => ⟨reach, some (.var name, ⟨more, less⟩)⟩
      | ⟨_, some ⟨inside, hi⟩⟩ =>
          match expressions inside with
          | ⟨reach, none⟩ => ⟨reach, some (.var name, ⟨more, less⟩)⟩
          | ⟨reach, some (args, ⟨rest, hr⟩)⟩ =>
              match symbol .closeParen rest with
              | ⟨reach', none⟩ => ⟨reach.join reach', some (.var name, ⟨more, less⟩)⟩
              | ⟨reach', some ⟨rest', hc⟩⟩ =>
                  ⟨reach.join reach', some (.call name args, ⟨rest', by omega⟩)⟩
  | some (.symbol .openBracket, more) =>
      have less := left_lt_of_next? h
      match expressions more with
      | ⟨reach, none⟩ => ⟨reach, none⟩
      | ⟨reach, some (items, ⟨rest, hr⟩)⟩ =>
          ((symbol .closeBracket rest).map fun ⟨rest', hc⟩ =>
            (.list items, ⟨rest', by omega⟩)).after reach
  | some (.symbol .openParen, more) =>
      have less := left_lt_of_next? h
      match expr 1 more with
      | ⟨reach, none⟩ => ⟨reach, none⟩
      | ⟨reach, some (inner, ⟨rest, hr⟩)⟩ =>
          ((symbol .closeParen rest).map fun ⟨rest', hc⟩ =>
            (inner, ⟨rest', by omega⟩)).after reach
  | some (t, more) =>
      have less := left_lt_of_next? h
      match t.literal? with
      | some e => .done ts (e, ⟨more, less⟩)
      | none =>
          match t with
          | .symbol s =>
              match s.prefixOp? with
              | some op =>
                  (expr unaryLevel more).map fun (e, ⟨rest, hr⟩) =>
                    (.unary op e, ⟨rest, Nat.lt_trans hr less⟩)
              | none => .stop ts
          | _ => .stop ts
termination_by (ts.left, 0)

/-- What follows an expression: accesses, and operators of the given level or above with their right
operands, which bind tighter. -/
def accesses (level : Nat) (left : Expr) (ts : Tokens) : Reading (Expr × NoMore ts) :=
  match h : ts.next? with
  | some (.symbol s, more) =>
      have less := left_lt_of_next? h
      if s = .arrow then
        match memberName more with
        | ⟨reach, none⟩ => ⟨reach, some (left, ⟨ts, Nat.le_refl _⟩)⟩
        | ⟨reach, some (field, ⟨rest, hr⟩)⟩ =>
            ((accesses level (.member left field) rest).map fun (e, ⟨rest', hr'⟩) =>
              (e, ⟨rest', by omega⟩)).after reach
      else if s = .openBracket then
        match expr 1 more with
        | ⟨reach, none⟩ => ⟨reach, some (left, ⟨ts, Nat.le_refl _⟩)⟩
        | ⟨reach, some (position, ⟨rest, hr⟩)⟩ =>
            match symbol .closeBracket rest with
            | ⟨reach', none⟩ => ⟨reach.join reach', some (left, ⟨ts, Nat.le_refl _⟩)⟩
            | ⟨reach', some ⟨rest', hc⟩⟩ =>
                ((accesses level (.index left position) rest').map fun (e, ⟨rest'', hr'⟩) =>
                  (e, ⟨rest'', by omega⟩)).after (reach.join reach')
      else
        match s.infixOp? with
        | none => .done ts (left, ⟨ts, Nat.le_refl _⟩)
        | some op =>
            if level ≤ op.level then
              -- Reading the right operand one level up makes operators of one level lean left.
              match expr (op.level + 1) more with
              | ⟨reach, none⟩ => ⟨reach, some (left, ⟨ts, Nat.le_refl _⟩)⟩
              | ⟨reach, some (right, ⟨rest, hr⟩)⟩ =>
                  ((accesses level (.binary op left right) rest).map fun (e, ⟨rest', hr'⟩) =>
                    (e, ⟨rest', by omega⟩)).after reach
            else .done ts (left, ⟨ts, Nat.le_refl _⟩)
  | _ => .done ts (left, ⟨ts, Nat.le_refl _⟩)
termination_by (ts.left, 2)

/-- Expressions between commas, none or more. -/
def expressions (ts : Tokens) : Reading (List Expr × NoMore ts) :=
  match expr 1 ts with
  | ⟨reach, none⟩ => ⟨reach, some ([], ⟨ts, Nat.le_refl _⟩)⟩
  | ⟨reach, some (e, ⟨rest, hr⟩)⟩ =>
      ((moreExpressions rest).map fun (es, ⟨rest', hr'⟩) =>
        (e :: es, ⟨rest', by omega⟩)).after reach
termination_by (ts.left, 3)

/-- Expressions after a comma each, none or more. -/
def moreExpressions (ts : Tokens) : Reading (List Expr × NoMore ts) :=
  match symbol .comma ts with
  | ⟨reach, none⟩ => ⟨reach, some ([], ⟨ts, Nat.le_refl _⟩)⟩
  | ⟨_, some ⟨more, less⟩⟩ =>
      match expr 1 more with
      | ⟨reach, none⟩ => ⟨reach, some ([], ⟨ts, Nat.le_refl _⟩)⟩
      | ⟨reach, some (e, ⟨rest, hr⟩)⟩ =>
          ((moreExpressions rest).map fun (es, ⟨rest', hr'⟩) =>
            (e :: es, ⟨rest', by omega⟩)).after reach
termination_by (ts.left, 4)

end

def skipSemicolons (ts : Tokens) : NoMore ts :=
  match h : ts.next? with
  | some (.symbol .semicolon, more) =>
      have less := left_lt_of_next? h
      let ⟨rest, hr⟩ := skipSemicolons more
      ⟨rest, by omega⟩
  | _ => ⟨ts, Nat.le_refl _⟩
termination_by ts.left

def expressionStatement (ts : Tokens) : Reading (Statement × Fewer ts) :=
  (expr 1 ts).map fun (e, rest) => (.eval e, rest)

/-- What an `echo` writes: one expression or more. -/
def echoStatement (ts : Tokens) : Reading (Statement × Fewer ts) :=
  match expr 1 ts with
  | ⟨reach, none⟩ => ⟨reach, none⟩
  | ⟨reach, some (e, ⟨rest, hr⟩)⟩ =>
      ((moreExpressions rest).map fun (es, ⟨rest', hr'⟩) =>
        (.echo (e :: es), ⟨rest', Nat.lt_of_le_of_lt hr' hr⟩)).after reach

/-- The names of a loop: one for the items, or one for the keys and, after a comma, one for the
items. -/
def loopNames (ts : Tokens) : Reading (Option String × String × Fewer ts) :=
  match variableName ts with
  | ⟨reach, none⟩ => ⟨reach, none⟩
  | ⟨_, some (first, ⟨rest, hr⟩)⟩ =>
      match symbol .comma rest with
      | ⟨reach, none⟩ => ⟨reach, some (none, first, ⟨rest, hr⟩)⟩
      | ⟨_, some ⟨rest', hr'⟩⟩ =>
          match variableName rest' with
          | ⟨reach, none⟩ => ⟨reach, some (none, first, ⟨rest, hr⟩)⟩
          | ⟨reach, some (second, ⟨rest'', hr''⟩)⟩ =>
              ⟨reach, some (some first, second, ⟨rest'', by omega⟩)⟩

/-- What a loop runs over: its names, the word `in` and an expression. -/
def loopHead (ts : Tokens) : Reading ((Option String × String × Expr) × Fewer ts) :=
  match loopNames ts with
  | ⟨reach, none⟩ => ⟨reach, none⟩
  | ⟨reach, some (key, item, ⟨rest, hr⟩)⟩ =>
      match keyword .inWord rest with
      | ⟨reach', none⟩ => ⟨reach.join reach', none⟩
      | ⟨_, some ⟨rest', hr'⟩⟩ =>
          ((expr 1 rest').map fun (e, ⟨rest'', hr''⟩) =>
            ((key, item, e), ⟨rest'', by omega⟩)).after reach

mutual

def statement (ts : Tokens) : Reading (Statement × Fewer ts) :=
  match h : ts.next? with
  | some (.text s, more) => .done ts (.text s, ⟨more, left_lt_of_next? h⟩)
  | some (.keyword .echoWord, more) =>
      (echoStatement more).map fun (s, ⟨rest, hr⟩) =>
        (s, ⟨rest, Nat.lt_trans hr (left_lt_of_next? h)⟩)
  | some (.keyword .ifWord, more) =>
      have less := left_lt_of_next? h
      (conditional more).map fun (s, ⟨rest, hr⟩) => (s, ⟨rest, Nat.lt_trans hr less⟩)
  | some (.keyword .forWord, more) =>
      have less := left_lt_of_next? h
      match loopHead more with
      | ⟨reach, none⟩ => ⟨reach, none⟩
      | ⟨reach, some ((key, item, source), ⟨rest, hr⟩)⟩ =>
          ((block rest).map fun (body, ⟨rest', hr'⟩) =>
            (.forEach key item source body, ⟨rest', by omega⟩)).after reach
  | some (.var name, more) =>
      have less := left_lt_of_next? h
      -- An assignment sign with no expression after it is left for what comes next.
      match symbol .assign more with
      | ⟨reach, none⟩ => (expressionStatement ts).after reach
      | ⟨_, some ⟨rest, hr⟩⟩ =>
          match expr 1 rest with
          | ⟨reach, none⟩ => (expressionStatement ts).after reach
          | ⟨reach, some (value, ⟨rest', hr'⟩)⟩ =>
              ⟨reach, some (.assign name value, ⟨rest', by omega⟩)⟩
  | _ => expressionStatement ts
termination_by (ts.left, 1)

/-- What follows the word `if`: a condition, a block, and maybe an `else` with a block or with a
condition of its own. Semicolons may stand before the `else`. -/
def conditional (ts : Tokens) : Reading (Statement × Fewer ts) :=
  match expr 1 ts with
  | ⟨reach, none⟩ => ⟨reach, none⟩
  | ⟨reach, some (condition, ⟨rest, hr⟩)⟩ =>
      match block rest with
      | ⟨reach', none⟩ => ⟨reach.join reach', none⟩
      | ⟨reach', some (body, ⟨rest', hr'⟩)⟩ =>
          ((alternative rest').map fun
            | (none, ⟨rest'', hr''⟩) => (.ifThen condition body, ⟨rest'', by omega⟩)
            | (some other, ⟨rest'', hr''⟩) =>
                (.ifElse condition body other, ⟨rest'', by omega⟩)).after (reach.join reach')
termination_by (ts.left, 0)

/-- The statements after an `else`, if there is one. -/
def alternative (ts : Tokens) : Reading (Option (List Statement) × NoMore ts) :=
  match skipSemicolons ts with
  | ⟨start, hs⟩ =>
      match keyword .elseWord start with
      | ⟨reach, none⟩ => ⟨reach, some (none, ⟨ts, Nat.le_refl _⟩)⟩
      | ⟨_, some ⟨more, hm⟩⟩ =>
          match keyword .ifWord more with
          | ⟨_, some ⟨inner, hi⟩⟩ =>
              match conditional inner with
              | ⟨reach, none⟩ => ⟨reach, some (none, ⟨ts, Nat.le_refl _⟩)⟩
              | ⟨reach, some (s, ⟨rest, hr⟩)⟩ => ⟨reach, some (some [s], ⟨rest, by omega⟩)⟩
          | ⟨_, none⟩ =>
              match block more with
              | ⟨reach, none⟩ => ⟨reach, some (none, ⟨ts, Nat.le_refl _⟩)⟩
              | ⟨reach, some (body, ⟨rest, hr⟩)⟩ => ⟨reach, some (some body, ⟨rest, by omega⟩)⟩
termination_by (ts.left, 0)

def block (ts : Tokens) : Reading (List Statement × Fewer ts) :=
  match symbol .openBrace ts with
  | ⟨reach, none⟩ => ⟨reach, none⟩
  | ⟨_, some ⟨more, hm⟩⟩ =>
      match skipSemicolons more with
      | ⟨start, hs⟩ =>
          match statements start with
          | ⟨reach, none⟩ => ⟨reach, none⟩
          | ⟨reach, some (body, ⟨rest, hr⟩)⟩ =>
              ((symbol .closeBrace rest).map fun ⟨rest', hr'⟩ =>
                (body, ⟨rest', by omega⟩)).after reach
termination_by (ts.left, 0)

/-- Statements, none or more, each with any semicolons after it. -/
def statements (ts : Tokens) : Reading (List Statement × NoMore ts) :=
  match statement ts with
  | ⟨reach, none⟩ => ⟨reach, some ([], ⟨ts, Nat.le_refl _⟩)⟩
  | ⟨reach, some (s, ⟨rest, hr⟩)⟩ =>
      match skipSemicolons rest with
      | ⟨start, hs⟩ =>
          ((statements start).map fun (body, ⟨rest', hr'⟩) =>
            (s :: body, ⟨rest', by omega⟩)).after reach
termination_by (ts.left, 2)

end

/-- A whole program, or the place where it is refused. -/
def program (ts : List Token) : Except Reach Program :=
  match skipSemicolons (.ofList ts) with
  | ⟨start, _⟩ =>
      match statements start with
      | ⟨reach, none⟩ => .error reach
      | ⟨reach, some (body, ⟨rest, _⟩)⟩ =>
          if rest.left = 0 then .ok body else .error (reach.join ⟨rest.left, false⟩)

def Fault.atToken (artifact : List Char) (lexemes : List Lexeme) (reach : Reach) : Fault :=
  match lexemes[lexemes.length - reach.left]? with
  | some lexeme =>
      { line := Text.lineAfter (artifact.take lexeme.start)
        cause :=
          if reach.memberName then .notMemberName lexeme.token else .badToken lexeme.token }
  | none => { line := Text.lineAfter artifact, cause := .endOfInput }

def parse (artifact : String) : Except Fault Program := do
  let lexemes ← tokenize artifact
  (program (lexemes.map Lexeme.token)).mapError (Fault.atToken artifact.toList lexemes)

end Artifact
end TemplateEngine
