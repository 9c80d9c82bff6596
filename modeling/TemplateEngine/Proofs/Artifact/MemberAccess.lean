import TemplateEngine.Directive.Island
import TemplateEngine.Proofs.Artifact.Continuations
import TemplateEngine.Proofs.Artifact.Joining
import TemplateEngine.Proofs.Artifact.PrintedTokens
import TemplateEngine.Proofs.Number.Rounding

/-!
# Member access — a member name behind an expression

What is read of an expression is not changed by an arrow and a member name behind it, and of a variable
with any accesses the member is taken. The name is kept as it is written, but for numerals: a numeral is
read as a double, and its digits are those of that double.
-/

namespace TemplateEngine
namespace Artifact

open Directive (codeIsland)
open Text (isBlank isName)

/-! ## Expressions that accesses go on with -/

/-- A variable with any accesses behind it. -/
def Expr.IsChain : Expr → Prop
  | .var _ => True
  | .member object _ => object.IsChain
  | .index object _ => object.IsChain
  | _ => False

/-- How an expression grows by a member. A chain becomes the object of it. -/
def GrowsBy (t : Token) (e e' : Expr) : Prop :=
  ∃ field, t.memberName? = some field ∧ (e.IsChain → e' = .member e field)

theorem inert_nil : Inert [] :=
  ⟨operandAt_nil, rfl, fun _ _ head => nomatch head⟩

/-- Tokens end, whichever way on is looked at. -/
theorem parting_nil : Parting (fun _ _ => False) [] [] [] where
  here := inert_nil
  there := inert_nil
  behind := inert_nil
  ends _ _ := rfl
  endsBehind _ _ := rfl
  goes _ _ := .inl rfl
  unary _ _ _ := id
  binary _ _ _ _ := id

/-- An access takes a token at least. -/
theorem accessAt_length {level : Nat} {left e : Expr} {ts rest : List Token}
    (read : accessAt level left ts = some (e, rest)) : rest.length < ts.length := by
  cases ts with
  | nil => cases read
  | cons t ts =>
      have alike := (accessAt_onward parting_nil level left t ts).alike fun _ _ => id
      rw [List.append_nil] at alike
      rcases alike.take read with ⟨ws, less, rfl, -⟩
      rwa [List.append_nil]

/-- Accesses are read as far as they go. -/
theorem accessAt_of_accessesAt {level : Nat} {left e : Expr} {ts rest : List Token}
    (read : accessesAt level left ts = some (e, rest)) : accessAt level e rest = none := by
  induction size : ts.length using Nat.strongRecOn generalizing left ts with
  | ind n ih =>
      rw [accessesAt_eq] at read
      cases step : accessAt level left ts with
      | none =>
          rw [step] at read
          cases read
          exact step
      | some first =>
          rw [step] at read
          exact ih _ (size ▸ accessAt_length step) read rfl

/-- An expression is read to its end: no access goes on with it. -/
theorem accessAt_of_exprAt {level : Nat} {e : Expr} {ts rest : List Token}
    (read : exprAt level ts = some (e, rest)) : accessAt level e rest = none := by
  rw [exprAt_eq] at read
  rcases Option.bind_eq_some_iff.1 read with ⟨first, -, follow⟩
  exact accessAt_of_accessesAt follow

theorem inert_arrow (ts : List Token) : Inert (.symbol .arrow :: ts) where
  operand := (operandAt_cons _ ts).trans rfl
  member := rfl
  marks s mark head := by
    cases s with
    | arrow => exact absurd mark (by decide)
    | _ => cases head

def arrowed (t : Token) : List Token := [.symbol .arrow, t, .symbol .semicolon]

theorem separated_semicolon (ts : List Token) : Separated (.symbol .semicolon :: ts) :=
  ⟨_, _, rfl, rfl⟩

/-- Tokens end, or an arrow and a token are behind them. -/
theorem parting_arrowed (t : Token) :
    Parting (GrowsBy t) [] (arrowed t) [.symbol .semicolon] where
  here := inert_nil
  there := inert_arrow _
  behind := (separated_semicolon []).inert
  ends _ _ := rfl
  endsBehind level left := accessAt_separated level left (separated_semicolon [])
  goes level left := by
    cases name : t.memberName? with
    | none => exact .inl (by simp [arrowed, accessAt, memberAt, name])
    | some field =>
        exact .inr ⟨.member left field, ⟨field, name, fun _ => rfl⟩,
          by simp [arrowed, accessAt, memberAt, name]⟩
  unary _ _ _ := fun ⟨field, name, _⟩ => ⟨field, name, fun chain => nomatch chain⟩
  binary _ _ _ _ := fun ⟨field, name, _⟩ => ⟨field, name, fun chain => nomatch chain⟩

/-- A chain with an arrow and a token behind it is the object of that member, if the token names one. -/
theorem exprAt_arrowed {us : List Token} {e : Expr} (read : exprAt 1 us = some (e, []))
    (chain : e.IsChain) (t : Token) :
    (∃ field, t.memberName? = some field ∧
        exprAt 1 (us ++ arrowed t) = some (.member e field, [.symbol .semicolon])) ∨
      (t.memberName? = none ∧ exprAt 1 (us ++ arrowed t) = some (e, arrowed t)) := by
  have onward := exprAt_onward (parting_arrowed t) 1 us
  rw [List.append_nil] at onward
  rcases onward with alike | ⟨first, e', ⟨field, name, grows⟩, here, there⟩
  · rcases alike.take read with ⟨ws, -, none, there⟩
    cases List.append_eq_nil_iff.1 none.symm |>.1
    refine .inr ⟨?_, there⟩
    have ends := accessAt_of_exprAt there
    simpa [arrowed, accessAt, memberAt] using ends
  · cases read.symm.trans here
    rw [grows chain] at there
    exact .inl ⟨field, name, there⟩

/-- What is read as an expression is a statement by itself where no assignment sign follows. -/
theorem statementAt_of_exprAt {ts rest : List Token} {e : Expr}
    (read : exprAt 1 ts = some (e, rest)) (noSign : rest.head? ≠ some (.symbol .assign)) :
    statementAt ts = some (.eval e, rest) := by
  have eval : evalAt ts = some (.eval e, rest) := by
    rw [evalAt, read]
    rfl
  -- What begins an expression begins no statement of another form, except a variable that is
  -- assigned to.
  have operand : operandAt ts ≠ none := by
    intro stops
    rw [exprAt_eq, stops] at read
    cases read
  cases ts with
  | nil => exact absurd operandAt_nil operand
  | cons t ts =>
      rw [operandAt_cons] at operand
      rw [statementAt_cons]
      cases t with
      | text s => exact absurd rfl operand
      | keyword k => cases k <;> first | exact eval | exact absurd rfl operand
      | var name =>
          have other : ts.head? ≠ some (.symbol .assign) := by
            intro head
            rcases List.head?_eq_some_iff.1 head with ⟨more, rfl⟩
            have stays : accessesAt 1 (.var name) (.symbol .assign :: more) =
                some (.var name, .symbol .assign :: more) :=
              accessesAt_of_ends rfl
            rw [exprAt_eq, operandAt_cons] at read
            cases stays.symm.trans read
            exact noSign rfl
          simp only [statementAfter, afterToken_of_head _ other]
          exact eval
      | _ => exact eval

/-! ## Islands of an expression -/

/-- What the list function gives is what the reader gives. -/
theorem Reading.gives_of_outcome {α : Type} {p : Tokens → Prop}
    {r : Reading (α × { rest : Tokens // p rest })} {a : α} {rest : List Token}
    (outcome : r.outcome = some (a, rest)) : r.Gives a rest := by
  rcases r.stops_or_gives with stops | ⟨b, left, gives⟩
  · cases stops.outcome.symm.trans outcome
  · cases gives.outcome.symm.trans outcome
    exact gives

/-- The text of an expression: in an island by itself, all tokens but the end of the island are read as
the expression. -/
def ExpressionText (x : List Char) (e : Expr) : Prop :=
  ∃ lexemes ts, tokenize (String.ofList (codeIsland x)) = .ok lexemes ∧
    lexemes.map Lexeme.token = ts ++ [.symbol .semicolon] ∧ (expr 1 (.ofList ts)).Gives e []

/-- The artifact that takes a member of an expression. -/
def memberIsland (x name : List Char) : String :=
  String.ofList (codeIsland (x ++ '-' :: '>' :: name))

/-- The island of some code scans as the code and the closing marker behind it. -/
theorem scans_codeIsland_iff {x : List Char} {tokens : List Token} :
    Scans .text (codeIsland x) tokens ↔ Scans .island (x ++ " %>".toList) tokens := by
  have blank : isBlank ' ' = true := by decide
  have chars : codeIsland x = islandOpen ++ ' ' :: (x ++ " %>".toList) := by
    rw [codeIsland, List.append_assoc]
    rfl
  rw [chars, scans_enter_iff, scans_blank_iff blank]

/-- The tokens that the lexer gives are those that the characters scan to. -/
theorem scans_of_tokenize {artifact : String} {lexemes : List Lexeme}
    (read : tokenize artifact = .ok lexemes) :
    Scans .text artifact.toList (lexemes.map Lexeme.token) := by
  cases lexed : lexAll artifact.toList with
  | error stuck =>
      rw [tokenize, lexed] at read
      cases read
  | ok found =>
      rw [tokenize, lexed] at read
      cases read
      exact scans_of_lex_text lexed

/-- The text of an expression scans to the tokens of the expression and the end of the island. -/
theorem ExpressionText.scans {x : List Char} {e : Expr} (reads : ExpressionText x e) :
    ∃ ts, Scans .island (x ++ " %>".toList) (ts ++ [.symbol .semicolon]) ∧
      exprAt 1 ts = some (e, []) := by
  rcases reads with ⟨lexemes, ts, read, tokens, gives⟩
  have scans := scans_of_tokenize read
  rw [String.toList_ofList, scans_codeIsland_iff, tokens] at scans
  exact ⟨ts, scans, gives.outcome⟩

theorem scans_arrow {cs : List Char} {tokens : List Token} (follow : Scans .island cs tokens) :
    Scans .island ('-' :: (['>'] ++ cs)) (.symbol .arrow :: tokens) := by
  have found : Token.read ('-' :: (['>'] ++ cs)) = .ok (.symbol .arrow, ['-', '>']) := rfl
  exact .token (by decide) (not_islandClose (by decide) _) found follow

/-- The island of a member scans as the expression, the arrow and the name. -/
theorem scans_memberIsland {x name : List Char} {ts : List Token} {t : Token}
    (scans : Scans .island (x ++ " %>".toList) (ts ++ [.symbol .semicolon]))
    (denotes : Denotes name t) : Scans .text (memberIsland x name).toList (ts ++ arrowed t) := by
  have blank : ∀ c ∈ [' '], isBlank c = true := by
    intro c member
    rw [List.mem_singleton] at member
    rw [member]
    decide
  have behind := scans_arrow (denotes.scans blank .done)
  rw [List.append_nil] at behind
  have chars : x ++ '-' :: '>' :: name ++ " %>".toList =
      x ++ '-' :: (['>'] ++ (name ++ ([' '] ++ islandClose))) := List.append_assoc ..
  rw [memberIsland, String.toList_ofList, scans_codeIsland_iff, chars]
  exact scans.continued rfl behind

/-- What begins with an expression begins with no semicolon. -/
theorem unseparated_of_exprAt {ts : List Token} {read : Expr × List Token}
    (found : exprAt 1 ts = some read) (tail : List Token) : unseparated (ts ++ tail) = ts ++ tail := by
  cases ts with
  | nil =>
      rw [exprAt_eq, operandAt_nil] at found
      cases found
  | cons t ts =>
      -- No expression begins with a semicolon.
      have solid : ¬ isSemicolon t = true := by
        intro semicolon
        cases eq_of_beq semicolon
        rw [exprAt_eq, operandAt_cons] at found
        cases found
      exact List.dropWhile_cons_of_neg solid

/-- An arrow begins no statement. -/
theorem statementsAt_arrowed (t : Token) :
    statementsAt (unseparated (arrowed t)) = some ([], arrowed t) := by
  have eval : statementAt (arrowed t) = evalAt (arrowed t) := statementAt_cons ..
  have noOperand : operandAt (arrowed t) = none := (inert_arrow _).operand
  have stops : statementAt (arrowed t) = none := by
    rw [eval, evalAt, exprAt_eq, noOperand]
    rfl
  exact statementsAt_of_stops stops

/-- With an arrow and a token behind the expression, the token makes a member name or nothing is read. -/
theorem parse_memberIsland_iff {x name : List Char} {e : Expr} {t : Token}
    (text : ExpressionText x e) (chain : e.IsChain) (denotes : Denotes name t) {p : Program} :
    parse (memberIsland x name) = .ok p ↔
      ∃ field, t.memberName? = some field ∧ p = [.eval (.member e field)] := by
  rcases text.scans with ⟨ts, inside, read⟩
  rw [(scans_memberIsland inside denotes).parse_eq_ok_iff, unseparated_of_exprAt read,
    statementsAt_eq]
  rcases exprAt_arrowed read chain t with ⟨field, name, read'⟩ | ⟨noName, read'⟩
  · have nothing : statementsAt (unseparated [.symbol .semicolon]) = some ([], []) :=
      statementsAt_of_stops statementAt_nil
    rw [statementAt_of_exprAt read' (by simp)]
    simp only [nothing, name, Option.map_some, Option.some.injEq, Prod.mk.injEq, and_true,
      exists_eq_left']
    exact eq_comm
  · rw [statementAt_of_exprAt read' (by simp [arrowed])]
    have left : arrowed t ≠ [] := by simp [arrowed]
    simp [statementsAt_arrowed, noName, left]

/-! ## Numerals -/

/-- The whole numbers whose digits a member name keeps: the doubles among those below the largest member
name, and the largest one. -/
def IsMemberNumber (n : Nat) : Prop :=
  (n < maxMemberNumber ∧ Double.gap n ∣ n) ∨ n = maxMemberNumber

/-- The digits of a whole number denote it. -/
theorem denotes_digits (n : Nat) : Denotes (Decimal.digits n) (.number (.ofNat n)) := by
  have breaks : Breaks [] := fun _ none => nomatch none
  exact denotes_of_read (read_digits breaks n)

/-- The digits of a number tell it. -/
theorem digits_inj {n k : Nat} (same : Decimal.digits n = Decimal.digits k) : n = k := by
  rw [← Decimal.digitsValue_digits n, same, Decimal.digitsValue_digits]

/-- No number makes a member name above the largest one. -/
theorem memberName?_number_le {d : Double} {field : String}
    (name : (Token.number d).memberName? = some field) :
    ∃ k ≤ maxMemberNumber, field = String.ofList (Decimal.digits k) := by
  cases whole : d.toInt? with
  | none => simp [Token.memberName?, whole] at name
  | some i =>
      rw [memberName?_number whole, Option.some.injEq] at name
      refine ⟨_, ?_, name.symm⟩
      cases d with
      | nan => cases whole
      | infinite => cases whole
      | finite negative units =>
          cases negative with
          | true => exact Nat.zero_le _
          | false => exact Nat.min_le_right _ _

/-- A whole number as a member name is what the double nearest to it is cut down to. -/
theorem memberName?_ofNat {n : Nat} (small : n < Nat.pow 2 1023) :
    (Token.number (.ofNat n)).memberName? =
      some (String.ofList (Decimal.digits (min (Double.nearest n) maxMemberNumber))) := by
  have positive := Double.unitsPerOne_pos
  rw [Double.ofNat_eq_nearest small, memberName?_number (i := Double.nearest n)]
  · simp [Double.toNatUpTo, Nat.mul_div_cancel _ positive]
  · simp [Double.toInt?, Double.signedUnits, Nat.mul_div_cancel _ positive]

theorem digitsText_inj {n k : Nat}
    (same : String.ofList (Decimal.digits n) = String.ofList (Decimal.digits k)) : n = k :=
  digits_inj (String.ofList_injective same)

/-- No member number reaches the doubles that are infinite. -/
theorem lt_of_le_maxMemberNumber {n : Nat} (le : n ≤ maxMemberNumber) : n < Nat.pow 2 1023 := by
  have top : maxMemberNumber < Nat.pow 2 64 := by decide
  have more : 64 ≤ 1023 := by decide
  -- The exponent gets a name, so that the power is not computed.
  generalize 1023 = bits at more ⊢
  exact Nat.lt_of_lt_of_le (Nat.lt_of_le_of_lt le top) (Double.powTwo_le_powTwo more)

/-- The member name of a numeral is the numeral for these numbers only. -/
theorem memberName?_digits_iff {n : Nat} :
    (Token.number (.ofNat n)).memberName? = some (String.ofList (Decimal.digits n)) ↔
      IsMemberNumber n := by
  constructor
  · intro name
    rcases memberName?_number_le name with ⟨k, le, same⟩
    cases digitsText_inj same
    rw [memberName?_ofNat (lt_of_le_maxMemberNumber le), Option.some.injEq] at name
    have rounded : min (Double.nearest n) maxMemberNumber = n := digitsText_inj name
    rcases Nat.lt_or_eq_of_le le with less | top
    · refine .inl ⟨less, Double.nearest_eq_iff.1 ?_⟩
      omega
    · exact .inr top
  · intro isMember
    have rounded : n ≤ maxMemberNumber ∧ min (Double.nearest n) maxMemberNumber = n := by
      rcases isMember with ⟨less, divides⟩ | rfl
      · rw [Double.nearest_eq_iff.2 divides]
        exact ⟨Nat.le_of_lt less, Nat.min_eq_left (Nat.le_of_lt less)⟩
      -- The largest number is rounded up and cut back.
      · exact ⟨Nat.le_refl _, by decide⟩
    rw [memberName?_ofNat (lt_of_le_maxMemberNumber rounded.1), rounded.2]

/-! ## Members by name -/

/-- A chain with an arrow and a name or a keyword behind it takes the member of that name. A numeral is
rounded to a double and cut at the largest member name; it is taken as it is written exactly where that
leaves the number as it is. -/
theorem parse_memberIsland {x : List Char} {e : Expr} (text : ExpressionText x e)
    (chain : e.IsChain) :
    (∀ name, isName name = true →
      parse (memberIsland x name) = .ok [.eval (.member e (String.ofList name))]) ∧
      (∀ n < Nat.pow 2 1023, parse (memberIsland x (Decimal.digits n)) =
        .ok [.eval (.member e (String.ofList
          (Decimal.digits (min (Double.nearest n) maxMemberNumber))))]) ∧
      ∀ n, parse (memberIsland x (Decimal.digits n)) =
          .ok [.eval (.member e (String.ofList (Decimal.digits n)))] ↔ IsMemberNumber n := by
  refine ⟨fun name isName => ?names, fun n small => ?numerals, fun n => ?kept⟩
  case names =>
    exact (parse_memberIsland_iff text chain (.word isName)).2 ⟨_, memberName?_ofWord name, rfl⟩
  case numerals =>
    exact (parse_memberIsland_iff text chain (denotes_digits n)).2
      ⟨_, memberName?_ofNat small, rfl⟩
  case kept =>
    rw [parse_memberIsland_iff text chain (denotes_digits n), ← memberName?_digits_iff]
    constructor
    · rintro ⟨field, name, same⟩
      simp only [List.cons.injEq, Statement.eval.injEq, Expr.member.injEq, true_and, and_true] at same
      rw [same]
      exact name
    · intro name
      exact ⟨_, name, rfl⟩

def firstRow : Expr := .index (.var "rows") (.number (.ofNat 0))

theorem expressionText_firstRow : ExpressionText "$rows[0]".toList firstRow := by
  have position : exprAt 1 [.number (.ofNat 0), .symbol .closeBracket] =
      some (.number (.ofNat 0), [.symbol .closeBracket]) := by
    rw [exprAt_eq, operandAt_cons]
    exact accessesAt_of_ends rfl
  have access : accessAt 1 (.var "rows") [.symbol .openBracket, .number (.ofNat 0),
      .symbol .closeBracket] = some (firstRow, []) := by
    simp [accessAt, upToToken, position, afterToken, firstRow]
  have read : exprAt 1 [.var "rows", .symbol .openBracket, .number (.ofNat 0),
      .symbol .closeBracket] = some (firstRow, []) := by
    rw [exprAt_eq, operandAt_cons]
    change accessesAt 1 (.var "rows") _ = _
    rw [accessesAt_eq, access]
    exact accessesAt_of_ends rfl
  exact ⟨[⟨.var "rows", 3, 8⟩, ⟨.symbol .openBracket, 8, 9⟩, ⟨.number (.ofNat 0), 9, 10⟩,
    ⟨.symbol .closeBracket, 10, 11⟩, ⟨.symbol .semicolon, 12, 14⟩], _, by rfl, rfl,
    Reading.gives_of_outcome read⟩

/-- A keyword and the largest member name are taken as they are written. -/
theorem parse_memberIsland_firstRow :
    ExpressionText "$rows[0]".toList firstRow ∧ firstRow.IsChain ∧
      isName "else".toList = true ∧
      parse (memberIsland "$rows[0]".toList "else".toList) =
        .ok [.eval (.member firstRow (String.ofList "else".toList))] ∧
      parse (memberIsland "$rows[0]".toList (Decimal.digits maxMemberNumber)) =
        .ok [.eval (.member firstRow (String.ofList (Decimal.digits maxMemberNumber)))] :=
  ⟨expressionText_firstRow, trivial, by decide,
    (parse_memberIsland expressionText_firstRow trivial).1 _ (by decide),
    ((parse_memberIsland expressionText_firstRow trivial).2.2 _).2 (.inr rfl)⟩

/-- The first whole number that is no double is taken as its neighbour. -/
theorem parse_memberIsland_neighbour :
    ExpressionText "$rows[0]".toList firstRow ∧ firstRow.IsChain ∧
      Decimal.digits 9007199254740993 = "9007199254740993".toList ∧
      parse (memberIsland "$rows[0]".toList (Decimal.digits 9007199254740993)) =
        .ok [.eval (.member firstRow "9007199254740992")] ∧
      parse (memberIsland "$rows[0]".toList (Decimal.digits 9007199254740993)) ≠
        .ok [.eval (.member firstRow "9007199254740993")] := by
  have small : 9007199254740993 ≤ maxMemberNumber := by decide
  have name := memberName?_ofNat (lt_of_le_maxMemberNumber small)
  have rounded : String.ofList (Decimal.digits (min (Double.nearest 9007199254740993)
      maxMemberNumber)) = "9007199254740992" := by decide
  rw [rounded] at name
  have read := (parse_memberIsland_iff expressionText_firstRow trivial (denotes_digits _)).2
    ⟨_, name, rfl⟩
  refine ⟨expressionText_firstRow, trivial, by decide, read, ?_⟩
  rw [read]
  simp

end Artifact
end TemplateEngine
