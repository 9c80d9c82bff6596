import TemplateEngine.Proofs.Artifact.Partings

/-!
# Seams — what a reader sees of the tokens behind a separator

Literal text and semicolons end a statement. No expression goes over one, so what is read before it does
not depend on what stands there. Of statements only a conditional looks further, past the semicolons for
an `else`.
-/

namespace TemplateEngine
namespace Artifact

/-- A token that stands in no expression and ends the statement before it. -/
def Token.Separates : Token → Prop
  | .text _ => True
  | .symbol s => s = .semicolon
  | _ => False

def Separated (ts : List Token) : Prop := ∃ t more, ts = t :: more ∧ t.Separates

/-- Two ways on that begin with a separator each. -/
structure Seam (tail tail' : List Token) : Prop where
  here : Separated tail
  there : Separated tail'

variable {α : Type} {n m : Nat} {tail tail' : List Token}

/-! ## Tokens before the seam -/

/-- A separator is no other token. -/
theorem Separated.head?_ne {t : Token} (solid : ¬ t.Separates) (separated : Separated tail) :
    tail.head? ≠ Option.some t := by
  rcases separated with ⟨u, more, rfl, separates⟩
  rintro ⟨⟩
  exact solid separates

/-- Nothing that begins with a token of an expression is read at a separator. -/
theorem afterToken_separated {t : Token} (solid : ¬ t.Separates) (read : List Token → Outcome α)
    (separated : Separated tail) : afterToken t read tail = none :=
  afterToken_of_head read (separated.head?_ne solid)

/-- No operand begins at a separator. -/
theorem operandAt_separated (separated : Separated tail) : operandAt tail = none := by
  rcases separated with ⟨u, more, rfl, separates⟩
  rw [operandAt_cons]
  cases u with
  | text s => rfl
  | symbol s =>
      cases s with
      | semicolon => rfl
      | _ => cases separates
  | _ => cases separates

theorem memberAt_separated (separated : Separated tail) : memberAt tail = none := by
  rcases separated with ⟨u, more, rfl, separates⟩
  cases u with
  | text s => rfl
  | symbol s => rfl
  | _ => cases separates

/-- No access or operator goes on at a separator. -/
theorem accessAt_separated (level : Nat) (left : Expr) (separated : Separated tail) :
    accessAt level left tail = none := by
  rcases separated with ⟨u, more, rfl, separates⟩
  cases u with
  | text s => rfl
  | symbol s =>
      cases s with
      | semicolon => rfl
      | _ => cases separates
  | _ => cases separates

/-- A token of an expression is found before both ways on or at neither. -/
theorem afterToken_alike (seam : Seam tail tail') {t : Token} (solid : ¬ t.Separates)
    {read : List Token → Outcome α} (us : List Token)
    (h : ∀ vs, us = t :: vs → Alike n tail tail' (read (vs ++ tail)) (read (vs ++ tail'))) :
    Alike n tail tail' (afterToken t read (us ++ tail)) (afterToken t read (us ++ tail')) :=
  afterToken_alike_of_head (seam.here.head?_ne solid) (seam.there.head?_ne solid) us h

/-- A token of an expression that is needed next is found on both ways or on neither. -/
theorem upToToken_alike (seam : Seam tail tail') {t : Token} (solid : ¬ t.Separates)
    {read : List Token → Outcome α} {us : List Token}
    (h : Alike (n + 1) tail tail' (read (us ++ tail)) (read (us ++ tail'))) :
    Alike n tail tail' (upToToken t read (us ++ tail)) (upToToken t read (us ++ tail')) := by
  refine h.bind fun a ws less => ?_
  refine afterToken_alike seam solid ws fun vs split => ?_
  rw [split, List.length_cons] at less
  exact .some a (Nat.lt_of_succ_lt_succ less)

/-! ## Expressions before the seam -/

/-- A separator stands in no expression. -/
theorem Separated.inert (separated : Separated tail) : Inert tail where
  operand := operandAt_separated separated
  member := memberAt_separated separated
  marks s mark := by
    refine separated.head?_ne ?_
    cases s with
    | semicolon => exact absurd mark (by decide)
    | _ => simp [Token.Separates]

/-- Nothing goes on at a separator. -/
theorem Seam.parting (seam : Seam tail tail') : Parting (fun _ _ => False) tail tail' tail' where
  here := seam.here.inert
  there := seam.there.inert
  behind := seam.there.inert
  ends level left := accessAt_separated level left seam.here
  endsBehind level left := accessAt_separated level left seam.there
  goes level left := .inl (accessAt_separated level left seam.there)
  unary _ _ _ := id
  binary _ _ _ _ := id

/-- What is read of an expression before a seam does not depend on the way on. -/
theorem exprAt_alike (seam : Seam tail tail') (level : Nat) (us : List Token) :
    Alike us.length tail tail' (exprAt level (us ++ tail)) (exprAt level (us ++ tail')) :=
  (exprAt_onward seam.parting level us).alike fun _ _ => id

/-- Nor does what is read of further expressions. -/
theorem moreExpressionsAt_alike (seam : Seam tail tail') (us : List Token) :
    Alike (us.length + 1) tail tail' (moreExpressionsAt (us ++ tail))
      (moreExpressionsAt (us ++ tail')) :=
  (moreExpressionsAt_onward seam.parting us).alike fun _ _ ⟨_, _, never⟩ => never

/-! ## Statements without a block -/

theorem evalAt_alike (seam : Seam tail tail') (us : List Token) :
    Alike us.length tail tail' (evalAt (us ++ tail)) (evalAt (us ++ tail')) :=
  (exprAt_alike seam 1 us).map Statement.eval

theorem variableAt_alike (seam : Seam tail tail') (us : List Token) :
    Alike us.length tail tail' (variableAt (us ++ tail)) (variableAt (us ++ tail')) := by
  cases us with
  | nil =>
      have stops {ts : List Token} (separated : Separated ts) : variableAt ts = none := by
        rcases separated with ⟨u, more, rfl, separates⟩
        cases u with
        | var name => cases separates
        | _ => rfl
      rw [List.nil_append, List.nil_append, stops seam.here, stops seam.there]
      exact .none
  | cons u us =>
      cases u with
      | var name => exact .some name (Nat.lt_succ_self _)
      | _ => exact .none

/-- Nor does what is read of the head of a loop. -/
theorem loopHeadAt_alike (seam : Seam tail tail') (us : List Token) :
    Alike us.length tail tail' (loopHeadAt (us ++ tail)) (loopHeadAt (us ++ tail')) := by
  have names : Alike us.length tail tail' (loopNamesAt (us ++ tail)) (loopNamesAt (us ++ tail')) := by
    unfold loopNamesAt
    rcases variableAt_alike seam us with ⟨eq, eq'⟩ | ⟨first, ws, less, eq, eq'⟩
    · rw [eq, eq']
      exact .none
    · rw [eq, eq']
      have second : Alike us.length tail tail'
          (afterToken (.symbol .comma) variableAt (ws ++ tail))
          (afterToken (.symbol .comma) variableAt (ws ++ tail')) := by
        refine afterToken_alike seam (by simp [Token.Separates]) ws ?_
        rintro vs rfl
        exact (variableAt_alike seam vs).mono (Nat.le_trans (by simp) (Nat.le_of_lt less))
      exact (second.map fun second => (Option.some first, second)).getD (none, first) less
  rw [loopHeadAt_eq, loopHeadAt_eq]
  refine names.bind fun (key, item) ws less => ?_
  have source : Alike us.length tail tail'
      (afterToken (.keyword .inWord) (exprAt 1) (ws ++ tail))
      (afterToken (.keyword .inWord) (exprAt 1) (ws ++ tail')) := by
    refine afterToken_alike seam (by simp [Token.Separates]) ws ?_
    rintro vs rfl
    exact (exprAt_alike seam 1 vs).mono (Nat.le_trans (by simp) (Nat.le_of_lt less))
  exact source.map fun source => (key, item, source)

/-- A statement that begins with neither `if` nor `for`. -/
theorem statementAt_alike (seam : Seam tail tail') {u : Token} (noIf : u ≠ .keyword .ifWord)
    (noFor : u ≠ .keyword .forWord) (us : List Token) :
    Alike (us.length + 1) tail tail' (statementAt (u :: us ++ tail))
      (statementAt (u :: us ++ tail')) := by
  have expression := evalAt_alike seam (u :: us)
  rw [List.cons_append, List.cons_append, statementAt_cons, statementAt_cons]
  cases u with
  | text s => exact .some (Statement.text s) (Nat.lt_succ_self _)
  | keyword k =>
      cases k with
      | ifWord => exact absurd rfl noIf
      | forWord => exact absurd rfl noFor
      | echoWord =>
          refine (exprAt_alike seam 1 us).bind fun e ws less => ?_
          exact ((moreExpressionsAt_alike seam ws).map fun es => Statement.echo (e :: es)).mono
            (by omega)
      | _ => exact expression
  | var name =>
      have assignment : Alike (us.length + 1) tail tail'
          (afterToken (.symbol .assign) (exprAt 1) (us ++ tail))
          (afterToken (.symbol .assign) (exprAt 1) (us ++ tail')) := by
        refine afterToken_alike seam (by simp [Token.Separates]) us ?_
        rintro vs rfl
        exact (exprAt_alike seam 1 vs).mono (by simp; omega)
      exact (assignment.map (Statement.assign name)).or expression
  | _ => exact expression

/-! ## Statements that are read before the last separator -/

/-- No `else` follows, past any semicolons. -/
def NoElse (ts : List Token) : Prop := (unseparated ts).head? ≠ some (.keyword .elseWord)

/-- A separator at the head goes, or it stays with all tokens behind it. -/
theorem unseparated_append_cases (us : List Token) :
    (∀ tail, unseparated (us ++ tail) = unseparated tail) ∨
      ∃ v vs, vs.length < us.length ∧ ∀ tail, unseparated (us ++ tail) = v :: vs ++ tail := by
  induction us with
  | nil => exact .inl fun tail => rfl
  | cons u us ih =>
      cases semicolon : isSemicolon u with
      | true =>
          have skipped (tail : List Token) : unseparated (u :: us ++ tail) = unseparated (us ++ tail) :=
            List.dropWhile_cons_of_pos semicolon
          rcases ih with all | ⟨v, vs, less, kept⟩
          · exact .inl fun tail => (skipped tail).trans (all tail)
          · exact .inr ⟨v, vs, Nat.lt_succ_of_lt less, fun tail => (skipped tail).trans (kept tail)⟩
      | false =>
          refine .inr ⟨u, us, Nat.lt_succ_self _, fun tail => ?_⟩
          exact List.dropWhile_cons_of_neg (by simp [semicolon])

theorem statementsAt_of_stops {ts : List Token} (stops : statementAt ts = none) :
    statementsAt ts = some ([], ts) := by
  rw [statementsAt_eq, stops]

def Token.own : Token → Program
  | .text s => [.text s]
  | _ => []

/-- A separator by itself is a literal text or nothing. -/
theorem statementsAt_own {t : Token} (separates : t.Separates) :
    statementsAt (unseparated [t]) = some (t.own, []) := by
  have done : statementsAt [] = some ([], []) := statementsAt_of_stops statementAt_nil
  cases t with
  | text s =>
      have kept : unseparated [Token.text s] = [.text s] := rfl
      rw [kept, statementsAt_eq, statementAt_cons]
      simp only [statementAfter, unseparated, List.dropWhile_nil, done]
      rfl
  | symbol s =>
      cases separates
      exact done
  | _ => cases separates

/-- No statement begins with an `else`. -/
theorem statementAt_else (ts : List Token) : statementAt (.keyword .elseWord :: ts) = none := by
  rw [statementAt_cons]
  simp only [statementAfter, evalAt, exprAt_eq, operandAt_cons]
  rfl

/-- No statement begins with the closing brace of a block. -/
theorem statementAt_closeBrace (ts : List Token) : statementAt (.symbol .closeBrace :: ts) = none :=
  (statement_stops (.inr ⟨ts, rfl⟩)).outcome

/-- Where statements are read up to something else, no `else` is left between them. -/
theorem noElse_of_statementsAt {ts rest : List Token} {body : List Statement}
    (read : statementsAt (unseparated ts) = some (body, rest))
    (other : rest.head? ≠ some (.keyword .elseWord)) : NoElse ts := by
  intro head
  rcases List.head?_eq_some_iff.1 head with ⟨more, start⟩
  rw [start, statementsAt_of_stops (statementAt_else more)] at read
  cases read
  exact other rfl

/-- The last separator of some tokens, and another way on, which goes on with no `else`. -/
structure LastSeam (t : Token) (tail' : List Token) : Prop extends Seam [t] tail' where
  noElse : NoElse tail'

theorem LastSeam.separates {t : Token} (seam : LastSeam t tail') : t.Separates := by
  rcases seam.here with ⟨u, more, same, separates⟩
  cases same
  exact separates

/-- No `else` stands behind the last separator. -/
theorem LastSeam.noElse_here {t : Token} (seam : LastSeam t tail') : NoElse [t] :=
  noElse_of_statementsAt (statementsAt_own seam.separates) (by simp)

-- As for expressions, but of readings that succeed: a block that is not closed before the seam could
-- be closed behind it.
mutual

/-- A statement that is read before a last separator is read before any other way on. -/
theorem statementAt_carries {t : Token} (seam : LastSeam t tail') (u : Token) (us : List Token)
    {s : Statement} {rest : List Token} (read : statementAt (u :: us ++ [t]) = some (s, rest))
    (noElse : NoElse rest) :
    Alike (us.length + 1) [t] tail' (statementAt (u :: us ++ [t]))
      (statementAt (u :: us ++ tail')) := by
  by_cases isIf : u = .keyword .ifWord
  · subst isIf
    rw [List.cons_append, statementAt_cons] at read ⊢
    rw [List.cons_append, statementAt_cons]
    exact (conditionalAt_carries seam us read noElse).mono (Nat.le_succ _)
  by_cases isFor : u = .keyword .forWord
  · subst isFor
    rw [List.cons_append, statementAt_cons] at read ⊢
    rw [List.cons_append, statementAt_cons]
    simp only [statementAfter] at read ⊢
    rcases Option.bind_eq_some_iff.1 read with ⟨⟨⟨key, item, source⟩, left⟩, head, rest⟩
    rcases (loopHeadAt_alike seam.toSeam us).take head with ⟨ws, less, rfl, head'⟩
    rcases Option.map_eq_some_iff.1 rest with ⟨⟨body, left⟩, block, -⟩
    rw [head, head']
    exact ((blockAt_carries seam ws block).map (Statement.forEach key item source)).mono (by omega)
  · exact statementAt_alike seam.toSeam isIf isFor us
termination_by (us.length + 1, 0)

/-- A conditional before the last separator is read alike on the other way on. -/
theorem conditionalAt_carries {t : Token} (seam : LastSeam t tail') (us : List Token)
    {s : Statement} {rest : List Token} (read : conditionalAt (us ++ [t]) = some (s, rest))
    (noElse : NoElse rest) :
    Alike us.length [t] tail' (conditionalAt (us ++ [t])) (conditionalAt (us ++ tail')) := by
  rw [conditionalAt_eq] at read ⊢
  rw [conditionalAt_eq]
  rcases Option.bind_eq_some_iff.1 read with ⟨⟨condition, left⟩, head, read⟩
  rcases (exprAt_alike seam.toSeam 1 us).take head with ⟨ws, less, rfl, head'⟩
  rcases Option.bind_eq_some_iff.1 read with ⟨⟨body, left⟩, block, read⟩
  rcases (blockAt_carries seam ws block).take block with ⟨vs, less', rfl, block'⟩
  rcases Option.map_eq_some_iff.1 read with ⟨⟨other, left⟩, alternative, same⟩
  cases same
  have carried := alternativeAt_carries seam vs alternative noElse
  rw [head, head']
  simp only [Option.bind_some, block, block']
  exact (carried.map (Statement.conditional condition body)).mono (by omega)
termination_by (us.length, 1)

/-- So is its alternative, since no `else` stands on the other way on. -/
theorem alternativeAt_carries {t : Token} (seam : LastSeam t tail') (us : List Token)
    {other : Option (List Statement)} {rest : List Token}
    (read : alternativeAt (us ++ [t]) = some (other, rest)) (noElse : NoElse rest) :
    Alike (us.length + 1) [t] tail' (alternativeAt (us ++ [t])) (alternativeAt (us ++ tail')) := by
  rw [alternativeAt_eq] at read ⊢
  rw [alternativeAt_eq]
  have short : us.length < us.length + 1 := Nat.lt_succ_self _
  rcases unseparated_append_cases us with all | ⟨v, vs, less, kept⟩
  · have here : (unseparated [t]).head? ≠ some (.keyword .elseWord) := seam.noElse_here
    have there : (unseparated tail').head? ≠ some (.keyword .elseWord) := seam.noElse
    rw [all, all, afterToken_of_head _ here, afterToken_of_head _ there]
    exact .some none short
  · rw [kept] at read ⊢
    rw [kept]
    by_cases isElse : v = .keyword .elseWord
    · subst isElse
      rw [List.cons_append, afterToken_self] at read ⊢
      rw [List.cons_append, afterToken_self]
      cases taken : otherwiseAt (vs ++ [t]) with
      | none =>
          -- An `else` that cannot be read is left, which is ruled out.
          rw [taken] at read
          cases read
          have start := kept [t]
          exact absurd (congrArg List.head? start) noElse
      | some result =>
          rcases result with ⟨body, left⟩
          rw [taken] at read
          cases read
          have carried := (otherwiseAt_carries seam vs taken noElse).map Option.some
          rw [taken] at carried
          exact (carried.mono (by omega)).getD none short
    · have other (tail : List Token) : (v :: vs ++ tail).head? ≠ some (.keyword .elseWord) := by
        simpa using isElse
      rw [afterToken_of_head _ (other _), afterToken_of_head _ (other _)]
      exact .some none short
termination_by (us.length, 3)

/-- So is what stands behind its `else`. -/
theorem otherwiseAt_carries {t : Token} (seam : LastSeam t tail') (us : List Token)
    {body : List Statement} {rest : List Token}
    (read : otherwiseAt (us ++ [t]) = some (body, rest)) (noElse : NoElse rest) :
    Alike us.length [t] tail' (otherwiseAt (us ++ [t])) (otherwiseAt (us ++ tail')) := by
  by_cases isIf : us.head? = some (.keyword .ifWord)
  · rcases List.head?_eq_some_iff.1 isIf with ⟨vs, rfl⟩
    rcases Option.map_eq_some_iff.1 read with ⟨⟨s, left⟩, inner, same⟩
    cases same
    exact ((conditionalAt_carries seam vs inner noElse).map fun s => [s]).mono (Nat.le_succ _)
  · have other {tail : List Token} (separated : Separated tail) :
        (us ++ tail).head? ≠ some (.keyword .ifWord) := by
      rcases separated with ⟨u, more, rfl, separates⟩
      cases us with
      | cons v vs => exact isIf
      | nil =>
          intro head
          cases head
          cases separates
    rw [otherwiseAt_of_head (other seam.here)] at read ⊢
    rw [otherwiseAt_of_head (other seam.there)]
    exact blockAt_carries seam us read
termination_by (us.length, 2)

/-- So is a block, which ends before the separator. -/
theorem blockAt_carries {t : Token} (seam : LastSeam t tail') (us : List Token)
    {body : List Statement} {rest : List Token} (read : blockAt (us ++ [t]) = some (body, rest)) :
    Alike us.length [t] tail' (blockAt (us ++ [t])) (blockAt (us ++ tail')) := by
  rw [blockAt_eq] at read ⊢
  rw [blockAt_eq]
  refine afterToken_alike seam.toSeam (by simp [Token.Separates]) us fun vs split => ?_
  have length : us.length = vs.length + 1 := by rw [split, List.length_cons]
  rw [split, List.cons_append, afterToken_self] at read
  have inside := upToToken_eq_some read
  rcases unseparated_append_cases vs with all | ⟨v, ws, less, kept⟩
  · -- The block would have to close within the separator.
    rw [all, statementsAt_own seam.separates] at inside
    cases inside
  · rw [kept] at inside ⊢
    rw [kept]
    refine upToToken_alike seam.toSeam (by simp [Token.Separates]) ?_
    exact (statementsAt_carries seam v ws inside).mono (by omega)
termination_by (us.length, 1)

/-- The statements of a block, up to its closing brace. -/
theorem statementsAt_carries {t : Token} (seam : LastSeam t tail') (u : Token) (us : List Token)
    {body : List Statement} {rest : List Token}
    (read : statementsAt (u :: us ++ [t]) = some (body, .symbol .closeBrace :: rest)) :
    Alike (us.length + 2) [t] tail' (statementsAt (u :: us ++ [t]))
      (statementsAt (u :: us ++ tail')) := by
  cases first : statementAt (u :: us ++ [t]) with
  | none =>
      rw [statementsAt_of_stops first] at read ⊢
      cases read
      rw [List.cons_append, List.cons_append, statementsAt_of_stops (statementAt_closeBrace _)]
      exact .some [] (Nat.lt_succ_self (Token.symbol .closeBrace :: us).length)
  | some result =>
      rcases result with ⟨s, left⟩
      rw [statementsAt_eq, first] at read ⊢
      rcases Option.map_eq_some_iff.1 read with ⟨⟨later, end'⟩, follow, same⟩
      cases same
      have noElse : NoElse left := noElse_of_statementsAt follow (by simp)
      rcases (statementAt_carries seam u us first noElse).take first with ⟨ws, less, rfl, first'⟩
      rw [statementsAt_eq, first']
      simp only
      rcases unseparated_append_cases ws with all | ⟨v, vs, less', kept⟩
      · rw [all, statementsAt_own seam.separates] at follow
        cases follow
      · rw [kept] at follow ⊢
        rw [kept]
        exact ((statementsAt_carries seam v vs follow).map (s :: ·)).mono (by omega)
termination_by (us.length + 1, 1)

end

/-- Statements that go up to the end are followed by those of any other way on. -/
theorem statementsAt_append {t : Token} {p q : Program} (separates : t.Separates)
    (separated' : Separated tail') (there : statementsAt (unseparated tail') = some (q, []))
    (us : List Token) (here : statementsAt (unseparated (us ++ [t])) = some (p, [])) :
    ∃ before, p = before ++ t.own ∧
      statementsAt (unseparated (us ++ tail')) = some (before ++ q, []) := by
  have seam : LastSeam t tail' := {
    here := ⟨t, [], rfl, separates⟩
    there := separated'
    noElse := noElse_of_statementsAt there (by simp) }
  rcases unseparated_append_cases us with all | ⟨v, vs, shorter, kept⟩
  · rw [all, statementsAt_own separates] at here
    cases here
    exact ⟨[], rfl, by rw [all, there, List.nil_append]⟩
  · rw [kept] at here ⊢
    -- The first statement ends before the seam, and the others follow by induction.
    cases first : statementAt (v :: vs ++ [t]) with
    | none =>
        rw [statementsAt_of_stops first] at here
        cases here
    | some result =>
        rcases result with ⟨s, left⟩
        rw [statementsAt_eq, first] at here
        rcases Option.map_eq_some_iff.1 here with ⟨⟨later, end'⟩, follow, same⟩
        cases same
        have noElse : NoElse left := noElse_of_statementsAt follow (by simp)
        rcases (statementAt_carries seam v vs first noElse).take first with ⟨ws, less, rfl, first'⟩
        rcases statementsAt_append separates separated' there ws follow with ⟨before, rfl, joined⟩
        refine ⟨s :: before, rfl, ?_⟩
        rw [statementsAt_eq, first']
        simp only [joined]
        rfl
termination_by us.length

end Artifact
end TemplateEngine
