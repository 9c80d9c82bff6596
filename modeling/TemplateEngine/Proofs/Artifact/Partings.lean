import TemplateEngine.Proofs.Artifact.Outcomes

/-!
# Partings — expressions with two ways on

The readers of expressions on the same tokens with one tail or another behind them. What they read in
front of the tails is the same. Where they come to the tails, the expression ends at the first, and at
the second an access may go on with it.
-/

namespace TemplateEngine
namespace Artifact

/-! ## Outcomes side by side -/

/-- Both outcomes are nothing, or both are the same and leave the same fewer than `n` tokens in front of
their tails. -/
def Alike {α : Type} (n : Nat) (tail tail' : List Token) (r r' : Outcome α) : Prop :=
  (r = none ∧ r' = none) ∨
    ∃ a ws, ws.length < n ∧ r = some (a, ws ++ tail) ∧ r' = some (a, ws ++ tail')

variable {α β : Type} {n m : Nat} {tail tail' : List Token}

namespace Alike

theorem none : Alike n tail tail' (none : Outcome α) .none := .inl ⟨rfl, rfl⟩

theorem some (a : α) {ws : List Token} (less : ws.length < n) :
    Alike n tail tail' (some (a, ws ++ tail)) (.some (a, ws ++ tail')) :=
  .inr ⟨a, ws, less, rfl, rfl⟩

/-- What one reader gives in front of its tail the other gives in front of its own. -/
theorem take {r r' : Outcome α} {a : α} {rest : List Token} (h : Alike n tail tail' r r')
    (read : r = .some (a, rest)) :
    ∃ ws, ws.length < n ∧ rest = ws ++ tail ∧ r' = .some (a, ws ++ tail') := by
  rcases h with ⟨eq, -⟩ | ⟨b, ws, less, eq, eq'⟩
  · rw [eq] at read
    cases read
  · rw [eq] at read
    cases read
    exact ⟨ws, less, rfl, eq'⟩

/-- A bound on what is left may be raised. -/
theorem mono {r r' : Outcome α} (h : Alike n tail tail' r r') (le : n ≤ m) :
    Alike m tail tail' r r' := by
  rcases h with stopped | ⟨a, ws, less, eq, eq'⟩
  · exact .inl stopped
  · exact .inr ⟨a, ws, Nat.lt_of_lt_of_le less le, eq, eq'⟩

/-- Alike readers may be followed by alike ones. -/
theorem bind {r r' : Outcome α} {f : α × List Token → Outcome β} (h : Alike n tail tail' r r')
    (next : ∀ a ws, ws.length < n → Alike m tail tail' (f (a, ws ++ tail)) (f (a, ws ++ tail'))) :
    Alike m tail tail' (r.bind f) (r'.bind f) := by
  rcases h with ⟨rfl, rfl⟩ | ⟨a, ws, less, rfl, rfl⟩
  · exact none
  · exact next a ws less

/-- What alike readers give may be changed in the same way. -/
theorem map {r r' : Outcome α} (h : Alike n tail tail' r r') (f : α → β) :
    Alike n tail tail' (r.map fun (a, rest) => (f a, rest))
      (r'.map fun (a, rest) => (f a, rest)) := by
  rcases h with ⟨rfl, rfl⟩ | ⟨a, ws, less, rfl, rfl⟩
  · exact none
  · exact some (f a) less

/-- Alternatives that are alike one by one are alike. -/
theorem or {r r' s s' : Outcome α} (h : Alike n tail tail' r r') (otherwise : Alike n tail tail' s s') :
    Alike n tail tail' (r.or s) (r'.or s') := by
  rcases h with ⟨rfl, rfl⟩ | ⟨a, ws, less, rfl, rfl⟩
  · exact otherwise
  · exact some a less

/-- A reader that may give nothing stays alike when both sides fall back on the same. -/
theorem getD {r r' : Outcome α} (h : Alike n tail tail' r r') (a : α) {ws : List Token}
    (less : ws.length < n) :
    Alike n tail tail' (Option.some (r.getD (a, ws ++ tail)))
      (Option.some (r'.getD (a, ws ++ tail'))) := by
  rcases h with ⟨rfl, rfl⟩ | ⟨b, left, short, rfl, rfl⟩
  · exact some a less
  · exact some b short

end Alike

/-- A token that stands at neither tail is found before both or at neither. -/
theorem afterToken_alike_of_head {t : Token} {read : List Token → Outcome α}
    (here : tail.head? ≠ Option.some t) (there : tail'.head? ≠ Option.some t) (us : List Token)
    (h : ∀ vs, us = t :: vs → Alike n tail tail' (read (vs ++ tail)) (read (vs ++ tail'))) :
    Alike n tail tail' (afterToken t read (us ++ tail)) (afterToken t read (us ++ tail')) := by
  cases us with
  | nil =>
      rw [List.nil_append, List.nil_append, afterToken_of_head read here,
        afterToken_of_head read there]
      exact .none
  | cons u us =>
      simp only [List.cons_append, afterToken]
      split
      · next same => exact h us (same ▸ rfl)
      · exact .none

/-! ## Expressions before two tails -/

/-- No part of an expression is read from these tokens on: no operand, no member name, and no symbol that
stands around or between expressions. -/
structure Inert (ts : List Token) : Prop where
  operand : operandAt ts = none
  member : memberAt ts = none
  marks : ∀ s ∈ [Symbol.openParen, .closeParen, .closeBracket, .comma],
    ts.head? ≠ some (.symbol s)

/-- Two ways on for an expression. It ends at the first; at the second an access may go on with it, so
that it grows, up to the tokens `rest`. -/
structure Parting (grows : Expr → Expr → Prop) (tail tail' rest : List Token) : Prop where
  here : Inert tail
  there : Inert tail'
  behind : Inert rest
  ends : ∀ level left, accessAt level left tail = none
  endsBehind : ∀ level left, accessAt level left rest = none
  goes : ∀ level left, accessAt level left tail' = none ∨
    ∃ e, grows left e ∧ accessAt level left tail' = some (e, rest)
  unary : ∀ op e e', grows e e' → grows (.unary op e) (.unary op e')
  binary : ∀ op left e e', grows e e' → grows (.binary op left e) (.binary op left e')

/-- Both outcomes are alike, or both readers come to their tails and the second one goes on there. -/
def Onward (n : Nat) (grows : α → α → Prop) (tail tail' rest : List Token) (r r' : Outcome α) :
    Prop :=
  Alike n tail tail' r r' ∨ ∃ a a', grows a a' ∧ r = some (a, tail) ∧ r' = some (a', rest)

variable {rest : List Token} {grows : Expr → Expr → Prop}

namespace Onward

variable {alters : α → α → Prop} {r r' : Outcome α}

theorem mono (h : Onward n alters tail tail' rest r r') (le : n ≤ m) :
    Onward m alters tail tail' rest r r' :=
  h.imp_left fun alike => alike.mono le

theorem map {alters' : β → β → Prop} (h : Onward n alters tail tail' rest r r') (f : α → β)
    (kept : ∀ a a', alters a a' → alters' (f a) (f a')) :
    Onward n alters' tail tail' rest (r.map fun (a, rest) => (f a, rest))
      (r'.map fun (a, rest) => (f a, rest)) := by
  rcases h with alike | ⟨a, a', altered, rfl, rfl⟩
  · exact .inl (alike.map f)
  · exact .inr ⟨f a, f a', kept a a' altered, rfl, rfl⟩

/-- Where nothing grows, going on is being alike. -/
theorem alike (h : Onward n alters tail tail' rest r r') (never : ∀ a a', ¬ alters a a') :
    Alike n tail tail' r r' := by
  rcases h with alike | ⟨a, a', altered, -⟩
  · exact alike
  · exact (never a a' altered).elim

/-- What is closed in front of the tails does not go on there. -/
theorem closed (parting : Parting grows tail tail' rest) {s : Symbol}
    (mark : s ∈ [Symbol.openParen, .closeParen, .closeBracket, .comma])
    {read : List Token → Outcome α} {us : List Token}
    (h : Onward (n + 1) alters tail tail' rest (read (us ++ tail)) (read (us ++ tail'))) :
    Alike n tail tail' (upToToken (.symbol s) read (us ++ tail))
      (upToToken (.symbol s) read (us ++ tail')) := by
  have here := parting.here.marks s mark
  have there := parting.there.marks s mark
  have behind := parting.behind.marks s mark
  rcases h with alike | ⟨a, a', -, eq, eq'⟩
  · refine alike.bind fun a ws less => afterToken_alike_of_head here there ws fun vs split => ?_
    rw [split, List.length_cons] at less
    exact .some a (Nat.lt_of_succ_lt_succ less)
  · simp only [upToToken, eq, eq', Option.bind_some, afterToken_of_head _ here,
      afterToken_of_head _ behind]
    exact .none

end Onward

/-- A member name is found before both tails or at neither. -/
theorem memberAt_alike (parting : Parting grows tail tail' rest) (us : List Token) :
    Alike us.length tail tail' (memberAt (us ++ tail)) (memberAt (us ++ tail')) := by
  cases us with
  | nil =>
      rw [List.nil_append, List.nil_append, parting.here.member, parting.there.member]
      exact .none
  | cons u us =>
      simp only [List.cons_append, memberAt]
      cases u.memberName? with
      | none => exact .none
      | some field => exact .some field (Nat.lt_succ_self _)

/-- With no access in front the expression is read already. -/
theorem accessesAt_of_ends {level : Nat} {left : Expr} {ts : List Token}
    (ends : accessAt level left ts = none) : accessesAt level left ts = some (left, ts) := by
  rw [accessesAt_eq, ends]

/-- No expression follows where none can begin. -/
theorem moreExpressionsAt_of_inert {ts : List Token} (inert : Inert ts) :
    moreExpressionsAt ts = some ([], ts) := by
  rw [moreExpressionsAt_eq, afterToken_of_head _ (inert.marks .comma (by decide))]

/-- What is read of a list that begins on the tokens, by what is read of its first expression. -/
def listed (ts : List Token) : Outcome Expr → Outcome (List Expr)
  | .none => Option.some ([], ts)
  | .some (e, rest) => (moreExpressionsAt rest).map fun (es, rest) => (e :: es, rest)

/-- A list grows where its last expression does. It is told only that one did. -/
theorem Onward.listed (parting : Parting grows tail tail' rest) {us : List Token} {r r' : Outcome Expr}
    (first : Onward us.length grows tail tail' rest r r')
    (more : ∀ ws, ws.length < us.length →
      Onward (ws.length + 1) (fun _ _ => ∃ e e', grows e e') tail tail' rest
        (moreExpressionsAt (ws ++ tail)) (moreExpressionsAt (ws ++ tail'))) :
    Onward (us.length + 1) (fun _ _ => ∃ e e', grows e e') tail tail' rest
      (Artifact.listed (us ++ tail) r) (Artifact.listed (us ++ tail') r') := by
  rcases first with (⟨rfl, rfl⟩ | ⟨e, ws, less, rfl, rfl⟩) | ⟨e, e', grown, rfl, rfl⟩
  · exact .inl (.some [] (Nat.lt_succ_self _))
  · exact ((more ws less).map (e :: ·) fun _ _ => id).mono (by omega)
  · simp only [Artifact.listed, moreExpressionsAt_of_inert parting.here,
      moreExpressionsAt_of_inert parting.behind]
    exact .inr ⟨[e], [e'], ⟨e, e', grown⟩, rfl, rfl⟩

/-- Some expressions are the first one and what is listed behind it. -/
theorem expressionsAt_eq_listed (ts : List Token) : expressionsAt ts = listed ts (exprAt 1 ts) :=
  expressionsAt_eq ts

theorem moreExpressionsAt_eq_listed (ts : List Token) :
    moreExpressionsAt ts = listed ts (afterToken (.symbol .comma) (exprAt 1) ts) :=
  moreExpressionsAt_eq ts

-- The readers call each other, so the induction is on the tokens before the tails. Where a reader hands
-- on all of them, the second component counts down.
mutual

/-- An expression before a parting ends at the first way on, or grows at the second. -/
theorem exprAt_onward (parting : Parting grows tail tail' rest) (level : Nat) (us : List Token) :
    Onward us.length grows tail tail' rest (exprAt level (us ++ tail))
      (exprAt level (us ++ tail')) := by
  rw [exprAt_eq, exprAt_eq]
  rcases operandAt_onward parting us with (⟨eq, eq'⟩ | ⟨first, ws, less, eq, eq'⟩) |
    ⟨e, e', grown, eq, eq'⟩
  all_goals rw [eq, eq']
  · exact .inl .none
  · exact (accessesAt_onward parting level first ws).mono less
  · exact .inr ⟨e, e', grown, accessesAt_of_ends (parting.ends level e),
      accessesAt_of_ends (parting.endsBehind level e')⟩
termination_by (us.length, 1)

/-- An operand before a parting is alike on both ways, unless it reaches the parting. -/
theorem operandAt_onward (parting : Parting grows tail tail' rest) (us : List Token) :
    Onward us.length grows tail tail' rest (operandAt (us ++ tail)) (operandAt (us ++ tail')) := by
  cases us with
  | nil =>
      rw [List.nil_append, List.nil_append, parting.here.operand, parting.there.operand]
      exact .inl .none
  | cons u us =>
      have less : us.length < (u :: us).length := Nat.lt_succ_self _
      rw [List.cons_append, List.cons_append, operandAt_cons, operandAt_cons]
      cases u with
      | name name =>
          have arguments : Alike us.length tail tail' (argumentsAt (us ++ tail))
              (argumentsAt (us ++ tail')) := by
            -- A parenthesis cannot be the first token of either rest, so it is there on both sides
            -- or on none.
            refine afterToken_alike_of_head (parting.here.marks .openParen (by decide))
              (parting.there.marks .openParen (by decide)) us ?_
            rintro vs rfl
            exact Onward.closed parting (by decide)
              ((expressionsAt_onward parting vs).mono (by simp))
          exact .inl (((arguments.map (Expr.call name)).mono (Nat.le_of_lt less)).getD (.var name)
            less)
      | symbol s =>
          cases s with
          | openBracket =>
              -- What a bracket opens must close before the rest, so it is read alike.
              have items := Onward.closed (s := .closeBracket) parting (by decide)
                (expressionsAt_onward parting us)
              exact .inl ((items.map Expr.list).mono (Nat.le_of_lt less))
          | openParen =>
              have inner := (exprAt_onward parting 1 us).mono (Nat.le_of_lt less)
              exact .inl ((Onward.closed parting (by decide) inner).mono (Nat.le_of_lt less))
          | bang =>
              have inner := (exprAt_onward parting unaryLevel us).map _ (parting.unary .not)
              exact inner.mono (Nat.le_of_lt less)
          | minus =>
              have inner := (exprAt_onward parting unaryLevel us).map _ (parting.unary .neg)
              exact inner.mono (Nat.le_of_lt less)
          | _ => exact .inl .none
      | keyword k => cases k <;> first | exact .inl .none | exact .inl (.some _ less)
      | text s => exact .inl .none
      | _ => exact .inl (.some _ less)
termination_by (us.length, 0)

/-- One access is alike on both ways, unless it reaches the parting. -/
theorem accessAt_onward (parting : Parting grows tail tail' rest) (level : Nat) (left : Expr)
    (u : Token) (us : List Token) :
    Onward (us.length + 1) grows tail tail' rest (accessAt level left (u :: us ++ tail))
      (accessAt level left (u :: us ++ tail')) := by
  have le : us.length ≤ us.length + 1 := Nat.le_succ _
  cases u with
  | symbol s =>
      simp only [List.cons_append, accessAt]
      by_cases arrow : s = .arrow
      · simp only [arrow, if_true]
        exact .inl (((memberAt_alike parting us).map (Expr.member left)).mono le)
      simp only [arrow, if_false]
      by_cases bracket : s = .openBracket
      · simp only [bracket, if_true]
        have position := Onward.closed (s := .closeBracket) parting (by decide)
          ((exprAt_onward parting 1 us).mono le)
        exact .inl ((position.map (Expr.index left)).mono le)
      simp only [bracket, if_false]
      cases s.infixOp? with
      | none => exact .inl .none
      | some op =>
          simp only [Option.bind_some]
          split
          · exact ((exprAt_onward parting (op.level + 1) us).map _ (parting.binary op left)).mono le
          · exact .inl .none
  | _ => exact .inl .none
termination_by (us.length + 1, 0)

/-- The expression that reaches the parting grows at the second way on, and any other is alike. -/
theorem accessesAt_onward (parting : Parting grows tail tail' rest) (level : Nat) (left : Expr)
    (us : List Token) :
    Onward (us.length + 1) grows tail tail' rest (accessesAt level left (us ++ tail))
      (accessesAt level left (us ++ tail')) := by
  cases us with
  | nil =>
      rw [List.nil_append, List.nil_append, accessesAt_of_ends (parting.ends level left)]
      rcases parting.goes level left with eq | ⟨e, grown, eq⟩
      · rw [accessesAt_of_ends eq]
        exact .inl (.inr ⟨left, [], Nat.lt_succ_self _, rfl, rfl⟩)
      · rw [accessesAt_eq, eq]
        exact .inr ⟨left, e, grown, rfl, accessesAt_of_ends (parting.endsBehind level e)⟩
  | cons u us =>
      rw [accessesAt_eq, accessesAt_eq level left (u :: us ++ tail')]
      rcases accessAt_onward parting level left u us with (⟨eq, eq'⟩ | ⟨e, ws, less, eq, eq'⟩) |
        ⟨e, e', grown, eq, eq'⟩
      all_goals rw [eq, eq']
      · exact .inl (.some left (Nat.lt_succ_self _))
      · exact (accessesAt_onward parting level e ws).mono (by simp; omega)
      · exact .inr ⟨e, e', grown, accessesAt_of_ends (parting.ends level e),
          accessesAt_of_ends (parting.endsBehind level e')⟩
termination_by (us.length, 2)

/-- The last of some expressions may reach the parting. -/
theorem expressionsAt_onward (parting : Parting grows tail tail' rest) (us : List Token) :
    Onward (us.length + 1) (fun _ _ => ∃ e e', grows e e') tail tail' rest
      (expressionsAt (us ++ tail)) (expressionsAt (us ++ tail')) := by
  rw [expressionsAt_eq_listed, expressionsAt_eq_listed]
  exact (exprAt_onward parting 1 us).listed parting fun ws less =>
    moreExpressionsAt_onward parting ws
termination_by (us.length, 2)

/-- The last of the expressions behind a comma may reach the parting. -/
theorem moreExpressionsAt_onward (parting : Parting grows tail tail' rest) (us : List Token) :
    Onward (us.length + 1) (fun _ _ => ∃ e e', grows e e') tail tail' rest
      (moreExpressionsAt (us ++ tail)) (moreExpressionsAt (us ++ tail')) := by
  have first : Onward us.length grows tail tail' rest
      (afterToken (.symbol .comma) (exprAt 1) (us ++ tail))
      (afterToken (.symbol .comma) (exprAt 1) (us ++ tail')) := by
    cases us with
    | nil =>
        rw [List.nil_append, List.nil_append,
          afterToken_of_head _ (parting.here.marks .comma (by decide)),
          afterToken_of_head _ (parting.there.marks .comma (by decide))]
        exact .inl .none
    | cons u us =>
        simp only [List.cons_append, afterToken]
        split
        · exact (exprAt_onward parting 1 us).mono (Nat.le_succ _)
        · exact .inl .none
  rw [moreExpressionsAt_eq_listed, moreExpressionsAt_eq_listed]
  exact first.listed parting fun ws less => moreExpressionsAt_onward parting ws
termination_by (us.length, 2)

end

end Artifact
end TemplateEngine
