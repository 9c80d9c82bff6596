import TemplateEngine.Proofs.Artifact.Joining
import TemplateEngine.Proofs.Artifact.LoneTokens
import TemplateEngine.Proofs.Artifact.Mentions

/-!
# Names that are read

A program mentions only names that are in its tokens, and the lexer makes names only of identifiers. So
every variable, every target of an assignment and every name of a loop that is read is an identifier.
-/

namespace TemplateEngine
namespace Artifact

open Text (isName)

variable {α β : Type} {names : String → Prop} {n m : Nat}

/-! ## Tokens with names -/

/-- The name in a token, with its sigil or by itself, is one of the given names. -/
def Token.Named (names : String → Prop) : Token → Prop
  | .var s => names s
  | .name s => names s
  | _ => True

def AllNamed (names : String → Prop) (ts : List Token) : Prop := ∀ t ∈ ts, t.Named names

theorem AllNamed.tail {t : Token} {ts : List Token} (h : AllNamed names (t :: ts)) :
    AllNamed names ts :=
  (List.forall_mem_cons.1 h).2

/-- Semicolons have no names. -/
theorem AllNamed.unseparated {ts : List Token} (h : AllNamed names ts) :
    AllNamed names (unseparated ts) :=
  fun t member => h t ((List.dropWhile_sublist _).mem member)

/-! ## What readers yield -/

/-- What an outcome gives satisfies a condition, and it leaves fewer than `n` tokens, with none but the
given names in them. -/
def Yields (names : String → Prop) (n : Nat) (holds : α → Prop) (r : Outcome α) : Prop :=
  ∀ a rest, r = some (a, rest) → holds a ∧ rest.length < n ∧ AllNamed names rest

namespace Yields

variable {holds : α → Prop} {holds' : β → Prop} {r s : Outcome α}

theorem none : Yields names n holds (none : Outcome α) := nofun

theorem some {a : α} {rest : List Token} (here : holds a) (less : rest.length < n)
    (named : AllNamed names rest) : Yields names n holds (some (a, rest)) := by
  rintro _ _ ⟨⟩
  exact ⟨here, less, named⟩

/-- A bound on what is left may be raised. -/
theorem mono (h : Yields names n holds r) (le : n ≤ m) : Yields names m holds r := by
  intro a rest read
  rcases h a rest read with ⟨here, less, named⟩
  exact ⟨here, Nat.lt_of_lt_of_le less le, named⟩

/-- What is read in two parts is within the names if each part is. -/
theorem bind {f : α × List Token → Outcome β} (h : Yields names n holds r)
    (next : ∀ a rest, holds a → rest.length < n → AllNamed names rest →
      Yields names m holds' (f (a, rest))) : Yields names m holds' (r.bind f) := by
  intro b behind read
  rcases Option.bind_eq_some_iff.1 read with ⟨⟨a, rest⟩, first, follow⟩
  rcases h a rest first with ⟨here, less, named⟩
  exact next a rest here less named b behind follow

/-- What is given may be changed, where the condition carries over. -/
theorem map (h : Yields names n holds r) (f : α → β) (kept : ∀ a, holds a → holds' (f a)) :
    Yields names n holds' (r.map fun (a, rest) => (f a, rest)) := by
  intro b behind read
  rcases Option.map_eq_some_iff.1 read with ⟨⟨a, left⟩, first, same⟩
  cases same
  rcases h a _ first with ⟨here, shorter⟩
  exact ⟨kept a here, shorter⟩

/-- Alternatives that keep to the names do so together. -/
theorem or (h : Yields names n holds r) (h' : Yields names n holds s) :
    Yields names n holds (r.or s) := by
  cases r with
  | none => exact h'
  | some read => exact h

/-- A reader that may give nothing keeps to the names when it falls back. -/
theorem getD (h : Yields names n holds r) {a : α} {rest : List Token} (here : holds a)
    (less : rest.length < n) (named : AllNamed names rest) :
    Yields names n holds (Option.some (r.getD (a, rest))) := by
  cases r with
  | none => exact .some here less named
  | some read => exact h

/-- Tokens that are passed over take no names with them. -/
theorem afterToken {t : Token} {read : List Token → Outcome α} {ts : List Token}
    (named : AllNamed names ts)
    (h : ∀ us, us.length < ts.length → AllNamed names us → Yields names n holds (read us)) :
    Yields names n holds (Artifact.afterToken t read ts) := by
  cases ts with
  | nil => exact none
  | cons u us =>
      rw [Artifact.afterToken]
      split
      · exact h us (Nat.lt_succ_self _) named.tail
      · exact none

theorem upToToken {t : Token} {read : List Token → Outcome α} {ts : List Token}
    (h : Yields names (n + 1) holds (read ts)) :
    Yields names n holds (Artifact.upToToken t read ts) := by
  refine h.bind fun a rest here less named => .afterToken named fun us shorter left => ?_
  exact .some here (by omega) left

end Yields

/-! ## Expressions -/

/-- The variables of an expression are among the given names. -/
def Expr.Within (names : String → Prop) (e : Expr) : Prop := ∀ name ∈ e.mentioned, names name

def ExprsWithin (names : String → Prop) (es : List Expr) : Prop :=
  ∀ name ∈ exprsMentioned es, names name

theorem exprsWithin_nil : ExprsWithin names [] := nofun

theorem exprsWithin_cons {e : Expr} {es : List Expr} (first : e.Within names)
    (rest : ExprsWithin names es) : ExprsWithin names (e :: es) :=
  List.forall_mem_append.2 ⟨first, rest⟩

theorem memberAt_yields {ts : List Token} (named : AllNamed names ts) :
    Yields names ts.length (fun _ => True) (memberAt ts) := by
  cases ts with
  | nil => exact .none
  | cons t ts =>
      rw [memberAt]
      cases t.memberName? with
      | none => exact .none
      | some field => exact .some trivial (Nat.lt_succ_self _) named.tail

/-- Expressions in a list keep to the names if the first one does and those behind it do. -/
theorem Yields.listed {ts : List Token} {r : Outcome Expr} (named : AllNamed names ts)
    (first : Yields names ts.length (Expr.Within names) r)
    (more : ∀ rest, rest.length < ts.length → AllNamed names rest →
      Yields names (rest.length + 1) (ExprsWithin names) (moreExpressionsAt rest)) :
    Yields names (ts.length + 1) (ExprsWithin names) (Artifact.listed ts r) := by
  cases r with
  | none => exact .some exprsWithin_nil (Nat.lt_succ_self _) named
  | some read =>
      rcases read with ⟨e, rest⟩
      rcases first e rest rfl with ⟨within, less, left⟩
      exact ((more rest less left).map (e :: ·) fun _ others =>
        exprsWithin_cons within others).mono (by omega)

-- The readers call each other, so the induction is on the tokens. Where a reader hands on all of them,
-- the second component counts down.
mutual

/-- The variables of an expression are among the names of its tokens. -/
theorem exprAt_yields (level : Nat) {ts : List Token} (named : AllNamed names ts) :
    Yields names ts.length (Expr.Within names) (exprAt level ts) := by
  rw [exprAt_eq]
  refine (operandAt_yields named).bind fun first rest within less left => ?_
  exact (accessesAt_yields level within left).mono less
termination_by (ts.length, 1)

/-- So are those of an operand. -/
theorem operandAt_yields {ts : List Token} (named : AllNamed names ts) :
    Yields names ts.length (Expr.Within names) (operandAt ts) := by
  cases ts with
  | nil =>
      rw [operandAt_nil]
      exact .none
  | cons t more =>
      have left := named.tail
      have less : more.length < (t :: more).length := Nat.lt_succ_self _
      rw [operandAt_cons]
      cases t with
      | name name =>
          -- The name counts whether it is called or is a variable.
          have here : names name := (List.forall_mem_cons.1 named).1
          have arguments : Yields names more.length (ExprsWithin names) (argumentsAt more) := by
            refine .afterToken left fun us shorter inside => ?_
            exact (Yields.upToToken (expressionsAt_yields inside)).mono (Nat.le_of_lt shorter)
          exact ((arguments.map (Expr.call name) fun _ within => within).mono
            (Nat.le_of_lt less)).getD (List.forall_mem_singleton.2 here) less left
      | symbol s =>
          cases s with
          | openBracket =>
              have items := (expressionsAt_yields left).upToToken (t := .symbol .closeBracket)
              exact (items.map Expr.list fun _ within => within).mono (Nat.le_of_lt less)
          | openParen =>
              exact (Yields.upToToken ((exprAt_yields 1 left).mono (Nat.le_succ _))).mono
                (Nat.le_of_lt less)
          | bang =>
              exact ((exprAt_yields unaryLevel left).map (Expr.unary .not) fun _ within => within).mono
                (Nat.le_of_lt less)
          | minus =>
              exact ((exprAt_yields unaryLevel left).map (Expr.unary .neg) fun _ within => within).mono
                (Nat.le_of_lt less)
          | _ => exact .none
      | keyword k => cases k <;> first | exact .none | exact .some nofun less left
      | text s => exact .none
      | number d => exact .some nofun less left
      | quoted s => exact .some nofun less left
      | var name => exact .some (List.forall_mem_singleton.2 (List.forall_mem_cons.1 named).1) less left
termination_by (ts.length, 0)

/-- An access adds only variables among the names. -/
theorem accessAt_yields (level : Nat) {left : Expr} (within : left.Within names) {ts : List Token}
    (named : AllNamed names ts) : Yields names ts.length (Expr.Within names) (accessAt level left ts) := by
  cases ts with
  | nil => exact .none
  | cons t more =>
      have le : more.length ≤ (t :: more).length := Nat.le_succ _
      cases t with
      | symbol s =>
          simp only [accessAt]
          by_cases arrow : s = .arrow
          · simp only [arrow, if_true]
            exact ((memberAt_yields named.tail).map (Expr.member left) fun _ _ => within).mono le
          simp only [arrow, if_false]
          by_cases bracket : s = .openBracket
          · simp only [bracket, if_true]
            have position := ((exprAt_yields 1 named.tail).mono (Nat.le_succ _)).upToToken
              (t := .symbol .closeBracket)
            exact (position.map (Expr.index left) fun _ inside =>
              List.forall_mem_append.2 ⟨within, inside⟩).mono le
          simp only [bracket, if_false]
          cases s.infixOp? with
          | none => exact .none
          | some op =>
              simp only [Option.bind_some]
              split
              · have right := exprAt_yields (op.level + 1) named.tail
                exact (right.map (Expr.binary op left) fun _ inside =>
                  List.forall_mem_append.2 ⟨within, inside⟩).mono le
              · exact .none
      | _ => exact .none
termination_by (ts.length, 0)

/-- So do all accesses and operators that follow. -/
theorem accessesAt_yields (level : Nat) {left : Expr} (within : left.Within names) {ts : List Token}
    (named : AllNamed names ts) :
    Yields names (ts.length + 1) (Expr.Within names) (accessesAt level left ts) := by
  rw [accessesAt_eq]
  cases found : accessAt level left ts with
  | none => exact .some within (Nat.lt_succ_self _) named
  | some read =>
      rcases read with ⟨e, rest⟩
      rcases accessAt_yields level within named e rest found with ⟨grown, less, behind⟩
      exact (accessesAt_yields level grown behind).mono (by omega)
termination_by (ts.length, 2)

theorem expressionsAt_yields {ts : List Token} (named : AllNamed names ts) :
    Yields names (ts.length + 1) (ExprsWithin names) (expressionsAt ts) := by
  rw [expressionsAt_eq_listed]
  exact (exprAt_yields 1 named).listed named fun rest less left => moreExpressionsAt_yields left
termination_by (ts.length, 2)

theorem moreExpressionsAt_yields {ts : List Token} (named : AllNamed names ts) :
    Yields names (ts.length + 1) (ExprsWithin names) (moreExpressionsAt ts) := by
  have first : Yields names ts.length (Expr.Within names)
      (afterToken (.symbol .comma) (exprAt 1) ts) := by
    refine .afterToken named fun us shorter left => ?_
    exact (exprAt_yields 1 left).mono (Nat.le_of_lt shorter)
  rw [moreExpressionsAt_eq_listed]
  exact first.listed named fun rest less left => moreExpressionsAt_yields left
termination_by (ts.length, 2)

end

/-! ## Statements -/

def Statement.Within (names : String → Prop) (s : Statement) : Prop := ∀ name ∈ s.mentioned, names name

def ProgramWithin (names : String → Prop) (body : List Statement) : Prop :=
  ∀ name ∈ programMentioned body, names name

theorem programWithin_nil : ProgramWithin names [] := nofun

theorem programWithin_cons {s : Statement} {body : List Statement} (first : s.Within names)
    (rest : ProgramWithin names body) : ProgramWithin names (s :: body) :=
  List.forall_mem_append.2 ⟨first, rest⟩

theorem evalAt_yields {ts : List Token} (named : AllNamed names ts) :
    Yields names ts.length (Statement.Within names) (evalAt ts) :=
  (exprAt_yields 1 named).map Statement.eval fun _ within => within

theorem variableAt_yields {ts : List Token} (named : AllNamed names ts) :
    Yields names ts.length names (variableAt ts) := by
  cases ts with
  | nil => exact .none
  | cons t ts =>
      cases t with
      | var name => exact .some (List.forall_mem_cons.1 named).1 (Nat.lt_succ_self _) named.tail
      | _ => exact .none

def LoopWithin (names : String → Prop) (key : Option String) (item : String) : Prop :=
  (∀ name ∈ key, names name) ∧ names item

/-- A loop is within the names if its own names, its source and its body are. -/
theorem within_forEach {key : Option String} {item : String} {source : Expr} {body : List Statement}
    (loop : LoopWithin names key item) (inSource : source.Within names)
    (inBody : ProgramWithin names body) : (Statement.forEach key item source body).Within names := by
  refine List.forall_mem_append.2 ⟨fun name member => loop.1 name ?_, ?_⟩
  · exact Option.mem_toList.1 member
  · exact List.forall_mem_cons.2 ⟨loop.2, List.forall_mem_append.2 ⟨inSource, inBody⟩⟩

theorem loopNamesAt_yields {ts : List Token} (named : AllNamed names ts) :
    Yields names ts.length (fun loop => LoopWithin names loop.1 loop.2) (loopNamesAt ts) := by
  intro loop behind read
  rcases Option.map_eq_some_iff.1 read with ⟨⟨first, rest⟩, found, same⟩
  rcases variableAt_yields named first rest found with ⟨here, less, left⟩
  have second : Yields names rest.length names (afterToken (.symbol .comma) variableAt rest) :=
    .afterToken left fun us shorter after => (variableAt_yields after).mono (Nat.le_of_lt shorter)
  cases comma : afterToken (.symbol .comma) variableAt rest with
  | none =>
      simp only [comma] at same
      cases same
      exact ⟨⟨by simp, here⟩, less, left⟩
  | some more =>
      rcases second more.1 more.2 comma with ⟨there, shorter, after⟩
      simp only [comma] at same
      cases same
      exact ⟨⟨by simpa using here, there⟩, Nat.lt_trans shorter less, after⟩

/-- The names that a loop binds stand in its head. -/
theorem loopHeadAt_yields {ts : List Token} (named : AllNamed names ts) :
    Yields names ts.length
      (fun head => LoopWithin names head.1 head.2.1 ∧ head.2.2.Within names) (loopHeadAt ts) := by
  rw [loopHeadAt_eq]
  refine (loopNamesAt_yields named).bind fun loop rest here less left => ?_
  refine (Yields.afterToken left fun us shorter after => ?_).map
    (fun source => (loop.1, loop.2, source)) fun _ within => ⟨here, within⟩
  exact (exprAt_yields 1 after).mono (by omega)

mutual

/-- The names of a statement are among those of its tokens. -/
theorem statementAt_yields {ts : List Token} (named : AllNamed names ts) :
    Yields names ts.length (Statement.Within names) (statementAt ts) := by
  have expression := evalAt_yields named
  cases ts with
  | nil =>
      rw [statementAt_nil]
      exact .none
  | cons t more =>
      have left := named.tail
      have less : more.length < (t :: more).length := Nat.lt_succ_self _
      rw [statementAt_cons]
      cases t with
      | text s => exact .some nofun less left
      | keyword k =>
          cases k with
          | echoWord =>
              refine (exprAt_yields 1 left).bind fun e rest within shorter behind => ?_
              exact ((moreExpressionsAt_yields behind).map (fun es => Statement.echo (e :: es))
                fun _ others => exprsWithin_cons within others).mono (by omega)
          | ifWord => exact (conditionalAt_yields left).mono (Nat.le_of_lt less)
          | forWord =>
              refine (loopHeadAt_yields left).bind fun head rest within shorter behind => ?_
              exact ((blockAt_yields behind).map (Statement.forEach head.1 head.2.1 head.2.2)
                fun _ inside => within_forEach within.1 within.2 inside).mono (by omega)
          | _ => exact expression
      | var name =>
          -- A variable that nothing is assigned to begins an expression.
          refine .or ?_ expression
          have value : Yields names more.length (Expr.Within names)
              (afterToken (.symbol .assign) (exprAt 1) more) := by
            refine .afterToken left fun us shorter after => ?_
            exact (exprAt_yields 1 after).mono (Nat.le_of_lt shorter)
          have target : names name := (List.forall_mem_cons.1 named).1
          exact (value.map (Statement.assign name) fun _ within =>
            List.forall_mem_cons.2 ⟨target, within⟩).mono (Nat.le_of_lt less)
      | _ => exact expression
termination_by (ts.length, 1)

/-- So are those of a conditional. -/
theorem conditionalAt_yields {ts : List Token} (named : AllNamed names ts) :
    Yields names ts.length (Statement.Within names) (conditionalAt ts) := by
  rw [conditionalAt_eq]
  refine (exprAt_yields 1 named).bind fun condition rest within less left => ?_
  refine (blockAt_yields left).bind fun body behind inside shorter left => ?_
  refine ((alternativeAt_yields left).map (Statement.conditional condition body)
    fun other others => ?_).mono (by omega)
  cases other with
  | none => exact List.forall_mem_append.2 ⟨within, inside⟩
  | some other =>
      exact List.forall_mem_append.2 ⟨within, List.forall_mem_append.2 ⟨inside, others other rfl⟩⟩
termination_by (ts.length, 0)

theorem alternativeAt_yields {ts : List Token} (named : AllNamed names ts) :
    Yields names (ts.length + 1) (fun other => ∀ body ∈ other, ProgramWithin names body)
      (alternativeAt ts) := by
  rw [alternativeAt_eq]
  have le := length_unseparated_le ts
  have other : Yields names (ts.length + 1) (ProgramWithin names)
      (afterToken (.keyword .elseWord) otherwiseAt (unseparated ts)) := by
    refine .afterToken named.unseparated fun us shorter left => ?_
    exact (otherwiseAt_yields left).mono (by omega)
  refine (other.map some fun body within => ?_).getD nofun (Nat.lt_succ_self _) named
  rintro _ ⟨⟩
  exact within
termination_by (ts.length, 0)

theorem otherwiseAt_yields {ts : List Token} (named : AllNamed names ts) :
    Yields names ts.length (ProgramWithin names) (otherwiseAt ts) := by
  unfold otherwiseAt
  split
  · next inner =>
      exact ((conditionalAt_yields named.tail).map (fun s => [s]) fun s within =>
        programWithin_cons within programWithin_nil).mono (Nat.le_succ _)
  · exact blockAt_yields named
termination_by (ts.length, 1)

/-- So are those of a block. -/
theorem blockAt_yields {ts : List Token} (named : AllNamed names ts) :
    Yields names ts.length (ProgramWithin names) (blockAt ts) := by
  rw [blockAt_eq]
  refine .afterToken named fun us shorter left => ?_
  have le := length_unseparated_le us
  exact (statementsAt_yields left.unseparated).upToToken.mono (by omega)
termination_by (ts.length, 0)

/-- So are those of a list of statements. -/
theorem statementsAt_yields {ts : List Token} (named : AllNamed names ts) :
    Yields names (ts.length + 1) (ProgramWithin names) (statementsAt ts) := by
  rw [statementsAt_eq]
  cases found : statementAt ts with
  | none => exact .some programWithin_nil (Nat.lt_succ_self _) named
  | some read =>
      rcases read with ⟨s, rest⟩
      rcases statementAt_yields named s rest found with ⟨within, less, left⟩
      have le := length_unseparated_le rest
      exact ((statementsAt_yields left.unseparated).map (s :: ·) fun _ others =>
        programWithin_cons within others).mono (by omega)
termination_by (ts.length, 2)

end

/-! ## Artifacts -/

def Identifier (name : String) : Prop := isName name.toList = true

/-- A token of an island that has a name has it from an identifier. -/
theorem Denotes.named {cs : List Char} {t : Token} (h : Denotes cs t) : t.Named Identifier := by
  cases h with
  | @var name isName =>
      show Text.isName (String.ofList name).toList = true
      rwa [String.toList_ofList]
  | word isName =>
      unfold Token.ofWord
      simp only
      split
      · trivial
      · show Text.isName (String.ofList cs).toList = true
        rwa [String.toList_ofList]
  | _ => trivial

/-- The lexer makes names of identifiers only. -/
theorem Scans.named {region : Region} {cs : List Char} {tokens : List Token}
    (h : Scans region cs tokens) : AllNamed Identifier tokens := by
  induction h with
  | done => nofun
  | last => exact List.forall_mem_singleton.2 trivial
  | text _ _ _ ih => exact List.forall_mem_cons.2 ⟨trivial, ih⟩
  | enter _ ih => exact ih
  | blank _ _ ih => exact ih
  | leave _ ih => exact List.forall_mem_cons.2 ⟨trivial, ih⟩
  | token _ _ found _ ih => exact List.forall_mem_cons.2 ⟨(denotes_of_read found).named, ih⟩

/-- Every name in a program that is read is an identifier. -/
theorem programWithin_of_parse {artifact : String} {program : Program}
    (read : parse artifact = .ok program) : ProgramWithin Identifier program := by
  rcases parse_eq_ok_iff.1 read with ⟨tokens, scans, statements⟩
  exact (statementsAt_yields scans.named.unseparated program [] statements).1

/-! ## Islands of one variable -/

def variableIsland (name : String) : String := "<% $" ++ name ++ " %>"

/-- The island of a variable is read as one exactly where its name is an identifier. -/
theorem scans_variableIsland_iff {name : String} :
    Scans .text (variableIsland name).toList [.var name, .symbol .semicolon] ↔ Identifier name := by
  constructor
  · intro scans
    exact (List.forall_mem_cons.1 scans.named).1
  · intro identifier
    have denotes := Denotes.var identifier
    rw [String.ofList_toList] at denotes
    have blank : ∀ c ∈ [' '], Text.isBlank c = true := List.forall_mem_singleton.2 (by decide)
    have scans := denotes.scans blank .done
    have chars : (variableIsland name).toList =
        islandOpen ++ (' ' :: ('$' :: name.toList ++ ([' '] ++ (islandClose ++ [])))) := by
      simp [variableIsland, islandOpen, islandClose]
    rw [chars]
    exact .enter (.blank (by decide) scans)

/-- The island of an identifier is its variable as an expression. -/
theorem parse_variableIsland {name : String} (identifier : Identifier name) :
    parse (variableIsland name) = .ok [.eval (.var name)] := by
  have read : exprAt 1 [.var name, .symbol .semicolon] = some (.var name, [.symbol .semicolon]) := by
    rw [exprAt_eq, operandAt_cons]
    exact accessesAt_of_ends rfl
  have nothing : statementsAt [] = some ([], []) := statementsAt_of_stops statementAt_nil
  have first : statementAt [.var name, .symbol .semicolon] =
      some (.eval (.var name), [.symbol .semicolon]) := by
    rw [statementAt_cons]
    simp [statementAfter, afterToken, evalAt, read]
  have start : unseparated [.var name, .symbol .semicolon] = [.var name, .symbol .semicolon] := rfl
  have rest : unseparated [.symbol .semicolon] = [] := rfl
  rw [(scans_variableIsland_iff.2 identifier).parse_eq_ok_iff, start, statementsAt_eq, first]
  simp only [rest, nothing]
  rfl

end Artifact
end TemplateEngine
