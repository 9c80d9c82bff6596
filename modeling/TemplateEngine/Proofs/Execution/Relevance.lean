import TemplateEngine.Proofs.Artifact.Readings
import TemplateEngine.Proofs.Execution.Frames
import TemplateEngine.Proofs.Execution.PathValues
import TemplateEngine.Proofs.Execution.TwoRuns

/-!
# The data that a template sees

Two machines whose scopes bind the names of a program alike cannot be told apart by it, whatever else is
bound. So the output of an artifact, or its error, depends on the data only through the identifiers that
the artifact mentions.
-/

namespace TemplateEngine
namespace Execution

open Artifact (Lexeme Program programMentioned parse tokenize)

variable {names : String → Prop}

/-! ## Scopes that bind names alike -/

/-- Two scopes bind the given names alike. -/
def BindAlike (names : String → Prop) (scope scope' : Keyed Value) : Prop :=
  ∀ name, names name → Keyed.get? name scope = Keyed.get? name scope'

/-- As many scopes on both sides, and each of them binds the given names alike. -/
structure Scopes.Alike (names : String → Prop) (scopes scopes' : Scopes) : Prop where
  inner : List.Forall₂ (BindAlike names) scopes.inner scopes'.inner
  globals : BindAlike names scopes.globals scopes'.globals

theorem BindAlike.insert {scope scope' : Keyed Value} (h : BindAlike names scope scope')
    (name : String) (v : Value) :
    BindAlike names (Keyed.insert name v scope) (Keyed.insert name v scope') := by
  intro other named
  by_cases same : other = name
  · rw [same, Keyed.get?_insert_self, Keyed.get?_insert_self]
  · rw [Keyed.get?_insert_of_ne same, Keyed.get?_insert_of_ne same, h other named]

/-- Scopes that agree on some names still agree after an update of one of them. -/
theorem update?_of_bindAlike {name : String} (named : names name) (v : Value)
    {scopes scopes' : List (Keyed Value)} (h : List.Forall₂ (BindAlike names) scopes scopes') :
    Option.Rel (List.Forall₂ (BindAlike names)) (Scopes.update? name v scopes)
      (Scopes.update? name v scopes') := by
  induction h with
  | nil => exact .none
  | @cons scope scope' outer outer' first rest ih =>
      rw [Scopes.update?, Scopes.update?, first name named]
      split
      · exact .some (.cons (first.insert name v) rest)
      · generalize Scopes.update? name v outer = found at ih
        generalize Scopes.update? name v outer' = found' at ih
        cases ih with
        | none => exact .none
        | some later => exact .some (.cons first later)

namespace Scopes.Alike

variable {scopes scopes' : Scopes}

theorem get? (h : Scopes.Alike names scopes scopes') {name : String} (named : names name) :
    scopes.get? name = scopes'.get? name :=
  (findSome?_of_forall₂ (fun alike => (alike name named).symm)
    (List.rel_append h.inner (.cons h.globals .nil))).symm

theorem push (h : Scopes.Alike names scopes scopes') :
    Scopes.Alike names scopes.push scopes'.push :=
  ⟨.cons (fun _ _ => rfl) h.inner, h.globals⟩

theorem pop (h : Scopes.Alike names scopes scopes') :
    Scopes.Alike names scopes.pop scopes'.pop := by
  refine ⟨?_, h.globals⟩
  show List.Forall₂ _ scopes.inner.tail scopes'.inner.tail
  rcases scopes with ⟨inner, globals⟩
  rcases scopes' with ⟨inner', globals'⟩
  cases h.inner with
  | nil => exact .nil
  | cons _ rest => exact rest

theorem define (h : Scopes.Alike names scopes scopes') (name : String) (v : Value) :
    Scopes.Alike names (scopes.define name v) (scopes'.define name v) := by
  rcases scopes with ⟨inner, globals⟩
  rcases scopes' with ⟨inner', globals'⟩
  cases h.inner with
  | nil => exact ⟨.nil, h.globals.insert name v⟩
  | cons first rest => exact ⟨.cons (first.insert name v) rest, h.globals⟩

/-- The innermost binding of a name is in the same scope on both sides. -/
theorem assign (h : Scopes.Alike names scopes scopes') {name : String} (named : names name)
    (v : Value) : Scopes.Alike names (scopes.assign name v) (scopes'.assign name v) := by
  -- All scopes bind the name alike, so the search for its binding stops at the same one.
  have updated := update?_of_bindAlike named v h.inner
  unfold Scopes.assign
  generalize Scopes.update? name v scopes.inner = found at updated
  generalize Scopes.update? name v scopes'.inner = found' at updated
  cases updated with
  | some inner => exact ⟨inner, h.globals⟩
  | none =>
      simp only [h.globals name named]
      split
      · exact ⟨h.inner, h.globals.insert name v⟩
      · exact h.define name v

end Scopes.Alike

/-! ## Machines with the same output -/

/-- The same output, and the given names are bound alike. -/
structure Machine.Alike (names : String → Prop) (m m' : Machine) : Prop where
  scopes : Scopes.Alike names m.scopes m'.scopes
  output : m.output = m'.output

/-- Machines that agree on the names are indistinct to what mentions no other. -/
theorem indistinct_alike (names : String → Prop) : Indistinct names (Machine.Alike names) where
  get? h named := h.scopes.get? named
  emit text h := ⟨h.scopes, congrArg (· ++ text) h.output⟩
  define v h _ := ⟨h.scopes.define _ v, h.output⟩
  assign v h named := ⟨h.scopes.assign named v, h.output⟩
  push h := ⟨h.scopes.push, h.output⟩
  pop h := ⟨h.scopes.pop, h.output⟩

/-! ## Contexts -/

/-- A name that no template can mention is not bound by a context. -/
theorem get?_bindGlobals_of_not_isName {name : String} (notName : Text.isName name.toList = false)
    (vars : List (String × Value)) (globals : Keyed Value) :
    Keyed.get? name (Scopes.bindGlobals globals vars) = Keyed.get? name globals := by
  induction vars generalizing globals with
  | nil => rfl
  | cons var vars ih =>
      rcases var with ⟨other, value⟩
      rw [bindGlobals_cons, ih]
      split
      · next bound =>
          have ne : name ≠ other := by
            rintro rfl
            simp [notName] at bound
          exact Keyed.get?_insert_of_ne ne value globals
      · rfl

/-- Two contexts agree on those of the given names that a template can mention. -/
def Context.Agree (names : String → Prop) (c c' : Context) : Prop :=
  ∀ name, names name → Text.isName name.toList = true → c.get? name = c'.get? name

/-- Contexts that agree make machines that agree. -/
theorem Context.Agree.machine {c c' : Context} (h : c.Agree names c') :
    Machine.Alike names (Machine.ofContext c) (Machine.ofContext c') := by
  refine ⟨⟨.nil, ?_⟩, rfl⟩
  intro name named
  show Keyed.get? name (Scopes.bindGlobals [] c.vars) =
    Keyed.get? name (Scopes.bindGlobals [] c'.vars)
  -- A context binds identifiers only, so nothing has to be known of its other entries.
  cases isName : Text.isName name.toList with
  | true =>
      rw [get?_bindGlobals isName, get?_bindGlobals isName]
      exact congrArg (Option.or none) (h name named isName)
  | false => rw [get?_bindGlobals_of_not_isName isName, get?_bindGlobals_of_not_isName isName]

/-- A program gives the same for contexts that agree on what it mentions. -/
theorem runProgram_congr {program : Program} {c c' : Context}
    (agree : c.Agree (· ∈ programMentioned program) c') :
    ((Machine.ofContext c).runProgram program).1 = ((Machine.ofContext c').runProgram program).1 := by
  have ran := (indistinct_alike _).execAll program (fun _ member => member) agree.machine
  unfold Machine.runProgram
  simp only [ran.error]
  cases (execAll program (Machine.ofContext c')).error with
  | some e => rfl
  | none => exact congrArg Except.ok ran.machine.output

/-- The artifact can be read, and its program mentions the name. -/
def Mentions (artifact name : String) : Prop :=
  ∃ program, parse artifact = .ok program ∧ name ∈ programMentioned program

/-- An artifact sees of its data only the identifiers that it mentions: for contexts that agree on them
it has the same output or the same error. So entries under other names change nothing. -/
theorem execute_congr (artifact : String) :
    (∀ c c' : Context, c.Agree (Mentions artifact) c' → execute artifact c = execute artifact c') ∧
      ∀ (c : Context) (name : String) (v : Value),
        ¬ (Text.isName name.toList = true ∧ Mentions artifact name) →
          execute artifact (c.insert name v) = execute artifact c := by
  have congr : ∀ c c' : Context, c.Agree (Mentions artifact) c' →
      execute artifact c = execute artifact c' := by
    intro c c' agree
    unfold execute Machine.run
    cases parsed : parse artifact with
    | error fault => rfl
    | ok program =>
        have seen : c.Agree (· ∈ programMentioned program) c' :=
          fun name member => agree name ⟨program, parsed, member⟩
        exact congrArg (Except.mapError Error.runtime) (runProgram_congr seen)
  refine ⟨congr, fun c name v unseen => congr _ _ ?_⟩
  intro other mentioned isName
  have ne : other ≠ name := by
    rintro rfl
    exact unseen ⟨isName, mentioned⟩
  exact Keyed.get?_insert_of_ne ne v c.vars

/-- A loop whose body assigns to a name of the data. -/
def listing : String := "<% for $x in $xs \x7b %>-<% echo $x; $last = $x \x7d %>.<% echo $last %>"

theorem mentions_listing {name : String} (h : Mentions listing name) :
    name = "x" ∨ name = "xs" ∨ name = "last" := by
  rcases h with ⟨program, parsed, member⟩
  have scanned : (tokenize listing).toOption.map (List.map Lexeme.token) = some
      [.keyword .forWord, .var "x", .keyword .inWord, .var "xs", .symbol .openBrace,
        .symbol .semicolon, .text "-", .keyword .echoWord, .var "x", .symbol .semicolon,
        .var "last", .symbol .assign, .var "x", .symbol .closeBrace, .symbol .semicolon,
        .text ".", .keyword .echoWord, .var "last", .symbol .semicolon] := by
    decide +kernel
  have read : parse listing = .ok
      [.forEach none "x" (.var "xs")
        [.text "-", .echo [.var "x"], .assign "last" (.var "x")], .text ".", .echo [.var "last"]] :=
    Artifact.parse_of_tokens scanned (by cbv)
  cases read.symm.trans parsed
  simp [programMentioned, Artifact.Statement.mentioned, Artifact.Expr.mentioned,
    Artifact.exprsMentioned] at member
  tauto

/-- A title that is not shown and a name that cannot be written make no difference, whatever else is
bound to the title. -/
theorem execute_congr_listing :
    let shown : Context := ⟨[("last", .text "?"), ("xs", .list [.text "a", .text "b"])]⟩
    let more : Context := ⟨[("a b", .null), ("last", .text "?"), ("title", .text "T"),
      ("xs", .list [.text "a", .text "b"])]⟩
    (shown.Agree (Mentions listing) more ∧ execute listing shown = execute listing more) ∧
      ¬ Mentions listing "title" ∧
      execute listing (more.insert "title" .null) = execute listing more := by
  intro shown more
  have agree : shown.Agree (Mentions listing) more := by
    intro name mentioned _
    rcases mentions_listing mentioned with rfl | rfl | rfl <;> rfl
  have unseen : ¬ Mentions listing "title" := by
    intro mentioned
    have other := mentions_listing mentioned
    simp at other
  refine ⟨⟨agree, (execute_congr listing).1 shown more agree⟩, unseen, ?_⟩
  exact (execute_congr listing).2 more "title" .null fun seen => unseen seen.2

end Execution
end TemplateEngine
