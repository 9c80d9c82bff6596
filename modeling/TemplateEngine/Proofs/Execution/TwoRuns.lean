import TemplateEngine.Execution.Machine
import TemplateEngine.Proofs.Artifact.Mentions

/-!
# Two runs side by side

A relation of machines under which the names of a program are bound alike, and which is kept by output,
by assignments to those names and by opening and closing scopes, is kept by the whole run of the
program, and both runs fail with the same error or both succeed.
-/

namespace TemplateEngine
namespace Execution

open Artifact (Expr Statement exprsMentioned programMentioned)

/-! ## Expressions -/

mutual

/-- An expression sees the names that it mentions and nothing else of the scopes. -/
theorem eval_congr {scopes scopes' : Scopes} (e : Expr)
    (same : ∀ name ∈ e.mentioned, scopes.get? name = scopes'.get? name) :
    eval scopes e = eval scopes' e := by
  cases e with
  | var name => rw [eval, eval, same name (by simp [Expr.mentioned])]
  | number d => rfl
  | text s => rfl
  | boolean b => rfl
  | null => rfl
  | list items => rw [eval, eval, evalAll_congr items same]
  | binary op left right =>
      rcases List.forall_mem_append.1 same with ⟨inLeft, inRight⟩
      rw [eval, eval, eval_congr left inLeft, eval_congr right inRight]
  | unary op operand => rw [eval, eval, eval_congr operand same]
  | call name args => rw [eval, eval, evalAll_congr args same]
  | member object field => rw [eval, eval, eval_congr object same]
  | index object position =>
      rcases List.forall_mem_append.1 same with ⟨inObject, inPosition⟩
      rw [eval, eval, eval_congr object inObject, eval_congr position inPosition]

/-- The same for some expressions. -/
theorem evalAll_congr {scopes scopes' : Scopes} (es : List Expr)
    (same : ∀ name ∈ exprsMentioned es, scopes.get? name = scopes'.get? name) :
    evalAll scopes es = evalAll scopes' es := by
  cases es with
  | nil => rfl
  | cons e es =>
      rcases List.forall_mem_append.1 same with ⟨inFirst, inRest⟩
      rw [evalAll, evalAll, eval_congr e inFirst, evalAll_congr es inRest]

end

/-! ## Machines -/

/-- Related machines bind the given names alike, and stay related whatever a program with only these
names does to both. -/
structure Indistinct (names : String → Prop) (R : Machine → Machine → Prop) : Prop where
  get? : ∀ {m m' name}, R m m' → names name → m.scopes.get? name = m'.scopes.get? name
  emit : ∀ {m m'} text, R m m' → R (m.emit text) (m'.emit text)
  define : ∀ {m m' name} v, R m m' → names name →
    R (m.onScopes (Scopes.define name v)) (m'.onScopes (Scopes.define name v))
  assign : ∀ {m m' name} v, R m m' → names name →
    R (m.onScopes (Scopes.assign name v)) (m'.onScopes (Scopes.assign name v))
  push : ∀ {m m'}, R m m' → R (m.onScopes Scopes.push) (m'.onScopes Scopes.push)
  pop : ∀ {m m'}, R m m' → R (m.onScopes Scopes.pop) (m'.onScopes Scopes.pop)

/-- Related machines, and the same error or none. -/
structure Outcome.Match (R : Machine → Machine → Prop) (ran ran' : Outcome) : Prop where
  machine : R ran.machine ran'.machine
  error : ran.error = ran'.error

variable {names : String → Prop} {R : Machine → Machine → Prop} {m m' : Machine}

/-- Indistinct machines evaluate an expression alike. -/
theorem Indistinct.eval (h : Indistinct names R) (related : R m m') {e : Expr}
    (only : ∀ name ∈ e.mentioned, names name) :
    Execution.eval m.scopes e = Execution.eval m'.scopes e :=
  eval_congr e fun name member => h.get? related (only name member)

/-- They begin an iteration alike. -/
theorem Indistinct.enter (h : Indistinct names R) (related : R m m') {key : Option String}
    {item : String} (keyNamed : ∀ name ∈ key, names name) (itemNamed : names item)
    (entry : Value × Value) : R (enter key item entry m) (enter key item entry m') := by
  cases key with
  | none => exact h.define entry.2 (h.push related) itemNamed
  | some name =>
      exact h.define entry.2 (h.define entry.1 (h.push related) (keyNamed name rfl)) itemNamed

/-- Loops of indistinct runs are indistinct. -/
theorem Indistinct.loop (h : Indistinct names R) {start : Value × Value → Machine → Machine}
    {body : Machine → Outcome}
    (starts : ∀ entry {m m'}, R m m' → R (start entry m) (start entry m'))
    (runs : ∀ {m m'}, R m m' → Outcome.Match R (body m) (body m'))
    (es : List (Value × Value)) (related : R m m') :
    Outcome.Match R (loop start body es m) (loop start body es m') := by
  induction es generalizing m m' with
  | nil => exact ⟨related, rfl⟩
  | cons entry es ih =>
      have ran := runs (starts entry related)
      have left := h.pop ran.machine
      rw [Execution.loop, Execution.loop, ran.error]
      cases (body (start entry m')).error with
      | some e => exact ⟨left, rfl⟩
      | none => exact ih left

/-- So is echoing. -/
theorem Indistinct.echo (h : Indistinct names R) {values : List Expr}
    (only : ∀ name ∈ exprsMentioned values, names name) (related : R m m') :
    Outcome.Match R (echo values m) (echo values m') := by
  induction values generalizing m m' with
  | nil => exact ⟨related, rfl⟩
  | cons e es ih =>
      rcases List.forall_mem_append.1 only with ⟨inFirst, inRest⟩
      rw [Execution.echo, Execution.echo, h.eval related inFirst]
      cases Execution.eval m'.scopes e with
      | error x => exact ⟨related, rfl⟩
      | ok v => exact ih inRest (h.emit v.toText related)

mutual

/-- A statement that mentions only the given names keeps the relation. -/
theorem Indistinct.exec (h : Indistinct names R) (s : Statement) {m m' : Machine}
    (only : ∀ name ∈ s.mentioned, names name) (related : R m m') :
    Outcome.Match R (exec s m) (exec s m') := by
  cases s with
  | text s => exact ⟨h.emit s related, rfl⟩
  | echo values => exact h.echo only related
  | assign name value =>
      rcases List.forall_mem_cons.1 only with ⟨target, inValue⟩
      rw [Execution.exec, Execution.exec, h.eval related inValue]
      cases Execution.eval m'.scopes value with
      | error e => exact ⟨related, rfl⟩
      | ok v => exact ⟨h.assign v related target, rfl⟩
  | ifThen condition body =>
      rcases List.forall_mem_append.1 only with ⟨inCondition, inBody⟩
      rw [Execution.exec, Execution.exec, h.eval related inCondition]
      cases Execution.eval m'.scopes condition with
      | error e => exact ⟨related, rfl⟩
      | ok v =>
          simp only
          split
          · exact h.execAll body inBody related
          · exact ⟨related, rfl⟩
  | ifElse condition body otherwise =>
      rcases List.forall_mem_append.1 only with ⟨inCondition, branches⟩
      rcases List.forall_mem_append.1 branches with ⟨inBody, inOtherwise⟩
      rw [Execution.exec, Execution.exec, h.eval related inCondition]
      cases Execution.eval m'.scopes condition with
      | error e => exact ⟨related, rfl⟩
      | ok v =>
          simp only
          split
          · exact h.execAll body inBody related
          · exact h.execAll otherwise inOtherwise related
  | forEach key item source body =>
      rcases List.forall_mem_append.1 only with ⟨inKey, others⟩
      rcases List.forall_mem_cons.1 others with ⟨inItem, parts⟩
      rcases List.forall_mem_append.1 parts with ⟨inSource, inBody⟩
      rw [Execution.exec, Execution.exec, h.eval related inSource]
      cases Execution.eval m'.scopes source with
      | error e => exact ⟨related, rfl⟩
      | ok v =>
          simp only
          cases entries v with
          | error e => exact ⟨related, rfl⟩
          | ok es =>
              -- On both sides the names of the loop are bound in a scope of its own.
              refine h.loop ?_ (h.execAll body inBody) es related
              intro entry m m' related
              exact h.enter related (fun name named => inKey name (by simpa using named)) inItem entry
  | eval e =>
      rw [Execution.exec, Execution.exec, h.eval related only]
      cases Execution.eval m'.scopes e <;> exact ⟨related, rfl⟩

/-- The same for some statements. -/
theorem Indistinct.execAll (h : Indistinct names R) (statements : List Statement) {m m' : Machine}
    (only : ∀ name ∈ programMentioned statements, names name) (related : R m m') :
    Outcome.Match R (execAll statements m) (execAll statements m') := by
  cases statements with
  | nil => exact ⟨related, rfl⟩
  | cons s rest =>
      rcases List.forall_mem_append.1 only with ⟨inFirst, inRest⟩
      have first := h.exec s inFirst related
      rw [Execution.execAll, Execution.execAll, first.error]
      cases (Execution.exec s m').error with
      | some e => exact ⟨first.machine, rfl⟩
      | none => exact h.execAll rest inRest first.machine

end

end Execution
end TemplateEngine
