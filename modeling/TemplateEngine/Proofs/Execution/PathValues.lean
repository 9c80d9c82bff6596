import TemplateEngine.Execution.Run
import TemplateEngine.Proofs.Artifact.Spelling
import TemplateEngine.Proofs.Directive.PathText

/-!
# Values of data paths

A machine that starts with a context finds in it every name that a template can mention. There the
expression of a path has the value at the path, and the program of a template of paths writes what the
template shows; neither fails, whatever the data is.
-/

namespace TemplateEngine
namespace Execution

open Artifact (Expr Statement)
open Directive (PathStep DataPath Prose PathParts PathTemplate)

/-! ## Data in scope -/

/-- A variable is bound if it is a name and not bound already. -/
theorem bindGlobals_cons (globals : Keyed Value) (name : String) (value : Value)
    (vars : List (String × Value)) :
    Scopes.bindGlobals globals ((name, value) :: vars) =
      Scopes.bindGlobals (if Text.isName name.toList && (Keyed.get? name globals).isNone then
        Keyed.insert name value globals else globals) vars := rfl

/-- A name keeps the value that it has, and of its new values it takes the first. -/
theorem get?_bindGlobals {name : String} (isName : Text.isName name.toList = true)
    (vars : List (String × Value)) (globals : Keyed Value) :
    Keyed.get? name (Scopes.bindGlobals globals vars) =
      (Keyed.get? name globals).or (Keyed.get? name vars) := by
  induction vars generalizing globals with
  | nil => simp [Scopes.bindGlobals]
  | cons var vars ih =>
      rcases var with ⟨other, value⟩
      rw [bindGlobals_cons, ih]
      by_cases same : other = name
      · subst same
        cases bound : Keyed.get? other globals with
        | none => simp [isName, Keyed.get?_cons, Keyed.get?_insert_self]
        | some v => simp [bound]
      · have kept : Keyed.get? name (Keyed.insert other value globals) = Keyed.get? name globals :=
          Keyed.get?_insert_of_ne (Ne.symm same) value globals
        have passed : Keyed.get? name ((other, value) :: vars) = Keyed.get? name vars := by
          simp [Keyed.get?_cons, same]
        rw [passed]
        split
        · rw [kept]
        · rfl

/-- A machine that starts with a context has the values of the context. -/
theorem get?_ofContext {name : String} (isName : Text.isName name.toList = true)
    (context : Context) : (Machine.ofContext context).scopes.get? name = context.get? name := by
  have found := get?_bindGlobals isName context.vars []
  simpa [Machine.ofContext, Scopes.bind, Scopes.get?, Scopes.toList, Context.get?] using found

/-! ## Members and items -/

/-- A name is not a position. -/
theorem position?_name {word : String} (isName : Text.isName word.toList = true) :
    position? word = none := by
  cases chars : word.toList with
  | nil => simp [chars, Text.isName] at isName
  | cons c cs =>
      rw [chars] at isName
      have start : Text.isNameStart c = true := (Bool.and_eq_true_iff.1 isName).1
      have notPlus : c ≠ '+' := Text.ne_of_class start (by decide)
      have notDigit := Text.not_isDigit_of_isNameStart start
      simp [position?, chars, notPlus, notDigit]

/-- A numeral is one. -/
theorem position?_digits {n : Nat} (le : n ≤ maxPosition) :
    position? (String.ofList (Decimal.digits n)) = some n := by
  have value := Decimal.digitsValue_digits n
  have all : (Decimal.digits n).all Char.isDigit = true :=
    List.all_eq_true.2 fun c member => Decimal.isDigit_of_mem_digits member
  rcases Artifact.digits_cons n with ⟨d, ds, digits, digit⟩
  have notPlus : d ≠ '+' := Text.ne_of_class digit (by decide)
  rw [digits] at value
  rw [digits] at all
  unfold position?
  rw [String.toList_ofList, digits]
  split
  · next rest plus => exact absurd (List.cons.inj plus).1 notPlus
  · simp only [List.isEmpty_cons, all, value, le, Bool.not_false, Bool.and_self, if_true]

/-- A member is taken as the data is: by its name, or by its position. -/
theorem access_step (step : PathStep) (v : Value) : access v step.text = step.take v := by
  cases v with
  | list items =>
      cases step with
      | name word isName => simp [access, PathStep.text, PathStep.take, position?_name isName]
      | position n small =>
          have le : n ≤ maxPosition := by
            have top : Nat.pow 2 53 ≤ maxPosition := by decide
            exact Nat.le_trans (Nat.le_of_lt small) top
          simp [access, PathStep.text, PathStep.take, position?_digits le, Value.item]
  | object members => simp [access, PathStep.take, Value.member]
  | _ => simp [access, PathStep.take, Value.member]

/-- Members are taken one by one. -/
theorem eval_steps {scopes : Scopes} {e : Expr} {v : Value} (steps : List PathStep)
    (here : eval scopes e = .ok v) :
    eval scopes (steps.foldl (fun e step => .member e step.text) e) =
      .ok (steps.foldl (fun v step => step.take v) v) := by
  induction steps generalizing e v with
  | nil => exact here
  | cons step steps ih =>
      apply ih
      simp [eval, here, Except.map, access_step]

/-- The expression of a path has the value at the path. -/
theorem eval_path (path : DataPath) {context : Context} {m : Machine}
    (start : m.scopes = (Machine.ofContext context).scopes) :
    eval m.scopes path.expr = .ok (path.value context) := by
  apply eval_steps
  simp [eval, start, get?_ofContext path.isName]

/-! ## Output -/

@[simp]
theorem emit_scopes (text : String) (m : Machine) : (m.emit text).scopes = m.scopes := rfl

@[simp]
theorem emit_emit (text more : String) (m : Machine) :
    (m.emit text).emit more = m.emit (text ++ more) := by
  simp [Machine.emit, String.append_assoc]

@[simp]
theorem emit_empty (m : Machine) : m.emit "" = m := by
  simp [Machine.emit]

/-- Goes on with the machine that a run left, unless it failed. -/
def Outcome.andThen (ran : Outcome) (next : Machine → Outcome) : Outcome :=
  match ran.error with
  | some e => ⟨ran.machine, some e⟩
  | none => next ran.machine

/-- A program runs its front and then the rest. -/
theorem execAll_append_eq (first second : List Statement) (m : Machine) :
    execAll (first ++ second) m = (execAll first m).andThen (execAll second) := by
  induction first generalizing m with
  | nil => rfl
  | cons s first ih =>
      rw [List.cons_append, execAll, execAll]
      cases (exec s m).error with
      | some e => rfl
      | none => exact ih _

theorem execAll_append {first second : List Statement} {m left : Machine}
    (ran : execAll first m = ⟨left, none⟩) :
    execAll (first ++ second) m = execAll second left := by
  rw [execAll_append_eq, ran]
  rfl

/-- Prose writes itself. -/
theorem execAll_prose (prose : Prose) (m : Machine) :
    execAll prose.statements m = ⟨m.emit (String.ofList prose.chars), none⟩ := by
  unfold Prose.statements
  split
  · next empty => simp [empty, execAll]
  · simp [execAll, exec]

/-- Interpolations and prose are written in order, and nothing else changes. -/
theorem execAll_pathParts {context : Context} (parts : PathParts) {m : Machine}
    (start : m.scopes = (Machine.ofContext context).scopes) :
    execAll (Directive.pathPartStatements parts) m =
      ⟨m.emit (String.ofList (Directive.pathPartOutput context parts)), none⟩ := by
  induction parts generalizing m with
  | nil => simp [Directive.pathPartStatements, Directive.pathPartOutput, execAll]
  | cons part parts ih =>
      rcases part with ⟨interpolation, prose⟩
      let shown := (interpolation.path.value context).toText
      have echoed : execAll [.echo [interpolation.path.expr]] m = ⟨m.emit shown, none⟩ := by
        simp [execAll, exec, echo, eval_path interpolation.path start, shown]
      have first := (execAll_append echoed).trans (execAll_prose prose (m.emit shown))
      have rest := ih (m := (m.emit shown).emit (String.ofList prose.chars)) start
      have split : Directive.pathPartStatements ((interpolation, prose) :: parts) =
          ([.echo [interpolation.path.expr]] ++ prose.statements) ++
            Directive.pathPartStatements parts := by
        simp [Directive.pathPartStatements]
      rw [split, execAll_append first, rest]
      simp [Directive.pathPartOutput, shown, String.append_assoc]

/-- The program of a template of paths writes what the template shows. -/
theorem runProgram_template (template : PathTemplate) (context : Context) :
    ((Machine.ofContext context).runProgram template.program).1 =
      .ok (template.output context) := by
  have first := execAll_prose template.first (Machine.ofContext context)
  have rest := @execAll_pathParts context template.parts
    ((Machine.ofContext context).emit (String.ofList template.first.chars)) rfl
  have ran := (execAll_append first).trans rest
  unfold Machine.runProgram
  rw [PathTemplate.program, ran]
  simp [PathTemplate.output, Machine.emit, Machine.ofContext]

end Execution
end TemplateEngine
