import Mathlib.Data.List.Forall2
import TemplateEngine.Execution.Machine
import TemplateEngine.Proofs.Artifact.Mentions

/-!
# Frames — what a run leaves of the scopes

Whether a run succeeds or fails, it leaves as many scopes as there were, no scope loses a name, and a
name that is not assigned to keeps all its bindings. New names appear in the innermost scope alone, so a
loop, whose body runs in a scope of its own, adds none to those that stay.
-/

namespace TemplateEngine
namespace Execution

open Artifact (Expr Statement programAssigned)

variable {names more : List String}

/-! ## One scope -/

/-- The scope has lost no name, and names other than the given ones are bound as before. -/
structure ScopeFrame (names : List String) (before after : Keyed Value) : Prop where
  same : ∀ name ∉ names, Keyed.get? name after = Keyed.get? name before
  bound : ∀ name, (Keyed.get? name before).isSome → (Keyed.get? name after).isSome

/-- The same, and the scope has gained no name. -/
structure ClosedFrame (names : List String) (before after : Keyed Value) : Prop
    extends ScopeFrame names before after where
  closed : ∀ name, (Keyed.get? name after).isSome → (Keyed.get? name before).isSome

theorem ScopeFrame.refl (scope : Keyed Value) : ScopeFrame names scope scope :=
  ⟨fun _ _ => rfl, fun _ here => here⟩

theorem ScopeFrame.trans {a b c : Keyed Value} (h : ScopeFrame names a b)
    (h' : ScopeFrame names b c) : ScopeFrame names a c where
  same name free := (h'.same name free).trans (h.same name free)
  bound name here := h'.bound name (h.bound name here)

theorem ScopeFrame.mono {a b : Keyed Value} (h : ScopeFrame names a b) (sub : names ⊆ more) :
    ScopeFrame more a b where
  same name free := h.same name fun member => free (sub member)
  bound := h.bound

theorem ClosedFrame.refl (scope : Keyed Value) : ClosedFrame names scope scope :=
  ⟨.refl scope, fun _ here => here⟩

theorem ClosedFrame.trans {a b c : Keyed Value} (h : ClosedFrame names a b)
    (h' : ClosedFrame names b c) : ClosedFrame names a c :=
  ⟨h.toScopeFrame.trans h'.toScopeFrame, fun name here => h.closed name (h'.closed name here)⟩

theorem ClosedFrame.mono {a b : Keyed Value} (h : ClosedFrame names a b) (sub : names ⊆ more) :
    ClosedFrame more a b :=
  ⟨h.toScopeFrame.mono sub, h.closed⟩

/-- An insertion changes its own name only. -/
theorem scopeFrame_insert {name : String} (member : name ∈ names) (v : Value)
    (scope : Keyed Value) : ScopeFrame names scope (Keyed.insert name v scope) where
  same other free := Keyed.get?_insert_of_ne (ne_of_mem_of_not_mem member free).symm v scope
  bound other here := by
    by_cases same : other = name
    · rw [same, Keyed.get?_insert_self]
      rfl
    · rwa [Keyed.get?_insert_of_ne same]

/-- Where the name is there already no name is new. -/
theorem closedFrame_insert {name : String} (member : name ∈ names) (v : Value)
    {scope : Keyed Value} (present : (Keyed.get? name scope).isSome) :
    ClosedFrame names scope (Keyed.insert name v scope) where
  toScopeFrame := scopeFrame_insert member v scope
  closed other here := by
    by_cases same : other = name
    · rwa [same]
    · rwa [Keyed.get?_insert_of_ne same] at here

/-! ## All scopes -/

namespace Scopes

@[simp]
theorem toList_push (scopes : Scopes) : scopes.push.toList = [] :: scopes.toList := rfl

theorem toList_pop {scopes : Scopes} {scope : Keyed Value} {outer : List (Keyed Value)}
    (all : scopes.toList = scope :: outer) (more : outer ≠ []) : scopes.pop.toList = outer := by
  rcases scopes with ⟨inner, globals⟩
  cases inner with
  | nil => exact absurd (List.cons.inj all).2.symm more
  | cons first inner => exact (List.cons.inj all).2

/-- A definition is made in the innermost scope. -/
theorem toList_define (name : String) (v : Value) (scopes : Scopes) :
    ∃ scope outer, scopes.toList = scope :: outer ∧
      (scopes.define name v).toList = Keyed.insert name v scope :: outer := by
  rcases scopes with ⟨inner, globals⟩
  cases inner with
  | nil => exact ⟨globals, [], rfl, rfl⟩
  | cons scope inner => exact ⟨scope, inner ++ [globals], rfl, rfl⟩

/-- An update is made in the inner scopes if the name is there, else in the globals. -/
theorem update?_append (name : String) (v : Value) (inner : List (Keyed Value))
    (globals : Keyed Value) :
    update? name v (inner ++ [globals]) =
      match update? name v inner with
      | some inner => some (inner ++ [globals])
      | none =>
          if (Keyed.get? name globals).isSome then some (inner ++ [Keyed.insert name v globals])
          else none := by
  induction inner with
  | nil => simp [update?]
  | cons scope inner ih =>
      rw [List.cons_append, update?, update?, ih]
      split
      · rfl
      · cases update? name v inner with
        | some inner => rfl
        | none =>
            simp only [Option.map_none]
            split <;> rfl

/-- An assignment changes the innermost binding of its name, or binds it in the innermost scope. -/
theorem toList_assign (name : String) (v : Value) (scopes : Scopes) :
    (scopes.assign name v).toList =
      (update? name v scopes.toList).getD (scopes.define name v).toList := by
  rcases scopes with ⟨inner, globals⟩
  unfold assign
  simp only [toList, update?_append]
  cases update? name v inner with
  | some inner => rfl
  | none =>
      simp only
      split <;> rfl

end Scopes

/-- No scope gains a name but the innermost one, which is the first. -/
inductive Framed (names : List String) : List (Keyed Value) → List (Keyed Value) → Prop
  | intro {scope scope' : Keyed Value} {outer outer' : List (Keyed Value)}
      (innermost : ScopeFrame names scope scope')
      (others : List.Forall₂ (ClosedFrame names) outer outer') :
      Framed names (scope :: outer) (scope' :: outer')

theorem closedFrames_refl (scopes : List (Keyed Value)) :
    List.Forall₂ (ClosedFrame names) scopes scopes :=
  List.forall₂_same.2 fun scope _ => .refl scope

theorem closedFrames_trans {a b c : List (Keyed Value)} (h : List.Forall₂ (ClosedFrame names) a b)
    (h' : List.Forall₂ (ClosedFrame names) b c) : List.Forall₂ (ClosedFrame names) a c := by
  induction h generalizing c with
  | nil =>
      cases h'
      exact .nil
  | cons first _ ih =>
      cases h' with
      | cons first' rest' => exact .cons (first.trans first') (ih rest')

/-- Scopes that gain no name are framed. -/
theorem Framed.of_closed {a b : List (Keyed Value)} (h : List.Forall₂ (ClosedFrame names) a b)
    (nonempty : a ≠ []) : Framed names a b := by
  cases h with
  | nil => exact absurd rfl nonempty
  | cons first rest => exact .intro first.toScopeFrame rest

theorem Framed.refl (scopes : Scopes) : Framed names scopes.toList scopes.toList :=
  .of_closed (closedFrames_refl _) (by simp [Scopes.toList])

theorem Framed.trans {a b c : List (Keyed Value)} (h : Framed names a b) (h' : Framed names b c) :
    Framed names a c := by
  cases h with
  | intro innermost others =>
      cases h' with
      | intro innermost' others' =>
          exact .intro (innermost.trans innermost') (closedFrames_trans others others')

theorem Framed.mono {a b : List (Keyed Value)} (h : Framed names a b) (sub : names ⊆ more) :
    Framed more a b := by
  cases h with
  | intro innermost others =>
      exact .intro (innermost.mono sub) (others.imp fun _ _ frame => frame.mono sub)

/-- The frame of each scope by itself. -/
theorem Framed.forall₂ {a b : List (Keyed Value)} (h : Framed names a b) :
    List.Forall₂ (ScopeFrame names) a b := by
  cases h with
  | intro innermost others => exact .cons innermost (others.imp fun _ _ => ClosedFrame.toScopeFrame)

/-- An update adds no name. -/
theorem update?_closed {name : String} (member : name ∈ names) (v : Value)
    {scopes scopes' : List (Keyed Value)} (found : Scopes.update? name v scopes = some scopes') :
    List.Forall₂ (ClosedFrame names) scopes scopes' := by
  induction scopes generalizing scopes' with
  | nil => cases found
  | cons scope outer ih =>
      rw [Scopes.update?] at found
      split at found
      · next present =>
          cases found
          exact .cons (closedFrame_insert member v present) (closedFrames_refl outer)
      · rcases Option.map_eq_some_iff.1 found with ⟨outer', later, rfl⟩
        exact .cons (.refl scope) (ih later)

/-- A definition is framed by its name. -/
theorem framed_define {name : String} (member : name ∈ names) (v : Value) (scopes : Scopes) :
    Framed names scopes.toList (scopes.define name v).toList := by
  rcases scopes.toList_define name v with ⟨scope, outer, before, after⟩
  rw [before, after]
  exact .intro (scopeFrame_insert member v scope) (closedFrames_refl outer)

/-- So is an assignment. -/
theorem framed_assign {name : String} (member : name ∈ names) (v : Value) (scopes : Scopes) :
    Framed names scopes.toList (scopes.assign name v).toList := by
  rw [scopes.toList_assign]
  cases found : Scopes.update? name v scopes.toList with
  | some scopes' => exact .of_closed (update?_closed member v found) (by simp [Scopes.toList])
  | none => exact framed_define member v scopes

/-! ## Runs -/

/-- An iteration begins with a scope of its own. -/
theorem enter_scopes (key : Option String) (item : String) (entry : Value × Value) (m : Machine) :
    ∃ scope, (enter key item entry m).scopes.toList = scope :: m.scopes.toList := by
  cases key <;> exact ⟨_, rfl⟩

/-- A loop closes its scope after each run of its body, also where the run fails. -/
theorem loop_framed {body : Machine → Outcome}
    (framed : ∀ m, Framed names m.scopes.toList (body m).machine.scopes.toList)
    (key : Option String) (item : String) (es : List (Value × Value)) (m : Machine) :
    List.Forall₂ (ClosedFrame names) m.scopes.toList
      (loop (enter key item) body es m).machine.scopes.toList := by
  induction es generalizing m with
  | nil => exact closedFrames_refl _
  | cons entry es ih =>
      rcases enter_scopes key item entry m with ⟨scope, entered⟩
      have ran := framed (enter key item entry m)
      rw [entered] at ran
      generalize after : (body (enter key item entry m)).machine.scopes.toList = scopes at ran
      cases ran with
      | @intro _ scope' _ outer' _ others =>
          have left : List.Forall₂ (ClosedFrame names) m.scopes.toList
              ((body (enter key item entry m)).machine.onScopes Scopes.pop).scopes.toList := by
            -- There are outer scopes, the one of the globals at least, so closing takes one away.
            have more : outer' ≠ [] := by
              rintro rfl
              have none := List.forall₂_nil_right_iff.1 others
              simp [Scopes.toList] at none
            rw [Machine.onScopes, Scopes.toList_pop after more]
            exact others
          rw [loop]
          cases (body (enter key item entry m)).error with
          | some e => exact left
          | none => exact closedFrames_trans left (ih _)

/-- Echoing leaves the scopes alone. -/
theorem echo_scopes (values : List Expr) (m : Machine) :
    (echo values m).machine.scopes = m.scopes := by
  induction values generalizing m with
  | nil => rfl
  | cons e es ih =>
      rw [echo]
      cases eval m.scopes e with
      | error x => rfl
      | ok v => exact ih _

mutual

/-- What a statement leaves of the scopes. -/
theorem exec_framed (s : Statement) (m : Machine) :
    Framed s.assigned m.scopes.toList (exec s m).machine.scopes.toList := by
  cases s with
  | text s => exact .refl _
  | echo values =>
      rw [exec, echo_scopes]
      exact .refl _
  | assign name value =>
      rw [exec]
      cases eval m.scopes value with
      | error e => exact .refl _
      | ok v => exact framed_assign (by simp [Statement.assigned]) v m.scopes
  | ifThen condition body =>
      rw [exec]
      cases eval m.scopes condition with
      | error e => exact .refl _
      | ok v =>
          simp only
          split
          · exact execAll_framed body m
          · exact .refl _
  | ifElse condition body otherwise =>
      rw [exec]
      cases eval m.scopes condition with
      | error e => exact .refl _
      | ok v =>
          simp only
          split
          · exact (execAll_framed body m).mono (by simp [Statement.assigned])
          · exact (execAll_framed otherwise m).mono (by simp [Statement.assigned])
  -- A loop adds nothing that is left when it is over, which is more than being framed.
  | forEach key item source body =>
      exact .of_closed (forEach_closed key item source body m) (by simp [Scopes.toList])
  | eval e =>
      rw [exec]
      cases eval m.scopes e <;> exact .refl _

/-- A loop leaves every scope with the names that it had. -/
theorem forEach_closed (key : Option String) (item : String) (source : Expr)
    (body : List Statement) (m : Machine) :
    List.Forall₂ (ClosedFrame (programAssigned body)) m.scopes.toList
      (exec (.forEach key item source body) m).machine.scopes.toList := by
  rw [exec]
  cases eval m.scopes source with
  | error e => exact closedFrames_refl _
  | ok v =>
      simp only
      cases entries v with
      | error e => exact closedFrames_refl _
      | ok es => exact loop_framed (execAll_framed body) key item es m

/-- What some statements leave of the scopes. -/
theorem execAll_framed (statements : List Statement) (m : Machine) :
    Framed (programAssigned statements) m.scopes.toList
      (execAll statements m).machine.scopes.toList := by
  cases statements with
  | nil => exact .refl _
  | cons s rest =>
      have first : Framed (programAssigned (s :: rest)) m.scopes.toList
          (exec s m).machine.scopes.toList :=
        (exec_framed s m).mono (by simp [programAssigned])
      rw [execAll]
      cases (exec s m).error with
      | some e => exact first
      | none =>
          exact first.trans ((execAll_framed rest _).mono (by simp [programAssigned]))

end

/-! ## Bindings -/

/-- The binding of a name in one scope, counted from the innermost. -/
def Scopes.binding? (scopes : Scopes) (i : Nat) (name : String) : Option Value :=
  scopes.toList[i]?.bind (Keyed.get? name)

/-- What holds scope by scope holds of the bindings at each position. -/
theorem binding?_of_forall₂ {R : Keyed Value → Keyed Value → Prop} {before after : Scopes}
    (h : List.Forall₂ R before.toList after.toList) (i : Nat) :
    (∀ name, before.binding? i name = none ∧ after.binding? i name = none) ∨
      ∃ scope scope', R scope scope' ∧ ∀ name, before.binding? i name = Keyed.get? name scope ∧
        after.binding? i name = Keyed.get? name scope' := by
  have same := h.length_eq
  by_cases inside : i < before.toList.length
  · have inside' : i < after.toList.length := same ▸ inside
    refine .inr ⟨before.toList[i], after.toList[i], h.get inside inside', ?_⟩
    intro name
    simp [Scopes.binding?, inside, inside']
  · have outside' : ¬ i < after.toList.length := same ▸ inside
    left
    intro name
    simp only [Nat.not_lt] at inside outside'
    simp [Scopes.binding?, inside, outside']

/-- Scopes that agree on a name one by one agree on what it is bound to. -/
theorem findSome?_of_forall₂ {R : Keyed Value → Keyed Value → Prop} {name : String}
    (same : ∀ {scope scope'}, R scope scope' → Keyed.get? name scope' = Keyed.get? name scope)
    {before after : List (Keyed Value)} (h : List.Forall₂ R before after) :
    after.findSome? (Keyed.get? name) = before.findSome? (Keyed.get? name) := by
  induction h with
  | nil => rfl
  | cons first _ ih => rw [List.findSome?_cons, List.findSome?_cons, same first, ih]

/-- Some statements, whether they succeed or fail, leave as many scopes as there were. In each of them a
name that they do not assign to is bound as before and no name is lost; a loop by itself adds none. So
the value of a name that is not assigned to stays. -/
theorem execAll_keeps_bindings (statements : List Statement) (m : Machine) :
    let left := (execAll statements m).machine.scopes
    left.toList.length = m.scopes.toList.length ∧
      (∀ i, ∀ name ∉ programAssigned statements, left.binding? i name = m.scopes.binding? i name) ∧
      (∀ i name, (m.scopes.binding? i name).isSome → (left.binding? i name).isSome) ∧
      (∀ key item source body, statements = [.forEach key item source body] →
        ∀ i name, (left.binding? i name).isSome → (m.scopes.binding? i name).isSome) ∧
      ∀ name ∉ programAssigned statements, left.get? name = m.scopes.get? name := by
  intro left
  have frames := (execAll_framed statements m).forall₂
  refine ⟨frames.length_eq.symm, ?_, ?_, ?_, ?_⟩
  · intro i name free
    rcases binding?_of_forall₂ frames i with none | ⟨scope, scope', frame, bindings⟩
    · exact (none name).2.trans (none name).1.symm
    · exact (bindings name).2.trans ((frame.same name free).trans (bindings name).1.symm)
  · intro i name present
    rcases binding?_of_forall₂ frames i with none | ⟨scope, scope', frame, bindings⟩
    · simp [none name] at present
    · rw [(bindings name).1] at present
      rw [(bindings name).2]
      exact frame.bound name present
  · rintro key item source body rfl i name present
    -- A program of one loop does what the loop does.
    have ran : left = (exec (.forEach key item source body) m).machine.scopes := by
      simp only [left, execAll]
      split <;> rfl
    have closed := forEach_closed key item source body m
    rw [← ran] at closed
    rcases binding?_of_forall₂ closed i with none | ⟨scope, scope', frame, bindings⟩
    · simp [none name] at present
    · rw [(bindings name).2] at present
      rw [(bindings name).1]
      exact frame.closed name present
  · intro name free
    exact findSome?_of_forall₂ (fun frame => frame.same name free) frames

/-- A loop that fails leaves neither its names nor those first bound in its body. -/
example : (execAll
    [.forEach (some "k") "v" (.list [.text "a"])
      [.assign "n" (.var "v"), .assign "v" (.text "b"), .eval (.unary .neg (.var "v"))]]
    ⟨⟨[], [("v", .null)]⟩, ""⟩).machine.scopes = ⟨[], [("v", .null)]⟩ := by
  rfl

end Execution
end TemplateEngine
