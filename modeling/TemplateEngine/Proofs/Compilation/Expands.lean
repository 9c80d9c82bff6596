import TemplateEngine.Compilation.Expansion

/-!
# Expands — include expansion as a relation

The rules by which a template, or the rest of one, comes to its expanded text or to an error. The
relation has the depth limit as an option, so that expansion without a limit can be spoken of; that a
result exists under any limit is a theorem here and not built into a definition.
-/

namespace TemplateEngine
namespace Compilation

open Text (Piece)

abbrev Outcome := Except CompileError (List Char)

inductive Task
  | template (path : String)
  /-- The pieces of the template at a path from some piece on. -/
  | pieces (current : String) (rest : List (Piece (List Char)))

/-- Some templates may be open under a limit. -/
def Within (limit : Option Nat) (opened : List String) : Prop :=
  ∀ d ∈ limit, opened.length ≤ d

/-- With some templates open and some visited, a task comes to an outcome and more are visited. -/
inductive Expands (files : Files) (limit : Option Nat) :
    List String → Task → List String → Outcome → List String → Prop
  | cycle {opened visited path} (again : files.identity path ∈ opened) :
      Expands files limit opened (.template path) visited
        (.error (.includeCycle (opened ++ [files.identity path]))) visited
  | tooDeep {opened visited path d} (fresh : files.identity path ∉ opened) (limited : limit = some d)
      (deep : d < opened.length) :
      Expands files limit opened (.template path) visited
        (.error (.includeDepthExceeded path d)) visited
  | unreadable {opened visited path e} (fresh : files.identity path ∉ opened)
      (within : Within limit opened) (failed : files.read path = .error e) :
      Expands files limit opened (.template path) visited (.error (.sourceNotFound path e)) visited
  | template {opened visited path text outcome visited'} (fresh : files.identity path ∉ opened)
      (within : Within limit opened) (readable : files.read path = .ok text)
      (inside : Expands files limit (opened ++ [files.identity path])
        (.pieces path (Directive.includes text)) (visit (files.identity path) visited) outcome
        visited') :
      Expands files limit opened (.template path) visited outcome visited'
  | done {opened visited current} :
      Expands files limit opened (.pieces current []) visited (.ok []) visited
  | plain {opened visited current c rest outcome visited'}
      (follow : Expands files limit opened (.pieces current rest) visited outcome visited') :
      Expands files limit opened (.pieces current (.plain c :: rest)) visited
        (outcome.map (c :: ·)) visited'
  | dropped {opened visited current name rest outcome visited'}
      (nameless : (includeTarget name).isEmpty = true)
      (follow : Expands files limit opened (.pieces current rest) visited outcome visited') :
      Expands files limit opened (.pieces current (.found name :: rest)) visited outcome visited'
  | failed {opened visited current name rest e visited'}
      (named : (includeTarget name).isEmpty = false)
      (inside : Expands files limit opened
        (.template (locate files current (includeTarget name))) visited (.error e) visited') :
      Expands files limit opened (.pieces current (.found name :: rest)) visited (.error e) visited'
  | included {opened visited current name rest text outcome visited' visited''}
      (named : (includeTarget name).isEmpty = false)
      (inside : Expands files limit opened
        (.template (locate files current (includeTarget name))) visited (.ok text) visited')
      (follow : Expands files limit opened (.pieces current rest) visited' outcome visited'') :
      Expands files limit opened (.pieces current (.found name :: rest)) visited
        (outcome.map (text ++ ·)) visited''

variable {files : Files} {limit : Option Nat}

theorem eq_error_of_map {outcome : Outcome} {f : List Char → List Char} {e : CompileError}
    (h : outcome.map f = .error e) : outcome = .error e := by
  cases outcome with
  | error e' =>
      cases h
      rfl
  | ok text => cases h

theorem eq_ok_of_map {outcome : Outcome} {f : List Char → List Char}
    (h : ∃ text, outcome.map f = .ok text) : ∃ text, outcome = .ok text := by
  rcases h with ⟨text, eq⟩
  cases outcome with
  | error e => cases eq
  | ok text' => exact ⟨text', rfl⟩

/-- Characters between includes are expanded to themselves. -/
theorem expands_plain {opened visited : List String} {current : String}
    (cs : List Char) :
    Expands files limit opened (.pieces current (cs.map .plain)) visited (.ok cs) visited := by
  induction cs with
  | nil => exact .done
  | cons c cs ih => exact .plain ih

/-- A target that is a file beside the current template is that file. -/
theorem locate_beside {current target dir : String} {content : Content} {time mode : Nat}
    (relative : Path.isAbsolute target = false) (parent : Path.parent? current = some dir)
    (there : files.at? (Path.join dir target) = some (.file content time mode)) :
    locate files current target = Path.join dir target := by
  simp [locate, relative, parent, Files.isFile, there]

/-! ## Every task has an outcome -/

/-- Pieces have an outcome if all templates that they include have one. -/
theorem exists_expands_pieces {opened : List String}
    (templates : ∀ path visited, ∃ outcome visited',
      Expands files limit opened (.template path) visited outcome visited')
    (current : String) (rest : List (Piece (List Char))) (visited : List String) :
    ∃ outcome visited',
      Expands files limit opened (.pieces current rest) visited outcome visited' := by
  induction rest generalizing visited with
  | nil => exact ⟨_, _, .done⟩
  | cons piece rest ih =>
      cases piece with
      | plain c =>
          rcases ih visited with ⟨outcome, visited', follow⟩
          exact ⟨_, _, .plain follow⟩
      | found name =>
          cases nameless : (includeTarget name).isEmpty with
          | true =>
              rcases ih visited with ⟨outcome, visited', follow⟩
              exact ⟨_, _, .dropped nameless follow⟩
          | false =>
              rcases templates (locate files current (includeTarget name)) visited with
                ⟨outcome, visited', inside⟩
              cases outcome with
              | error e => exact ⟨_, _, .failed nameless inside⟩
              | ok text =>
                  rcases ih visited' with ⟨outcome, visited'', follow⟩
                  exact ⟨_, _, .included nameless inside follow⟩

/-- Only a limit can be exceeded. -/
theorem not_within {opened : List String} (h : ¬ Within limit opened) :
    ∃ d, limit = some d ∧ d < opened.length := by
  cases limit with
  | none => exact absurd (fun d none => absurd none (by simp)) h
  | some d =>
      refine ⟨d, rfl, Nat.lt_of_not_le fun le => h ?_⟩
      intro d' same
      cases same
      exact le

/-- Expansion ends under any limit and under none: each template opened leaves fewer identities that
are not open. -/
theorem exists_expands_template (opened : List String) (path : String) (visited : List String) :
    ∃ outcome visited',
      Expands files limit opened (.template path) visited outcome visited' := by
  -- The induction is on the number of identities that are not open.
  induction left : unopened files opened using Nat.strongRecOn generalizing opened path visited with
  | _ n ih =>
      by_cases again : files.identity path ∈ opened
      · exact ⟨_, _, .cycle again⟩
      by_cases within : Within limit opened
      · cases readable : files.read path with
        | error e => exact ⟨_, _, .unreadable again within readable⟩
        | ok text =>
            -- Inside the template its own identity is open, which it was not before.
            have fewer := unopened_lt again readable
            rw [left] at fewer
            have templates := fun next visited =>
              ih _ fewer (opened ++ [files.identity path]) next visited rfl
            rcases exists_expands_pieces templates path (Directive.includes text)
              (visit (files.identity path) visited) with ⟨outcome, visited', inside⟩
            exact ⟨_, _, .template again within readable inside⟩
      · rcases not_within within with ⟨d, limited, deep⟩
        exact ⟨_, _, .tooDeep again limited deep⟩

/-! ## An outcome is the only one -/

/-- A task has one outcome only. -/
theorem Expands.unique {opened : List String} {task : Task} {visited : List String}
    {outcome outcome' : Outcome} {after after' : List String}
    (h : Expands files limit opened task visited outcome after)
    (h' : Expands files limit opened task visited outcome' after') :
    outcome' = outcome ∧ after' = after := by
  -- The rules of a template exclude one another by whether it is open, how deep it is and whether
  -- it can be read; those of pieces by the first piece and by how the include in it ends.
  induction h generalizing outcome' after' with
  | cycle again =>
      cases h' with
      | cycle _ => exact ⟨rfl, rfl⟩
      | tooDeep fresh _ _ => exact absurd again fresh
      | unreadable fresh _ _ => exact absurd again fresh
      | template fresh _ _ _ => exact absurd again fresh
  | tooDeep fresh limited deep =>
      cases h' with
      | cycle again => exact absurd again fresh
      | tooDeep _ limited' _ =>
          rw [limited] at limited'
          cases limited'
          exact ⟨rfl, rfl⟩
      | unreadable _ within _ => exact absurd (within _ limited) (Nat.not_le_of_lt deep)
      | template _ within _ _ => exact absurd (within _ limited) (Nat.not_le_of_lt deep)
  | unreadable fresh within failed =>
      cases h' with
      | cycle again => exact absurd again fresh
      | tooDeep _ limited deep => exact absurd (within _ limited) (Nat.not_le_of_lt deep)
      | unreadable _ _ failed' =>
          rw [failed] at failed'
          cases failed'
          exact ⟨rfl, rfl⟩
      | template _ _ readable _ =>
          rw [failed] at readable
          cases readable
  | template fresh within readable _ ih =>
      cases h' with
      | cycle again => exact absurd again fresh
      | tooDeep _ limited deep => exact absurd (within _ limited) (Nat.not_le_of_lt deep)
      | unreadable _ _ failed =>
          rw [readable] at failed
          cases failed
      | template _ _ readable' inside =>
          rw [readable] at readable'
          cases readable'
          exact ih inside
  | done =>
      cases h'
      exact ⟨rfl, rfl⟩
  | plain _ ih =>
      cases h' with
      | plain follow =>
          rcases ih follow with ⟨rfl, rfl⟩
          exact ⟨rfl, rfl⟩
  | dropped nameless _ ih =>
      cases h' with
      | dropped _ follow => exact ih follow
      | failed named _ => simp [nameless] at named
      | included named _ _ => simp [nameless] at named
  | failed named _ ih =>
      cases h' with
      | dropped nameless _ => simp [nameless] at named
      | failed _ inside =>
          rcases ih inside with ⟨same, rfl⟩
          exact ⟨same, rfl⟩
      | included _ inside _ => cases (ih inside).1
  | included named _ _ ihInside ihFollow =>
      cases h' with
      | dropped nameless _ => simp [nameless] at named
      | failed _ inside => cases (ihInside inside).1
      | included _ inside follow =>
          rcases ihInside inside with ⟨same, rfl⟩
          cases same
          rcases ihFollow follow with ⟨rfl, rfl⟩
          exact ⟨rfl, rfl⟩

/-! ## The expansion that runs -/

def Task.run (files : Files) (limit : Nat) (opened : List String) (visited : List String) :
    Task → Outcome × List String
  | .template path => expandTemplate files limit opened path visited
  | .pieces current rest => expandPieces files limit opened current rest visited

/-- The program gives the outcome of a task under its limit. -/
theorem Expands.run_eq {d : Nat} {opened : List String} {task : Task} {visited : List String}
    {outcome : Outcome} {after : List String}
    (h : Expands files (some d) opened task visited outcome after) :
    task.run files d opened visited = (outcome, after) := by
  -- The induction is on the rules; each rule is one branch of the function.
  induction h with
  | cycle again => simp [Task.run, expandTemplate, again]
  | tooDeep fresh limited deep =>
      cases limited
      simp [Task.run, expandTemplate, fresh, deep]
  | unreadable fresh within failed =>
      have shallow := Nat.not_lt_of_le (within d rfl)
      rw [Task.run, expandTemplate]
      simp only [fresh, shallow, dif_neg, if_neg, not_false_eq_true]
      split <;> simp_all
  | template fresh within readable _ ih =>
      have shallow := Nat.not_lt_of_le (within d rfl)
      rw [Task.run, expandTemplate]
      simp only [fresh, shallow, dif_neg, if_neg, not_false_eq_true]
      split <;> simp_all [Task.run]
  | done => simp [Task.run, expandPieces]
  | plain _ ih =>
      simp only [Task.run] at ih ⊢
      simp [expandPieces, ih]
  | dropped nameless _ ih =>
      simp only [Task.run] at ih ⊢
      simp [expandPieces, ih, nameless]
  | failed named _ ih =>
      simp only [Task.run] at ih ⊢
      simp [expandPieces, ih, named]
  | included named _ _ ihInside ihFollow =>
      simp only [Task.run] at ihInside ihFollow ⊢
      simp [expandPieces, ihInside, ihFollow, named]

/-- Under a limit the relation is the expansion that runs. -/
theorem expands_iff_expand {d : Nat} {path : String} {outcome : Outcome} {visited : List String} :
    Expands files (some d) [] (.template path) [] outcome visited ↔
      expand files d path = (outcome, visited) := by
  constructor
  · intro h
    exact h.run_eq
  · intro ran
    -- There is an outcome by the relation, and the run gives that one.
    rcases @exists_expands_template files (some d) [] path [] with
      ⟨outcome', visited', h⟩
    have same : (outcome', visited') = (outcome, visited) := h.run_eq.symm.trans ran
    cases same
    exact h

end Compilation
end TemplateEngine
