import TemplateEngine.Compilation.Error
import TemplateEngine.Directive.Include
import TemplateEngine.Files.Tree

/-!
# Expansion of includes

A template with every include directive replaced by the expanded text of the template it names. The
templates that are open are known by their identities, so a file that includes itself is found under
any path, and an include of it is an error; so is one that lies deeper than the limit. Each template
opened is one more identity that is open, so the expansion ends, whatever the limit.
-/

namespace TemplateEngine

def Files.identities (files : Files) : List String :=
  files.nodes.map fun entry => Files.pathOf entry.1

/-- What is read as a file has an identity among those of the tree. -/
theorem Files.identity_mem_identities {files : Files} {path text : String}
    (h : files.read path = .ok text) : files.identity path ∈ files.identities := by
  rcases resolved : files.resolve path with _ | place
  · simp [Files.read, resolved] at h
  · have there : files.textAt place = .ok text := by simpa [Files.read, resolved] using h
    by_cases root : place = []
    · simp [Files.textAt, Files.node?, root] at there
    · rcases found : files.nodes.lookup place with _ | node
      · simp [Files.textAt, Files.node?, root, found] at there
      · simp only [Files.identity, resolved, Files.identities, List.mem_map]
        obtain ⟨before, after, split, _⟩ := List.lookup_eq_some_iff.1 found
        exact ⟨(place, node), by simp [split], rfl⟩

namespace Compilation

open Text (Piece)

/-- Where an included template is: beside the template that includes it if there is such a file, and
otherwise where its name says. -/
def locate (files : Files) (current target : String) : String :=
  if Path.isAbsolute target then target
  else
    match Path.parent? current with
    | none => target
    | some dir =>
        -- Only a file counts as a sibling: a directory of this name is passed over.
        let sibling := Path.join dir target
        if files.isFile sibling then sibling else target

def includeTarget (name : List Char) : String :=
  String.ofList (Text.trim name)

/-- The identities read so far, in the order of their first reading, with one more. -/
def visit (identity : String) (visited : List String) : List String :=
  if identity ∈ visited then visited else visited ++ [identity]

theorem mem_visit {identity other : String} {visited : List String} :
    other ∈ visit identity visited ↔ other ∈ visited ∨ other = identity := by
  unfold visit
  split
  · next known => exact ⟨Or.inl, fun either => either.elim id fun same => same ▸ known⟩
  · simp

theorem nodup_visit {visited : List String} (distinct : visited.Nodup) (identity : String) :
    (visit identity visited).Nodup := by
  unfold visit
  split
  · exact distinct
  · next fresh =>
      refine List.nodup_append.2 ⟨distinct, by simp, ?_⟩
      intro other member identity' single same
      rw [List.mem_singleton.1 single] at same
      exact fresh (same ▸ member)

/-- How many identities of a tree are not open. -/
def unopened (files : Files) (opened : List String) : Nat :=
  files.identities.countP (· ∉ opened)

/-- Of some identities, fewer are not open once one more of them is. -/
theorem countP_not_opened_lt {identities opened : List String} {identity : String}
    (fresh : identity ∉ opened) (present : identity ∈ identities) :
    identities.countP (· ∉ opened ++ [identity]) < identities.countP (· ∉ opened) := by
  have smaller (others : List String) :
      others.countP (· ∉ opened ++ [identity]) ≤ others.countP (· ∉ opened) := by
    refine List.countP_mono_left fun other _ h => ?_
    simp at h ⊢
    exact h.1
  -- The identity that is opened is counted once less, and no other one is counted again.
  induction identities with
  | nil => simp at present
  | cons other others ih =>
      rcases List.mem_cons.1 present with rfl | later
      · simpa [List.countP_cons, fresh] using Nat.lt_succ_of_le (smaller others)
      · by_cases known : other ∈ opened
        · simpa [List.countP_cons, known] using ih later
        · by_cases same : other = identity
          · simpa [List.countP_cons, same, fresh] using Nat.lt_succ_of_le (smaller others)
          · simpa [List.countP_cons, known, same] using ih later

/-- Opening a template leaves fewer that are not open. -/
theorem unopened_lt {files : Files} {opened : List String} {path text : String}
    (fresh : files.identity path ∉ opened) (h : files.read path = .ok text) :
    unopened files (opened ++ [files.identity path]) < unopened files opened :=
  countP_not_opened_lt fresh (Files.identity_mem_identities h)

mutual

/-- The expanded text of the template at a path, and the identities read so far. -/
def expandTemplate (files : Files) (limit : Nat) (opened : List String) (path : String)
    (visited : List String) : Except CompileError (List Char) × List String :=
  if again : files.identity path ∈ opened then
    (.error (.includeCycle (opened ++ [files.identity path])), visited)
  else if limit < opened.length then (.error (.includeDepthExceeded path limit), visited)
  else
    match readable : files.read path with
    | .error e => (.error (.sourceNotFound path e), visited)
    | .ok text =>
        have := unopened_lt again readable
        expandPieces files limit (opened ++ [files.identity path]) path (Directive.includes text)
          (visit (files.identity path) visited)
termination_by (unopened files opened, 0)
decreasing_by exact Prod.Lex.left _ _ this

def expandPieces (files : Files) (limit : Nat) (opened : List String) (current : String)
    (pieces : List (Piece (List Char))) (visited : List String) :
    Except CompileError (List Char) × List String :=
  match pieces with
  | [] => (.ok [], visited)
  | .plain c :: rest =>
      let (expanded, visited) := expandPieces files limit opened current rest visited
      (expanded.map (c :: ·), visited)
  | .found name :: rest =>
      -- An include of nothing is dropped, and so is its directive.
      let target := includeTarget name
      if target.isEmpty then expandPieces files limit opened current rest visited
      else
        match expandTemplate files limit opened (locate files current target) visited with
        | (.error e, visited) => (.error e, visited)
        | (.ok included, visited) =>
            let (expanded, visited) := expandPieces files limit opened current rest visited
            (expanded.map (included ++ ·), visited)
termination_by (unopened files opened, pieces.length)
decreasing_by all_goals simp_wf; simp [Prod.lex_def]

end

/-- The expanded text of a template, and the identities of all templates read, in the order of their
first reading. -/
def expand (files : Files) (limit : Nat) (path : String) :
    Except CompileError (List Char) × List String :=
  expandTemplate files limit [] path []

end Compilation
end TemplateEngine
