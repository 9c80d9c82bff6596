import Mathlib.Logic.Relation
import TemplateEngine.Proofs.Compilation.Reading

/-!
# Aliases — one template under two paths

Two paths may lead to one file, by a link or a detour. Its includes are then looked up from two
directories, so the file need not be the same template under both. Here the includes are followed from
the two paths side by side: if every pair of paths reached leads to one place, or to nothing that can
be read, both paths compile alike.
-/

namespace TemplateEngine
namespace Compilation

open Text (Piece)

variable {files : Files} {limit : Option Nat}

/-! ## Pairs of paths -/

/-- Two paths lead to one place, or a template can be read at neither. -/
def Alike (files : Files) (pair : String × String) : Prop :=
  (∃ place, files.resolve pair.1 = .ok place ∧ files.resolve pair.2 = .ok place) ∨
    ((∃ e, files.read pair.1 = .error e) ∧ ∃ e, files.read pair.2 = .error e)

/-- An include in the template at the first path, and where its name leads from either path. -/
def FollowsTo (files : Files) (pair next : String × String) : Prop :=
  ∃ text name, files.read pair.1 = .ok text ∧ Piece.found name ∈ Directive.includes text ∧
    (includeTarget name).isEmpty = false ∧
      next = (locate files pair.1 (includeTarget name), locate files pair.2 (includeTarget name))

/-- Wherever the same includes lead from two paths, it is one place or nothing that can be read. -/
def Interchangeable (files : Files) (pair : String × String) : Prop :=
  ∀ next, Relation.ReflTransGen (FollowsTo files) pair next → Alike files next

/-- Interchangeable paths lead to one place or to nothing that can be read. -/
theorem Interchangeable.alike {pair : String × String} (h : Interchangeable files pair) :
    Alike files pair :=
  h pair .refl

/-- So do the paths that an include leads to from either. -/
theorem Interchangeable.step {pair next : String × String} (h : Interchangeable files pair)
    (follows : FollowsTo files pair next) : Interchangeable files next :=
  fun other reached => h other (.head follows reached)

/-- What a tree tells of two paths alike is the same, or a template can be read at neither. -/
theorem Alike.same_or_unreadable {p q : String} (alike : Alike files (p, q)) :
    (files.identity q = files.identity p ∧ files.read q = files.read p) ∨
      ((∃ e, files.read p = .error e) ∧ ∃ e, files.read q = .error e) := by
  apply alike.imp_left
  rintro ⟨place, first, second⟩
  simp [Files.identity, Files.read, first, second]

/-- Two paths alike, the first of which can be read, are one template. -/
theorem Alike.of_read {p q text : String} (alike : Alike files (p, q))
    (readable : files.read p = .ok text) :
    files.identity q = files.identity p ∧ files.read q = .ok text := by
  rcases alike.same_or_unreadable with ⟨identity, read⟩ | ⟨⟨e, failed⟩, _⟩
  · exact ⟨identity, read.trans readable⟩
  · rw [readable] at failed
    cases failed

/-- A path is an alias of itself. -/
theorem alike_self (path : String) : Alike files (path, path) := by
  cases found : files.resolve path with
  | ok place => exact Or.inl ⟨place, found, found⟩
  | error e =>
      have failed : files.read path = .error e := by simp [Files.read, found]
      exact Or.inr ⟨⟨e, failed⟩, e, failed⟩

/-- Paths in one directory, as they are written, find the same target. -/
theorem locate_of_parent {p q : String} (beside : Path.parent? p = Path.parent? q)
    (target : String) : locate files p target = locate files q target := by
  simp only [locate, beside]

/-- A link beside its file is as good as the file: all includes are found in one directory. -/
theorem interchangeable_of_parent {p q : String} (beside : Path.parent? p = Path.parent? q)
    {place : Location} (first : files.resolve p = .ok place) (second : files.resolve q = .ok place) :
    Interchangeable files (p, q) := by
  intro next reached
  have same : next = (p, q) ∨ next.1 = next.2 := by
    induction reached with
    | refl => exact Or.inl rfl
    | tail _ follows ih =>
        rcases follows with ⟨text, name, _, _, _, rfl⟩
        rcases ih with rfl | same
        · exact Or.inr (locate_of_parent beside _)
        · exact Or.inr (by rw [same])
  rcases same with rfl | same
  · exact Or.inl ⟨place, first, second⟩
  · have pair : next = (next.1, next.1) := Prod.ext rfl same.symm
    rw [pair]
    exact alike_self next.1

/-! ## Expansion under both paths -/

/-- Two outcomes are one text with the same templates visited, or two errors. -/
inductive Agree : Outcome × List String → Outcome × List String → Prop
  | text (text : List Char) (visited : List String) : Agree (.ok text, visited) (.ok text, visited)
  | errors (e e' : CompileError) (visited visited' : List String) :
      Agree (.error e, visited) (.error e', visited')

theorem Agree.map (f : List Char → List Char) {first second : Outcome × List String}
    (agree : Agree first second) :
    Agree (first.1.map f, first.2) (second.1.map f, second.2) := by
  cases agree with
  | text text visited => exact .text (f text) visited
  | errors e e' visited visited' => exact .errors e e' visited visited'

/-- One task under either path of an interchangeable pair. -/
inductive Twin (files : Files) : Task → Task → Prop
  | template {p q} (pair : Interchangeable files (p, q)) : Twin files (.template p) (.template q)
  | pieces {p q text rest} (pair : Interchangeable files (p, q)) (readable : files.read p = .ok text)
      (some : ∀ name, Piece.found name ∈ rest → Piece.found name ∈ Directive.includes text) :
      Twin files (.pieces p rest) (.pieces q rest)

/-- A template that cannot be read has no text. -/
theorem exists_error_of_unreadable {opened visited : List String} {path : String}
    (failed : ∃ e, files.read path = .error e) :
    ∃ e visited', Expands files limit opened (.template path) visited (.error e) visited' := by
  rcases @exists_expands_template files limit opened path visited with
    ⟨outcome, visited', expands⟩
  cases expands with
  | cycle again => exact ⟨_, _, .cycle again⟩
  | tooDeep fresh limited deep => exact ⟨_, _, .tooDeep fresh limited deep⟩
  | unreadable fresh within failed => exact ⟨_, _, .unreadable fresh within failed⟩
  | template _ _ readable _ =>
      rcases failed with ⟨e, failed⟩
      rw [readable] at failed
      cases failed

/-- Whatever a task comes to, its twin comes to as well. -/
theorem Expands.twin {opened visited after : List String} {task task' : Task} {outcome : Outcome}
    (h : Expands files limit opened task visited outcome after) (twin : Twin files task task') :
    ∃ outcome' after', Expands files limit opened task' visited outcome' after' ∧
      Agree (outcome, after) (outcome', after') := by
  -- Where the first template fails by itself, the second is at the same place or fails as well.
  have unreadable {opened visited : List String} {path : String} (e : CompileError)
      (failed : ∃ e, files.read path = .error e) :
      ∃ outcome' after', Expands files limit opened (.template path) visited outcome' after' ∧
        Agree (.error e, visited) (outcome', after') := by
    rcases @exists_error_of_unreadable files limit opened visited path failed with
      ⟨e', after', expands⟩
    exact ⟨_, _, expands, .errors e e' visited after'⟩
  induction h generalizing task' with
  | cycle again =>
      cases twin with
      | template pair =>
          rcases pair.alike.same_or_unreadable with ⟨identity, _⟩ | ⟨_, failed⟩
          · rw [← identity] at again
            exact ⟨_, _, .cycle again, .errors _ _ _ _⟩
          · exact unreadable _ failed
  | tooDeep fresh limited deep =>
      cases twin with
      | template pair =>
          rcases pair.alike.same_or_unreadable with ⟨identity, _⟩ | ⟨_, failed⟩
          · rw [← identity] at fresh
            exact ⟨_, _, .tooDeep fresh limited deep, .errors _ _ _ _⟩
          · exact unreadable _ failed
  | unreadable fresh within failed =>
      cases twin with
      | template pair =>
          rcases pair.alike.same_or_unreadable with ⟨_, read⟩ | ⟨_, failed'⟩
          · exact unreadable _ ⟨_, read.trans failed⟩
          · exact unreadable _ failed'
  | template fresh within readable _ ih =>
      cases twin with
      | template pair =>
          rcases pair.alike.of_read readable with ⟨identity, read⟩
          rw [← identity] at fresh
          rcases ih (.pieces pair readable fun _ member => member) with
            ⟨outcome', after', inside, agree⟩
          refine ⟨outcome', after', .template fresh within read ?_, agree⟩
          rwa [identity]
  | done =>
      cases twin with
      | pieces pair readable some => exact ⟨_, _, .done, .text [] _⟩
  | plain _ ih =>
      cases twin with
      | pieces pair readable some =>
          rcases ih (.pieces pair readable fun name member =>
            some name (List.mem_cons_of_mem _ member)) with ⟨outcome', after', follow, agree⟩
          exact ⟨_, _, .plain follow, agree.map _⟩
  | dropped nameless _ ih =>
      cases twin with
      | pieces pair readable some =>
          rcases ih (.pieces pair readable fun name member =>
            some name (List.mem_cons_of_mem _ member)) with ⟨outcome', after', follow, agree⟩
          exact ⟨_, _, .dropped nameless follow, agree⟩
  | failed named _ ih =>
      cases twin with
      | pieces pair readable some =>
          have next := pair.step ⟨_, _, readable, some _ List.mem_cons_self, named, rfl⟩
          rcases ih (.template next) with ⟨outcome', after', inside, agree⟩
          cases agree with
          | errors _ e' _ _ => exact ⟨_, _, .failed named inside, .errors _ e' _ _⟩
  | included named _ _ ihInside ihFollow =>
      cases twin with
      | pieces pair readable some =>
          have next := pair.step ⟨_, _, readable, some _ List.mem_cons_self, named, rfl⟩
          rcases ihInside (.template next) with ⟨outcome', after', inside, agree⟩
          cases agree with
          | text =>
              rcases ihFollow (.pieces pair readable fun name member =>
                some name (List.mem_cons_of_mem _ member)) with ⟨outcome', after', follow, agree⟩
              exact ⟨_, _, .included named inside follow, agree.map _⟩

/-- Two compilations that differ in their source only, or both fail. -/
def SameCompilation (first second : Except CompileError Compiled) : Prop :=
  (∃ compiled source, first = .ok compiled ∧ second = .ok { compiled with source }) ∨
    ((∃ e, first = .error e) ∧ ∃ e, second = .error e)

/-- Whether an artifact is refused does not depend on the path of its template. -/
theorem refusal?_of_source {source source' code : String} {unknown : List String}
    (accepted : refusal? source unknown code = none) : refusal? source' unknown code = none := by
  cases unknown with
  | nil => simpa [refusal?] using accepted
  | cons name unknown => simp [refusal?] at accepted

/-- A refusal names the source, but whether there is one does not depend on it. -/
theorem refused?_of_source {options : Options} {source source' : String} {text : List Char}
    (accepted : refused? options source text = none) : refused? options source' text = none := by
  unfold refused? at accepted ⊢
  cases strict : options.strict with
  | false => simp
  | true =>
      simp only [strict, if_true] at accepted ⊢
      exact refusal?_of_source accepted

/-- Interchangeable paths compile alike. -/
theorem sameCompilation_of_interchangeable (options : Options) {p q : String}
    (pair : Interchangeable files (p, q)) :
    SameCompilation (compile files options p) (compile files options q) := by
  rcases ran : expand files options.maxIncludeDepth p with ⟨outcome, visited⟩
  rcases (expands_iff_expand.2 ran).twin (.template pair) with ⟨outcome', visited', expands, agree⟩
  have ran' := expands_iff_expand.1 expands
  cases agree with
  | errors e e' =>
      exact Or.inr ⟨⟨e, compile_of_expand_error ran⟩, e', compile_of_expand_error ran'⟩
  | text text =>
      cases first : refused? options p text with
      | none =>
          have second : refused? options q text = none := refused?_of_source first
          exact Or.inl ⟨_, q, compile_of_accepted ran first, compile_of_accepted ran' second⟩
      | some e =>
          cases second : refused? options q text with
          | none =>
              rw [refused?_of_source second] at first
              cases first
          | some e' =>
              exact Or.inr ⟨⟨e, compile_of_refused ran first⟩, e', compile_of_refused ran' second⟩

end Compilation
end TemplateEngine
