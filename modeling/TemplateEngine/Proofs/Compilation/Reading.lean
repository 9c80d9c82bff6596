import TemplateEngine.Compilation.Compiled
import TemplateEngine.Proofs.Compilation.Expands
import TemplateEngine.Proofs.Files.Modes

/-!
# Reading — what a compilation sees of a tree

A compilation asks a tree for identities, texts and whether there is a file, and nothing else. When a
template that was missing appears, its compilation has another result, were it another error.
-/

namespace TemplateEngine
namespace Compilation

variable {files files' : Files}

section Alike

variable (identity : ∀ path, files'.identity path = files.identity path)
  (read : ∀ path, files'.read path = files.read path)
  (isFile : ∀ path, files'.isFile path = files.isFile path)
include identity read isFile

omit identity read in
/-- An include leads to the same where the same paths are files. -/
theorem locate_congr (current target : String) :
    locate files' current target = locate files current target := by
  simp only [locate, isFile]

/-- What is expanded depends only on what can be read, and under which identity. -/
theorem Expands.congr {limit : Option Nat} {opened : List String} {task : Task}
    {visited after : List String} {outcome : Outcome}
    (h : Expands files limit opened task visited outcome after) :
    Expands files' limit opened task visited outcome after := by
  induction h with
  | cycle again =>
      rw [← identity] at again ⊢
      exact .cycle again
  | tooDeep fresh limited deep =>
      rw [← identity] at fresh
      exact .tooDeep fresh limited deep
  | unreadable fresh within failed =>
      rw [← identity] at fresh
      exact .unreadable fresh within ((read _).trans failed)
  | template fresh within readable _ ih =>
      rw [← identity] at fresh ih
      exact .template fresh within ((read _).trans readable) ih
  | done => exact .done
  | plain _ ih => exact .plain ih
  | dropped nameless _ ih => exact .dropped nameless ih
  | failed named _ ih =>
      rw [← locate_congr isFile] at ih
      exact .failed named ih
  | included named _ _ ihInside ihFollow =>
      rw [← locate_congr isFile] at ihInside
      exact .included named ihInside ihFollow

/-- So does what a template compiles to. -/
theorem compile_congr (options : Options) (source : String) :
    compile files' options source = compile files options source := by
  rcases ran : expand files options.maxIncludeDepth source with ⟨outcome, visited⟩
  have expands := expands_iff_expand.2 ran
  have ran' := expands_iff_expand.1 (expands.congr identity read isFile)
  unfold compile
  rw [ran, ran']

end Alike

/-- Permissions do not matter for a compilation. -/
theorem compile_of_differInModes (h : files.DifferInModes files') (options : Options)
    (source : String) : compile files' options source = compile files options source :=
  compile_congr h.identity_eq h.read_eq h.isFile_eq options source

/-! ## A template that appears -/

/-- A template that cannot be found has an identity that is not open. -/
theorem Expands.not_opened_of_sourceNotFound {limit : Option Nat} {opened : List String} {task : Task}
    {visited after : List String} {outcome : Outcome} {path : String} {e : FileError}
    (h : Expands files limit opened task visited outcome after)
    (notFound : outcome = .error (.sourceNotFound path e)) : files.identity path ∉ opened := by
  induction h with
  | cycle => simp at notFound
  | tooDeep => simp at notFound
  | unreadable fresh =>
      cases notFound
      exact fresh
  | template _ _ _ _ ih =>
      intro opened
      exact ih notFound (List.mem_append_left _ opened)
  | done => simp at notFound
  | plain _ ih => exact ih (eq_error_of_map notFound)
  | dropped _ _ ih => exact ih notFound
  | failed _ _ ih => exact ih notFound
  | included _ _ _ _ ihFollow => exact ihFollow (eq_error_of_map notFound)

theorem compile_of_expand_error {options : Options} {source : String} {visited : List String}
    {e : CompileError} (ran : expand files options.maxIncludeDepth source = (.error e, visited)) :
    compile files options source = .error e := by
  unfold compile
  rw [ran]

/-- A template that cannot be read is missing. -/
theorem compile_of_read_error {options : Options} {source : String} {e : FileError}
    (failed : files.read source = .error e) :
    compile files options source = .error (.sourceNotFound source e) := by
  have within : Within (some options.maxIncludeDepth) [] := fun _ _ => Nat.zero_le _
  have expands : Expands files (some options.maxIncludeDepth) [] (.template source) []
      (.error (.sourceNotFound source e)) [] := .unreadable (by simp) within failed
  exact compile_of_expand_error (expands_iff_expand.1 expands)

/-- What an expanded template is refused for, if strict compilation refuses it. -/
def refused? (options : Options) (source : String) (text : List Char) : Option CompileError :=
  let resolved := resolve (String.ofList text)
  if options.strict then refusal? source resolved.2.2 (toIslands resolved.1) else none

/-- A template that is expanded and not refused is compiled to its islands. -/
theorem compile_of_accepted {options : Options} {source : String} {text : List Char}
    {visited : List String} (ran : expand files options.maxIncludeDepth source = (.ok text, visited))
    (accepted : refused? options source text = none) :
    compile files options source =
      .ok ⟨source, toIslands (resolve (String.ofList text)).1, (resolve (String.ofList text)).2.1,
        visited⟩ := by
  unfold refused? at accepted
  unfold compile
  rw [ran]
  simp only at accepted ⊢
  rw [accepted]

theorem compile_of_refused {options : Options} {source : String} {text : List Char}
    {visited : List String} {e : CompileError}
    (ran : expand files options.maxIncludeDepth source = (.ok text, visited))
    (refused : refused? options source text = some e) :
    compile files options source = .error e := by
  unfold refused? at refused
  unfold compile
  rw [ran]
  simp only at refused ⊢
  rw [refused]

/-- Nothing is refused for a missing template. -/
theorem refused?_ne_sourceNotFound {options : Options} {source path : String} {text : List Char}
    {e : FileError} : refused? options source text ≠ some (.sourceNotFound path e) := by
  have refusal (unknown : List String) (code : String) :
      refusal? source unknown code ≠ some (.sourceNotFound path e) := by
    unfold refusal?
    cases unknown with
    | nil => cases Directive.unterminatedLine? code <;> simp
    | cons name names => simp
  unfold refused?
  simp only
  split
  · exact refusal _ _
  · simp

/-- A template that can be read is not what its own compilation fails to find. -/
theorem compile_ne_of_read_ok {options : Options} {source text : String} {e : FileError}
    (readable : files.read source = .ok text) :
    compile files options source ≠ .error (.sourceNotFound source e) := by
  intro failed
  rcases ran : expand files options.maxIncludeDepth source with ⟨outcome, visited⟩
  have notFound : outcome = .error (.sourceNotFound source e) := by
    cases outcome with
    | error e' =>
        rw [compile_of_expand_error ran] at failed
        cases failed
        rfl
    | ok expanded =>
        -- A template that is expanded is refused for its directives or its text only.
        cases refused : refused? options source expanded with
        | none =>
            rw [compile_of_accepted ran refused] at failed
            cases failed
        | some e' =>
            rw [compile_of_refused ran refused] at failed
            cases failed
            exact absurd refused refused?_ne_sourceNotFound
  have expands := expands_iff_expand.2 ran
  rw [notFound] at expands
  -- Below the template its identity is open, so nothing there is missing under this identity.
  cases expands with
  | unreadable _ _ failed => simp [readable] at failed
  | template _ _ _ inside => exact inside.not_opened_of_sourceNotFound rfl (by simp)

/-- The compilation of a template that appears has another result than before. -/
theorem compile_ne_of_appeared (tree : files'.IsTree) {source : String}
    (missing : files.exists? source = false) (there : files'.exists? source = true)
    (options : Options) : compile files' options source ≠ compile files options source := by
  rcases Files.read_of_missing missing with ⟨e, failed, search⟩
  rw [compile_of_read_error failed]
  cases read : files'.read source with
  | ok text => exact compile_ne_of_read_ok read
  | error e' =>
      -- What was missing and what cannot be read fail for different reasons.
      rw [compile_of_read_error read]
      intro same
      cases same
      exact tree.read_error there read search

end Compilation
end TemplateEngine
