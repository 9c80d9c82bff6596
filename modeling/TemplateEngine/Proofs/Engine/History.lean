import TemplateEngine.Engine.Basic
import TemplateEngine.Proofs.Cache.Effects
import TemplateEngine.Proofs.Compilation.Reading

/-!
# History — an engine at work while its templates change

The states that an engine can reach by calls, between which the files change. Only the engine writes
into the cache directory. What the others do shows in the times: whoever changes what a template
compiles to leaves the template missing or newer than its artifact.
-/

namespace TemplateEngine

/-- The templates that one engine serves. Each has one identity whenever it is there, and an artifact
of its own. -/
structure Site where
  settings : Settings
  isTemplate : String → Prop
  identity : String → String
  distinct : ∀ p q, isTemplate p → isTemplate q →
    Cache.artifactName Digest.Blake3.shortText (identity p) =
      Cache.artifactName Digest.Blake3.shortText (identity q) → p = q

namespace Site

abbrev cacheDir (site : Site) : String :=
  site.settings.cacheDir

def artifact (site : Site) (source : String) : String :=
  Cache.artifactName Digest.Blake3.shortText (site.identity source)

def artifactPath (site : Site) (source : String) : String :=
  Path.join site.cacheDir (site.artifact source)

def cache (site : Site) : Cache where
  directory := site.cacheDir

/-- The templates that are there have their own artifacts. -/
def Addressed (site : Site) (files : Files) : Prop :=
  ∀ source, site.isTemplate source → files.exists? source = true →
    site.cache.artifactPath files source = site.artifactPath source

/-- Whatever changes the result of a compilation leaves the template missing or later than its
artifact, and no template gets an earlier time. -/
structure Dated (site : Site) (files files' : Files) : Prop where
  change : ∀ source, site.isTemplate source →
    Compilation.compile files' site.settings.options source ≠
      Compilation.compile files site.settings.options source →
    files'.exists? source = false ∨ ∀ made, files'.time? (site.artifactPath source) = some made →
      ∃ changed, files'.time? source = some changed ∧ made < changed
  notEarlier : ∀ source, site.isTemplate source → ∀ time time',
    files.time? source = some time → files'.time? source = some time' → time ≤ time'

/-- The files before the first call: the cache directory can be made, and it holds no artifact of a
template. -/
structure Fresh (site : Site) (files : Files) : Prop where
  tree : files.IsTree
  opens : ∀ now, ∃ opened, site.cache.ensure now files = (.ok (), opened) ∧
    opened.isDirectory site.cacheDir = true ∧ site.Addressed opened ∧
    ∀ source, site.isTemplate source → opened.filed? site.cacheDir (site.artifact source) = none

/-- A change of files that is not the work of the engine. -/
structure Edit (site : Site) (files files' : Files) : Prop where
  tree : files'.IsTree
  directory : files.isDirectory site.cacheDir = true
  directory' : files'.isDirectory site.cacheDir = true
  addressed : site.Addressed files'
  artifacts : ∀ source, site.isTemplate source →
    files'.filed? site.cacheDir (site.artifact source) =
      files.filed? site.cacheDir (site.artifact source)
  dated : site.Dated files files'

end Site

inductive Call
  | render (source : String) (context : Execution.Context)
  | compile (source : String)
  | clearCache

namespace Call

/-- The template that a call is about, if it is about one. -/
def source? : Call → Option String
  | .render source _ | .compile source => some source
  | .clearCache => none

def run (now : Nat) (engine : Engine) : Call → Engine
  | .render source context => (engine.render now source context).2
  | .compile source => (engine.compile now source).2
  | .clearCache => (engine.clearCache now).2

end Call

/-- The engines that calls and edits lead to. The first thing that a call does is to open the cache
directory; what it does then is dated as an edit is. -/
inductive Site.Reachable (site : Site) : Engine → Prop
  | fresh {engine : Engine} (settings : engine.settings = site.settings)
      (fresh : site.Fresh engine.files) : Reachable site engine
  | edited {engine : Engine} {files : Files} (before : Reachable site engine)
      (edit : site.Edit engine.files files) : Reachable site { engine with files }
  | called {engine : Engine} (before : Reachable site engine) (now : Nat) (call : Call)
      (source : ∀ source ∈ call.source?, site.isTemplate source)
      (addressed : site.Addressed (call.run now engine).files)
      (dated : site.Dated (engine.cache.ensure now engine.files).2 (call.run now engine).files) :
      Reachable site (call.run now engine)

/-! ## Coherent artifacts -/

namespace Site

variable {site : Site} {files files' : Files} {source : String}

/-- The artifact of a template is missing or a text, and as long as it is not stale the text is what
the template compiles to. -/
def Coherent (site : Site) (files : Files) (source : String) : Prop :=
  files.filed? site.cacheDir (site.artifact source) = none ∨
    ∃ code time mode,
      files.filed? site.cacheDir (site.artifact source) = some (.file (.text code) time mode) ∧
        (Cache.isStale files source (site.artifactPath source) true = false →
          ∃ compiled, Compilation.compile files site.settings.options source = .ok compiled ∧
            compiled.code = code)

/-- The files between two calls. -/
structure Kept (site : Site) (files : Files) : Prop where
  tree : files.IsTree
  directory : files.isDirectory site.cacheDir = true
  addressed : site.Addressed files
  coherent : ∀ source, site.isTemplate source → site.Coherent files source

/-- The name of an artifact is a single name. -/
theorem isSingle_artifact (site : Site) (source : String) :
    Path.IsSingle (site.artifact source) :=
  Cache.isSingle_artifactName Cache.slash_not_mem_shortText (site.identity source)

/-- An artifact is fresh if it and its source exist and it is no older. -/
theorem isStale_eq_false_iff {artifact : String} :
    Cache.isStale files source artifact true = false ↔
      files.exists? source = true ∧ files.exists? artifact = true ∧
        (files.time? source).getD 0 ≤ (files.time? artifact).getD 0 := by
  simp [Cache.isStale, and_assoc]

/-! ## Permissions do not matter -/

section Modes

variable (h : files.DifferInModes files')
include h

/-- Modes do not make an artifact stale. -/
theorem isStale_of_differInModes (artifact : String) (caching : Bool) :
    Cache.isStale files' source artifact caching = Cache.isStale files source artifact caching := by
  simp only [Cache.isStale, h.exists?_eq, h.time?_eq]

theorem Coherent.modes (coherent : site.Coherent files source) : site.Coherent files' source := by
  rcases coherent with nothing | ⟨code, time, mode, found, fresh⟩
  · exact .inl (h.filed?_none nothing)
  · rcases h.filed?_file found with ⟨mode', found'⟩
    refine .inr ⟨code, time, mode', found', ?_⟩
    rw [isStale_of_differInModes h, Compilation.compile_of_differInModes h]
    exact fresh

theorem Addressed.modes (addressed : site.Addressed files) : site.Addressed files' := by
  intro source isTemplate there
  rw [h.exists?_eq] at there
  have same := addressed source isTemplate there
  simp only [Cache.artifactPath, h.identity_eq] at same ⊢
  exact same

theorem Kept.modes (kept : site.Kept files) : site.Kept files' where
  tree := h.isTree kept.tree
  directory := (h.isDirectory_eq _).trans kept.directory
  addressed := kept.addressed.modes h
  coherent := fun source isTemplate => (kept.coherent source isTemplate).modes h

/-- A change of modes does not count as a change of the site. -/
theorem Dated.modes_right {files₀ : Files} (dated : site.Dated files₀ files) :
    site.Dated files₀ files' where
  change := by
    intro source isTemplate
    rw [Compilation.compile_of_differInModes h, h.exists?_eq, h.time?_eq, h.time?_eq]
    exact dated.change source isTemplate
  notEarlier := by
    intro source isTemplate
    rw [h.time?_eq]
    exact dated.notEarlier source isTemplate

end Modes

end Site
end TemplateEngine
