import TemplateEngine.Cache.Store
import TemplateEngine.Engine.Settings
import TemplateEngine.Execution.Run

/-!
# The template engine

An engine renders templates against data. It keeps the artifact of each template in the cache and
compiles a template only when its artifact is stale. Besides the files it keeps nothing but the count
of its compilations, so what it renders depends on the files and the data alone.
-/

namespace TemplateEngine

/-- An engine at work on a file tree. -/
structure Engine where
  settings : Settings := {}
  files : Files := {}
  /-- How often a template was compiled. -/
  compiles : Nat := 0

/-- An artifact that is there to be used. -/
structure Refreshed where
  /-- The path of the artifact. -/
  artifact : String
  /-- What it holds, if it was made just now. -/
  code? : Option String
  deriving DecidableEq, Repr

namespace Engine

def cache (engine : Engine) : Cache where
  directory := engine.settings.cacheDir

def artifactPath (engine : Engine) (source : String) : String :=
  engine.cache.artifactPath engine.files source

def renew (now : Nat) (source artifact : String) (engine : Engine) :
    Except CompileError Refreshed × Engine :=
  match Compilation.compile engine.files engine.settings.options source with
  | .error e => (.error e, engine)
  | .ok compiled =>
      let (written, files) := Cache.write now artifact compiled.code engine.files
      (written.map fun () => ⟨artifact, some compiled.code⟩,
        { engine with files, compiles := engine.compiles + 1 })

/-- Makes sure that the artifact of a template is fresh. -/
def refresh (now : Nat) (source : String) (engine : Engine) :
    Except CompileError Refreshed × Engine :=
  let (ensured, files) := engine.cache.ensure now engine.files
  let engine := { engine with files }
  match ensured with
  | .error e => (.error e, engine)
  | .ok () =>
      let artifact := engine.artifactPath source
      if Cache.isStale engine.files source artifact engine.settings.cacheEnabled then
        engine.renew now source artifact
      else (.ok ⟨artifact, none⟩, engine)

def codeOf (engine : Engine) (refreshed : Refreshed) : Except CompileError String :=
  match refreshed.code? with
  | some code => .ok code
  | none => Cache.read refreshed.artifact engine.files

/-- The output of a template against a context. -/
def render (now : Nat) (source : String) (context : Execution.Context) (engine : Engine) :
    Except CompileError String × Engine :=
  let (refreshed, engine) := engine.refresh now source
  (refreshed.bind fun refreshed =>
    (engine.codeOf refreshed).bind fun code =>
      (Execution.execute code context).mapError .execution, engine)

/-- Makes sure that the artifact of a template is fresh: where it is. -/
def compile (now : Nat) (source : String) (engine : Engine) :
    Except CompileError String × Engine :=
  let (refreshed, engine) := engine.refresh now source
  (refreshed.map Refreshed.artifact, engine)

/-- Takes all artifacts out of the cache: how many there were. -/
def clearCache (now : Nat) (engine : Engine) : Except CompileError Nat × Engine :=
  let (count, files) := engine.cache.clear now engine.files
  (count, { engine with files })

end Engine
end TemplateEngine
