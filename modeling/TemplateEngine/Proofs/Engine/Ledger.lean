import TemplateEngine.Proofs.Cache.Vacancy
import TemplateEngine.Proofs.Engine.Refreshing

/-!
# Ledger — what an engine has on file

An engine starts from a cache directory that is missing or empty, and nobody else writes there. A ledger
beside it records what its calls did. After every history the directory holds what the ledger has on
file, and the count of the engine is that of the ledger.
-/

namespace TemplateEngine

/-- What the calls of an engine did: the code last filed for each identity since the cache was last
cleared, and how often an artifact was found stale and its template compiled. -/
structure Ledger where
  filed : List (String × String) := []
  compiled : Nat := 0

namespace Ledger

/-- The ledger after a call about a template. A compilation counts once the compiler succeeds. Its code
is on file only if the artifact can be written too, so that the call comes to an artifact. -/
def note (now : Nat) (source : String) (engine : Engine) (ledger : Ledger) : Ledger :=
  match engine.compilation? now source with
  | none => ledger
  | some compiled =>
      let identity := (engine.opened now).identity source
      { filed :=
          if (engine.compile now source).1.isOk then
            (identity, compiled.code) :: Cache.without identity ledger.filed
          else ledger.filed
        compiled := ledger.compiled + 1 }

def after (now : Nat) (engine : Engine) (ledger : Ledger) : Call → Ledger
  | .render source _ | .compile source => ledger.note now source engine
  | .clearCache =>
      if (engine.clearCache now).1.isOk then { ledger with filed := [] } else ledger

end Ledger

/-- The templates that one engine serves, by their identities: each has an artifact of its own. -/
structure Collection where
  settings : Settings
  isIdentity : String → Prop
  distinct : ∀ p q, isIdentity p → isIdentity q →
    Cache.artifactName Digest.Blake3.shortText p = Cache.artifactName Digest.Blake3.shortText q →
      p = q

namespace Collection

abbrev artifact (identity : String) : String :=
  Cache.artifactName Digest.Blake3.shortText identity

abbrev cacheDir (c : Collection) : String :=
  c.settings.cacheDir

abbrev cache (c : Collection) : Cache where
  directory := c.cacheDir

/-- A change of files that is not the work of the engine: it leaves the cache directory alone. -/
structure Edit (c : Collection) (files files' : Files) : Prop where
  tree : files'.IsTree
  directory : files.isDirectory c.cacheDir = true → files'.isDirectory c.cacheDir = true
  entries : files.isDirectory c.cacheDir = true → ∀ name,
    files'.filed? c.cacheDir name = files.filed? c.cacheDir name
  vacant : files.isDirectory c.cacheDir = false → c.cache.Vacant files'

/-- The engines that calls and edits lead to, each with its ledger. A call may succeed or fail, and it
is about a template of the collection if it is about one. -/
inductive Working (c : Collection) : Engine → Ledger → Prop
  | start {engine : Engine} (settings : engine.settings = c.settings) (unused : engine.compiles = 0)
      (tree : engine.files.IsTree) (vacant : c.cache.Vacant engine.files) : Working c engine {}
  | edited {engine : Engine} {ledger : Ledger} {files : Files} (before : Working c engine ledger)
      (edit : c.Edit engine.files files) : Working c { engine with files } ledger
  | called {engine : Engine} {ledger : Ledger} (before : Working c engine ledger) (now : Nat)
      (call : Call)
      (known : ∀ source ∈ call.source?, c.isIdentity ((engine.opened now).identity source)) :
      Working c (call.run now engine) (ledger.after now engine call)

variable {c : Collection} {ledger : Ledger} {filed : List (String × String)} {files opened : Files}
  {now : Nat} {identity : String}

/-- What is on file, under the names of the artifacts. -/
def texts (filed : List (String × String)) : List (String × String) :=
  filed.map fun entry => (artifact entry.1, entry.2)

/-- What is forgotten of the ledger is forgotten of the artifacts' texts. -/
theorem texts_without (known : ∀ entry ∈ filed, c.isIdentity entry.1)
    (isIdentity : c.isIdentity identity) :
    texts (Cache.without identity filed) = Cache.without (artifact identity) (texts filed) := by
  unfold texts Cache.without
  rw [List.filter_map]
  -- Among the identities of the collection, other identities have other artifacts.
  refine congrArg _ (List.filter_congr fun entry member => ?_)
  have same : entry.1 = identity ↔ artifact entry.1 = artifact identity :=
    ⟨congrArg artifact, c.distinct _ _ (known entry member) isIdentity⟩
  rw [Bool.eq_iff_iff]
  simp [same]

/-- The files are as the ledger says. -/
structure Accounted (c : Collection) (filed : List (String × String)) (files : Files) : Prop where
  tree : files.IsTree
  known : ∀ entry ∈ filed, c.isIdentity entry.1
  contents : c.cache.Vacant files ∧ filed = [] ∨ Cache.Holds c.cacheDir files (texts filed)

/-! ## What one step preserves -/

/-- An edit of a template leaves the cache accounted for. -/
theorem Accounted.edit {files' : Files} (accounted : c.Accounted filed files)
    (edit : c.Edit files files') : c.Accounted filed files' := by
  refine ⟨edit.tree, accounted.known, ?_⟩
  cases directory : files.isDirectory c.cacheDir with
  | false =>
      -- There is no directory that could hold anything, so nothing is on file.
      rcases accounted.contents with ⟨_, none⟩ | holds
      · exact .inl ⟨edit.vacant directory, none⟩
      · cases holds.directory.symm.trans directory
  | true =>
      have entries := edit.entries directory
      have holds : Cache.Holds c.cacheDir files (texts filed) := by
        rcases accounted.contents with ⟨vacant, rfl⟩ | holds
        · exact Cache.holds_nothing accounted.tree directory (vacant.empty files .refl)
        · exact holds
      exact .inr
        { holds with
          tree := edit.tree
          directory := edit.directory directory
          text := fun entry member => entries entry.1 ▸ holds.text entry member
          nothingElse := fun name node found =>
            holds.nothingElse name node ((entries name).symm.trans found) }

/-- Once the cache directory is open it holds what is on file. -/
theorem Accounted.holds_opened (accounted : c.Accounted filed files)
    (ensured : c.cache.ensure now files = (.ok (), opened)) :
    Cache.Holds c.cacheDir opened (texts filed) := by
  rcases accounted.contents with ⟨vacant, rfl⟩ | holds
  · exact vacant.holds accounted.tree ensured
  · rw [Cache.ensure_of_isDirectory c.cache now holds.directory] at ensured
    cases ensured
    exact holds.modes (Files.differInModes_setMode _ _ _)

/-- Where the cache directory cannot be opened nothing is on file. -/
theorem Accounted.unopened {e : CompileError} (accounted : c.Accounted filed files)
    (failed : c.cache.ensure now files = (.error e, opened)) :
    filed = [] ∧ c.Accounted filed opened := by
  rcases accounted.contents with ⟨vacant, none⟩ | holds
  · have tree := Cache.isTree_opened c.cache now accounted.tree
    have vacant' := vacant.attempt now
    rw [failed] at tree vacant'
    exact ⟨none, tree, accounted.known, .inl ⟨vacant', none⟩⟩
  · rw [Cache.ensure_of_isDirectory c.cache now holds.directory] at failed
    cases failed

/-- A directory that holds the ledger's texts is accounted for by it. -/
theorem Accounted.of_holds (known : ∀ entry ∈ filed, c.isIdentity entry.1)
    (holds : Cache.Holds c.cacheDir files (texts filed)) : c.Accounted filed files :=
  ⟨holds.tree, known, .inr holds⟩

/-- A code that is filed under an identity takes the place of the one before. -/
theorem Accounted.file {code : String} (known : ∀ entry ∈ filed, c.isIdentity entry.1)
    (isIdentity : c.isIdentity identity)
    (holds : Cache.Holds c.cacheDir files
      ((artifact identity, code) :: Cache.without (artifact identity) (texts filed))) :
    c.Accounted ((identity, code) :: Cache.without identity filed) files := by
  rw [← texts_without known isIdentity] at holds
  refine .of_holds ?_ holds
  intro entry member
  rcases List.mem_cons.1 member with rfl | other
  · exact isIdentity
  · exact known entry (Cache.mem_without.1 other).1

/-- Writing the artifact of an identity sets its text, if it succeeds. -/
theorem write_cases (holds : Cache.Holds c.cacheDir files (texts filed)) (identity : String)
    (now : Nat) (code : String) :
    (∃ e, Cache.write now (Path.join c.cacheDir (artifact identity)) code files =
      (.error e, files)) ∨
    (∃ files', Cache.write now (Path.join c.cacheDir (artifact identity)) code files =
        (.ok (), files') ∧
      Cache.Holds c.cacheDir files'
        ((artifact identity, code) :: Cache.without (artifact identity) (texts filed)) ∧
        ∀ path place, files.resolve path = .ok place → files'.resolve path = .ok place) :=
  holds.write (Cache.isSingle_artifactName Cache.slash_not_mem_shortText identity)
    (Cache.artifactName_getLast? _ identity) now code

variable {engine : Engine} {source : String}

theorem cache_eq (settings : engine.settings = c.settings) : engine.cache = c.cache := by
  simp only [Engine.cache, cache, cacheDir, settings]

/-- A refresh keeps the ledger that notes it. -/
theorem Accounted.refresh (settings : engine.settings = c.settings)
    (accounted : c.Accounted ledger.filed engine.files)
    (isIdentity : c.isIdentity ((engine.opened now).identity source)) :
    c.Accounted (ledger.note now source engine).filed (engine.refresh now source).2.files := by
  have sameCache := cache_eq settings
  have compile_eq : (engine.compile now source).1 =
      (engine.refresh now source).1.map Refreshed.artifact := rfl
  unfold Ledger.note
  rw [compile_eq]
  -- One case for each way in which the refresh ends.
  have outcome := Engine.refreshing now source engine
  generalize engine.compilation? now source = compiled?, engine.refresh now source = result
    at outcome ⊢
  cases outcome with
  | unopened failed =>
      rw [sameCache] at failed
      exact (accounted.unopened failed).2
  | fresh ensured =>
      rw [sameCache] at ensured
      exact .of_holds accounted.known (accounted.holds_opened ensured)
  | refused ensured =>
      rw [sameCache] at ensured
      exact .of_holds accounted.known (accounted.holds_opened ensured)
  | @unwritten opened compiled e files ensured stale compiles failed =>
      -- The compilation counts, but nothing was filed and nothing was written.
      rw [sameCache] at ensured failed
      have holds := accounted.holds_opened ensured
      rcases write_cases holds (opened.identity source) now compiled.code with
        ⟨_, again⟩ | ⟨_, again, _⟩
      · cases failed.symm.trans again
        exact .of_holds accounted.known holds
      · cases failed.symm.trans again
  | @written opened compiled files ensured stale compiles done =>
      have sameFiles : engine.opened now = opened := Engine.opened_of_ensure ensured
      rw [sameFiles] at isIdentity ⊢
      rw [sameCache] at ensured done
      rcases write_cases (accounted.holds_opened ensured) (opened.identity source) now
        compiled.code with ⟨_, again⟩ | ⟨_, again, holds, _⟩
      · cases done.symm.trans again
      · cases done.symm.trans again
        exact .file accounted.known isIdentity holds

/-- Clearing the cache counts what is on file and leaves an empty directory, unless the directory is
missing and cannot be made. -/
theorem Accounted.clear (settings : engine.settings = c.settings)
    (accounted : c.Accounted filed engine.files) (now : Nat) :
    (∃ e, (engine.clearCache now).1 = .error e ∧ (c.cache.ensure now engine.files).1 = .error e ∧
      filed = [] ∧ c.Accounted filed (engine.clearCache now).2.files) ∨
    ((engine.clearCache now).1 = .ok filed.length ∧
      Cache.Holds c.cacheDir (engine.clearCache now).2.files []) := by
  unfold Engine.clearCache
  rw [cache_eq settings]
  rcases ensured : c.cache.ensure now engine.files with ⟨outcome, opened⟩
  cases outcome with
  | error e =>
      have failed : c.cache.clear now engine.files = (.error e, opened) := by
        simp only [Cache.clear, ensured]
      rcases accounted.unopened ensured with ⟨none, accounted'⟩
      exact .inl ⟨e, by rw [failed], rfl, none, by rw [failed]; exact accounted'⟩
  | ok done =>
      have artifacts : ∀ entry ∈ texts filed, Cache.isArtifactName entry.1 = true := by
        intro entry member
        rcases List.mem_map.1 member with ⟨_, _, rfl⟩
        exact Cache.isArtifactName_artifactName _ _
      rcases (accounted.holds_opened ensured).clear ensured artifacts with ⟨cleared, done, holds⟩
      rw [texts, List.length_map] at done
      rw [done]
      exact .inr ⟨rfl, holds⟩

/-- So does every call. -/
theorem Accounted.run (settings : engine.settings = c.settings)
    (accounted : c.Accounted ledger.filed engine.files) (call : Call)
    (known : ∀ source ∈ call.source?, c.isIdentity ((engine.opened now).identity source)) :
    c.Accounted (ledger.after now engine call).filed (call.run now engine).files := by
  cases call with
  | render source context => exact accounted.refresh settings (known source rfl)
  | compile source => exact accounted.refresh settings (known source rfl)
  | clearCache =>
      rcases accounted.clear settings now with ⟨e, failed, _, _, accounted'⟩ | ⟨done, holds⟩
      · have same : ledger.after now engine .clearCache = ledger := by
          simp only [Ledger.after, failed]
          rfl
        rw [same]
        exact accounted'
      · have cleared : (ledger.after now engine .clearCache).filed = [] := by
          simp only [Ledger.after, done]
          rfl
        rw [cleared]
        exact .of_holds (by simp) holds

/-- The engine and its ledger count alike. -/
theorem compiles_run (same : engine.compiles = ledger.compiled) (now : Nat) (call : Call) :
    (call.run now engine).compiles = (ledger.after now engine call).compiled := by
  have refreshed : ∀ source, (engine.refresh now source).2.compiles =
      (ledger.note now source engine).compiled := by
    intro source
    unfold Ledger.note
    have outcome := Engine.refreshing now source engine
    generalize engine.compilation? now source = compiled?, engine.refresh now source = result
      at outcome ⊢
    cases outcome with
    | unopened => exact same
    | fresh => exact same
    | refused => exact same
    | unwritten => exact congrArg (· + 1) same
    | written => exact congrArg (· + 1) same
  cases call with
  | render source context => exact refreshed source
  | compile source => exact refreshed source
  | clearCache =>
      have kept : (ledger.after now engine .clearCache).compiled = ledger.compiled := by
        simp only [Ledger.after]
        split <;> rfl
      exact same.trans kept.symm

/-! ## Every history -/

/-- The ledger accounts for the directory in every working state. -/
theorem Working.accounted (working : c.Working engine ledger) :
    engine.settings = c.settings ∧ engine.compiles = ledger.compiled ∧
      c.Accounted ledger.filed engine.files := by
  -- The induction is on the history, the ledger being written as it goes.
  induction working with
  | start settings unused tree vacant =>
      exact ⟨settings, unused, tree, by simp, .inl ⟨vacant, rfl⟩⟩
  | edited _ edit ih =>
      rcases ih with ⟨settings, same, accounted⟩
      exact ⟨settings, same, accounted.edit edit⟩
  | @called engine ledger _ now call known ih =>
      rcases ih with ⟨settings, same, accounted⟩
      refine ⟨(Engine.settings_run now engine call).trans settings, ?_, ?_⟩
      · exact compiles_run same now call
      · exact accounted.run settings call known

end Collection
end TemplateEngine
