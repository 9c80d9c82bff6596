import Mathlib.Data.List.Nodup
import TemplateEngine.Proofs.Engine.Ledger

/-!
# Bookkeeping — the cache directory and the count

Whatever calls an engine served and however templates were edited in between, its cache directory holds
what its ledger has on file and nothing else, clearing takes out just that, the counts agree, and a call
that finds everything as it left it changes nothing.
-/

namespace TemplateEngine
namespace Collection

/-- A template and its artifact are as they were, and the artifact is not earlier than the template. -/
structure Untouched (c : Collection) (source : String) (files files' : Files) : Prop where
  identity : files'.identity source = files.identity source
  template : files'.at? source = files.at? source
  artifact : files'.at? (c.cache.artifactPath files source) =
    files.at? (c.cache.artifactPath files source)
  dated : ∀ changed made, files'.time? source = some changed →
    files'.time? (c.cache.artifactPath files source) = some made → changed ≤ made

theorem Untouched.exists_template {c : Collection} {source : String} {files files' : Files}
    (untouched : c.Untouched source files files') :
    files'.exists? source = files.exists? source := by
  simp only [Files.exists?, untouched.template]

theorem Untouched.exists_artifact {c : Collection} {source : String} {files files' : Files}
    (untouched : c.Untouched source files files') :
    files'.exists? (c.cache.artifactPath files source) =
      files.exists? (c.cache.artifactPath files source) := by
  simp only [Files.exists?, untouched.artifact]

variable {c : Collection} {engine : Engine} {ledger : Ledger} {call : Call} {source : String}
  {now : Nat}

/-! ## A call that is repeated -/

/-- After a call that succeeds both its template and its artifact are there. -/
theorem Working.exists_of_succeeds (working : c.Working engine ledger)
    (about : call.source? = some source) (succeeded : call.Succeeds now engine) :
    (call.run now engine).files.exists? source = true ∧
      (call.run now engine).files.exists?
        (c.cache.artifactPath (call.run now engine).files source) = true := by
  rcases working.accounted with ⟨settings, _, accounted⟩
  have sameCache := cache_eq settings
  rcases Engine.refresh_of_succeeds about succeeded with ⟨refreshed, success⟩
  rw [Engine.run_eq_refresh about]
  have outcome := Engine.refreshing now source engine
  generalize engine.compilation? now source = compiled?, engine.refresh now source = result
    at outcome success ⊢
  cases outcome with
  | unopened => cases success
  | refused => cases success
  | unwritten => cases success
  | @fresh opened ensured fresh =>
      simp only [Engine.isStale, sameCache, Cache.isStale, Bool.or_eq_false_iff,
        Bool.not_eq_false'] at fresh
      exact ⟨fresh.1.1.1, fresh.1.2⟩
  | @written opened compiled files ensured stale compiles done =>
      rw [sameCache] at ensured done
      rcases write_cases (accounted.holds_opened ensured) (opened.identity source) now
        compiled.code with ⟨_, again⟩ | ⟨_, again, holds, leads⟩
      · cases done.symm.trans again
      · cases done.symm.trans again
        -- The template is where it was, so its artifact is the one that was written.
        rcases Files.exists?_iff.1 (Site.exists?_of_compile compiles) with ⟨place, _, resolved, _⟩
        have resolved' := leads source place resolved
        have identity : files.identity source = opened.identity source := by
          simp only [Files.identity, resolved, resolved']
        rcases holds.tree.hasEnd_of_resolve resolved' with ⟨node, found, _⟩
        rcases holds.at? List.mem_cons_self with ⟨time, mode, written⟩
        have artifact : files.exists? (c.cache.artifactPath files source) = true := by
          rw [Cache.artifactPath, identity, Files.exists?]
          simp [written]
        exact ⟨Files.exists?_iff.2 ⟨place, node, resolved', found⟩, artifact⟩

/-- Whatever is filed by a path in the cache directory shows that the directory is there. -/
theorem Accounted.isDirectory {filed : List (String × String)} {files : Files} {identity : String}
    (accounted : c.Accounted filed files)
    (there : files.exists? (Path.join c.cacheDir (artifact identity)) = true) :
    files.isDirectory c.cacheDir = true := by
  rcases accounted.contents with ⟨vacant, _⟩ | holds
  · have single := Cache.isSingle_artifactName Cache.slash_not_mem_shortText identity
    exact Files.isDirectory_of_exists?_join vacant.path_ne_empty single there
  · exact holds.directory

/-- A call that finds the artifact fresh does no more than to open the cache directory. -/
theorem Working.run_of_fresh (working : c.Working engine ledger)
    (caching : c.settings.cacheEnabled = true) (about : call.source? = some source)
    (template : engine.files.exists? source = true)
    (artifact : engine.files.exists? (c.cache.artifactPath engine.files source) = true)
    (dated : ∀ changed made, engine.files.time? source = some changed →
      engine.files.time? (c.cache.artifactPath engine.files source) = some made → changed ≤ made)
    (now : Nat) :
    (call.run now engine).compiles = engine.compiles ∧
      (call.run now engine).files =
        engine.files.setMode Cache.sharedDirectoryMode c.cacheDir := by
  rcases working.accounted with ⟨settings, _, accounted⟩
  have directory := accounted.isDirectory artifact
  have sameCache := cache_eq settings
  have ensured : engine.cache.ensure now engine.files =
      (.ok (), engine.files.setMode Cache.sharedDirectoryMode c.cacheDir) := by
    rw [sameCache]
    exact Cache.ensure_of_isDirectory c.cache now directory
  -- Opening the directory sets its permissions, and the artifact is as fresh as it was.
  have modes := Files.differInModes_setMode Cache.sharedDirectoryMode c.cacheDir engine.files
  have samePath : engine.cache.artifactPath
      (engine.files.setMode Cache.sharedDirectoryMode c.cacheDir) source =
        c.cache.artifactPath engine.files source := by
    simp only [sameCache, Cache.artifactPath, modes.identity_eq]
  have fresh : Cache.isStale (engine.files.setMode Cache.sharedDirectoryMode c.cacheDir) source
      (c.cache.artifactPath engine.files source) engine.settings.cacheEnabled = false := by
    rcases accounted.tree.exists_time template with ⟨changed, templateTime⟩
    rcases accounted.tree.exists_time artifact with ⟨made, artifactTime⟩
    have notEarlier := dated changed made templateTime artifactTime
    rw [Site.isStale_of_differInModes modes, settings, caching]
    refine Site.isStale_eq_false_iff.2 ⟨template, artifact, ?_⟩
    simpa only [templateTime, artifactTime, Option.getD_some] using notEarlier
  rw [Engine.run_eq_refresh about, Engine.refresh_of_ensure ensured, samePath, fresh]
  exact ⟨rfl, rfl⟩

/-! ## The whole account -/

/-- A ledger that accounts for the directory files no identity twice. -/
theorem Accounted.once {filed : List (String × String)} {files : Files}
    (accounted : c.Accounted filed files) : (filed.map Prod.fst).Nodup := by
  rcases accounted.contents with ⟨_, none⟩ | holds
  · simp [none]
  · -- Two codes for one identity would be two texts under one name.
    have names : (filed.map Prod.fst).map artifact = (texts filed).map Prod.fst := by
      simp [texts]
    exact List.Nodup.of_map artifact (names ▸ holds.distinct)

/-- The directory holds the artifacts of the ledger and no other file. -/
theorem Accounted.filed?_isSome_iff {filed : List (String × String)} {files : Files}
    (accounted : c.Accounted filed files) (name : String) :
    (files.filed? c.cacheDir name).isSome ↔ ∃ entry ∈ filed, name = artifact entry.1 := by
  rcases accounted.contents with ⟨vacant, none⟩ | holds
  · simp [vacant.empty files .refl name, none]
  · constructor
    · intro there
      rcases Option.isSome_iff_exists.1 there with ⟨node, found⟩
      rcases List.mem_map.1 (holds.nothingElse name node found) with ⟨text, member, rfl⟩
      rcases List.mem_map.1 member with ⟨entry, entry_mem, rfl⟩
      exact ⟨entry, entry_mem, rfl⟩
    · rintro ⟨entry, member, rfl⟩
      rcases holds.text _ (List.mem_map_of_mem member) with ⟨time, mode, found⟩
      exact Option.isSome_of_eq_some found

/-- The cache directory holds exactly one file for each identity on file, its artifact with the code that
was filed last, and nothing else. Clearing takes out these files, counts them and leaves an empty
directory; it fails only where the directory is missing and cannot be made. The engine counts the calls
that found their artifact stale and compiled their template. With caching, a call changes no file and
compiles nothing if one about the same template succeeded before, the template and its artifact were left
alone since, and the artifact is not the earlier of them. -/
theorem Working.keeps_ledger (working : c.Working engine ledger) :
    (ledger.filed.map Prod.fst).Nodup ∧
    (∀ entry ∈ ledger.filed, ∃ time mode,
      engine.files.at? (Path.join c.cacheDir (artifact entry.1)) =
        some (.file (.text entry.2) time mode)) ∧
    (∀ name, (engine.files.filed? c.cacheDir name).isSome ↔
      ∃ entry ∈ ledger.filed, name = artifact entry.1) ∧
    (∀ now, (∃ e, (engine.clearCache now).1 = .error e ∧
        (engine.cache.ensure now engine.files).1 = .error e ∧ ledger.filed = []) ∨
      ((engine.clearCache now).1 = .ok ledger.filed.length ∧
        (engine.clearCache now).2.files.isDirectory c.cacheDir = true ∧
        ∀ name, (engine.clearCache now).2.files.filed? c.cacheDir name = none)) ∧
    engine.compiles = ledger.compiled ∧
    (c.settings.cacheEnabled = true →
      ∀ (now : Nat) (call : Call) (source : String), call.source? = some source →
        call.Succeeds now engine →
      ∀ (later : Engine) (ledger' : Ledger), c.Working later ledger' →
        c.Untouched source (call.run now engine).files later.files →
      ∀ (now' : Nat) (again : Call), again.source? = some source →
        (again.run now' later).compiles = later.compiles ∧
          (again.run now' later).files =
            later.files.setMode Cache.sharedDirectoryMode c.cacheDir) := by
  rcases working.accounted with ⟨settings, counted, accounted⟩
  refine ⟨accounted.once, ?_, ?_, ?_, counted, ?_⟩
  · intro entry member
    rcases accounted.contents with ⟨_, none⟩ | holds
    · simp [none] at member
    · have filed : (artifact entry.1, entry.2) ∈ texts ledger.filed := List.mem_map_of_mem member
      rcases holds.at? filed with ⟨time, mode, there⟩
      exact ⟨time, mode, there⟩
  · exact accounted.filed?_isSome_iff
  · intro now
    rw [cache_eq settings]
    rcases accounted.clear settings now with ⟨e, failed, unopened, none, _⟩ | ⟨done, holds⟩
    · exact .inl ⟨e, failed, unopened, none⟩
    · exact .inr ⟨done, holds.directory, fun name => holds.nothing (by simp)⟩
  · intro caching now call source about succeeded later ledger' working' untouched now' again about'
    -- What was there after the first call is there now, so the second finds it fresh.
    rcases working.exists_of_succeeds about succeeded with ⟨template, artifact⟩
    rw [← untouched.exists_template] at template
    rw [← untouched.exists_artifact] at artifact
    have path : c.cache.artifactPath later.files source =
        c.cache.artifactPath (call.run now engine).files source := by
      simp only [Cache.artifactPath, untouched.identity]
    rw [← path] at artifact
    refine working'.run_of_fresh caching about' template artifact ?_ now'
    rw [path]
    exact untouched.dated

/-! ## One page -/

/-- One page at the root, with no cache directory beside it. -/
def loneFiles : Files where
  nodes := [(["page"], .file (.text "b") 6 0o644)]

/-- The page is the only template. -/
def loneCollection : Collection where
  settings := { cacheDir := "/cache" }
  isIdentity := (· = "/page")
  distinct := by
    rintro p q rfl rfl _
    rfl

def loneEngine : Engine where
  settings := loneCollection.settings
  files := loneFiles

/-- The one page stands in a tree. -/
theorem isTree_loneFiles : loneFiles.IsTree :=
  Files.isTree_of_shallow (by simp [loneFiles]) rfl

theorem placeOf_loneFiles : loneFiles.placeOf loneCollection.cache.directory = .ok ["cache"] := by
  have single : Path.IsSingle "cache" := by decide
  exact Files.placeOf_atRoot single ⟨by decide, by decide⟩

/-- Its cache directory is not made yet. -/
theorem vacant_loneFiles : loneCollection.cache.Vacant loneFiles :=
  Cache.vacant_of_free placeOf_loneFiles rfl (by decide) (by decide) isTree_loneFiles

def loneOpened : Files :=
  (loneFiles.put ["cache"] (.directory 7 Files.directoryMode)).setMode Cache.sharedDirectoryMode
    "/cache"

theorem ensure_loneEngine :
    loneEngine.cache.ensure 7 loneEngine.files = (.ok (), loneOpened) :=
  Cache.ensure_of_free placeOf_loneFiles rfl (by decide) (by decide) 7

theorem page_loneOpened :
    ∃ mode, loneOpened.node? ["page"] = some (.file (.text "b") 6 mode) := by
  have modes := Files.differInModes_setMode Cache.sharedDirectoryMode "/cache"
    (loneFiles.put ["cache"] (.directory 7 Files.directoryMode))
  have page : (loneFiles.put ["cache"] (.directory 7 Files.directoryMode)).node? ["page"] =
      some (.file (.text "b") 6 0o644) := rfl
  exact modes.node? page

theorem holds_loneOpened : Cache.Holds "/cache" loneOpened [] :=
  vacant_loneFiles.holds isTree_loneFiles ensure_loneEngine

theorem identity_loneOpened : loneOpened.identity "/page" = "/page" := by
  rcases page_loneOpened with ⟨mode, page⟩
  exact Site.identity_page page

/-- The page compiles to its own text. -/
theorem compile_loneOpened :
    ∃ compiled, Compilation.compile loneOpened loneEngine.settings.options "/page" = .ok compiled ∧
      compiled.code = "b" := by
  rcases page_loneOpened with ⟨mode, page⟩
  have ran := Site.expand_page page loneEngine.settings.options.maxIncludeDepth
  have accepted : Compilation.refused? loneEngine.settings.options "/page" ['b'] = none := by
    simp [Compilation.refused?, loneEngine, loneCollection, Settings.options]
  have unchanged : Compilation.toIslands (Compilation.resolve "b").1 = "b" := by decide +kernel
  exact ⟨_, Compilation.compile_of_accepted ran accepted, unchanged⟩

theorem stale_loneOpened : loneEngine.isStale "/page" loneOpened = true := by
  have single := Cache.isSingle_artifactName Cache.slash_not_mem_shortText
    (loneOpened.identity "/page")
  have missing : loneOpened.exists? (loneEngine.cache.artifactPath loneOpened "/page") = false :=
    Files.exists?_join_of_filed?_none holds_loneOpened.directory single
      (holds_loneOpened.nothing (by simp))
  simp [Engine.isStale, Cache.isStale, missing]

theorem write_loneOpened (code : String) :
    ∃ files, Cache.write 7 (loneEngine.cache.artifactPath loneOpened "/page") code loneOpened =
      (.ok (), files) := by
  have single := Cache.isSingle_artifactName Cache.slash_not_mem_shortText "/page"
  have fits : Files.Fits "/cache" (artifact "/page") := by
    unfold Files.Fits
    decide +kernel
  rcases Files.isDirectory_iff.1 holds_loneOpened.directory with ⟨home, resolved, directory⟩
  have notDirectory := (holds_loneOpened.not_directory resolved (artifact "/page")).1
  rcases Cache.write_of_fits resolved directory single fits (Cache.artifactName_getLast? _ _)
    notDirectory 7 code with ⟨files, done, _⟩
  refine ⟨files, ?_⟩
  rw [Cache.artifactPath, identity_loneOpened]
  exact done

def servedEngine : Engine :=
  (Call.compile "/page").run 7 loneEngine

def servedLedger : Ledger :=
  ({} : Ledger).after 7 loneEngine (.compile "/page")

theorem servedLedger_eq : servedLedger = { filed := [("/page", "b")], compiled := 1 } := by
  rcases compile_loneOpened with ⟨compiled, compiles, code⟩
  rcases write_loneOpened compiled.code with ⟨files, done⟩
  have compilation : loneEngine.compilation? 7 "/page" = some compiled := by
    simp only [Engine.compilation?, ensure_loneEngine, stale_loneOpened, if_true, compiles]
    rfl
  have stale := stale_loneOpened
  unfold Engine.isStale at stale
  have filed : (loneEngine.compile 7 "/page").1.isOk = true := by
    unfold Engine.compile
    rw [Engine.refresh_of_ensure ensure_loneEngine, if_pos stale]
    simp only [Engine.renew, compiles, done]
    rfl
  have opened : loneEngine.opened 7 = loneOpened := Engine.opened_of_ensure ensure_loneEngine
  simp only [servedLedger, Ledger.after, Ledger.note, compilation, filed, if_true, opened,
    identity_loneOpened, code]
  rfl

/-- The engine is working once it has been called. -/
theorem working_servedEngine : loneCollection.Working servedEngine servedLedger := by
  have start : loneCollection.Working loneEngine {} :=
    .start rfl rfl isTree_loneFiles vacant_loneFiles
  refine start.called 7 (.compile "/page") ?_
  rintro source ⟨⟩
  rw [Engine.opened_of_ensure ensure_loneEngine]
  exact identity_loneOpened

/-- The page was compiled once, and its artifact is the one file in the cache directory. -/
theorem keeps_ledger_servedEngine :
    loneCollection.Working servedEngine servedLedger ∧
      (∃ time mode, servedEngine.files.at? (Path.join "/cache" (artifact "/page")) =
        some (.file (.text "b") time mode)) ∧
      (servedEngine.clearCache 8).1 = .ok 1 ∧ servedEngine.compiles = 1 := by
  rcases working_servedEngine.keeps_ledger with ⟨_, held, _, clears, counted, _⟩
  rw [servedLedger_eq] at held counted clears
  refine ⟨working_servedEngine, held ("/page", "b") (by simp), ?_, counted⟩
  rcases clears 8 with ⟨_, _, _, none⟩ | ⟨done, _⟩
  · cases none
  · exact done

end Collection
end TemplateEngine
