import TemplateEngine.Proofs.Engine.Coherence

/-!
# Transparency — a cache that cannot be seen

Whatever history an engine has, it renders each template as it would without a cache. Calls keep the
artifacts coherent, as edits do, and a coherent artifact that is not stale holds what a compilation
would give.
-/

namespace TemplateEngine
namespace Engine

variable {engine : Engine} {now : Nat} {source : String} {opened : Files}

/-- The same engine without a cache. -/
def uncached (engine : Engine) : Engine :=
  { engine with settings := { engine.settings with cacheEnabled := false } }

/-! ## One call -/

/-- A refresh of an open cache compiles the source if its artifact is stale and reads it otherwise. -/
theorem refresh_of_ensure (ensured : engine.cache.ensure now engine.files = (.ok (), opened)) :
    engine.refresh now source =
      if Cache.isStale opened source (engine.cache.artifactPath opened source)
          engine.settings.cacheEnabled then
        renew now source (engine.cache.artifactPath opened source) { engine with files := opened }
      else
        (.ok ⟨engine.cache.artifactPath opened source, none⟩, { engine with files := opened }) := by
  unfold refresh
  rw [ensured]
  rfl

/-- A refresh leaves the files as they were opened or writes an artifact. -/
theorem files_refresh (source : String)
    (ensured : engine.cache.ensure now engine.files = (.ok (), opened)) :
    (engine.refresh now source).2.files = opened ∨
      ∃ compiled, Compilation.compile opened engine.settings.options source = .ok compiled ∧
        (Cache.write now (engine.cache.artifactPath opened source) compiled.code opened).2 =
          (engine.refresh now source).2.files := by
  rw [refresh_of_ensure ensured]
  split
  · cases compiles : Compilation.compile opened engine.settings.options source with
    | error e => simp [renew, compiles]
    | ok compiled => exact .inr ⟨compiled, rfl, by simp [renew, compiles]⟩
  · exact .inl rfl

theorem settings_refresh (now : Nat) (source : String) (engine : Engine) :
    (engine.refresh now source).2.settings = engine.settings := by
  unfold refresh renew
  simp only
  split
  · rfl
  · split
    · split <;> rfl
    · rfl

/-- No call changes the settings. -/
theorem settings_run (now : Nat) (engine : Engine) (call : Call) :
    (call.run now engine).settings = engine.settings := by
  cases call with
  | render source context => exact settings_refresh now source engine
  | compile source => exact settings_refresh now source engine
  | clearCache => rfl

/-- What a compilation and the writing of its artifact come to. -/
def renewal (now : Nat) (source artifact : String) (options : Options)
    (context : Execution.Context) (files : Files) : Except CompileError String :=
  match Compilation.compile files options source with
  | .error e => .error e
  | .ok compiled =>
      match (Cache.write now artifact compiled.code files).1 with
      | .error e => .error e
      | .ok () => (Execution.execute compiled.code context).mapError .execution

/-- A stale artifact is compiled again, written and run. -/
theorem render_of_stale (context : Execution.Context)
    (ensured : engine.cache.ensure now engine.files = (.ok (), opened))
    (stale : Cache.isStale opened source (engine.cache.artifactPath opened source)
      engine.settings.cacheEnabled = true) :
    (engine.render now source context).1 =
      renewal now source (engine.cache.artifactPath opened source) engine.settings.options context
        opened := by
  unfold render
  rw [refresh_of_ensure ensured, if_pos stale]
  cases compiles : Compilation.compile opened engine.settings.options source with
  | error e => simp [renew, renewal, compiles, Except.bind]
  | ok compiled =>
      rcases written : Cache.write now (engine.cache.artifactPath opened source) compiled.code opened
        with ⟨outcome, files⟩
      cases outcome with
      | error e => simp [renew, renewal, compiles, written, Except.bind, Except.map]
      | ok done => simp [renew, renewal, compiles, written, Except.bind, Except.map, codeOf]

/-- A fresh one is read and run. -/
theorem render_of_fresh (context : Execution.Context)
    (ensured : engine.cache.ensure now engine.files = (.ok (), opened))
    (fresh : Cache.isStale opened source (engine.cache.artifactPath opened source)
      engine.settings.cacheEnabled = false)
    {code : String} (readable : opened.read (engine.cache.artifactPath opened source) = .ok code) :
    (engine.render now source context).1 =
      (Execution.execute code context).mapError .execution := by
  unfold render
  rw [refresh_of_ensure ensured, if_neg (by simp [fresh])]
  have read : Cache.read (engine.cache.artifactPath opened source) opened = .ok code := by
    rw [Cache.read, readable]
    rfl
  simp [codeOf, read, Except.bind]

/-- An engine without a cache takes every artifact for stale. -/
theorem render_uncached (context : Execution.Context)
    (ensured : engine.cache.ensure now engine.files = (.ok (), opened)) :
    (engine.uncached.render now source context).1 =
      renewal now source (engine.cache.artifactPath opened source) engine.settings.options context
        opened := by
  have ensured' : engine.uncached.cache.ensure now engine.uncached.files = (.ok (), opened) := ensured
  exact render_of_stale context ensured' (by simp [Cache.isStale, uncached])

end Engine

namespace Site

variable {site : Site} {engine : Engine} {source : String}

/-! ## Every history -/

/-- Whenever the cache directory is opened, the artifacts are coherent. -/
def Sound (site : Site) (files : Files) : Prop :=
  ∀ now, ∃ opened, site.cache.ensure now files = (.ok (), opened) ∧ site.Kept opened

/-- A kept site is sound. -/
theorem Kept.sound {files : Files} (kept : site.Kept files) : site.Sound files := by
  intro now
  refine ⟨_, Cache.ensure_of_isDirectory site.cache now kept.directory, ?_⟩
  exact kept.modes (Files.differInModes_setMode _ _ _)

/-- A sound site is kept if its cache directory is there. -/
theorem Sound.kept {files : Files} (sound : site.Sound files)
    (directory : files.isDirectory site.cacheDir = true) : site.Kept files := by
  rcases sound 0 with ⟨opened, ensured, kept⟩
  rw [Cache.ensure_of_isDirectory site.cache 0 directory] at ensured
  cases ensured
  exact kept.modes (Files.differInModes_setMode _ _ _).symm

/-- A fresh site is sound. -/
theorem Fresh.sound {files : Files} (fresh : site.Fresh files) : site.Sound files := by
  intro now
  rcases fresh.opens now with ⟨opened, ensured, directory, addressed, nothing⟩
  refine ⟨opened, ensured, Cache.isTree_ensure fresh.tree ensured, directory, addressed, ?_⟩
  intro source isTemplate
  exact .inl (nothing source isTemplate)

/-- What compiles exists. -/
theorem exists?_of_compile {files : Files} {options : Options} {compiled : Compiled}
    (compiles : Compilation.compile files options source = .ok compiled) :
    files.exists? source = true := by
  cases there : files.exists? source with
  | true => rfl
  | false =>
      rcases Files.read_of_missing there with ⟨e, failed, _⟩
      rw [Compilation.compile_of_read_error failed] at compiles
      cases compiles

theorem cache_eq (settings : engine.settings = site.settings) : engine.cache = site.cache := by
  simp only [Engine.cache, cache, settings]

/-- A refresh keeps what a site keeps. -/
theorem Kept.refresh {now : Nat} {opened : Files} (settings : engine.settings = site.settings)
    (ensured : engine.cache.ensure now engine.files = (.ok (), opened)) (kept : site.Kept opened)
    (isTemplate : site.isTemplate source)
    (addressed : site.Addressed (engine.refresh now source).2.files)
    (dated : site.Dated opened (engine.refresh now source).2.files) :
    site.Kept (engine.refresh now source).2.files := by
  rcases Engine.files_refresh source ensured with same | ⟨compiled, compiles, written⟩
  · rw [same]
    exact kept
  · rw [settings] at compiles
    have path := kept.addressed source isTemplate (exists?_of_compile compiles)
    rw [cache_eq settings, path] at written
    exact kept.write isTemplate compiles written addressed dated

/-- A refresh changes nothing outside the cache directory but permissions. -/
theorem Kept.node?_refresh {now : Nat} {opened : Files} (settings : engine.settings = site.settings)
    (ensured : engine.cache.ensure now engine.files = (.ok (), opened)) (kept : site.Kept opened)
    (isTemplate : site.isTemplate source) {home place : Location}
    (resolved : opened.resolve site.cacheDir = .ok home) (outside : place.dropLast ≠ home)
    {node : Node} (found : opened.node? place = some node) :
    ∃ mode, (engine.refresh now source).2.files.node? place = some (node.withMode mode) := by
  rcases Engine.files_refresh source ensured with same | ⟨compiled, compiles, written⟩
  · rw [same]
    exact (Files.DifferInModes.refl opened).node? found
  · have path := kept.addressed source isTemplate (exists?_of_compile compiles)
    rw [cache_eq settings, path] at written
    rw [← written]
    rcases kept.files_write isTemplate resolved now compiled.code with unchanged | same
    · rw [unchanged]
      exact (Files.DifferInModes.refl opened).node? found
    · have apart : place ≠ home ++ [site.artifact source] := by
        rintro rfl
        exact outside (List.dropLast_concat)
      exact same.node? ((Files.node?_put_of_ne apart _ _).trans found)

/-- What a call leaves behind is coherent. -/
theorem Kept.run {now : Nat} {opened : Files} (settings : engine.settings = site.settings)
    (ensured : engine.cache.ensure now engine.files = (.ok (), opened)) (kept : site.Kept opened)
    (call : Call) (isTemplate : ∀ source ∈ call.source?, site.isTemplate source)
    (addressed : site.Addressed (call.run now engine).files)
    (dated : site.Dated opened (call.run now engine).files) :
    site.Kept (call.run now engine).files := by
  cases call with
  | render source context =>
      exact kept.refresh settings ensured (isTemplate source rfl) addressed dated
  | compile source =>
      exact kept.refresh settings ensured (isTemplate source rfl) addressed dated
  | clearCache => exact kept.thinned (Cache.thinned_clear ensured _) addressed dated

/-- The invariant of all histories. -/
theorem Reachable.sound (reachable : site.Reachable engine) :
    engine.settings = site.settings ∧ site.Sound engine.files := by
  -- The induction is on the history: every call starts from a directory just opened.
  induction reachable with
  | fresh settings fresh => exact ⟨settings, fresh.sound⟩
  | edited _ edit ih =>
      rcases ih with ⟨settings, sound⟩
      exact ⟨settings, ((sound.kept edit.directory).edit edit).sound⟩
  | @called engine _ now call isTemplate addressed dated ih =>
      rcases ih with ⟨settings, sound⟩
      rcases sound now with ⟨opened, ensured, kept⟩
      rw [← cache_eq settings] at ensured
      rw [ensured] at dated
      refine ⟨(Engine.settings_run now engine call).trans settings, ?_⟩
      exact (kept.run settings ensured call isTemplate addressed dated).sound

/-- A fresh artifact can be read, and a compilation would write the same text and succeed. -/
theorem Kept.fresh {files : Files} (kept : site.Kept files) (isTemplate : site.isTemplate source)
    (fresh : Cache.isStale files source (site.artifactPath source) true = false) (now : Nat) :
    ∃ compiled files', files.read (site.artifactPath source) = .ok compiled.code ∧
      Compilation.compile files site.settings.options source = .ok compiled ∧
      Cache.write now (site.artifactPath source) compiled.code files = (.ok (), files') := by
  rcases isStale_eq_false_iff.1 fresh with ⟨_, artifact, _⟩
  have single := site.isSingle_artifact source
  have fits := Files.fits_of_exists? kept.directory single artifact
  rcases kept.coherent source isTemplate with nothing | ⟨code, time, mode, found, compiles⟩
  · have missing := Files.exists?_join_of_filed?_none kept.directory single nothing
    rw [artifactPath, missing] at artifact
    cases artifact
  · rcases compiles fresh with ⟨compiled, result, rfl⟩
    have readable := Files.read_of_at? (Files.at?_join kept.directory single fits found (by simp))
    rcases Files.isDirectory_iff.1 kept.directory with ⟨home, resolved, directory⟩
    rcases Cache.write_of_fits resolved directory single fits (Cache.artifactName_getLast? _ _)
      (kept.not_directory isTemplate resolved).1 now compiled.code with ⟨files', done, _⟩
    exact ⟨compiled, files', readable, result, done⟩

/-- In every state that calls and edits lead to, an engine renders each template as it would without a
cache. -/
theorem render_eq_uncached (reachable : site.Reachable engine) (isTemplate : site.isTemplate source)
    (now : Nat) (context : Execution.Context) :
    (engine.render now source context).1 = (engine.uncached.render now source context).1 := by
  rcases reachable.sound with ⟨settings, sound⟩
  rcases sound now with ⟨opened, ensured, kept⟩
  rw [← cache_eq settings] at ensured
  rw [Engine.render_uncached context ensured]
  cases fresh : Cache.isStale opened source (engine.cache.artifactPath opened source)
      engine.settings.cacheEnabled with
  -- Both engines compile and write the artifact.
  | true => exact Engine.render_of_stale context ensured fresh
  -- One engine reads what the other compiles and writes, and neither can fail.
  | false =>
      have caching : engine.settings.cacheEnabled = true := by
        cases enabled : engine.settings.cacheEnabled with
        | true => rfl
        | false => simp [Cache.isStale, enabled] at fresh
      have there : opened.exists? source = true := by
        rw [caching] at fresh
        exact (isStale_eq_false_iff.1 fresh).1
      have path : engine.cache.artifactPath opened source = site.artifactPath source := by
        rw [cache_eq settings]
        exact kept.addressed source isTemplate there
      have fresh' := fresh
      rw [caching, path] at fresh'
      rcases kept.fresh isTemplate fresh' now with ⟨compiled, files', readable, compiles, written⟩
      rw [← path] at readable written
      rw [Engine.render_of_fresh context ensured fresh readable, Engine.renewal, settings, compiles]
      simp only [written]

/-! ## One page in a history -/

/-- One page at the root, beside the cache directory. -/
def pageFiles (text : String) (time : Nat) : Files where
  nodes := [(["cache"], .directory 0 0o755), (["page"], .file (.text text) time 0o644)]

/-- The page is the only template. -/
def pageSite : Site where
  settings := { cacheDir := "/cache" }
  isTemplate := (· = "/page")
  identity := id
  distinct := by
    rintro p q rfl rfl _
    rfl

section Page

variable {files files' : Files} {text : String} {time mode mode' : Nat}
  (page : files.node? ["page"] = some (.file (.text text) time mode))
include page

theorem at?_page : files.at? "/page" = some (.file (.text text) time mode) :=
  Files.at?_atRoot (by decide : Path.IsSingle "page") (by decide) page

theorem identity_page : files.identity "/page" = "/page" :=
  Files.identity_atRoot (by decide : Path.IsSingle "page") (by decide) page

theorem addressed_page : pageSite.Addressed files := by
  rintro source rfl _
  unfold Cache.artifactPath
  rw [identity_page page]
  rfl

end Page

variable {files files' : Files} {time mode mode' : Nat}

/-- A page without directives expands to itself. -/
theorem expand_page (page : files.node? ["page"] = some (.file (.text "b") time mode)) (limit : Nat) :
    Compilation.expand files limit "/page" = (.ok ['b'], ["/page"]) := by
  have readable : files.read "/page" = .ok "b" := Files.read_of_at? (at?_page page)
  have pieces : Directive.includes "b" = [.plain 'b'] := by decide +kernel
  have expands : Compilation.Expands files (some limit) [] (.template "/page") [] (.ok ['b'])
      ["/page"] := by
    refine .template (by simp) (fun _ _ => Nat.zero_le _) readable ?_
    rw [identity_page page, pieces]
    exact .plain .done
  exact Compilation.expands_iff_expand.1 expands

/-- Nothing is dated by a step that leaves the page as it is. -/
theorem dated_page (page : files.node? ["page"] = some (.file (.text "b") time mode))
    (page' : files'.node? ["page"] = some (.file (.text "b") time mode')) :
    pageSite.Dated files files' where
  change := by
    rintro source rfl changed
    refine absurd ?_ changed
    simp only [Compilation.compile, expand_page page, expand_page page']
  notEarlier := by
    rintro source rfl before after timed timed'
    simp only [Files.time?, at?_page page] at timed
    simp only [Files.time?, at?_page page'] at timed'
    exact Nat.le_of_eq (Option.some.inj (timed.symm.trans timed'))

theorem node?_pageFiles (text : String) (time : Nat) :
    (pageFiles text time).node? ["page"] = some (.file (.text text) time 0o644) :=
  rfl

theorem isTree_pageFiles (text : String) (time : Nat) : (pageFiles text time).IsTree :=
  Files.isTree_of_shallow (by simp [pageFiles]) rfl

theorem resolve_cache (text : String) (time : Nat) :
    (pageFiles text time).resolve "/cache" = .ok ["cache"] :=
  Files.resolve_atRoot (by decide : Path.IsSingle "cache") (by decide)
    ⟨.directory 0 0o755, rfl, by simp⟩

theorem isDirectory_cache (text : String) (time : Nat) :
    (pageFiles text time).isDirectory "/cache" = true :=
  Files.isDirectory_iff.2 ⟨["cache"], resolve_cache text time, 0, 0o755, rfl⟩

theorem filed?_pageFiles (text : String) (time : Nat) (name : String) :
    (pageFiles text time).filed? "/cache" name = none := by
  rw [Files.filed?_eq (resolve_cache text time)]
  simp [pageFiles, Files.node?, List.lookup_cons]

/-- The site of one page is fresh as it is made. -/
theorem fresh_pageFiles (text : String) (time : Nat) : pageSite.Fresh (pageFiles text time) where
  tree := isTree_pageFiles text time
  opens := by
    intro now
    have directory := isDirectory_cache text time
    have opened := Files.differInModes_setMode Cache.sharedDirectoryMode "/cache" (pageFiles text time)
    refine ⟨_, Cache.ensure_of_isDirectory pageSite.cache now directory, ?_, ?_, ?_⟩
    · exact (opened.isDirectory_eq "/cache").trans directory
    · exact (addressed_page (node?_pageFiles text time)).modes opened
    · intro source _
      exact opened.filed?_none (filed?_pageFiles text time _)

/-- Its page may be written again later. -/
theorem edit_pageFiles (text text' : String) {time time' : Nat} (later : time ≤ time') :
    pageSite.Edit (pageFiles text time) (pageFiles text' time') where
  tree := isTree_pageFiles text' time'
  directory := isDirectory_cache text time
  directory' := isDirectory_cache text' time'
  addressed := addressed_page (node?_pageFiles text' time')
  artifacts := by
    intro source _
    exact (filed?_pageFiles text' time' _).trans (filed?_pageFiles text time _).symm
  dated := by
    refine ⟨?_, ?_⟩
    · rintro source rfl _
      refine .inr fun made timed => ?_
      have directory := isDirectory_cache text' time'
      have missing := Files.exists?_join_of_filed?_none directory
        (pageSite.isSingle_artifact "/page") (filed?_pageFiles text' time' _)
      have there := Files.exists_of_time? timed
      cases missing.symm.trans there
    · rintro source rfl before after timed timed'
      simp only [Files.time?, at?_page (node?_pageFiles _ _), Option.some.injEq] at timed timed'
      exact timed ▸ timed' ▸ later

/-- An engine over a page that was rewritten before its first call. -/
def rewrittenEngine : Engine where
  settings := pageSite.settings
  files := pageFiles "b" 6

/-- The engine after its first rendering of the page, whose artifact is fresh from then on. -/
def pageEngine : Engine :=
  (Call.render "/page" {}).run 7 rewrittenEngine

theorem reachable_rewrittenEngine : pageSite.Reachable rewrittenEngine := by
  have start : pageSite.Reachable { settings := pageSite.settings, files := pageFiles "a" 5 } :=
    .fresh rfl (fresh_pageFiles "a" 5)
  exact start.edited (edit_pageFiles "a" "b" (by decide : 5 ≤ 6))

theorem reachable_pageEngine : pageSite.Reachable pageEngine := by
  have directory := isDirectory_cache "b" 6
  have opened := Files.differInModes_setMode Cache.sharedDirectoryMode "/cache" (pageFiles "b" 6)
  have ensured : rewrittenEngine.cache.ensure 7 rewrittenEngine.files =
      (.ok (), (pageFiles "b" 6).setMode Cache.sharedDirectoryMode "/cache") :=
    Cache.ensure_of_isDirectory pageSite.cache 7 directory
  have kept := (reachable_rewrittenEngine.sound.2.kept directory).modes opened
  -- The page is the same before and after the call, which writes into the cache directory alone.
  rcases opened.node? (node?_pageFiles "b" 6) with ⟨mode, page⟩
  have resolved := (opened.resolve_eq "/cache").trans (resolve_cache "b" 6)
  have outside : ["page"].dropLast ≠ ["cache"] := by decide
  have rendered : ∃ mode', pageEngine.files.node? ["page"] =
      some (Node.withMode mode' (.withMode mode (.file (.text "b") 6 0o644))) :=
    kept.node?_refresh rfl ensured rfl resolved outside page
  rcases rendered with ⟨mode', page'⟩
  refine reachable_rewrittenEngine.called 7 (.render "/page" {}) ?_ (addressed_page page') ?_
  · intro source same
    exact (Option.some.inj same).symm
  · rw [ensured]
    exact dated_page page page'

theorem render_eq_uncached_pageEngine :
    pageSite.Reachable pageEngine ∧ pageSite.isTemplate "/page" ∧
      (pageEngine.render 8 "/page" {}).1 = (pageEngine.uncached.render 8 "/page" {}).1 :=
  ⟨reachable_pageEngine, rfl, render_eq_uncached reachable_pageEngine rfl 8 {}⟩

end Site
end TemplateEngine
