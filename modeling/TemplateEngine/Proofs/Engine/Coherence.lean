import TemplateEngine.Proofs.Engine.History

/-!
# Coherence — a cached engine renders as one without a cache

Every artifact in the cache is what its template compiles to, unless the times say that it is stale.
Each call and each edit preserves this, so an engine that reuses artifacts gives the same answer as one
that always compiles.
-/

namespace TemplateEngine
namespace Site

variable {site : Site} {files files' : Files} {source : String}

/-! ## What a dated step preserves -/

/-- The time of an artifact is that of its file. -/
theorem time?_artifactPath (directory : files.isDirectory site.cacheDir = true)
    (fits : Files.Fits site.cacheDir (site.artifact source)) {content : Content} {time mode : Nat}
    (found : files.filed? site.cacheDir (site.artifact source) = some (.file content time mode)) :
    files.exists? (site.artifactPath source) = true ∧
      files.time? (site.artifactPath source) = some time := by
  have there := Files.at?_join directory (site.isSingle_artifact source) fits found (by simp)
  exact ⟨by simp [Files.exists?, artifactPath, there], by simp [Files.time?, artifactPath, there]⟩

/-- Where a dated step leaves an artifact that is not stale, it has not changed what the template
compiles to: the template would be missing or newer. -/
theorem Dated.unchanged (dated : site.Dated files files') (tree' : files'.IsTree)
    (isTemplate : site.isTemplate source)
    (fresh : Cache.isStale files' source (site.artifactPath source) true = false) :
    Compilation.compile files' site.settings.options source =
      Compilation.compile files site.settings.options source := by
  rcases isStale_eq_false_iff.1 fresh with ⟨there, artifact, notNewer⟩
  rcases tree'.exists_time artifact with ⟨made, artifactTime⟩
  rw [artifactTime, Option.getD_some] at notNewer
  refine Classical.byContradiction fun changed => ?_
  rcases dated.change source isTemplate changed with missing | newer
  · simp [there] at missing
  · rcases newer made artifactTime with ⟨time, timed, later⟩
    rw [timed, Option.getD_some] at notNewer
    exact Nat.not_le_of_lt later notNewer

/-- A dated step that leaves the artifact of a template as it is, or takes it away, leaves it
coherent. -/
theorem Coherent.step (coherent : site.Coherent files source) (isTemplate : site.isTemplate source)
    (directory : files.isDirectory site.cacheDir = true) (tree' : files'.IsTree)
    (directory' : files'.isDirectory site.cacheDir = true)
    (artifact : files'.filed? site.cacheDir (site.artifact source) =
        files.filed? site.cacheDir (site.artifact source) ∨
      files'.filed? site.cacheDir (site.artifact source) = none)
    (dated : site.Dated files files') : site.Coherent files' source := by
  -- Only an artifact that is still there and not stale has to be looked at.
  rcases artifact with same | gone
  · rcases coherent with nothing | ⟨code, made, mode, found, compiles⟩
    · exact .inl (same.trans nothing)
    · refine .inr ⟨code, made, mode, same.trans found, fun fresh' => ?_⟩
      have unchanged := dated.unchanged tree' isTemplate fresh'
      rcases isStale_eq_false_iff.1 fresh' with ⟨there', artifact', notNewer'⟩
      have fits := Files.fits_of_exists? directory' (site.isSingle_artifact source) artifact'
      rw [(time?_artifactPath directory' fits (same.trans found)).2, Option.getD_some] at notNewer'
      -- The template was there before the step, and no newer than it is now.
      have there : files.exists? source = true := by
        cases missing : files.exists? source with
        | true => rfl
        | false =>
            exact absurd unchanged (Compilation.compile_ne_of_appeared tree' missing there' _)
      have notNewer : (files.time? source).getD 0 ≤ made := by
        rcases tree'.exists_time there' with ⟨later, timed'⟩
        rw [timed', Option.getD_some] at notNewer'
        cases timed : files.time? source with
        | none => exact Nat.zero_le made
        | some earlier =>
            have kept := dated.notEarlier source isTemplate earlier later timed timed'
            exact Nat.le_trans kept notNewer'
      rcases time?_artifactPath directory fits found with ⟨artifact, time⟩
      have fresh : Cache.isStale files source (site.artifactPath source) true = false :=
        isStale_eq_false_iff.2 ⟨there, artifact, by rwa [time, Option.getD_some]⟩
      rw [unchanged]
      exact compiles fresh
  · exact .inl gone

/-- An edit of the site keeps what a site keeps. -/
theorem Kept.edit (kept : site.Kept files) (edit : site.Edit files files') : site.Kept files' where
  tree := edit.tree
  directory := edit.directory'
  addressed := edit.addressed
  coherent := by
    intro source isTemplate
    have artifact := edit.artifacts source isTemplate
    exact (kept.coherent source isTemplate).step isTemplate kept.directory edit.tree
      edit.directory' (.inl artifact) edit.dated

/-- So does the loss of artifacts. -/
theorem Kept.thinned (kept : site.Kept files) (thinned : files.Thinned site.cacheDir files')
    (addressed : site.Addressed files') (dated : site.Dated files files') : site.Kept files' where
  tree := thinned.tree kept.tree
  directory := thinned.directory kept.directory
  addressed := addressed
  coherent := by
    intro source isTemplate
    have artifact := thinned.entries kept.directory (site.artifact source)
    exact (kept.coherent source isTemplate).step isTemplate kept.directory
      (thinned.tree kept.tree) (thinned.directory kept.directory) artifact dated

/-! ## What writing an artifact preserves -/

/-- Where an artifact belongs there is neither a directory nor a link. -/
theorem Kept.not_directory (kept : site.Kept files) (isTemplate : site.isTemplate source)
    {home : Location} (resolved : files.resolve site.cacheDir = .ok home) :
    ¬ files.HasDirectory (home ++ [site.artifact source]) ∧
      ∀ target, files.node? (home ++ [site.artifact source]) ≠ some (.link target) := by
  have coherent := kept.coherent source isTemplate
  unfold Coherent at coherent
  rw [Files.filed?_eq resolved] at coherent
  rcases coherent with nothing | ⟨code, time, mode, found, _⟩
  · simp [Files.HasDirectory, nothing]
  · simp [Files.HasDirectory, found]

/-- The artifact of what a template compiles to is coherent, and so are the others after it is
written. -/
theorem Kept.put (kept : site.Kept files) (isTemplate : site.isTemplate source) {home : Location}
    (resolved : files.resolve site.cacheDir = .ok home) (directory : files.HasDirectory home)
    {compiled : Compiled}
    (compiles : Compilation.compile files site.settings.options source = .ok compiled)
    {now mode : Nat}
    (put : files' = files.put (home ++ [site.artifact source]) (.file (.text compiled.code) now mode))
    (addressed : site.Addressed files') (dated : site.Dated files files') : site.Kept files' := by
  rcases kept.not_directory isTemplate resolved with ⟨notDirectory, notLink⟩
  have tree' : files'.IsTree := put ▸ kept.tree.put directory notDirectory
  have directory' : files'.isDirectory site.cacheDir = true := by
    rw [put]
    exact (Files.keeps_put notDirectory notLink _).isDirectory rfl kept.directory
  have filed : ∀ name, files'.filed? site.cacheDir name =
      if name = site.artifact source then some (.file (.text compiled.code) now mode)
      else files.filed? site.cacheDir name := by
    intro name
    rw [put]
    exact Files.filed?_put resolved directory notDirectory notLink _ name
  refine ⟨tree', directory', addressed, fun other isTemplate' => ?_⟩
  by_cases same : other = source
  · rw [same]
    refine .inr ⟨compiled.code, now, mode, by simp [filed], fun fresh => ⟨compiled, ?_, rfl⟩⟩
    -- The text was compiled before it was written; a date that is not stale says it still holds.
    rw [dated.unchanged tree' isTemplate fresh, compiles]
  · have different : site.artifact other ≠ site.artifact source :=
      fun sameName => same (site.distinct other source isTemplate' isTemplate sameName)
    have artifact : files'.filed? site.cacheDir (site.artifact other) =
        files.filed? site.cacheDir (site.artifact other) := by rw [filed, if_neg different]
    exact (kept.coherent other isTemplate').step isTemplate' kept.directory tree' directory'
      (.inl artifact) dated

/-- A write leaves the files alone or puts the artifact in its place, up to modes. -/
theorem Kept.files_write (kept : site.Kept files) (isTemplate : site.isTemplate source)
    {home : Location} (resolved : files.resolve site.cacheDir = .ok home) (now : Nat)
    (code : String) :
    (Cache.write now (site.artifactPath source) code files).2 = files ∨
      (files.put (home ++ [site.artifact source])
        (.file (.text code) now Files.stagedMode)).DifferInModes
          (Cache.write now (site.artifactPath source) code files).2 := by
  have directory := Files.hasDirectory_of_isDirectory kept.directory resolved
  exact Cache.files_write resolved directory (site.isSingle_artifact source)
    (Cache.artifactName_getLast? _ _) (kept.not_directory isTemplate resolved).1 now code

/-- A write of what the source compiles to keeps what a site keeps. -/
theorem Kept.write (kept : site.Kept files) (isTemplate : site.isTemplate source)
    {compiled : Compiled}
    (compiles : Compilation.compile files site.settings.options source = .ok compiled) {now : Nat}
    (written : (Cache.write now (site.artifactPath source) compiled.code files).2 = files')
    (addressed : site.Addressed files') (dated : site.Dated files files') : site.Kept files' := by
  rcases Files.isDirectory_iff.1 kept.directory with ⟨home, resolved, directory⟩
  rcases kept.files_write isTemplate resolved now compiled.code with unchanged | same
  · rw [unchanged] at written
    exact written ▸ kept
  · rw [written] at same
    exact (kept.put isTemplate resolved directory compiles rfl (addressed.modes same.symm)
      (dated.modes_right same.symm)).modes same

end Site
end TemplateEngine
