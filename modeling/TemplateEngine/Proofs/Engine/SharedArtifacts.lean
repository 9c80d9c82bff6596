import TemplateEngine.Proofs.Compilation.Aliases
import TemplateEngine.Proofs.Engine.Transparency

/-!
# Shared artifacts

Paths that lead to one file share its artifact, whichever of them it was compiled from. That does not
show where they are interchangeable. A link in another directory may not be: there the artifact
depends on which path was rendered first.
-/

namespace TemplateEngine
namespace Engine

open Compilation (Interchangeable SameCompilation Expands)

/-- What compiles is a template that can be read. -/
theorem exists_read_of_compile {files : Files} {options : Options} {source : String}
    {compiled : Compiled} (compiles : Compilation.compile files options source = .ok compiled) :
    ∃ text, files.read source = .ok text := by
  cases read : files.read source with
  | ok text => exact ⟨text, rfl⟩
  | error e =>
      rw [Compilation.compile_of_read_error read] at compiles
      cases compiles

/-- Interchangeable paths compile alike; and a render of the one from the fresh artifact of the other
gives what its own compilation would. -/
theorem sharedArtifact_of_interchangeable {files : Files} {p q : String}
    (pair : Interchangeable files (p, q)) (options : Options) :
    SameCompilation (Compilation.compile files options p) (Compilation.compile files options q) ∧
      ∀ (engine : Engine) (now : Nat) (context : Execution.Context) (compiled : Compiled),
        engine.cache.ensure now engine.files = (.ok (), files) →
        Compilation.compile files options p = .ok compiled →
        files.read (engine.cache.artifactPath files p) = .ok compiled.code →
        Cache.isStale files q (engine.cache.artifactPath files p) engine.settings.cacheEnabled =
          false →
        ∃ own, Compilation.compile files options q = .ok own ∧
          (engine.render now q context).1 =
            (Execution.execute own.code context).mapError .execution := by
  have same := Compilation.sameCompilation_of_interchangeable options pair
  refine ⟨same, ?_⟩
  intro engine now context compiled ensured compiles readable fresh
  -- The artifact is that of both paths: they have one identity.
  rcases exists_read_of_compile compiles with ⟨text, read⟩
  have identity : files.identity q = files.identity p := (pair.alike.of_read read).1
  have shared : engine.cache.artifactPath files q = engine.cache.artifactPath files p := by
    simp only [Cache.artifactPath, identity]
  rw [← shared] at readable fresh
  have rendered := render_of_fresh context ensured fresh readable
  rcases same with ⟨compiled', source, first, second⟩ | ⟨⟨e, failed⟩, _⟩
  · rw [compiles] at first
    cases first
    exact ⟨_, second, rendered⟩
  · rw [compiles] at failed
    cases failed

/-- A page in a directory, a link to it beside it, and a link to it in the directory above. A part has
the same name in both directories. The cache has the artifact of the page. -/
def linkedDirectories : Files where
  nodes :=
    [(["x"], .file (.text "ABOVE") 0 0o644), (["d"], .directory 0 0o755),
      (["d", "x"], .file (.text "BESIDE") 0 0o644),
      (["d", "p"], .file (.text "\x7b\x7b@ include 'x' \x7d\x7d") 0 0o644),
      (["d", "l"], .link "p"), (["p"], .link "d/p"), (["c"], .directory 0 0o777),
      (["c", "_sd_sp.89e9199c3476db60.stc"], .file (.text "BESIDE") 1 0o666)]

def linkedEngine : Engine where
  settings := { cacheDir := "/c" }
  files := linkedDirectories

/-- A page and a link to it resolve to one file. -/
theorem resolve_linkedDirectories :
    linkedDirectories.resolve "/d/p" = .ok ["d", "p"] ∧
      linkedDirectories.resolve "/d/l" = .ok ["d", "p"] ∧
      linkedDirectories.resolve "/p" = .ok ["d", "p"] := by
  have root := Files.hasDirectory_root linkedDirectories
  have inside : linkedDirectories.HasDirectory ["d"] := ⟨0, 0o755, rfl⟩
  have page : Files.Leads linkedDirectories ["d"] ["p"] 0 ["d", "p"] :=
    .down inside (by decide) (by decide) rfl (by simp) .done
  have below : Files.Leads linkedDirectories [] ["d", "p"] 0 ["d", "p"] :=
    .down root (by decide) (by decide) rfl (by simp) page
  have link : Files.Leads linkedDirectories [] ["d", "l"] 1 ["d", "p"] :=
    .down root (by decide) (by decide) rfl (by simp)
      (.link inside (by decide) (by decide) rfl page)
  have linkAbove : Files.Leads linkedDirectories [] ["p"] 1 ["d", "p"] :=
    .link root (by decide) (by decide) rfl below
  exact ⟨Files.resolve_of_leads (by decide) (by decide) (.still root (.inl rfl) below),
    Files.resolve_of_leads (by decide) (by decide) (.still root (.inl rfl) link),
    Files.resolve_of_leads (by decide) (by decide) (.still root (.inl rfl) linkAbove)⟩

/-- The page under one of its paths comes to the part that is found from there. -/
theorem compile_linkedDirectories {path part text : String} {place : Location}
    (page : linkedDirectories.resolve path = .ok ["d", "p"])
    (located : Compilation.locate linkedDirectories path "x" = part)
    (found : linkedDirectories.resolve part = .ok place) (other : Files.pathOf place ≠ "/d/p")
    (there : linkedDirectories.textAt place = .ok text)
    (plain : Directive.includes text = text.toList.map .plain)
    (same : Compilation.toIslands (Compilation.resolve text).1 = text) :
    (Compilation.compile linkedDirectories {} path).map Compiled.code = .ok text := by
  have identity : linkedDirectories.identity path = "/d/p" := by
    rw [Files.identity, page]
    rfl
  have partIdentity : linkedDirectories.identity part = Files.pathOf place := by
    rw [Files.identity, found]
  have read : linkedDirectories.read path = .ok "\x7b\x7b@ include 'x' \x7d\x7d" := by
    rw [Files.read, page]
    rfl
  have partRead : linkedDirectories.read part = .ok text := by
    rw [Files.read, found]
    exact there
  have pieces : Directive.includes "\x7b\x7b@ include 'x' \x7d\x7d" = [.found ['x']] := by
    decide +kernel
  have target : Compilation.includeTarget ['x'] = "x" := by decide
  -- The part is found beside the path as it is written, and has no directive of its own.
  have included : Expands linkedDirectories (some 64) ["/d/p"] (.template part) ["/d/p"]
      (.ok text.toList) ["/d/p", Files.pathOf place] := by
    refine .template (by simpa [partIdentity] using other) (by simp [Compilation.Within]) partRead ?_
    rw [plain, partIdentity]
    simpa [Compilation.visit, other] using Compilation.expands_plain text.toList
  have whole : Expands linkedDirectories (some 64) [] (.template path) [] (.ok text.toList)
      ["/d/p", Files.pathOf place] := by
    refine .template List.not_mem_nil (by simp [Compilation.Within]) read ?_
    rw [identity, pieces]
    rw [← located, ← target] at included
    have step := Expands.included (by rw [target]; rfl) included .done
    simpa [Except.map, Compilation.visit] using step
  have ran := Compilation.expands_iff_expand.1 whole
  have accepted : Compilation.refused? {} path text.toList = none := by simp [Compilation.refused?]
  rw [Compilation.compile_of_accepted ran accepted, String.ofList_toList]
  exact congrArg Except.ok same

/-- The page includes the part beside itself. -/
theorem compile_page :
    (Compilation.compile linkedDirectories {} "/d/p").map Compiled.code = .ok "BESIDE" := by
  rcases resolve_linkedDirectories with ⟨page, _, _⟩
  have root := Files.hasDirectory_root linkedDirectories
  have inside : linkedDirectories.HasDirectory ["d"] := ⟨0, 0o755, rfl⟩
  have part : Files.Leads linkedDirectories [] ["d", "x"] 0 ["d", "x"] :=
    .down root (by decide) (by decide) rfl (by simp)
      (.down inside (by decide) (by decide) rfl (by simp) .done)
  have found : linkedDirectories.resolve "/d/x" = .ok ["d", "x"] :=
    Files.resolve_of_leads (by decide) (by decide) (.still root (.inl rfl) part)
  have beside : linkedDirectories.at? (Path.join "/d" "x") =
      some (.file (.text "BESIDE") 0 0o644) := by
    have there : linkedDirectories.at? "/d/x" = some (.file (.text "BESIDE") 0 0o644) := by
      rw [Files.at?, found]
      rfl
    exact there
  refine @compile_linkedDirectories "/d/p" "/d/x" "BESIDE" ["d", "x"] page ?_ found ?_ rfl ?_ ?_
  · exact Compilation.locate_beside (by decide) (by decide) beside
  · decide
  · decide +kernel
  · decide +kernel

/-- Both are filed under the name of that file. -/
theorem artifactPath_page :
    linkedEngine.cache.artifactPath linkedDirectories "/d/p" =
      Path.join "/c" "_sd_sp.89e9199c3476db60.stc" := by
  have identity : linkedDirectories.identity "/d/p" = "/d/p" := by
    rw [Files.identity, resolve_linkedDirectories.1]
    rfl
  have named : Cache.artifactName Digest.Blake3.shortText "/d/p" =
      "_sd_sp.89e9199c3476db60.stc" := by
    decide +kernel
  calc
    linkedEngine.cache.artifactPath linkedDirectories "/d/p"
        = Path.join "/c" (Cache.artifactName Digest.Blake3.shortText "/d/p") :=
      congrArg (fun identity => Path.join "/c" (Cache.artifactName _ identity)) identity
    _ = Path.join "/c" "_sd_sp.89e9199c3476db60.stc" := congrArg (Path.join "/c") named

theorem resolve_linkedCache : linkedDirectories.resolve "/c" = .ok ["c"] :=
  Files.resolve_atRoot (by decide : Path.IsSingle "c") (by decide)
    ⟨.directory 0 0o777, rfl, by simp⟩

theorem isDirectory_linkedCache : linkedDirectories.isDirectory "/c" = true :=
  Files.isDirectory_iff.2 ⟨["c"], resolve_linkedCache, 0, 0o777, rfl⟩

/-- The cache is open to every user already. -/
theorem ensure_linkedEngine :
    linkedEngine.cache.ensure 2 linkedEngine.files = (.ok (), linkedDirectories) := by
  have opened : linkedDirectories.setMode Cache.sharedDirectoryMode "/c" = linkedDirectories := by
    rw [Files.setMode, Files.adjust, resolve_linkedCache]
    rfl
  exact (Cache.ensure_of_isDirectory linkedEngine.cache 2 isDirectory_linkedCache).trans
    (congrArg (Prod.mk _) opened)

/-- The artifact of the page is later than the page. -/
theorem at?_artifact :
    linkedDirectories.at? (Path.join "/c" "_sd_sp.89e9199c3476db60.stc") =
      some (.file (.text "BESIDE") 1 0o666) := by
  apply Files.at?_join isDirectory_linkedCache (by decide) (by decide)
  · rw [Files.filed?_eq resolve_linkedCache]
    rfl
  · simp

/-- The link beside the page is rendered from the artifact of the page. -/
theorem sharedArtifact_linkedDirectories :
    Interchangeable linkedDirectories ("/d/p", "/d/l") ∧
      ∃ own, Compilation.compile linkedDirectories {} "/d/l" = .ok own ∧
        (linkedEngine.render 2 "/d/l" {}).1 =
          (Execution.execute own.code {}).mapError .execution := by
  rcases resolve_linkedDirectories with ⟨page, link, _⟩
  have beside : Path.parent? "/d/p" = Path.parent? "/d/l" := by decide
  have pair := Compilation.interchangeable_of_parent beside page link
  refine ⟨pair, ?_⟩
  have source : linkedDirectories.at? "/d/l" =
      some (.file (.text "\x7b\x7b@ include 'x' \x7d\x7d") 0 0o644) := by
    rw [Files.at?, link]
    rfl
  have code := compile_page
  cases compiles : Compilation.compile linkedDirectories {} "/d/p" with
  | error e =>
      rw [compiles] at code
      cases code
  | ok compiled =>
      rw [compiles] at code
      have text : compiled.code = "BESIDE" := Except.ok.inj code
      apply (sharedArtifact_of_interchangeable pair {}).2 linkedEngine 2 {} compiled
        ensure_linkedEngine compiles
      · rw [artifactPath_page, text]
        exact Files.read_of_at? at?_artifact
      · rw [artifactPath_page]
        apply Site.isStale_eq_false_iff.2
        simp [Files.exists?, Files.time?, source, at?_artifact]

/-- The link above has the artifact of the page and compiles to another one. -/
theorem sharedArtifact_differs :
    (∀ cache : Cache, cache.artifactPath linkedDirectories "/p" =
        cache.artifactPath linkedDirectories "/d/p") ∧
      (Compilation.compile linkedDirectories {} "/d/p").map Compiled.code = .ok "BESIDE" ∧
      (Compilation.compile linkedDirectories {} "/p").map Compiled.code = .ok "ABOVE" := by
  rcases resolve_linkedDirectories with ⟨page, _, link⟩
  refine ⟨fun cache => by simp only [Cache.artifactPath, Files.identity, page, link], ?_, ?_⟩
  · exact compile_page
  · have single : Path.IsSingle "x" := by decide
    have above : linkedDirectories.node? ["x"] = some (.file (.text "ABOVE") 0 0o644) := rfl
    refine @compile_linkedDirectories "/p" "/x" "ABOVE" ["x"] link ?_ ?_ ?_ rfl ?_ ?_
    · exact Compilation.locate_beside (by decide) (by decide)
        (Files.at?_atRoot single (by decide) above)
    · exact Files.resolve_atRoot single (by decide) ⟨_, above, by simp⟩
    · decide
    · decide +kernel
    · decide +kernel

end Engine
end TemplateEngine
