import TemplateEngine.Proofs.Engine.Refreshing
import TemplateEngine.Proofs.Engine.SharedArtifacts

/-!
# Failures — what a failing call leaves behind

A call that fails before it runs an artifact leaves every file as it was: artifacts and foreign files
alike, under their names, with their contents and times. A call whose artifact fails when it is run
has replaced that artifact at most, by what its template compiles to.
-/

namespace TemplateEngine
namespace Engine

variable {engine : Engine} {now : Nat} {call : Call} {source : String} {e : CompileError}

/-- A call about a template fails where its refresh does. Otherwise its artifact cannot be read back or
fails when it is run. -/
theorem refresh_of_failsWith (about : call.source? = some source)
    (failed : call.FailsWith now engine e) :
    (engine.refresh now source).1 = .error e ∨
      ∃ refreshed, (engine.refresh now source).1 = .ok refreshed ∧
        (refreshed.code? = none ∨ ∃ cause, e = .execution cause) := by
  cases call with
  | render path context =>
      cases about
      unfold Call.FailsWith render at failed
      cases refreshed : (engine.refresh now source).1 with
      | error cause =>
          simp only [refreshed, Except.bind, Except.error.injEq] at failed
          exact .inl (congrArg Except.error failed)
      | ok refreshed' =>
          refine .inr ⟨refreshed', rfl, ?_⟩
          simp only [refreshed, Except.bind, codeOf] at failed
          cases made : refreshed'.code? with
          | none => exact .inl rfl
          | some code =>
              -- The artifact is at hand, so nothing but running it can fail.
              simp only [made] at failed
              cases ran : Execution.execute code context with
              | error cause =>
                  rw [ran] at failed
                  exact .inr ⟨cause, (Except.error.inj failed).symm⟩
              | ok output =>
                  rw [ran] at failed
                  cases failed
  | compile path =>
      cases about
      unfold Call.FailsWith compile at failed
      cases refreshed : (engine.refresh now source).1 with
      | error cause =>
          simp only [refreshed, Except.map, Except.error.injEq] at failed
          exact .inl (congrArg Except.error failed)
      | ok refreshed' => simp [refreshed, Except.map] at failed
  | clearCache => cases about

/-- To open the cache only makes directories. -/
theorem gainsDirectories_opened (now : Nat) (engine : Engine) :
    engine.files.GainsDirectories (engine.opened now) :=
  Cache.gainsDirectories_ensure engine.cache now engine.files

/-- Writing the artifact of a template fails and changes no file, or it replaces one. -/
theorem write_artifact_cases (engine : Engine) (now : Nat) (source code : String) (opened : Files) :
    (∃ e files', Cache.write now (engine.cache.artifactPath opened source) code opened =
      (.error e, files') ∧ opened.DifferInModes files') ∨
    (∃ place files', opened.placeOf (engine.cache.artifactPath opened source) = .ok place ∧
      Cache.write now (engine.cache.artifactPath opened source) code opened = (.ok (), files') ∧
        (opened.put place (.file (.text code) now Files.stagedMode)).DifferInModes files') :=
  Cache.write_cases (Cache.isSingle_artifactName Cache.slash_not_mem_shortText _)
    (Cache.artifactName_getLast? _ _) now code opened

/-- A refresh that comes to no new artifact changes no file. It counts as a compilation only if just the
writing failed. -/
theorem files_of_unwritten
    (unwritten : ∀ refreshed, (engine.refresh now source).1 = .ok refreshed →
      refreshed.code? = none) :
    engine.files.GainsDirectories (engine.refresh now source).2.files ∧
      (engine.compilation? now source = none ∧
          (engine.refresh now source).2.compiles = engine.compiles ∨
        ∃ compiled, engine.compilation? now source = some compiled ∧
          (∃ e, (engine.refresh now source).1 = .error e ∧
            (Cache.write now (engine.cache.artifactPath (engine.opened now) source) compiled.code
              (engine.opened now)).1 = .error e) ∧
          (engine.refresh now source).2.compiles = engine.compiles + 1) := by
  have gains := gainsDirectories_opened now engine
  -- One case for each way in which the refresh ends.
  have outcome := refreshing now source engine
  generalize engine.compilation? now source = compiled?, engine.refresh now source = result
    at outcome unwritten ⊢
  cases outcome with
  | unopened failed => exact ⟨opened_of_ensure failed ▸ gains, .inl ⟨rfl, rfl⟩⟩
  | fresh ensured => exact ⟨opened_of_ensure ensured ▸ gains, .inl ⟨rfl, rfl⟩⟩
  | refused ensured => exact ⟨opened_of_ensure ensured ▸ gains, .inl ⟨rfl, rfl⟩⟩
  | @unwritten opened compiled e files ensured stale compiles failed =>
      rw [opened_of_ensure ensured] at gains ⊢
      rcases write_artifact_cases engine now source compiled.code opened with
        ⟨_, _, again, modes⟩ | ⟨_, _, _, again, _⟩
      · cases failed.symm.trans again
        refine ⟨gains.trans modes.gainsDirectories, .inr ⟨compiled, rfl, ⟨e, rfl, ?_⟩, rfl⟩⟩
        rw [failed]
      · cases failed.symm.trans again
  | written => cases unwritten _ rfl

/-- A refresh that comes to a new artifact has put what the template compiles to in its place. -/
theorem files_of_written {refreshed : Refreshed} {code : String}
    (success : (engine.refresh now source).1 = .ok refreshed)
    (made : refreshed.code? = some code) :
    ∃ place compiled,
      (engine.opened now).placeOf (engine.cache.artifactPath (engine.opened now) source) =
        .ok place ∧
      Compilation.compile (engine.opened now) engine.settings.options source = .ok compiled ∧
      engine.files.GainsDirectories (engine.opened now) ∧
      ((engine.opened now).put place
        (.file (.text compiled.code) now Files.stagedMode)).DifferInModes
          (engine.refresh now source).2.files := by
  have gains := gainsDirectories_opened now engine
  have outcome := refreshing now source engine
  generalize engine.compilation? now source = compiled?, engine.refresh now source = result
    at outcome success ⊢
  -- Only a refresh that has written an artifact has made code.
  cases outcome with
  | unopened => cases success
  | fresh =>
      rw [← Except.ok.inj success] at made
      cases made
  | refused => cases success
  | unwritten => cases success
  | @written opened compiled files ensured stale compiles done =>
      rw [opened_of_ensure ensured] at gains ⊢
      rcases write_artifact_cases engine now source compiled.code opened with
        ⟨_, _, again, _⟩ | ⟨place, _, placed, again, modes⟩
      · cases done.symm.trans again
      · cases done.symm.trans again
        exact ⟨place, compiled, placed, compiles, gains, modes⟩

/-- A render or a compilation that fails with anything but an error of execution changes no file, and
it counts as a compilation only if just the writing of the artifact failed. One that fails with an error
of execution has at most put what the template compiles to in the place of its artifact. -/
theorem files_of_failsWith (about : call.source? = some source)
    (failed : call.FailsWith now engine e) :
    ((∀ cause, e ≠ .execution cause) →
      engine.files.GainsDirectories (call.run now engine).files ∧
        (engine.compilation? now source = none ∧
            (call.run now engine).compiles = engine.compiles ∨
          ∃ compiled, engine.compilation? now source = some compiled ∧
            (Cache.write now (engine.cache.artifactPath (engine.opened now) source) compiled.code
              (engine.opened now)).1 = .error e ∧
            (call.run now engine).compiles = engine.compiles + 1)) ∧
    ((∃ cause, e = .execution cause) →
      engine.files.GainsDirectories (call.run now engine).files ∨
        ∃ place compiled,
          (engine.opened now).placeOf (engine.cache.artifactPath (engine.opened now) source) =
            .ok place ∧
          Compilation.compile (engine.opened now) engine.settings.options source = .ok compiled ∧
          engine.files.GainsDirectories (engine.opened now) ∧
          ((engine.opened now).put place
            (.file (.text compiled.code) now Files.stagedMode)).DifferInModes
              (call.run now engine).files) := by
  rw [run_eq_refresh about]
  rcases refresh_of_failsWith about failed with refused | ⟨refreshed, success, code⟩
  · have unwritten : ∀ refreshed, (engine.refresh now source).1 = .ok refreshed →
        refreshed.code? = none := by
      intro refreshed success
      cases refused.symm.trans success
    rcases files_of_unwritten unwritten with
      ⟨gains, counted | ⟨compiled, compilation, ⟨_, again, failure⟩, counted⟩⟩
    · exact ⟨fun _ => ⟨gains, .inl counted⟩, fun _ => .inl gains⟩
    · cases refused.symm.trans again
      exact ⟨fun _ => ⟨gains, .inr ⟨compiled, compilation, failure, counted⟩⟩, fun _ => .inl gains⟩
  · cases made : refreshed.code? with
    | none =>
        have unwritten : ∀ refreshed, (engine.refresh now source).1 = .ok refreshed →
            refreshed.code? = none := by
          intro other same
          rw [← Except.ok.inj (success.symm.trans same)]
          exact made
        rcases files_of_unwritten unwritten with
          ⟨gains, counted | ⟨_, _, ⟨_, again, _⟩, _⟩⟩
        · exact ⟨fun _ => ⟨gains, .inl counted⟩, fun _ => .inl gains⟩
        · cases success.symm.trans again
    | some code' =>
        -- A new artifact was at hand, so it failed when it was run.
        refine ⟨fun other => ?_, fun _ => .inr (files_of_written success made)⟩
        rcases code with missing | ⟨cause, same⟩
        · cases missing.symm.trans made
        · exact absurd same (other cause)

/-- A template that is missing leaves the artifact in the cache as it was. -/
theorem files_of_failsWith_linkedEngine :
    (Call.render "/gone" {}).source? = some "/gone" ∧
      (Call.render "/gone" {}).FailsWith 2 linkedEngine (.sourceNotFound "/gone" .notFound) ∧
      linkedDirectories.GainsDirectories ((Call.render "/gone" {}).run 2 linkedEngine).files := by
  have root := Files.hasDirectory_root linkedDirectories
  have unresolved : linkedDirectories.resolve "/gone" = .error .notFound :=
    (Files.follow_still root (.inl rfl)).trans
      (Files.follow_absent root (by decide) (by decide) rfl)
  have unread : linkedDirectories.read "/gone" = .error .notFound := by
    rw [Files.read, unresolved]
  have missing : linkedDirectories.exists? "/gone" = false := by
    rw [Files.exists?, Files.at?, unresolved]
    rfl
  have stale : Cache.isStale linkedDirectories "/gone"
      (linkedEngine.cache.artifactPath linkedDirectories "/gone") true = true := by
    simp [Cache.isStale, missing]
  have failed :
      (Call.render "/gone" {}).FailsWith 2 linkedEngine (.sourceNotFound "/gone" .notFound) := by
    refine (render_of_stale {} ensure_linkedEngine stale).trans ?_
    rw [renewal, Compilation.compile_of_read_error unread]
  exact ⟨rfl, failed, ((files_of_failsWith rfl failed).1 (by simp)).1⟩

end Engine
end TemplateEngine
