import TemplateEngine.Proofs.Engine.Transparency

/-!
# Refreshing — how one refresh ends

A refresh ends in one of five ways: the cache directory cannot be opened, the artifact is fresh, the
template is refused, the artifact cannot be written, or it is written. Whoever asks what a call does
goes through these cases.
-/

namespace TemplateEngine

def Call.FailsWith (now : Nat) (engine : Engine) (e : CompileError) : Call → Prop
  | .render source context => (engine.render now source context).1 = .error e
  | .compile source => (engine.compile now source).1 = .error e
  | .clearCache => (engine.clearCache now).1 = .error e

def Call.Succeeds (now : Nat) (engine : Engine) (call : Call) : Prop :=
  ∀ e, ¬ call.FailsWith now engine e

namespace Engine

/-- The files after the cache directory was opened, or as far as that got. -/
def opened (now : Nat) (engine : Engine) : Files :=
  (engine.cache.ensure now engine.files).2

/-- Whether the artifact of a template is stale once the cache directory is open. -/
def isStale (source : String) (opened : Files) (engine : Engine) : Bool :=
  Cache.isStale opened source (engine.cache.artifactPath opened source) engine.settings.cacheEnabled

/-- What a call about a template compiles it to: the cache directory is open, the artifact is stale
and the compiler succeeds. That the artifact can be written does not follow. -/
def compilation? (now : Nat) (source : String) (engine : Engine) : Option Compiled :=
  match engine.cache.ensure now engine.files with
  | (.error _, _) => none
  | (.ok (), opened) =>
      if engine.isStale source opened then
        (Compilation.compile opened engine.settings.options source).toOption
      else none

section Refreshing

variable (now : Nat) (source : String) (engine : Engine)

/-- The ways in which a refresh ends: what it compiled, what it gives, and the engine after it. -/
inductive Refreshing :
    Option Compiled → Except CompileError Refreshed × Engine → Prop
  | unopened {e opened} (failed : engine.cache.ensure now engine.files = (.error e, opened)) :
      Refreshing none (.error e, { engine with files := opened })
  | fresh {opened} (ensured : engine.cache.ensure now engine.files = (.ok (), opened))
      (fresh : engine.isStale source opened = false) :
      Refreshing none
        (.ok ⟨engine.cache.artifactPath opened source, none⟩, { engine with files := opened })
  | refused {opened e} (ensured : engine.cache.ensure now engine.files = (.ok (), opened))
      (stale : engine.isStale source opened = true)
      (refused : Compilation.compile opened engine.settings.options source = .error e) :
      Refreshing none (.error e, { engine with files := opened })
  | unwritten {opened compiled e files}
      (ensured : engine.cache.ensure now engine.files = (.ok (), opened))
      (stale : engine.isStale source opened = true)
      (compiles : Compilation.compile opened engine.settings.options source = .ok compiled)
      (failed : Cache.write now (engine.cache.artifactPath opened source) compiled.code opened =
        (.error e, files)) :
      Refreshing (some compiled) (.error e, { engine with files, compiles := engine.compiles + 1 })
  | written {opened compiled files}
      (ensured : engine.cache.ensure now engine.files = (.ok (), opened))
      (stale : engine.isStale source opened = true)
      (compiles : Compilation.compile opened engine.settings.options source = .ok compiled)
      (done : Cache.write now (engine.cache.artifactPath opened source) compiled.code opened =
        (.ok (), files)) :
      Refreshing (some compiled)
        (.ok ⟨engine.cache.artifactPath opened source, some compiled.code⟩,
          { engine with files, compiles := engine.compiles + 1 })

theorem refreshing :
    Refreshing now source engine (engine.compilation? now source) (engine.refresh now source) := by
  rcases ensured : engine.cache.ensure now engine.files with ⟨outcome, opened⟩
  cases outcome with
  | error e =>
      simp only [compilation?, refresh, ensured]
      exact .unopened ensured
  | ok done =>
      rw [refresh_of_ensure ensured]
      simp only [compilation?, ensured]
      cases stale : engine.isStale source opened with
      | false =>
          unfold isStale at stale
          simp only [stale, Bool.false_eq_true, if_false]
          exact .fresh ensured stale
      | true =>
          unfold isStale at stale
          simp only [stale, if_true, renew]
          cases compiles : Compilation.compile opened engine.settings.options source with
          | error e => exact .refused ensured stale compiles
          | ok compiled =>
              rcases writing : Cache.write now (engine.cache.artifactPath opened source)
                compiled.code opened with ⟨outcome, files⟩
              simp only [writing]
              cases outcome with
              | error e => exact .unwritten ensured stale compiles writing
              | ok done => exact .written ensured stale compiles writing

end Refreshing

variable {engine : Engine} {now : Nat} {call : Call} {source : String}

theorem opened_of_ensure {outcome : Except CompileError Unit} {opened : Files}
    (ensured : engine.cache.ensure now engine.files = (outcome, opened)) :
    engine.opened now = opened := by
  rw [Engine.opened, ensured]

/-- A call about one source does what a refresh of it does. -/
theorem run_eq_refresh (about : call.source? = some source) :
    call.run now engine = (engine.refresh now source).2 := by
  cases call with
  | render path context =>
      cases about
      rfl
  | compile path =>
      cases about
      rfl
  | clearCache => cases about

/-- A call that succeeds has an artifact. -/
theorem refresh_of_succeeds (about : call.source? = some source) (succeeded : call.Succeeds now engine) :
    ∃ refreshed, (engine.refresh now source).1 = .ok refreshed := by
  cases outcome : (engine.refresh now source).1 with
  | ok refreshed => exact ⟨refreshed, rfl⟩
  | error e =>
      refine absurd ?_ (succeeded e)
      cases call with
      | render path context =>
          cases about
          unfold Call.FailsWith render
          simp only [outcome, Except.bind]
      | compile path =>
          cases about
          unfold Call.FailsWith compile
          simp only [outcome, Except.map]
      | clearCache => cases about


end Engine
end TemplateEngine
