import Mathlib.Logic.Relation
import TemplateEngine.Proofs.Compilation.Expands

/-!
# ExpansionSteps — include expansion step by step

The expansion has the open templates as an argument, so a call cannot but leave them as they were. Here
they are a part of a state that all calls share: an identity is put at the end of the list when its
template is read, and has to be taken off again when the template is left, by its end or by an error
from below. The steps are shown to come, from every state, to what the expansion gives.
-/

namespace TemplateEngine
namespace Compilation

open Text (Piece)

/-! ## Moments of an expansion -/

/-- A template that is open: the pieces that are still to be expanded, and the text of those before. -/
structure Frame where
  current : String
  rest : List (Piece (List Char))
  text : List Char

inductive Phase
  /-- The template at a path is to be opened. -/
  | enter (path : String)
  /-- The next piece of an open template is to be expanded. -/
  | scan (frame : Frame)
  /-- An outcome is to be given to the template that waits for it. -/
  | back (outcome : Outcome)

structure Moment where
  opened : List String
  visited : List String
  /-- The paths of the files read, each as often as it is read. -/
  reads : List String
  /-- The open templates that wait for one that they include, innermost first. -/
  waiting : List Frame
  phase : Phase

/-- The template at a path is to be expanded, with some templates open and some visited. -/
def Moment.call (opened visited : List String) (path : String) : Moment :=
  ⟨opened, visited, [], [], .enter path⟩

/-- One step of an expansion. -/
inductive Step (files : Files) (limit : Nat) : Moment → Moment → Prop
  -- A template is opened. What is refused is refused before anything is changed.
  | cycle {opened visited reads waiting path} (again : files.identity path ∈ opened) :
      Step files limit ⟨opened, visited, reads, waiting, .enter path⟩
        ⟨opened, visited, reads, waiting,
          .back (.error (.includeCycle (opened ++ [files.identity path])))⟩
  | tooDeep {opened visited reads waiting path} (fresh : files.identity path ∉ opened)
      (deep : limit < opened.length) :
      Step files limit ⟨opened, visited, reads, waiting, .enter path⟩
        ⟨opened, visited, reads, waiting, .back (.error (.includeDepthExceeded path limit))⟩
  | unreadable {opened visited reads waiting path e} (fresh : files.identity path ∉ opened)
      (shallow : opened.length ≤ limit) (failed : files.read path = .error e) :
      Step files limit ⟨opened, visited, reads, waiting, .enter path⟩
        ⟨opened, visited, reads, waiting, .back (.error (.sourceNotFound path e))⟩
  | opened {opened visited reads waiting path text} (fresh : files.identity path ∉ opened)
      (shallow : opened.length ≤ limit) (readable : files.read path = .ok text) :
      Step files limit ⟨opened, visited, reads, waiting, .enter path⟩
        ⟨opened ++ [files.identity path], visit (files.identity path) visited, reads ++ [path],
          waiting, .scan ⟨path, Directive.includes text, []⟩⟩
  -- The innermost template goes on, and waits where it includes another one.
  | plain {opened visited reads waiting current c rest text} :
      Step files limit ⟨opened, visited, reads, waiting, .scan ⟨current, .plain c :: rest, text⟩⟩
        ⟨opened, visited, reads, waiting, .scan ⟨current, rest, text ++ [c]⟩⟩
  | dropped {opened visited reads waiting current name rest text}
      (nameless : (includeTarget name).isEmpty = true) :
      Step files limit ⟨opened, visited, reads, waiting, .scan ⟨current, .found name :: rest, text⟩⟩
        ⟨opened, visited, reads, waiting, .scan ⟨current, rest, text⟩⟩
  | included {opened visited reads waiting current name rest text}
      (named : (includeTarget name).isEmpty = false) :
      Step files limit ⟨opened, visited, reads, waiting, .scan ⟨current, .found name :: rest, text⟩⟩
        ⟨opened, visited, reads, ⟨current, rest, text⟩ :: waiting,
          .enter (locate files current (includeTarget name))⟩
  | resumed {opened visited reads current rest text waiting included} :
      Step files limit
        ⟨opened, visited, reads, ⟨current, rest, text⟩ :: waiting, .back (.ok included)⟩
        ⟨opened, visited, reads, waiting, .scan ⟨current, rest, text ++ included⟩⟩
  -- The innermost template is left, at its end or because what it included has failed.
  | left {opened visited reads waiting current text} :
      Step files limit ⟨opened, visited, reads, waiting, .scan ⟨current, [], text⟩⟩
        ⟨opened.dropLast, visited, reads, waiting, .back (.ok text)⟩
  | failed {opened visited reads frame waiting e} :
      Step files limit ⟨opened, visited, reads, frame :: waiting, .back (.error e)⟩
        ⟨opened.dropLast, visited, reads, waiting, .back (.error e)⟩

abbrev Steps (files : Files) (limit : Nat) : Moment → Moment → Prop :=
  Relation.ReflTransGen (Step files limit)

variable {files : Files} {limit : Nat}

/-! ## The course of an expansion is the only one -/

/-- A moment has one next moment at most. -/
theorem Step.unique : Relator.RightUnique (Step files limit) := by
  intro m next next' step step'
  -- The phase leaves a few rules to choose from, and their conditions exclude each other.
  cases step with
  | cycle again =>
      cases step' with
      | cycle => rfl
      | tooDeep fresh | unreadable fresh | opened fresh => exact absurd again fresh
  | tooDeep fresh deep =>
      cases step' with
      | cycle again => exact absurd again fresh
      | tooDeep => rfl
      | unreadable _ shallow | opened _ shallow => exact absurd deep (Nat.not_lt_of_le shallow)
  | unreadable fresh shallow failed =>
      cases step' with
      | cycle again => exact absurd again fresh
      | tooDeep _ deep => exact absurd deep (Nat.not_lt_of_le shallow)
      | unreadable _ _ failed' =>
          rw [failed] at failed'
          cases failed'
          rfl
      | opened _ _ readable => simp [failed] at readable
  | opened fresh shallow readable =>
      cases step' with
      | cycle again => exact absurd again fresh
      | tooDeep _ deep => exact absurd deep (Nat.not_lt_of_le shallow)
      | unreadable _ _ failed => simp [readable] at failed
      | opened _ _ readable' =>
          rw [readable] at readable'
          cases readable'
          rfl
  | plain =>
      cases step'
      rfl
  | dropped nameless =>
      cases step' with
      | dropped => rfl
      | included named => simp [nameless] at named
  | included named =>
      cases step' with
      | dropped nameless => simp [nameless] at named
      | included => rfl
  | resumed =>
      cases step'
      rfl
  | left =>
      cases step'
      rfl
  | failed =>
      cases step'
      rfl

/-- Wherever a task is to be done, steps come to its outcome, with nothing changed for the templates
that wait. The pieces of a template are done when the template is left. -/
def Task.Done (files : Files) (limit : Nat) (opened visited : List String) (outcome : Outcome)
    (after : List String) : Task → Prop
  | .template path => ∀ reads waiting, ∃ reads',
      Steps files limit ⟨opened, visited, reads, waiting, .enter path⟩
        ⟨opened, after, reads', waiting, .back outcome⟩
  | .pieces current rest => ∀ reads waiting text, ∃ reads',
      Steps files limit ⟨opened, visited, reads, waiting, .scan ⟨current, rest, text⟩⟩
        ⟨opened.dropLast, after, reads', waiting, .back (outcome.map (text ++ ·))⟩

theorem outcome_map_append (outcome : Outcome) (text more : List Char) :
    (outcome.map (more ++ ·)).map (text ++ ·) = outcome.map (text ++ more ++ ·) := by
  cases outcome with
  | error e => rfl
  | ok inner => simp [Except.map]

theorem outcome_map_nil (outcome : Outcome) : outcome.map ([] ++ ·) = outcome := by
  cases outcome <;> rfl

/-- Steps lead from a task to its outcome. -/
theorem Expands.steps {opened visited after : List String} {task : Task} {outcome : Outcome}
    (h : Expands files (some limit) opened task visited outcome after) :
    task.Done files limit opened visited outcome after := by
  induction h with
  | cycle again => exact fun reads waiting => ⟨reads, .single (.cycle again)⟩
  | tooDeep fresh limited deep =>
      cases limited
      exact fun reads waiting => ⟨reads, .single (.tooDeep fresh deep)⟩
  | unreadable fresh within failed =>
      exact fun reads waiting => ⟨reads, .single (.unreadable fresh (within _ rfl) failed)⟩
  | @template _ _ _ _ outcome _ fresh within readable _ ih =>
      intro reads waiting
      rcases ih (reads ++ [_]) waiting [] with ⟨reads', steps⟩
      -- The identity put at the end of the list is the one that is taken off.
      rw [List.dropLast_concat, outcome_map_nil] at steps
      exact ⟨reads', .head (.opened fresh (within _ rfl) readable) steps⟩
  | done =>
      intro reads waiting text
      exact ⟨reads, by simpa [Except.map] using Relation.ReflTransGen.single Step.left⟩
  | @plain _ _ _ c _ outcome _ _ ih =>
      intro reads waiting text
      rcases ih reads waiting (text ++ [c]) with ⟨reads', steps⟩
      rw [← outcome_map_append] at steps
      exact ⟨reads', .head .plain steps⟩
  | dropped nameless _ ih =>
      intro reads waiting text
      rcases ih reads waiting text with ⟨reads', steps⟩
      exact ⟨reads', .head (.dropped nameless) steps⟩
  | failed named _ ih =>
      intro reads waiting text
      -- The error from below takes this template off the list too.
      rcases ih reads (⟨_, _, text⟩ :: waiting) with ⟨reads', steps⟩
      exact ⟨reads', (Relation.ReflTransGen.head (.included named) steps).tail .failed⟩
  | @included _ _ _ _ _ text' _ _ _ named _ _ ihInside ihFollow =>
      intro reads waiting text
      -- This template waits while the other one is expanded, and goes on with its text.
      rcases ihInside reads (⟨_, _, text⟩ :: waiting) with ⟨reads', inside⟩
      rcases ihFollow reads' waiting (text ++ text') with ⟨reads'', follow⟩
      rw [← outcome_map_append] at follow
      exact ⟨reads'', (Relation.ReflTransGen.head (.included named) inside).trans
        (.head .resumed follow)⟩

end Compilation
end TemplateEngine
