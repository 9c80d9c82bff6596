import TemplateEngine.Proofs.Compilation.DepthLimit
import TemplateEngine.Proofs.Compilation.ExpansionSteps
import TemplateEngine.Proofs.Entries
import TemplateEngine.Proofs.Files.Filing

/-!
# OpenTemplates — what an expansion knows of its templates

At every moment the open identities are those of the templates that are being expanded, each included by
the one before it, and no two of them are the same; the visited identities are those of the files read,
in the order of their first reading. So the chain that an include cycle is reported with is a way along
includes that comes back to one of its templates.
-/

namespace TemplateEngine
namespace Compilation

open Text (Piece)

variable {files : Files} {limit : Nat} {m m' : Moment}

/-! ## The visited identities -/

theorem prefix_visit (identity : String) (visited : List String) :
    visited <+: visit identity visited := by
  unfold visit
  split
  · exact List.prefix_rfl
  · exact List.prefix_append _ _

/-- Visiting after some readings is one more reading. -/
theorem visit_eraseDups (identity : String) (read : List String) :
    visit identity read.eraseDups = (read ++ [identity]).eraseDups := by
  rw [visit, Entries.eraseDups_concat]
  exact if_congr List.mem_eraseDups rfl rfl

/-- Identities visited later come after those visited before, and each of them once. -/
structure Extends (visited visited' : List String) : Prop where
  isPrefix : visited <+: visited'
  nodup : visited.Nodup → visited'.Nodup

theorem Extends.refl (visited : List String) : Extends visited visited :=
  ⟨List.prefix_rfl, id⟩

theorem Extends.trans {a b c : List String} (h : Extends a b) (h' : Extends b c) : Extends a c :=
  ⟨h.isPrefix.trans h'.isPrefix, h'.nodup ∘ h.nodup⟩

/-- A step visits one identity more at most, and never one twice. -/
theorem Step.extends (step : Step files limit m m') : Extends m.visited m'.visited := by
  cases step with
  | opened => exact ⟨prefix_visit _ _, fun distinct => nodup_visit distinct _⟩
  | cycle | tooDeep | unreadable | plain | dropped | included | resumed | left | failed =>
      exact .refl _

/-- So a run only adds to what is visited. -/
theorem Steps.extends (steps : Steps files limit m m') : Extends m.visited m'.visited := by
  induction steps with
  | refl => exact .refl _
  | tail _ step ih => exact ih.trans step.extends

/-! ## The open identities -/

def Moment.frames (m : Moment) : List Frame :=
  match m.phase with
  | .scan frame => frame :: m.waiting
  | .enter _ | .back _ => m.waiting

/-- The paths of the open templates, innermost first, and before them the path to be opened. -/
def Moment.trail (m : Moment) : List String :=
  match m.phase with
  | .enter path => path :: m.waiting.map Frame.current
  | .scan _ | .back _ => m.frames.map Frame.current

/-- Some identities are those of some frames, which are innermost first, and are distinct. -/
structure Stacked (files : Files) (opened : List String) (frames : List Frame) : Prop where
  opened_eq : opened = (frames.map (files.identity ∘ Frame.current)).reverse
  nodup : opened.Nodup

/-- A template that is not open yet may be put on the stack. -/
theorem Stacked.push {opened : List String} {frames : List Frame} (h : Stacked files opened frames)
    (frame : Frame) (fresh : files.identity frame.current ∉ opened) :
    Stacked files (opened ++ [files.identity frame.current]) (frame :: frames) :=
  ⟨by simp [h.opened_eq], List.nodup_append_comm.1 (List.nodup_cons.2 ⟨fresh, h.nodup⟩)⟩

/-- The innermost template may be taken off. -/
theorem Stacked.pop {opened : List String} {frame : Frame} {frames : List Frame}
    (h : Stacked files opened (frame :: frames)) : Stacked files opened.dropLast frames :=
  ⟨by simp [h.opened_eq], h.nodup.sublist (List.dropLast_sublist _)⟩

/-- A step keeps the open identities those of the open templates. -/
theorem Step.stacked (step : Step files limit m m') (h : Stacked files m.opened m.frames) :
    Stacked files m'.opened m'.frames := by
  cases step with
  -- A path that is refused is none of an open template.
  | cycle | tooDeep | unreadable => exact h
  | @opened _ _ _ _ path text fresh =>
      exact h.push ⟨path, Directive.includes text, []⟩ fresh
  | plain | dropped | included | resumed => exact ⟨h.opened_eq, h.nodup⟩
  | left | failed => exact h.pop

/-! ## The chain of includes that is followed -/

/-- A frame is at the pieces of its template. -/
def Frame.IsOf (files : Files) (frame : Frame) : Prop :=
  ∃ text, files.read frame.current = .ok text ∧ frame.rest <:+ Directive.includes text

/-- A template with one piece less to do is at its pieces still. -/
theorem Frame.IsOf.next {current : String} {piece : Piece (List Char)}
    {rest : List (Piece (List Char))} {text text' : List Char}
    (h : Frame.IsOf files ⟨current, piece :: rest, text⟩) :
    Frame.IsOf files ⟨current, rest, text'⟩ := by
  rcases h with ⟨whole, readable, isSuffix⟩
  exact ⟨whole, readable, (List.suffix_cons _ _).trans isSuffix⟩

/-- A name among the pieces of a template is an include of it. -/
theorem Frame.IsOf.includes {current : String} {name : List Char}
    {rest : List (Piece (List Char))} {text : List Char}
    (h : Frame.IsOf files ⟨current, .found name :: rest, text⟩)
    (named : (includeTarget name).isEmpty = false) :
    Includes files current (locate files current (includeTarget name)) := by
  rcases h with ⟨whole, readable, isSuffix⟩
  exact ⟨whole, name, readable, isSuffix.subset List.mem_cons_self, named, rfl⟩

/-- A step keeps every open template at its own pieces. -/
theorem Step.frames_isOf (step : Step files limit m m') (h : ∀ frame ∈ m.frames, frame.IsOf files) :
    ∀ frame ∈ m'.frames, frame.IsOf files := by
  cases step with
  | cycle | tooDeep | unreadable => exact h
  | opened _ _ readable => exact List.forall_mem_cons.2 ⟨⟨_, readable, List.suffix_rfl⟩, h⟩
  | plain | dropped | included =>
      rcases List.forall_mem_cons.1 h with ⟨here, above⟩
      exact List.forall_mem_cons.2 ⟨here.next, above⟩
  | resumed =>
      rcases List.forall_mem_cons.1 h with ⟨here, above⟩
      exact List.forall_mem_cons.2 ⟨here, above⟩
  | left | failed => exact (List.forall_mem_cons.1 h).2

/-- Some paths, innermost first, are a way along includes from the entry. -/
structure Trail (files : Files) (entry : String) (paths : List String) : Prop where
  linked : paths.IsChain fun inner outer => Includes files outer inner
  entry : ∀ first ∈ paths.getLast?, first = entry

/-- A way along includes goes on along one more. -/
theorem Trail.push {entry next path : String} {paths : List String}
    (h : Trail files entry (path :: paths)) (link : Includes files path next) :
    Trail files entry (next :: path :: paths) :=
  ⟨List.isChain_cons_cons.2 ⟨link, h.linked⟩, by simpa [List.getLast?_cons] using h.entry⟩

/-- A way along includes may be shortened at its end. -/
theorem Trail.pop {entry path : String} {paths : List String} (h : Trail files entry (path :: paths)) :
    Trail files entry paths := by
  refine ⟨h.linked.tail, fun first last => h.entry first ?_⟩
  rw [Option.mem_def] at last ⊢
  rw [List.getLast?_cons, last, Option.getD_some]

/-- A step keeps the open templates on a way from the entry. -/
theorem Step.trail (step : Step files limit m m') {entry : String} (h : Trail files entry m.trail)
    (frames : ∀ frame ∈ m.frames, frame.IsOf files) : Trail files entry m'.trail := by
  cases step with
  | cycle | tooDeep | unreadable => exact h.pop
  -- A template that is opened was the next one of the trail already.
  | opened | plain | dropped | resumed => exact h
  | included named => exact h.push ((List.forall_mem_cons.1 frames).1.includes named)
  | left | failed => exact h.pop

/-- From the outermost template on, a trail goes along includes. -/
theorem Trail.outward {entry path : String} {paths : List String}
    (h : Trail files entry (path :: paths)) :
    ∃ more, (path :: paths).reverse = entry :: more ∧
      List.IsChain (Includes files) (entry :: more) := by
  have linked := List.isChain_reverse.2 h.linked
  cases backwards : (path :: paths).reverse with
  | nil => simp at backwards
  | cons first more =>
      have same : first = entry := by
        refine h.entry first ?_
        rw [← List.head?_reverse, backwards]
        rfl
      subst same
      rw [backwards] at linked
      exact ⟨more, rfl, linked⟩

/-- A chain of identities goes along includes from the entry, and comes back to one before its last,
and to no other. -/
def ComesBack (files : Files) (entry : String) (chain : List String) : Prop :=
  ∃ paths, List.IsChain (Includes files) (entry :: paths) ∧
    chain = (entry :: paths).map files.identity ∧
    ∃ front last, chain = front ++ [last] ∧ front.Nodup ∧ front.count last = 1

/-- An include of an open template closes the way along includes that led to it. -/
theorem Trail.comesBack {entry path : String} {opened : List String} {frames : List Frame}
    (trail : Trail files entry (path :: frames.map Frame.current))
    (stacked : Stacked files opened frames) (again : files.identity path ∈ opened) :
    ComesBack files entry (opened ++ [files.identity path]) := by
  rcases trail.outward with ⟨paths, outward, linked⟩
  -- The identities before the last are the open ones, which are distinct.
  refine ⟨paths, linked, ?_, opened, files.identity path, rfl, stacked.nodup, ?_⟩
  · rw [← outward, stacked.opened_eq]
    simp
  · exact List.count_eq_one_of_mem stacked.nodup again

/-- A cycle that a step reports is one of includes. -/
theorem Step.comesBack (step : Step files limit m m') {entry : String}
    (h : ∀ chain, m.phase = .back (.error (.includeCycle chain)) → ComesBack files entry chain)
    (trail : Trail files entry m.trail) (stacked : Stacked files m.opened m.frames) :
    ∀ chain, m'.phase = .back (.error (.includeCycle chain)) → ComesBack files entry chain := by
  intro chain same
  -- The error comes from an include of an open template, and is then passed on as it is.
  cases step with
  | cycle again =>
      cases same
      exact trail.comesBack stacked again
  | failed =>
      cases same
      exact h chain rfl
  | tooDeep | unreadable | opened | plain | dropped | included | resumed | left => cases same

/-! ## The files read -/

/-- The visited identities are those of the files read, and the entry is read first. -/
structure Logged (files : Files) (entry : String) (m : Moment) : Prop where
  visited_eq : m.visited = (m.reads.map files.identity).eraseDups
  first : ∀ path ∈ m.reads.head?, path = entry
  /-- Before the first reading no template is open. -/
  unopened : m.reads = [] → m.frames = []

/-- A step logs the identity of a template when it is read. -/
theorem Step.logged (step : Step files limit m m') {entry : String} (h : Logged files entry m)
    (trail : Trail files entry m.trail) : Logged files entry m' := by
  -- Where a template is open a file has been read.
  have read {frame : Frame} {frames : List Frame} {P : Prop} (some : m.frames = frame :: frames)
      (none : m.reads = []) : P :=
    absurd (some.symm.trans (h.unopened none)) (List.cons_ne_nil _ _)
  cases step with
  | cycle | tooDeep | unreadable => exact ⟨h.visited_eq, h.first, h.unopened⟩
  | @opened _ _ reads waiting path =>
      refine ⟨?_, ?_, fun none => by simp at none⟩
      · have before := h.visited_eq
        simp only at before ⊢
        rw [before, visit_eraseDups, List.map_append, List.map_singleton]
      · cases reads with
        | nil =>
            -- The first file is read when no template is open, and so it is the entry.
            have none : waiting = [] := h.unopened rfl
            subst none
            exact trail.entry
        | cons => exact h.first
  | plain | dropped | included | resumed => exact ⟨h.visited_eq, h.first, read rfl⟩
  | left | failed => exact ⟨h.visited_eq, h.first, read rfl⟩

/-! ## Every moment of an expansion -/

/-- What is true of every moment of the expansion of an entry, with no template open and none visited
before. -/
structure Orderly (files : Files) (entry : String) (m : Moment) : Prop where
  stacked : Stacked files m.opened m.frames
  frames : ∀ frame ∈ m.frames, frame.IsOf files
  trail : Trail files entry m.trail
  logged : Logged files entry m
  comesBack : ∀ chain, m.phase = .back (.error (.includeCycle chain)) → ComesBack files entry chain

/-- A step keeps a moment orderly. -/
theorem Orderly.step {entry : String} (h : Orderly files entry m) (step : Step files limit m m') :
    Orderly files entry m' where
  stacked := step.stacked h.stacked
  frames := step.frames_isOf h.frames
  trail := step.trail h.trail h.frames
  logged := step.logged h.logged h.trail
  comesBack := step.comesBack h.comesBack h.trail h.stacked

end Compilation
end TemplateEngine
