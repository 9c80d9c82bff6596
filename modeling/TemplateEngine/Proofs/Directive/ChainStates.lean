import TemplateEngine.Directive.AccessChain
import TemplateEngine.Proofs.Text.CharClass

/-!
# States of an access chain

What the rewriting of dots makes of a stretch of an expression, and the state it is left in, whatever
stands behind the stretch. Stretches are put together by their states.
-/

namespace TemplateEngine
namespace Directive

open Text (isNamePart)

namespace ChainState

/-! ## States -/

structure Unquoted (s : ChainState) : Prop where
  quote : s.quote = none
  escaped : s.escaped = false

/-- Outside quoted texts, and not right behind an arrow. -/
structure Quiet (s : ChainState) : Prop extends s.Unquoted where
  afterArrow : s.afterArrow = false

/-- What is read next begins a run of its own. -/
structure Fresh (s : ChainState) : Prop extends s.Quiet where
  run : s.run = none

/-- Within a run of name characters, which is a number or not. -/
structure InRun (s : ChainState) (number : Bool) : Prop extends s.Quiet where
  run : s.run = some number
  last : s.last.any isNamePart = true

/-- Behind what a member may be taken of. -/
structure Object (s : ChainState) : Prop extends s.Quiet where
  notNumber : s.run ≠ some true
  last : s.last.any endsObject = true

def afterDot (s : ChainState) : ChainState :=
  { s with run := none, afterArrow := true, last := some '>' }

/-- The first stretch becomes the second, whatever stands behind it, and the state the other state. -/
def Rewrites (s : ChainState) (cs cs' : List Char) (s' : ChainState) : Prop :=
  ∀ rest, arrowsFrom s (cs ++ rest) = cs' ++ arrowsFrom s' rest

variable {s s' s'' : ChainState} {cs cs' ds ds' : List Char}

theorem Fresh.initial : Fresh {} := ⟨⟨⟨rfl, rfl⟩, rfl⟩, rfl⟩

theorem InRun.object (h : s.InRun false) : s.Object where
  toQuiet := h.toQuiet
  notNumber := by simp [h.run]
  last := by
    have part := h.last
    cases last : s.last with
    | none =>
        rw [last] at part
        cases part
    | some c =>
        rw [last, Option.any_some] at part
        rw [Option.any_some, endsObject, part]
        rfl

/-! ## Stretches -/

theorem Rewrites.refl (s : ChainState) : s.Rewrites [] [] s := fun _ => rfl

/-- Stretches are rewritten one after another. -/
theorem Rewrites.append (h : s.Rewrites cs cs' s') (h' : s'.Rewrites ds ds' s'') :
    s.Rewrites (cs ++ ds) (cs' ++ ds') s'' := by
  intro rest
  rw [List.append_assoc, List.append_assoc, h, h']

/-- What a whole text is rewritten to is what the rewriting gives. -/
theorem Rewrites.arrows (h : ChainState.Rewrites {} cs cs' s) : arrows cs = cs' := by
  have whole := h []
  rw [List.append_nil, arrowsFrom, List.append_nil] at whole
  exact whole

/-! ## Runs -/

/-- A character of a name or a number is left as it is. -/
theorem rewrites_part (h : s.Unquoted) {c : Char} (part : isNamePart c = true) :
    s.Rewrites [c] [c] (s.inRun c) := by
  intro rest
  simp [arrowsFrom, h.quote, part]

/-- A run that begins behind an arrow is no number, and any other is one as long as it has digits only. -/
theorem inRun_first (h : s.Unquoted) (fresh : s.run = none) {c : Char} (part : isNamePart c = true) :
    (s.inRun c).InRun (!s.afterArrow && c.isDigit) :=
  ⟨⟨⟨h.quote, h.escaped⟩, rfl⟩, by simp [ChainState.inRun, fresh], part⟩

/-- A run is a number as long as it has digits only. -/
theorem inRun_next (h : s.Unquoted) {number : Bool} (run : s.run = some number) {c : Char}
    (part : isNamePart c = true) : (s.inRun c).InRun (number && c.isDigit) :=
  ⟨⟨⟨h.quote, h.escaped⟩, rfl⟩, by simp [ChainState.inRun, run], part⟩

/-- A run goes on as a number as long as it has digits only. -/
theorem InRun.rewrites {number : Bool} (h : s.InRun number) {word : List Char}
    (parts : ∀ c ∈ word, isNamePart c = true) :
    ∃ s' : ChainState, s'.InRun (number && word.all Char.isDigit) ∧ s.Rewrites word word s' := by
  induction word generalizing s number with
  | nil => exact ⟨s, by simpa using h, .refl s⟩
  | cons c cs ih =>
      rcases List.forall_mem_cons.1 parts with ⟨part, others⟩
      rcases ih (inRun_next h.toUnquoted h.run part) others with ⟨s', inRun, rewrites⟩
      rw [Bool.and_assoc, ← List.all_cons] at inRun
      exact ⟨s', inRun, (rewrites_part h.toUnquoted part).append rewrites⟩

/-- A word is kept; it is a number if it is made of digits and stands behind no arrow. -/
theorem rewrites_word (h : s.Unquoted) (fresh : s.run = none) {word : List Char} (nonempty : word ≠ [])
    (parts : ∀ c ∈ word, isNamePart c = true) :
    ∃ s' : ChainState, s'.InRun (!s.afterArrow && word.all Char.isDigit) ∧ s.Rewrites word word s' := by
  cases word with
  | nil => exact absurd rfl nonempty
  | cons c cs =>
      rcases List.forall_mem_cons.1 parts with ⟨part, others⟩
      rcases (inRun_first h fresh part).rewrites others with ⟨s', inRun, rewrites⟩
      rw [Bool.and_assoc, ← List.all_cons] at inRun
      exact ⟨s', inRun, (rewrites_part h part).append rewrites⟩

/-! ## Dots -/

theorem not_isNamePart_dot : isNamePart '.' = false := by decide

/-- The point of a number is kept, and the digits behind it belong to the number. -/
theorem InRun.rewrites_places (h : s.InRun true) {places : List Char} (nonempty : places ≠ [])
    (digits : places.all Char.isDigit = true) :
    ∃ s' : ChainState, s'.InRun true ∧ s.Rewrites ('.' :: places) ('.' :: places) s' := by
  have point : s.Rewrites ['.'] ['.'] { s with last := some '.' } := by
    intro rest
    simp [arrowsFrom, h.quote, h.run, not_isNamePart_dot]
  have parts : ∀ c ∈ places, isNamePart c = true := fun c member =>
    Text.isNamePart_of_isDigit (List.all_eq_true.1 digits c member)
  cases places with
  | nil => exact absurd rfl nonempty
  | cons c cs =>
      rcases List.forall_mem_cons.1 parts with ⟨part, others⟩
      have unquoted : ChainState.Unquoted { s with last := some '.' } := ⟨h.quote, h.escaped⟩
      rcases (inRun_next unquoted h.run part).rewrites others with ⟨s', inRun, rewrites⟩
      rw [Bool.and_assoc, ← List.all_cons, digits] at inRun
      exact ⟨s', inRun, (point.append (rewrites_part unquoted part)).append rewrites⟩

/-- A word behind a dot is a member: the dot becomes an arrow, and the word is no number. -/
theorem Object.rewrites_member (h : s.Object) {word : List Char} (nonempty : word ≠ [])
    (parts : ∀ c ∈ word, isNamePart c = true) :
    ∃ s' : ChainState, s'.InRun false ∧ s.Rewrites ('.' :: word) ('-' :: '>' :: word) s' := by
  have unquoted : s.afterDot.Unquoted := ⟨h.quote, h.escaped⟩
  rcases rewrites_word unquoted rfl nonempty parts with ⟨s', inRun, rewrites⟩
  refine ⟨s', inRun, fun rest => ?_⟩
  -- The dot becomes an arrow since a name character is in front of the rest.
  cases word with
  | nil => exact absurd rfl nonempty
  | cons c cs =>
      have part := parts c List.mem_cons_self
      have arrow : arrowsFrom s ('.' :: c :: (cs ++ rest)) =
          '-' :: '>' :: arrowsFrom s.afterDot (c :: (cs ++ rest)) := by
        rw [arrowsFrom]
        simp [h.quote, h.notNumber, h.last, not_isNamePart_dot, part, afterDot]
      exact arrow.trans (congrArg (fun cs => '-' :: '>' :: cs) (rewrites rest))

/-! ## Other characters -/

/-- Any other character is kept. -/
theorem Unquoted.rewrites_other (h : s.Unquoted) {c : Char} (notPart : isNamePart c = false)
    (notDot : c ≠ '.') : s.Rewrites [c] [c] (s.other c) := by
  intro rest
  simp [arrowsFrom, h.quote, notPart, notDot]

/-- Behind any other character a new run begins. -/
theorem Unquoted.fresh_other (h : s.Unquoted) {c : Char} (notSingle : c ≠ '\'') (notDouble : c ≠ '"') :
    (s.other c).Fresh :=
  ⟨⟨⟨by simp [other, notSingle, notDouble], h.escaped⟩, rfl⟩, rfl⟩

end ChainState

end Directive
end TemplateEngine
