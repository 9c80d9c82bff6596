import TemplateEngine.Directive.Unterminated
import TemplateEngine.Proofs.Directive.ChainStates

/-!
# Arrows for dots in any text

What the rewriting of dots makes of a text, be it an expression or not: some dots become arrows, none of
them in a quoted text, and all else is kept. Rewriting once more changes nothing. The second run is in
other states than the first, since digits behind an arrow are a number to it, and a dot that ended such
digits is a point. But what was a number is one again, and a dot that was kept for want of an object
before it or of a name behind it wants the same again.
-/

namespace TemplateEngine
namespace Directive

open Text (isNamePart)

/-- The second text is the first with arrows for some of its dots, which stand outside quoted texts. The
place is that of the first character. -/
inductive Arrowed : Place → List Char → List Char → Prop
  | done {place} : Arrowed place [] []
  | keep {place c cs ds} (rest : Arrowed (place.after c) cs ds) : Arrowed place (c :: cs) (c :: ds)
  | arrow {cs ds} (rest : Arrowed .island cs ds) : Arrowed .island ('.' :: cs) ('-' :: '>' :: ds)

theorem Arrowed.refl (place : Place) (cs : List Char) : Arrowed place cs cs := by
  induction cs generalizing place with
  | nil => exact .done
  | cons c cs ih => exact .keep (ih (place.after c))

namespace ChainState

/-! ## One character -/

def afterPoint (s : ChainState) : ChainState := { s with last := some '.' }

/-- What is written for a character, by the state before it and the character behind it, and the state
after it. -/
inductive Step (s : ChainState) : (c : Char) → (next : Option Char) → List Char → ChainState → Prop
  | quoted {quote c next} (within : s.quote = some quote) : Step s c next [c] (s.inQuote quote c)
  | part {c next} (outside : s.quote = none) (part : isNamePart c = true) :
      Step s c next [c] (s.inRun c)
  | point {next} (outside : s.quote = none) (number : s.run = some true) :
      Step s '.' next ['.'] s.afterPoint
  | arrow {next} (outside : s.quote = none) (notNumber : s.run ≠ some true)
      (object : s.last.any endsObject = true) (member : next.any isNamePart = true) :
      Step s '.' next ['-', '>'] s.afterDot
  | other {c next} (outside : s.quote = none) (notPart : isNamePart c = false)
      (noArrow : c = '.' → s.run ≠ some true ∧
        (s.last.any endsObject = true → next.any isNamePart = false)) :
      Step s c next [c] (s.other c)

variable {s s' t : ChainState} {c : Char} {cs written : List Char} {next : Option Char}

/-- What is written for a text is written step by step. -/
theorem Step.arrowsFrom_eq (step : s.Step c cs.head? written s') :
    arrowsFrom s (c :: cs) = written ++ arrowsFrom s' cs := by
  cases step with
  | quoted within => simp [arrowsFrom, within]
  | part outside part => simp [arrowsFrom, outside, part]
  | point outside number => simp [arrowsFrom, outside, number, not_isNamePart_dot, afterPoint]
  | arrow outside notNumber object member =>
      simp [arrowsFrom, outside, notNumber, object, member, not_isNamePart_dot, afterDot]
  | other outside notPart noArrow =>
      by_cases dot : c = '.'
      · rcases noArrow dot with ⟨notNumber, apart⟩
        cases object : s.last.any endsObject with
        | false => simp [arrowsFrom, outside, notPart, notNumber, object]
        | true => simp [arrowsFrom, outside, notPart, notNumber, apart object]
      · simp [arrowsFrom, outside, notPart, dot]

/-- For every character there is a step. -/
theorem exists_step (s : ChainState) (c : Char) (next : Option Char) :
    ∃ written s', s.Step c next written s' := by
  cases outside : s.quote with
  | some quote => exact ⟨_, _, .quoted outside⟩
  | none =>
      cases part : isNamePart c with
      | true => exact ⟨_, _, .part outside part⟩
      | false =>
          by_cases dot : c = '.'
          · subst dot
            by_cases number : s.run = some true
            · exact ⟨_, _, .point outside number⟩
            by_cases arrow : s.last.any endsObject = true ∧ next.any isNamePart = true
            · exact ⟨_, _, .arrow outside number arrow.1 arrow.2⟩
            · have apart (object : s.last.any endsObject = true) : next.any isNamePart = false :=
                Bool.eq_false_iff.2 fun member => arrow ⟨object, member⟩
              exact ⟨_, _, .other outside part fun _ => ⟨number, apart⟩⟩
          · exact ⟨_, _, .other outside part fun same => absurd same dot⟩

/-- What is written begins with a name character where the text does. -/
theorem head?_arrowsFrom (s : ChainState) (cs : List Char) :
    (arrowsFrom s cs).head?.any isNamePart = cs.head?.any isNamePart := by
  cases cs with
  | nil => rfl
  | cons c cs =>
      rcases s.exists_step c cs.head? with ⟨written, s', step⟩
      rw [step.arrowsFrom_eq]
      cases step with
      | arrow =>
          have minus : isNamePart '-' = false := by decide
          simp [minus, not_isNamePart_dot]
      | _ => rfl

/-! ## Which dots become arrows -/

def place (s : ChainState) : Place :=
  match s.quote with
  | none => .island
  | some quote => .quoted quote s.escaped

/-- Only within a quoted text a backslash stands before the next character. -/
def Legal (s : ChainState) : Prop := s.quote = none → s.escaped = false

/-- In quotes the state keeps to the place of the character. -/
theorem inQuote_place {quote : Char} (within : s.quote = some quote) (c : Char) :
    (s.inQuote quote c).place = s.place.after c ∧ (s.inQuote quote c).Legal := by
  cases escaped : s.escaped with
  | true =>
      have next : s.inQuote quote c = { s with escaped := false, last := some c } := by
        simp [inQuote, escaped]
      rw [next]
      simp [place, Legal, within, escaped, Place.after]
  | false =>
      by_cases backslash : c = '\\'
      · have next : s.inQuote quote c = { s with escaped := true, last := some c } := by
          simp [inQuote, escaped, backslash]
        rw [next]
        simp [place, Legal, within, escaped, Place.after, backslash]
      by_cases closes : c = quote
      · subst closes
        have next : s.inQuote c c = { s with quote := none, last := some c } := by
          simp [inQuote, escaped, backslash]
        rw [next]
        simp [place, Legal, within, escaped, Place.after, backslash]
      · have next : s.inQuote quote c = { s with last := some c } := by
          simp [inQuote, escaped, backslash, closes]
        rw [next]
        simp [place, Legal, within, escaped, Place.after, backslash, closes]

/-- So it does outside of quotes. -/
theorem other_place (outside : s.quote = none) (legal : s.Legal) (c : Char) :
    (s.other c).place = s.place.after c ∧ (s.other c).Legal := by
  have escaped := legal outside
  by_cases quote : c = '\'' ∨ c = '"' <;>
    simp [other, place, Legal, Place.after, outside, escaped, quote]

theorem Legal.initial : Legal {} := fun _ => rfl

/-- Rewriting makes arrows of dots outside quoted texts, and keeps all else. -/
theorem arrowsFrom_arrowed (legal : s.Legal) (cs : List Char) :
    Arrowed s.place cs (arrowsFrom s cs) := by
  induction cs generalizing s with
  | nil => exact .done
  | cons c cs ih =>
      rcases s.exists_step c cs.head? with ⟨written, s', step⟩
      rw [step.arrowsFrom_eq]
      -- A character that is kept: the state behind it stands where the character leads.
      have kept (here : s'.place = s.place.after c ∧ s'.Legal) :
          Arrowed s.place (c :: cs) (c :: arrowsFrom s' cs) :=
        .keep (here.1 ▸ ih here.2)
      cases step with
      | quoted within => exact kept (inQuote_place within c)
      | part outside part =>
          have notSingle : c ≠ '\'' := Text.ne_of_class part (by decide)
          have notDouble : c ≠ '"' := Text.ne_of_class part (by decide)
          refine kept ⟨?_, legal⟩
          simp [inRun, place, Place.after, outside, notSingle, notDouble]
      | point outside number =>
          refine kept ⟨?_, legal⟩
          simp [place, afterPoint, Place.after, outside]
      | arrow outside =>
          have island : s.place = .island := by simp [place, outside]
          have follow : Arrowed s.afterDot.place cs (arrowsFrom s.afterDot cs) := ih legal
          have there : s.afterDot.place = .island := by simp [place, afterDot, outside]
          rw [there] at follow
          rw [island]
          exact .arrow follow
      | other outside => exact kept (other_place outside legal c)

/-! ## The second run -/

/-- What the second run takes for a number, by what the first run did. -/
inductive RunAgain : (first : Option Bool) → (last : Option Char) → (second : Option Bool) → Prop
  | same {run last} : RunAgain run last run
  /-- Digits behind an arrow. -/
  | digits {last} : RunAgain (some false) last (some true)
  /-- Digits behind an arrow, and a dot that was kept, which is a point now. -/
  | point : RunAgain none (some '.') (some true)

/-- The first run in the state `s`, and the second run at the same place of what the first has written. -/
structure Again (s t : ChainState) : Prop where
  quote : t.quote = s.quote
  escaped : t.escaped = s.escaped
  last : t.last = s.last
  afterArrow : t.afterArrow = false
  run : RunAgain s.run s.last t.run
  within : s.quote ≠ none → t.run = s.run

/-- What was a number in the first run is one in the second. -/
theorem RunAgain.number {first second : Option Bool} {last : Option Char}
    (h : RunAgain first last second) (number : first = some true) : second = some true := by
  cases h with
  | same => exact number
  | digits => rfl
  | point => rfl

/-- Both runs are in the same quotes. -/
theorem Again.inQuote (h : s.Again t) {quote : Char} (within : s.quote = some quote) (c : Char) :
    (s.inQuote quote c).Again (t.inQuote quote c) := by
  have run : t.run = s.run := h.within (by simp [within])
  have sides : RunAgain s.run (some c) t.run := run ▸ .same
  unfold ChainState.inQuote
  rw [h.escaped]
  split
  · exact ⟨h.quote, rfl, rfl, h.afterArrow, sides, fun _ => run⟩
  split
  · exact ⟨h.quote, rfl, rfl, h.afterArrow, sides, fun _ => run⟩
  split
  · exact ⟨rfl, rfl, rfl, h.afterArrow, sides, fun _ => run⟩
  · exact ⟨h.quote, rfl, rfl, h.afterArrow, sides, fun _ => run⟩

/-- Both runs are in runs of the same kind. -/
theorem Again.inRun (h : s.Again t) (outside : s.quote = none) (c : Char) :
    (s.inRun c).Again (t.inRun c) := by
  refine ⟨h.quote, h.escaped, rfl, rfl, ?_, fun within => absurd outside within⟩
  -- A run is a number the second time if it is the first, or if it stands behind an arrow.
  have run := h.run
  have quiet := h.afterArrow
  simp only [ChainState.inRun]
  generalize s.run = first, t.run = second, s.last = last at run
  rw [quiet]
  cases run with
  | same =>
      cases first with
      | some number => exact .same
      | none =>
          cases s.afterArrow with
          | false => exact .same
          | true => cases c.isDigit <;> first | exact .same | exact .digits
  | digits => cases c.isDigit <;> first | exact .same | exact .digits
  | point => cases s.afterArrow <;> cases c.isDigit <;> first | exact .same | exact .digits

theorem Again.other (h : s.Again t) (c : Char) : (s.other c).Again (t.other c) :=
  ⟨rfl, h.escaped, rfl, rfl, .same, fun _ => rfl⟩

/-- The second run keeps what the first has written for a character, and comes to the same place. -/
theorem Again.step (h : s.Again t) (step : s.Step c next written s') {rest : List Char}
    (head : rest.head?.any isNamePart = next.any isNamePart) :
    ∃ t', s'.Again t' ∧ arrowsFrom t (written ++ rest) = written ++ arrowsFrom t' rest := by
  cases step with
  | quoted within =>
      have step : t.Step c rest.head? [c] (t.inQuote _ c) := .quoted (h.quote.trans within)
      exact ⟨_, h.inQuote within c, step.arrowsFrom_eq⟩
  | part outside part =>
      have step : t.Step c rest.head? [c] (t.inRun c) := .part (h.quote.trans outside) part
      exact ⟨_, h.inRun outside c, step.arrowsFrom_eq⟩
  | point outside number =>
      have again := h.run.number number
      have step : t.Step '.' rest.head? ['.'] t.afterPoint := .point (h.quote.trans outside) again
      have run : t.run = s.run := again.trans number.symm
      have sides : RunAgain s.run (some '.') t.run := run ▸ .same
      exact ⟨t.afterPoint, ⟨h.quote, h.escaped, rfl, h.afterArrow, sides, h.within⟩,
        step.arrowsFrom_eq⟩
  | arrow outside =>
      -- The two signs of an arrow end what stands before them.
      have outside' : t.quote = none := h.quote.trans outside
      have minus : t.Step '-' ('>' :: rest).head? ['-'] (t.other '-') :=
        .other outside' (by decide) (by simp)
      have greater : (t.other '-').Step '>' rest.head? ['>'] ((t.other '-').other '>') :=
        .other rfl (by decide) (by simp)
      refine ⟨(t.other '-').other '>', ⟨outside.symm, h.escaped, rfl, rfl, .same, fun _ => rfl⟩, ?_⟩
      exact minus.arrowsFrom_eq.trans (congrArg ('-' :: ·) greater.arrowsFrom_eq)
  | other outside notPart noArrow =>
      have outside' : t.quote = none := h.quote.trans outside
      by_cases point : c = '.' ∧ t.run = some true
      · -- A dot that was kept behind a number of the second run only.
        rcases point with ⟨rfl, number⟩
        have step : t.Step '.' rest.head? ['.'] t.afterPoint := .point outside' number
        have sides : RunAgain none (some '.') t.run := number ▸ .point
        exact ⟨t.afterPoint, ⟨outside', h.escaped, rfl, h.afterArrow, sides, fun within => absurd rfl within⟩,
          step.arrowsFrom_eq⟩
      · have step : t.Step c rest.head? [c] (t.other c) := by
          refine .other outside' notPart fun dot => ⟨fun number => point ⟨dot, number⟩, ?_⟩
          rw [h.last, head]
          exact (noArrow dot).2
        exact ⟨_, h.other c, step.arrowsFrom_eq⟩

/-- From states of one place on the second run writes nothing new. -/
theorem Again.arrowsFrom_eq (h : s.Again t) (cs : List Char) :
    arrowsFrom t (arrowsFrom s cs) = arrowsFrom s cs := by
  induction cs generalizing s t with
  | nil => rfl
  | cons c cs ih =>
      rcases s.exists_step c cs.head? with ⟨written, s', step⟩
      rcases h.step step (head?_arrowsFrom s' cs) with ⟨t', again, kept⟩
      rw [step.arrowsFrom_eq, kept, ih again]

theorem Again.initial : Again {} {} := ⟨rfl, rfl, rfl, rfl, .same, fun _ => rfl⟩

end ChainState

/-- Only dots are rewritten, and only outside quoted texts. -/
theorem arrows_arrowed (cs : List Char) : Arrowed .island cs (arrows cs) :=
  ChainState.arrowsFrom_arrowed .initial cs

/-- Rewriting a text makes arrows of some dots outside quoted texts and keeps all else, and what it writes
is not rewritten again. -/
theorem arrows_arrowed_and_stable (cs : List Char) :
    Arrowed .island cs (arrows cs) ∧ arrows (arrows cs) = arrows cs :=
  ⟨ChainState.arrowsFrom_arrowed .initial cs, ChainState.Again.initial.arrowsFrom_eq cs⟩

/-- The second dot is kept, first for want of a name behind it, and then as the point of a number. -/
example : arrows "a.1..5.x".toList = "a->1..5.x".toList := by decide

end Directive
end TemplateEngine
