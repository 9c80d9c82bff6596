import TemplateEngine.Directive.Island
import TemplateEngine.Proofs.Artifact.Segments
import TemplateEngine.Proofs.Directive.BlockReadings

/-!
# Islands and interpolations

Interpolations are looked for in the whole artifact, its islands included. An island goes through
unchanged where no interpolation reaches it: a directive opened in literal text is closed there if
anywhere, and one that a quoted text of an island seems to open is never closed.
-/

namespace TemplateEngine
namespace Directive

open Text (isBlank after? until? occurs Skips ReadsWithin)
open Artifact (Lexeme Segment Delimits islandOpen islandClose tokenize segments segmentChars)

/-! ## Where islands are out of reach -/

/-- What stands behind each opening in a text. -/
def openings : List Char → List (List Char)
  | [] => []
  | c :: cs =>
      match after? interpolationOpen (c :: cs) with
      | some inside => inside :: openings cs
      | none => openings cs

/-- Where the closing of a directive is looked for: behind the first character of its body. -/
def reach (inside : List Char) : List Char := (skipBlanks inside).tail

/-- No interpolation reaches an island: an opening in a literal text is closed in that text if it is
closed at all, and behind what looks like an opening in an island there is no closing. -/
def Apart : List Segment → Prop
  | [] => True
  | .text cs :: segments =>
      (∀ inside ∈ openings cs,
        occurs directiveClose (reach (inside ++ segmentChars segments)) = true →
          occurs directiveClose (reach inside) = true) ∧ Apart segments
  | .island cs :: segments =>
      (∀ inside ∈ openings cs, occurs directiveClose (inside ++ segmentChars segments) = false) ∧
        Apart segments

def decideApart : (segments : List Segment) → Decidable (Apart segments)
  | [] => isTrue trivial
  | .text _ :: segments =>
      have := decideApart segments
      inferInstanceAs (Decidable (_ ∧ Apart segments))
  | .island _ :: segments =>
      have := decideApart segments
      inferInstanceAs (Decidable (_ ∧ Apart segments))

instance (segments : List Segment) : Decidable (Apart segments) := decideApart segments

def translated : Segment → List Char
  | .text cs => Text.replaceSpans interpolation echoIsland cs
  | .island cs => cs

/-! ## Reading a closing -/

/-- What stands behind an opening is one of the openings of the text. -/
theorem mem_openings {before inside : List Char} :
    inside ∈ openings (before ++ (interpolationOpen ++ inside)) := by
  induction before with
  | nil => simp [openings, interpolationOpen, after?]
  | cons c before ih =>
      rw [List.cons_append, openings]
      split
      · exact List.mem_cons_of_mem _ ih
      · exact ih

theorem split_of_close? {cs left : List Char} :
    close? cs = some left → ∃ blanks, cs = blanks ++ (directiveClose ++ left) := by
  intro closed
  refine ⟨cs.takeWhile isBlank, ?_⟩
  calc
    cs = cs.takeWhile isBlank ++ skipBlanks cs := List.takeWhile_append_dropWhile.symm
    _ = cs.takeWhile isBlank ++ (directiveClose ++ left) :=
      congrArg (cs.takeWhile isBlank ++ ·) (Text.after?_eq_some_iff.1 closed)

/-- A search for a closing finds one where there is one. -/
theorem until?_close?_eq_none_iff {cs : List Char} :
    until? close? (fun _ => true) cs = none ↔ occurs directiveClose cs = false := by
  induction cs with
  | nil => decide
  | cons c cs ih =>
      cases closed : close? (c :: cs) with
      | some left =>
          rcases split_of_close? closed with ⟨blanks, split⟩
          have there : occurs directiveClose (c :: cs) = true := Text.occurs_iff.2 ⟨_, _, split⟩
          simp [until?, closed, there]
      | none =>
          -- Were the closing here, it would be read.
          have notHere : directiveClose.isPrefixOf (c :: cs) = false := by
            rw [Bool.eq_false_iff]
            intro here
            rcases List.isPrefixOf_iff_prefix.1 here with ⟨left, split⟩
            cases split
            cases closed
          simp [until?, closed, occurs, notHere, ih]

/-- What is taken up to a closing is a part of the text. -/
theorem split_of_until? {cs read left : List Char} :
    until? close? (fun _ => true) cs = some (read, left) → ∃ span, cs = span ++ left := by
  intro h
  induction cs generalizing read with
  | nil => cases h
  | cons c cs ih =>
      rw [until?] at h
      cases closed : close? (c :: cs) with
      | some after =>
          rw [closed] at h
          cases h
          rcases split_of_close? closed with ⟨blanks, split⟩
          exact ⟨blanks ++ directiveClose, by rw [split, List.append_assoc]⟩
      | none =>
          rw [closed, if_pos rfl, Option.map_eq_some_iff] at h
          rcases h with ⟨⟨read', left'⟩, later, same⟩
          cases same
          rcases ih later with ⟨span, split⟩
          exact ⟨c :: span, congrArg (c :: ·) split⟩

theorem split_of_body {inside read left : List Char} :
    body inside = some (read, left) → ∃ span, inside = span ++ left := by
  intro h
  have whole : inside.takeWhile isBlank ++ inside.dropWhile isBlank = inside :=
    List.takeWhile_append_dropWhile
  rw [body] at h
  rw [← whole]
  cases chars : inside.dropWhile isBlank with
  | nil => simp [chars] at h
  | cons c cs =>
      simp only [chars] at h
      cases found : until? close? (fun _ => true) cs with
      | some accepted =>
          rcases accepted with ⟨before, behind⟩
          rw [found] at h
          cases h
          rcases split_of_until? found with ⟨span, split⟩
          exact ⟨inside.takeWhile isBlank ++ (c :: span), by simp [split]⟩
      | none =>
          -- The body is a blank, and the closing the first thing behind the white space.
          simp only [found] at h
          split at h
          · next closed =>
              cases h
              rw [Text.after?_eq_some_iff.1 closed, ← List.append_assoc]
              exact ⟨_, rfl⟩
          · cases h

/-- A directive that is closed nowhere has no body. -/
theorem body_of_not_occurs {inside : List Char} :
    occurs directiveClose inside = false → body inside = none := by
  intro never
  have whole : inside.takeWhile isBlank ++ inside.dropWhile isBlank = inside :=
    List.takeWhile_append_dropWhile
  rw [← whole] at never
  have solid := Text.not_occurs_of_append _ never
  rw [body]
  cases chars : inside.dropWhile isBlank with
  | nil => rfl
  | cons c cs =>
      rw [chars] at solid
      have later := until?_close?_eq_none_iff.2 (Text.not_occurs_of_append [c] solid)
      have here : after? directiveClose (c :: cs) = none := by
        rw [Option.eq_none_iff_forall_ne_some]
        intro left closed
        have split := Text.after?_eq_some_iff.1 closed
        have there : occurs directiveClose (c :: cs) = true := Text.occurs_iff.2 ⟨[], left, split⟩
        rw [solid] at there
        cases there
      simp [later, here]

/-- An interpolation is a span of the text. -/
theorem split_of_interpolation {cs read left : List Char} :
    interpolation cs = some (read, left) → ∃ span, span ≠ [] ∧ cs = span ++ left := by
  intro found
  rcases Option.bind_eq_some_iff.1 found with ⟨inside, opened, bodied⟩
  rcases split_of_body bodied with ⟨span, split⟩
  refine ⟨interpolationOpen ++ span, List.cons_ne_nil _ _, ?_⟩
  rw [Text.after?_eq_some_iff.1 opened, split, List.append_assoc]

/-! ## Reading a directive before a bound -/

/-- A rest that begins with an island. -/
def Bounds (rest : List Char) : Prop := rest = [] ∨ ∃ next, rest = islandOpen ++ next

section Bound
variable {rest : List Char} (bound : Bounds rest)
include bound

/-- A rest that begins with an island begins with its marker. -/
theorem Bounds.head {c : Char} : c ∈ rest.head? → c = '<' := by
  intro first
  rcases bound with rfl | ⟨next, rfl⟩
  · cases first
  · exact (Option.some.inj first).symm

theorem Bounds.skipBlanks : skipBlanks rest = rest := by
  rcases bound with rfl | ⟨next, rfl⟩
  · rfl
  · exact skipBlanks_of_head (by decide) _

theorem Bounds.skipBlanks_append (cs : List Char) :
    Directive.skipBlanks (cs ++ rest) = Directive.skipBlanks cs ++ rest := by
  induction cs with
  | nil => exact bound.skipBlanks
  | cons c cs ih =>
      cases blank : isBlank c with
      | true => simpa [Directive.skipBlanks, blank] using ih
      | false =>
          calc
            Directive.skipBlanks (c :: (cs ++ rest)) = c :: cs ++ rest :=
              skipBlanks_of_head blank (cs ++ rest)
            _ = Directive.skipBlanks (c :: cs) ++ rest := by rw [skipBlanks_of_head blank]

theorem Bounds.after?_append {mark : List Char} (plain : '<' ∉ mark) (cs : List Char) :
    after? mark (cs ++ rest) = (after? mark cs).map (· ++ rest) := by
  apply Text.after?_append_of_head
  intro c first
  rw [bound.head first]
  exact plain

/-- No closing reaches over the marker of an island. -/
theorem Bounds.close?_append (cs : List Char) :
    close? (cs ++ rest) = (close? cs).map (· ++ rest) := by
  calc
    close? (cs ++ rest) = after? directiveClose (Directive.skipBlanks cs ++ rest) :=
      congrArg (after? directiveClose) (bound.skipBlanks_append cs)
    _ = (close? cs).map (· ++ rest) := bound.after?_append (by decide) _

theorem Bounds.blanks_append (cs : List Char) :
    (cs ++ rest).takeWhile isBlank = cs.takeWhile isBlank := by
  have some : cs.takeWhile isBlank ++ Directive.skipBlanks cs = cs :=
    List.takeWhile_append_dropWhile
  have all : (cs ++ rest).takeWhile isBlank ++ Directive.skipBlanks (cs ++ rest) = cs ++ rest :=
    List.takeWhile_append_dropWhile
  rw [bound.skipBlanks_append, ← List.append_assoc] at all
  exact List.append_cancel_right ((List.append_cancel_right all).trans some.symm)

/-- A directive before a bound whose closing, if it has one, is before the bound too. -/
theorem Bounds.body_append {inside : List Char}
    (within : occurs directiveClose (reach (inside ++ rest)) = true →
      occurs directiveClose (reach inside) = true) :
    body (inside ++ rest) = (body inside).map fun (read, left) => (read, left ++ rest) := by
  have solid := bound.skipBlanks_append inside
  rw [reach, reach, solid] at within
  have blanks := bound.blanks_append inside
  cases chars : Directive.skipBlanks inside with
  | nil =>
      -- The body would begin with the island.
      rw [chars] at solid within
      unfold Directive.skipBlanks at solid chars
      rw [body, body, solid, chars]
      rcases bound with rfl | ⟨next, rfl⟩
      · rfl
      · have never : until? close? (fun _ => true) ('%' :: next) = none := by
          apply until?_close?_eq_none_iff.2
          apply Bool.eq_false_iff.2
          intro closed
          exact Bool.false_ne_true (within closed)
        simp [islandOpen, never, directiveClose, after?]
  | cons c cs =>
      rw [chars] at solid within
      unfold Directive.skipBlanks at solid chars
      rw [body, body, solid, chars, blanks]
      cases found : until? close? (fun _ => true) cs with
      | some accepted =>
          rcases accepted with ⟨read, left⟩
          have closed := Text.until?_append_of_some bound.close?_append found
          simp [closed, found]
      | none =>
          -- With no closing on this side of the bound there is none at all.
          have never : until? close? (fun _ => true) (cs ++ rest) = none := by
            apply until?_close?_eq_none_iff.2
            apply Bool.eq_false_iff.2
            intro closed
            have here := within closed
            rw [List.tail_cons, until?_close?_eq_none_iff.1 found] at here
            cases here
          have own := @Bounds.after?_append rest bound directiveClose (by decide) (c :: cs)
          simp only [List.cons_append] at own
          simp only [List.cons_append, never, found, own]
          cases last : (inside.takeWhile isBlank).getLast? with
          | none => rfl
          | some blank => cases after? directiveClose (c :: cs) <;> rfl

/-- The interpolations of a literal text that are closed in it are read in it. -/
theorem Bounds.readsWithin_text {cs : List Char}
    (within : ∀ inside ∈ openings cs, occurs directiveClose (reach (inside ++ rest)) = true →
      occurs directiveClose (reach inside) = true) : ReadsWithin interpolation cs rest := by
  intro before here split
  have opening := @Bounds.after?_append rest bound interpolationOpen (by decide) here
  cases opened : after? interpolationOpen here with
  | none =>
      rw [opened] at opening
      simp [interpolation, opened, opening]
  | some inside =>
      rw [opened] at opening
      have member : inside ∈ openings cs := by
        rw [split, Text.after?_eq_some_iff.1 opened]
        exact mem_openings
      simpa [interpolation, opened, opening] using bound.body_append (within inside member)

end Bound

/-- What looks like an opening in an island opens nothing if no closing stands behind it. -/
theorem skips_island {interior rest : List Char}
    (never : ∀ inside ∈ openings (interior ++ ['>']),
      occurs directiveClose (inside ++ rest) = false) :
    Skips interpolation (interior ++ ['>']) rest := by
  apply Text.skips_of_splits
  intro before here split nonempty
  rcases List.eq_nil_or_concat here with rfl | ⟨front, last, rfl⟩
  · exact absurd rfl nonempty
  · rw [List.concat_eq_append] at split ⊢
    rw [← List.append_assoc] at split
    rcases List.append_inj' split rfl with ⟨interior_eq, last_eq⟩
    cases last_eq
    have opening := @Text.after?_append_of_head interpolationOpen ('>' :: rest)
      (by rintro c ⟨⟩; decide) front
    rw [List.append_assoc, List.singleton_append, interpolation, opening]
    cases opened : after? interpolationOpen front with
    | none => rfl
    | some inside =>
        have member : inside ++ ['>'] ∈ openings (interior ++ ['>']) := by
          rw [interior_eq, Text.after?_eq_some_iff.1 opened, List.append_assoc, List.append_assoc]
          exact mem_openings
        have unclosed := never _ member
        rw [List.append_assoc] at unclosed
        exact body_of_not_occurs unclosed

/-! ## Islands are kept -/

/-- The interpolations of an artifact become islands segment by segment. -/
theorem replaceSpans_segments {cs : List Char} {segments : List Segment}
    (delimits : Delimits cs segments) (apart : Apart segments) :
    Text.replaceSpans interpolation echoIsland cs = segments.flatMap translated := by
  induction delimits with
  | done => rfl
  | @text s more segments bound follow ih =>
      rcases apart with ⟨within, later⟩
      rw [follow.chars] at within
      have reads := Bounds.readsWithin_text bound within
      calc
        Text.replaceSpans interpolation echoIsland (s ++ more)
            = translated (.text s) ++ Text.replaceSpans interpolation echoIsland more :=
          Text.replaceSpans_append_of_readsWithin split_of_interpolation reads
        _ = (Segment.text s :: segments).flatMap translated :=
          congrArg (translated (.text s) ++ ·) (ih later)
  | @island inside more segments follow ih =>
      rcases apart with ⟨never, later⟩
      -- The last character of the island begins no opening, so none lies across its end.
      have ends : islandOpen ++ (inside ++ islandClose) =
          (islandOpen ++ (inside ++ ['%'])) ++ ['>'] := by
        simp [islandClose]
      rw [follow.chars, ends] at never
      have skipped := skips_island never
      rw [← ends] at skipped
      calc
        Text.replaceSpans interpolation echoIsland (islandOpen ++ (inside ++ (islandClose ++ more)))
            = Text.replaceSpans interpolation echoIsland
                ((islandOpen ++ (inside ++ islandClose)) ++ more) := by
          simp only [List.append_assoc]
        _ = (islandOpen ++ (inside ++ islandClose)) ++
              Text.replaceSpans interpolation echoIsland more :=
          Text.replaceSpans_append_of_skips skipped
        _ = (Segment.island (islandOpen ++ (inside ++ islandClose)) :: segments).flatMap
              translated :=
          congrArg ((islandOpen ++ (inside ++ islandClose)) ++ ·) (ih later)

/-- Where no interpolation reaches an island, every island of the artifact is kept, in order, and only
the literal texts between the islands change. -/
theorem interpolationsToIslands_segments {text : String} {lexemes : List Lexeme}
    (tokenized : tokenize (codeToIslands text) = .ok lexemes)
    (apart : Apart (segments (codeToIslands text) lexemes)) :
    segmentChars (segments (codeToIslands text) lexemes) = (codeToIslands text).toList ∧
      interpolationsToIslands (codeToIslands text) =
        String.ofList ((segments (codeToIslands text) lexemes).flatMap translated) := by
  have delimits := Artifact.delimits_segments tokenized
  refine ⟨delimits.chars, ?_⟩
  rw [interpolationsToIslands, replaceSpans_segments delimits apart]

/-- An interpolation, and behind it code whose quoted text looks like an opening. -/
theorem interpolationsToIslands_codeBehind :
    let artifact := codeToIslands "\x7b\x7b x \x7d\x7d \x7b\x7b@ echo '\x7b\x7b' \x7d\x7d"
    let lexemes : List Lexeme := [⟨.text "\x7b\x7b x \x7d\x7d ", 0, 8⟩, ⟨.keyword .echoWord, 11, 15⟩,
      ⟨.quoted "\x7b\x7b", 16, 20⟩, ⟨.symbol .semicolon, 21, 23⟩]
    tokenize artifact = .ok lexemes ∧ Apart (segments artifact lexemes) ∧
      segmentChars (segments artifact lexemes) = artifact.toList ∧
      interpolationsToIslands artifact = "<% echo $x %> <% echo '\x7b\x7b' %>" := by
  intro artifact lexemes
  have tokenized : tokenize artifact = .ok lexemes := by decide +kernel
  have apart : Apart (segments artifact lexemes) := by decide +kernel
  have kept := interpolationsToIslands_segments tokenized apart
  have pieces : String.ofList ((segments artifact lexemes).flatMap translated) =
      "<% echo $x %> <% echo '\x7b\x7b' %>" := by
    decide +kernel
  exact ⟨tokenized, apart, kept.1, kept.2.trans pieces⟩

/-- Code whose quoted text looks like an opening, and behind it an interpolation: its closing is taken
for the closing of that opening. -/
theorem interpolationsToIslands_codeBefore :
    let artifact := codeToIslands "\x7b\x7b@ echo '\x7b\x7b' \x7d\x7d \x7b\x7b x \x7d\x7d"
    let lexemes : List Lexeme := [⟨.keyword .echoWord, 3, 7⟩, ⟨.quoted "\x7b\x7b", 8, 12⟩,
      ⟨.symbol .semicolon, 13, 15⟩, ⟨.text " \x7b\x7b x \x7d\x7d", 15, 23⟩]
    tokenize artifact = .ok lexemes ∧
      .island "<% echo '\x7b\x7b' %>".toList ∈ segments artifact lexemes ∧
      interpolationsToIslands artifact = "<% echo '<% echo ' %> \x7b\x7b x %>" ∧
      occurs "<% echo '\x7b\x7b' %>".toList (interpolationsToIslands artifact).toList = false := by
  decide +kernel

end Directive
end TemplateEngine
