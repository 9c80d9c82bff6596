import TemplateEngine.Proofs.Text.Scan

/-!
# Separation of a text by a mark

A mark separates a text into parts: its leftmost occurrence ends the first one, and the text behind that
occurrence is separated further. Replacing the mark joins the parts again, with the replacement between
them, so no occurrence overlaps another one and nothing that was put in is looked at again.
-/

namespace TemplateEngine
namespace Text

variable {mark : List Char}

/-- The parts of a text before, between and behind the occurrences of a mark. -/
inductive Separates (mark : List Char) : (text : List Char) → (parts : List (List Char)) → Prop
  | last {text} (never : ¬ mark <:+: text) : Separates mark text [text]
  | part {part rest parts}
      (leftmost : ∀ before behind, part ++ (mark ++ rest) = before ++ (mark ++ behind) →
        part.length ≤ before.length)
      (follow : Separates mark rest parts) :
      Separates mark (part ++ (mark ++ rest)) (part :: parts)

/-- A mark occurs where it is an infix. -/
theorem occurs_eq_true_iff {text : List Char} : occurs mark text = true ↔ mark <:+: text := by
  rw [occurs_iff]
  constructor
  · rintro ⟨before, behind, split⟩
    exact ⟨before, behind, by rw [split, List.append_assoc]⟩
  · rintro ⟨before, behind, split⟩
    exact ⟨before, behind, by rw [← split, List.append_assoc]⟩

/-- A mark that occurs has a leftmost occurrence. -/
theorem exists_leftmost {text : List Char} (here : mark <:+: text) :
    ∃ part rest, text = part ++ (mark ++ rest) ∧
      ∀ before behind, text = before ++ (mark ++ behind) → part.length ≤ before.length := by
  induction text with
  | nil =>
      have empty : mark = [] := List.infix_nil.1 here
      exact ⟨[], [], by rw [empty]; rfl, fun before behind _ => Nat.zero_le _⟩
  | cons c cs ih =>
      by_cases head : mark <+: c :: cs
      · rcases head with ⟨rest, split⟩
        exact ⟨[], rest, split.symm, fun before behind _ => Nat.zero_le _⟩
      · have later : mark <:+: cs := (List.infix_cons_iff.1 here).resolve_left head
        rcases ih later with ⟨part, rest, split, leftmost⟩
        refine ⟨c :: part, rest, congrArg (c :: ·) split, ?_⟩
        intro before behind other
        cases before with
        | nil => exact absurd ⟨behind, other.symm⟩ head
        | cons d before =>
            exact Nat.succ_le_succ (leftmost before behind (List.cons.inj other).2)

/-- A mark that is not empty separates every text. -/
theorem exists_separates (nonempty : mark ≠ []) (text : List Char) :
    ∃ parts, Separates mark text parts := by
  -- What stands behind an occurrence is a shorter text.
  induction size : text.length using Nat.strongRecOn generalizing text with
  | ind n ih =>
      by_cases here : mark <:+: text
      · rcases exists_leftmost here with ⟨part, rest, rfl, leftmost⟩
        have shorter : rest.length < n := by
          have positive := List.length_pos_iff.2 nonempty
          simp only [List.length_append] at size
          omega
        rcases ih rest.length shorter rest rfl with ⟨parts, follow⟩
        exact ⟨part :: parts, .part leftmost follow⟩
      · exact ⟨[text], .last here⟩

theorem Separates.ne_nil {text : List Char} {parts : List (List Char)}
    (h : Separates mark text parts) : parts ≠ [] := by
  cases h <;> exact List.cons_ne_nil _ _

/-- Before its leftmost occurrence a mark begins nowhere. -/
theorem skips_of_leftmost {part rest : List Char}
    (leftmost : ∀ before behind, part ++ (mark ++ rest) = before ++ (mark ++ behind) →
      part.length ≤ before.length) : Skips (after? mark) part (mark ++ rest) := by
  apply skips_of_splits
  intro before here split nonempty
  cases found : after? mark (here ++ (mark ++ rest)) with
  | none => rfl
  | some behind =>
      have occurrence : part ++ (mark ++ rest) = before ++ (mark ++ behind) := by
        rw [split, List.append_assoc, after?_eq_some_iff.1 found]
      have positive := List.length_pos_iff.2 nonempty
      have bound := leftmost before behind occurrence
      rw [split, List.length_append] at bound
      omega

/-- Replacing a mark puts the replacement between the parts that the mark separates. -/
theorem Separates.replaceAll (nonempty : mark ≠ []) {text : List Char} {parts : List (List Char)}
    (h : Separates mark text parts) (new : List Char) :
    Text.replaceAll mark new text = new.intercalate parts := by
  induction h with
  | last never =>
      rw [replaceAll_of_not_occurs nonempty new
        (Bool.eq_false_iff.2 fun here => never (occurs_eq_true_iff.1 here)),
        List.intercalate_singleton]
  | @part part rest parts leftmost follow ih =>
      rw [replaceAll_append_of_skips nonempty new (skips_of_leftmost leftmost),
        replaceAll_append_mark nonempty, ih, List.intercalate_cons_of_ne_nil follow.ne_nil,
        List.append_assoc]

end Text
end TemplateEngine
