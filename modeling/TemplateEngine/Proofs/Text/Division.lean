import TemplateEngine.Proofs.Text.Scan

/-!
# Divisions of a text

A scan divides a text. Where the recogniser accepts, it takes a span and the scan goes on behind it; any
other character is kept. The pieces of a text say what was read from its spans, and its division has the
spans themselves.
-/

namespace TemplateEngine
namespace Text

variable {α : Type} {read : Recogniser α}

/-- A part of a scanned text: a character that is kept, or a span and what was read from it. -/
inductive Stretch (α : Type)
  | kept (c : Char)
  | span (chars : List Char) (a : α)

namespace Stretch

def chars : Stretch α → List Char
  | .kept c => [c]
  | .span cs _ => cs

def piece : Stretch α → Piece α
  | .kept c => .plain c
  | .span _ a => .found a

/-- The text of a part when what was read is written in place of its span. -/
def rewritten (write : α → List Char) : Stretch α → List Char
  | .kept c => [c]
  | .span _ a => write a

end Stretch

/-- What was read is what stands beside the spans. -/
theorem mem_captures_iff {parts : List (Stretch α)} {a : α} :
    a ∈ Piece.captures (parts.map Stretch.piece) ↔ ∃ span, .span span a ∈ parts := by
  rw [Piece.captures, List.filterMap_map, List.mem_filterMap]
  constructor
  · rintro ⟨part, member, captured⟩
    cases part with
    | kept c => cases captured
    | span span b =>
        cases captured
        exact ⟨span, member⟩
  · rintro ⟨span, member⟩
    exact ⟨_, member, rfl⟩

/-- The parts that a scan divides a text into. -/
inductive Division (read : Recogniser α) : List (Stretch α) → List Char → Prop
  | done : Division read [] []
  | kept {c cs parts} (none : read (c :: cs) = none) (follow : Division read parts cs) :
      Division read (.kept c :: parts) (c :: cs)
  | span {chars a rest parts} (nonempty : chars ≠ [])
      (found : read (chars ++ rest) = some (a, rest)) (follow : Division read parts rest) :
      Division read (.span chars a :: parts) (chars ++ rest)

/-- What a recogniser accepts is a span at the head of the text, and what it leaves stands behind. -/
def TakesSpans (read : Recogniser α) : Prop :=
  ∀ {cs a left}, read cs = some (a, left) → ∃ span, span ≠ [] ∧ cs = span ++ left

theorem exists_division (takes : TakesSpans read) (cs : List Char) :
    ∃ parts, Division read parts cs := by
  -- What is left behind a span is a shorter text.
  induction size : cs.length using Nat.strongRecOn generalizing cs with
  | ind n ih =>
      cases cs with
      | nil => exact ⟨[], .done⟩
      | cons c cs =>
          cases found : read (c :: cs) with
          | none =>
              rcases ih cs.length (by simp [← size]) cs rfl with ⟨parts, follow⟩
              exact ⟨_, .kept found follow⟩
          | some accepted =>
              rcases accepted with ⟨a, left⟩
              rcases takes found with ⟨span, nonempty, split⟩
              have shorter : left.length < n := by
                rw [← size, split, List.length_append]
                exact Nat.lt_add_of_pos_left (List.length_pos_iff.2 nonempty)
              rcases ih left.length shorter left rfl with ⟨parts, follow⟩
              rw [split] at found ⊢
              exact ⟨_, .span nonempty found follow⟩

namespace Division

variable {parts : List (Stretch α)} {cs : List Char}

/-- Nothing of the text is lost, and nothing stands twice. -/
theorem chars (division : Division read parts cs) : parts.flatMap Stretch.chars = cs := by
  induction division with
  | done => rfl
  | kept _ _ ih => exact congrArg (_ :: ·) ih
  | span _ _ _ ih => exact congrArg (_ ++ ·) ih

/-- The pieces of a text are those of its division. -/
theorem pieces (division : Division read parts cs) : Text.pieces read cs = parts.map Stretch.piece := by
  induction division with
  | done => rfl
  | kept none _ ih => exact (pieces_plain none).trans (congrArg (_ :: ·) ih)
  | @span chars a rest parts nonempty found _ ih =>
      cases chars with
      | nil => exact absurd rfl nonempty
      | cons c cs => exact (pieces_found found rfl).trans (congrArg (_ :: ·) ih)

/-- Replacing rewrites each stretch of the division. -/
theorem replaceSpans (division : Division read parts cs) (write : α → List Char) :
    Text.replaceSpans read write cs = parts.flatMap (Stretch.rewritten write) := by
  rw [Text.replaceSpans, division.pieces, Piece.replace, List.flatMap_map]
  congr 1
  funext part
  cases part <;> rfl

/-- The parts from some part on divide the text from there on. -/
theorem of_append {before after : List (Stretch α)} (division : Division read (before ++ after) cs) :
    Division read after (after.flatMap Stretch.chars) := by
  induction before generalizing cs with
  | nil =>
      have whole := division.chars
      rw [List.nil_append] at division whole
      rwa [whole]
  | cons part before ih =>
      cases division with
      | kept _ follow => exact ih follow
      | span _ _ follow => exact ih follow

/-- A span is read from the text that it stands in front of. -/
theorem read_span {before after : List (Stretch α)} {chars : List Char} {a : α}
    (division : Division read (before ++ .span chars a :: after) cs) :
    read (chars ++ after.flatMap Stretch.chars) = some (a, after.flatMap Stretch.chars) := by
  have here := division.of_append
  generalize (Stretch.span chars a :: after).flatMap Stretch.chars = text at here
  cases here with
  | span _ found follow => rwa [follow.chars]

/-- At a character that is kept nothing is read. -/
theorem read_kept {before after : List (Stretch α)} {c : Char}
    (division : Division read (before ++ .kept c :: after) cs) :
    read (c :: after.flatMap Stretch.chars) = none := by
  have here := division.of_append
  generalize (Stretch.kept c :: after).flatMap Stretch.chars = text at here
  cases here with
  | kept none follow => rwa [follow.chars]

/-- Where the recogniser accepts at the head of a text, its first part is a span. -/
theorem head_of_read (division : Division read parts cs) (takes : TakesSpans read) {a : α}
    {left : List Char} (found : read cs = some (a, left)) :
    ∃ chars more, parts = .span chars a :: more ∧ cs = chars ++ left := by
  cases division with
  | done =>
      rcases takes found with ⟨span, nonempty, split⟩
      exact absurd (List.append_eq_nil_iff.1 split.symm).1 nonempty
  | kept none _ =>
      rw [found] at none
      cases none
  | span _ found' _ =>
      rw [found'] at found
      cases found
      exact ⟨_, _, rfl, rfl⟩

end Division

/-- A scan finds nothing in a text exactly where the recogniser accepts at no place of it. -/
theorem found_mem_pieces_iff {cs : List Char} :
    (∃ a, .found a ∈ Text.pieces read cs) ↔ ¬ Skips read cs [] := by
  constructor
  · rintro ⟨a, member⟩ skips
    rw [pieces_of_skips skips] at member
    simp at member
  · intro seen
    induction cs with
    | nil => exact absurd trivial seen
    | cons c cs ih =>
        cases found : read (c :: cs) with
        | some accepted =>
            exact ⟨accepted.1, by simp [Text.pieces, piecesFrom, found]⟩
        | none =>
            have later : ¬ Skips read cs [] := by
              intro skips
              exact seen ⟨by simpa using found, skips⟩
            rcases ih later with ⟨a, member⟩
            rw [pieces_plain found]
            exact ⟨a, List.mem_cons_of_mem _ member⟩

end Text
end TemplateEngine
