import TemplateEngine.Proofs.Text.Division

/-!
# Occurrences — what a replacement keeps

A replacement either keeps a stretch of the text that it gives, which then stood in the text before, or
writes into it: what is written overlaps the stretch, or nothing is written between two characters of it,
which now stand side by side.
-/

namespace TemplateEngine
namespace Text

variable {α : Type} {read : Recogniser α} {write : α → List Char}

/-! ## Parts and what is written for them -/

theorem flatMap_chars_map_kept (cs : List Char) :
    (cs.map (@Stretch.kept α)).flatMap Stretch.chars = cs := by
  induction cs with
  | nil => rfl
  | cons c cs ih => exact congrArg (c :: ·) ih

/-- Parts that are written as a text from its beginning keep it, or a span begins before its end. -/
theorem kept_or_span_of_rewritten {parts : List (Stretch α)} {here behind : List Char}
    (split : parts.flatMap (Stretch.rewritten write) = here ++ behind) :
    (∃ back, parts = here.map .kept ++ back ∧ back.flatMap (Stretch.rewritten write) = behind) ∨
      ∃ front span a back, parts = front ++ .span span a :: back ∧
        (front.flatMap (Stretch.rewritten write)).length < here.length := by
  -- The induction is on the stretch: each of its characters is a kept one, until a span is met.
  induction here generalizing parts with
  | nil => exact Or.inl ⟨parts, rfl, split⟩
  | cons c here ih =>
      cases parts with
      | nil => cases split
      | cons part parts =>
          cases part with
          | span span a => exact Or.inr ⟨[], span, a, parts, rfl, Nat.zero_lt_succ _⟩
          | kept d =>
              rcases List.cons.inj split with ⟨rfl, later⟩
              rcases ih later with ⟨back, rfl, rest⟩ | ⟨front, span, a, back, rfl, before⟩
              · exact Or.inl ⟨back, rfl, rest⟩
              · exact Or.inr ⟨.kept d :: front, span, a, back, rfl, Nat.succ_lt_succ before⟩

/-- A stretch of what is written for some parts is kept, or what is written for a span meets it. -/
theorem kept_or_written {parts : List (Stretch α)} {before here behind : List Char}
    (split : parts.flatMap (Stretch.rewritten write) = before ++ (here ++ behind)) :
    (∃ front back, parts = front ++ (here.map .kept ++ back) ∧
        front.flatMap (Stretch.rewritten write) = before ∧
        back.flatMap (Stretch.rewritten write) = behind) ∨
      ∃ front span a back, parts = front ++ .span span a :: back ∧
        (front.flatMap (Stretch.rewritten write)).length < (before ++ here).length ∧
        before.length < (front.flatMap (Stretch.rewritten write) ++ write a).length := by
  induction parts generalizing before with
  | nil =>
      have nothing := List.append_eq_nil_iff.1 split.symm
      have nowhere := List.append_eq_nil_iff.1 nothing.2
      exact Or.inl ⟨[], [], by simp [nowhere.1], nothing.1.symm, nowhere.2.symm⟩
  | cons part parts ih =>
      rw [List.flatMap_cons] at split
      -- A part before the stretch is passed. The first part that is not begins the stretch if it is
      -- kept, and reaches into it if it is written.
      by_cases passed : part.rewritten write <+: before
      · -- The part is written before the stretch.
        rcases passed with ⟨more, rfl⟩
        rw [List.append_assoc] at split
        rcases ih (List.append_cancel_left split) with
          ⟨front, back, rfl, rfl, rfl⟩ | ⟨front, span, a, back, rfl, ends, begins⟩
        · exact Or.inl ⟨part :: front, back, rfl, rfl, rfl⟩
        · exact Or.inr ⟨part :: front, span, a, back, rfl, by simpa using ends, by simpa using begins⟩
      · rcases List.append_eq_append_iff.1 split with ⟨more, rfl, _⟩ | ⟨more, written, _⟩
        · exact absurd (List.prefix_append _ _) passed
        · have overlap : more ≠ [] := by
            rintro rfl
            exact passed ⟨[], by simpa using written⟩
          by_cases empty : before ++ here = []
          · rcases List.append_eq_nil_iff.1 empty with ⟨rfl, rfl⟩
            exact Or.inl ⟨[], part :: parts, rfl, rfl, split⟩
          · cases part with
            | span span a =>
                refine Or.inr ⟨[], span, a, parts, rfl, List.length_pos_iff.2 empty, ?_⟩
                have longer : write a = before ++ more := written
                rw [List.flatMap_nil, List.nil_append, longer, List.length_append]
                exact Nat.lt_add_of_pos_right (List.length_pos_iff.2 overlap)
            | kept c =>
                rcases List.singleton_eq_append_iff.1 written with ⟨rfl, rfl⟩ | ⟨_, none⟩
                · cases here with
                  | nil => exact absurd rfl empty
                  | cons d here =>
                      rcases List.cons.inj split with ⟨rfl, rest⟩
                      rcases kept_or_span_of_rewritten rest with
                        ⟨back, rfl, behind_eq⟩ | ⟨front, span, a, back, rfl, ends⟩
                      · exact Or.inl ⟨[], back, rfl, rfl, behind_eq⟩
                      · exact Or.inr ⟨.kept c :: front, span, a, back, rfl,
                          Nat.succ_lt_succ ends, Nat.zero_lt_succ _⟩
                · exact absurd none overlap

/-! ## Occurrences -/

/-- A stretch of a text, with what stands before it and behind it. -/
structure Occurrence where
  before : List Char
  here : List Char
  behind : List Char

def Occurrence.text (place : Occurrence) : List Char :=
  place.before ++ (place.here ++ place.behind)

/-- A replacement keeps a stretch: it takes none of its characters and writes only before and behind it.
The stretch is at the one place of the text and at the other place of what is written. -/
def Keeps (read : Recogniser α) (write : α → List Char) (place place' : Occurrence) : Prop :=
  ∃ front back : List (Stretch α),
    Division read (front ++ (place.here.map .kept ++ back)) place.text ∧
      front.flatMap Stretch.chars = place.before ∧ back.flatMap Stretch.chars = place.behind ∧
      place' = ⟨front.flatMap (Stretch.rewritten write), place.here,
        back.flatMap (Stretch.rewritten write)⟩

/-- A replacement writes into a stretch of what it gives: the text that it writes for one of its spans
begins before the end of the stretch and ends behind its beginning. An empty text is written into the
stretch if it stands between two characters of it. -/
def WritesInto (read : Recogniser α) (write : α → List Char) (cs : List Char) (place : Occurrence) :
    Prop :=
  ∃ front span a back, Division read (front ++ .span span a :: back) cs ∧
    place.text = (front ++ .span span a :: back).flatMap (Stretch.rewritten write) ∧
    (front.flatMap (Stretch.rewritten write)).length < (place.before ++ place.here).length ∧
    place.before.length < (front.flatMap (Stretch.rewritten write) ++ write a).length

theorem Keeps.here_eq {place place' : Occurrence} (kept : Keeps read write place place') :
    place'.here = place.here := by
  rcases kept with ⟨_, _, _, _, _, rfl⟩
  rfl

/-- Nothing is read at the beginning of a stretch that is kept. -/
theorem Keeps.read_eq_none {place place' : Occurrence} (kept : Keeps read write place place')
    (nonempty : place.here ≠ []) : read (place.here ++ place.behind) = none := by
  rcases place with ⟨before, here, behind⟩
  rcases kept with ⟨front, back, division, _, behind_eq, _⟩
  cases here with
  | nil => exact absurd rfl nonempty
  | cons c here =>
      have first : read (c :: (here.map Stretch.kept ++ back).flatMap Stretch.chars) = none :=
        division.read_kept
      rwa [List.flatMap_append, flatMap_chars_map_kept, behind_eq] at first

/-- What a replacement gives at a place was kept from the text, or was written into. -/
theorem keeps_or_writesInto (takes : TakesSpans read) {cs : List Char} {place : Occurrence}
    (text : place.text = replaceSpans read write cs) :
    (∃ origin, origin.text = cs ∧ Keeps read write origin place) ∨ WritesInto read write cs place := by
  rcases place with ⟨before, here, behind⟩
  rcases exists_division takes cs with ⟨parts, division⟩
  rw [division.replaceSpans] at text
  rcases kept_or_written text.symm with
    ⟨front, back, rfl, rfl, rfl⟩ | ⟨front, span, a, back, rfl, ends, begins⟩
  · have whole := division.chars
    rw [List.flatMap_append, List.flatMap_append, flatMap_chars_map_kept] at whole
    rw [← whole] at division
    exact Or.inl ⟨⟨front.flatMap Stretch.chars, here, back.flatMap Stretch.chars⟩, whole,
      front, back, division, rfl, rfl, rfl⟩
  · exact Or.inr ⟨front, span, a, back, division, text, ends, begins⟩

end Text
end TemplateEngine
