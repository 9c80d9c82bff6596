import TemplateEngine.Text.CharClass

/-!
# Character classes that do not meet

White space begins no name and stands in no word, and digits are no letters. The tables are asked once,
for the white space characters; everything else follows from the bounds of a class.
-/

namespace TemplateEngine
namespace Text

/-! ## Characters of names -/

theorem isDigit_toNat_bounds {c : Char} (h : c.isDigit = true) :
    48 ≤ c.toNat ∧ c.toNat ≤ 57 := by
  simp only [Char.isDigit, Bool.and_eq_true, decide_eq_true_eq] at h
  exact ⟨UInt32.le_iff_toNat_le.1 h.1, UInt32.le_iff_toNat_le.1 h.2⟩

def blankRanges : CodeRanges :=
  [(9, 13), (0x20, 0x20), (0x85, 0x85), (0xa0, 0xa0), (0x1680, 0x1680), (0x2000, 0x200a),
   (0x2028, 0x2029), (0x202f, 0x202f), (0x205f, 0x205f), (0x3000, 0x3000)]

/-- A blank lies in one of the blank ranges. -/
theorem mem_blankRanges {c : Char} (blank : isBlank c = true) :
    ∃ range ∈ blankRanges, range.1 ≤ c.toNat ∧ c.toNat ≤ range.2 := by
  rw [← CodeRanges.contains_iff]
  simp only [isBlank, Bool.or_eq_true, Bool.and_eq_true, decide_eq_true_eq, beq_iff_eq] at blank
  simp only [CodeRanges.contains, blankRanges, List.any_cons, List.any_nil, Bool.or_false,
    Bool.or_eq_true, Bool.and_eq_true, decide_eq_true_eq]
  omega

/-- A class of characters has no white space in it if it has none of these few characters. -/
theorem not_of_isBlank {p : Char → Bool}
    (none : ∀ range ∈ blankRanges, ∀ i < range.2 + 1 - range.1,
      p (Char.ofNat (range.1 + i)) = false)
    {c : Char} (blank : isBlank c = true) : p c = false := by
  rcases mem_blankRanges blank with ⟨range, member, low, high⟩
  -- The place of a character in its range is below the length of the range.
  have here := none range member (c.toNat - range.1) (by omega)
  rwa [Nat.add_sub_cancel' low, Char.ofNat_toNat] at here

/-- No blank is part of a name. -/
theorem not_isNamePart_of_isBlank {c : Char} (blank : isBlank c = true) : isNamePart c = false :=
  not_of_isBlank (by decide +kernel) blank

theorem not_isNameStart_of_isBlank {c : Char} (blank : isBlank c = true) :
    isNameStart c = false := by
  refine Bool.eq_false_iff.2 fun start => ?_
  have part := isNamePart_of_isNameStart start
  rw [not_isNamePart_of_isBlank blank] at part
  cases part

/-- Nor of a word. -/
theorem not_isWordPart_of_isBlank {c : Char} (blank : isBlank c = true) : isWordPart c = false :=
  not_of_isBlank (by decide +kernel) blank

/-- Where one class excludes another, the other excludes it. -/
theorem not_of_excluded {p q : Char → Bool} (excludes : ∀ c, p c = true → q c = false) (c : Char)
    (h : q c = true) : p c = false := by
  cases both : p c with
  | false => rfl
  | true =>
      rw [excludes c both] at h
      cases h

theorem not_isBlank_of_isWordPart {c : Char} (h : isWordPart c = true) : isBlank c = false :=
  not_of_excluded (fun _ => not_isWordPart_of_isBlank) c h

theorem not_isBlank_of_isNameStart {c : Char} (h : isNameStart c = true) : isBlank c = false :=
  not_of_excluded (fun _ => not_isNameStart_of_isBlank) c h

/-- Characters that a class tells apart are two. -/
theorem ne_of_class {p : Char → Bool} {c d : Char} (h : p c = true) (other : p d = false) :
    c ≠ d := by
  intro same
  rw [same, other] at h
  cases h

/-- What holds of ten characters holds of every digit. -/
theorem of_isDigit {p : Char → Prop} (all : ∀ n ≤ 57, 48 ≤ n → p (Char.ofNat n)) {c : Char}
    (h : c.isDigit = true) : p c := by
  have bounds := isDigit_toNat_bounds h
  have here := all c.toNat bounds.2 bounds.1
  rwa [Char.ofNat_toNat] at here

/-- No name begins with a digit. -/
theorem not_isNameStart_of_isDigit {c : Char} (h : c.isDigit = true) : isNameStart c = false :=
  of_isDigit (p := fun c => isNameStart c = false) (by decide) h

theorem not_isDigit_of_isNameStart {c : Char} (h : isNameStart c = true) : c.isDigit = false :=
  not_of_excluded (fun _ => not_isNameStart_of_isDigit) c h

theorem not_isBlank_of_isDigit {c : Char} (h : c.isDigit = true) : isBlank c = false :=
  of_isDigit (p := fun c => isBlank c = false) (by decide) h

theorem isNamePart_of_isDigit {c : Char} (h : c.isDigit = true) : isNamePart c = true :=
  of_isDigit (p := fun c => isNamePart c = true) (by decide) h

theorem takeWhile_append_of_all {p : Char → Bool} {word rest : List Char} (all : word.all p = true)
    (stop : ∀ c ∈ rest.head?, p c = false) : (word ++ rest).takeWhile p = word := by
  induction word with
  | nil =>
      cases rest with
      | nil => rfl
      | cons c cs => simp [stop c (by simp)]
  | cons c cs ih =>
      simp only [List.all_cons, Bool.and_eq_true] at all
      simp [all.1, ih all.2]

end Text
end TemplateEngine
