import TemplateEngine.Directive.Include
import TemplateEngine.Proofs.Directive.Closings

/-!
# Spans of include directives

An include directive is read off a span that ends in its closing, and nothing behind the span has a part
in the reading. So a directive that stands within a text is found there whatever the text is followed by.
-/

namespace TemplateEngine
namespace Directive

open Text (isBlank after? until? Skips TakesSpans)

/-! ## Words and white space -/

/-- A word that is read is spelled in some letter case. -/
theorem spelled_of_word? {letters cs rest : List Char} (found : word? letters cs = some rest) :
    ∃ spelled, cs = spelled ++ rest ∧
      List.Forall₂ (fun letter c => folds letter c = true) letters spelled := by
  induction letters generalizing cs with
  | nil =>
      cases found
      exact ⟨[], rfl, .nil⟩
  | cons letter letters ih =>
      cases cs with
      | nil => cases found
      | cons c cs =>
          rw [word?] at found
          split at found
          · next same =>
              rcases ih found with ⟨spelled, rfl, rest⟩
              exact ⟨c :: spelled, rfl, .cons same rest⟩
          · cases found

theorem not_isBlank_of_skipBlanks {cs : List Char} :
    ∀ c ∈ (skipBlanks cs).head?, isBlank c = false := by
  intro c first
  have stops := List.head?_dropWhile_not isBlank cs
  rw [skipBlanks] at first
  rw [first] at stops
  exact stops

theorem skipBlanks_of_head? {cs : List Char} (solid : ∀ c ∈ cs.head?, isBlank c = false) :
    skipBlanks cs = cs := by
  cases cs with
  | nil => rfl
  | cons c cs => exact skipBlanks_of_head (solid c rfl) cs

/-- What is passed over is white space. -/
theorem exists_skipBlanks (cs : List Char) :
    ∃ blanks, (∀ c ∈ blanks, isBlank c = true) ∧ cs = blanks ++ skipBlanks cs :=
  ⟨cs.takeWhile isBlank, List.all_eq_true.1 List.all_takeWhile,
    List.takeWhile_append_dropWhile.symm⟩

/-! ## Heads -/

/-- A head is read off a front of the text, and so whatever stands behind it. -/
theorem head?_front {word : String} {letter : Char} {letters cs rest : List Char}
    (begins : word.toList = letter :: letters) (found : head? word cs = some rest) :
    ∃ front, front ≠ [] ∧ cs = front ++ rest ∧
      (∀ rest', head? word (front ++ rest') = some rest') ∧
      ∃ inside c, cs = directiveOpen ++ inside ∧ c ∈ (skipBlanks inside).head? ∧
        folds letter c = true := by
  rcases Option.bind_eq_some_iff.1 found with ⟨inside, opened, worded⟩
  rcases spelled_of_word? worded with ⟨spelled, split, spells⟩
  rcases exists_skipBlanks inside with ⟨blanks, blank, whole⟩
  -- The word begins behind all white space, so that is taken with any rest.
  have solid := @not_isBlank_of_skipBlanks inside
  have cs_eq := Text.after?_eq_some_iff.1 opened
  rw [begins] at spells
  cases spells with
  | @cons _ c _ ds first more =>
      rw [split] at whole solid
      refine ⟨directiveOpen ++ (blanks ++ c :: ds), List.cons_ne_nil _ _, ?_, ?_, inside, c, cs_eq,
        ?_, first⟩
      · rw [cs_eq, whole]
        simp
      · intro rest'
        have here : skipBlanks (blanks ++ (c :: ds ++ rest')) = c :: ds ++ rest' := by
          rw [skipBlanks_append blank]
          exact skipBlanks_of_head (solid c rfl) _
        rw [head?, List.append_assoc, Text.after?_append, Option.bind_some, List.append_assoc, here,
          begins]
        exact word?_of_spelled (.cons first more) rest'
      · rw [split]
        rfl

theorem wordEnds_congr {cs cs' : List Char} (same : cs.head? = cs'.head?) :
    Text.wordEnds cs = Text.wordEnds cs' := by
  cases cs <;> cases cs' <;> simp_all [Text.wordEnds]

/-- The argument of a directive begins where it begins, if what stands there begins alike. -/
theorem argument?_front {word : String} {letter : Char} {letters cs inside : List Char}
    (begins : word.toList = letter :: letters) (found : argument? word cs = some inside) :
    ∃ front, front ≠ [] ∧ cs = front ++ inside ∧
      ∀ inside', inside'.head? = inside.head? → argument? word (front ++ inside') = some inside' := by
  unfold argument? at found
  cases headed : head? word cs with
  | none => simp [headed] at found
  | some rest =>
      simp only [headed] at found
      split at found
      · next ends =>
          cases found
          rcases head?_front begins headed with ⟨front, nonempty, split, anywhere, _⟩
          rcases exists_skipBlanks rest with ⟨blanks, blank, whole⟩
          have solid := @not_isBlank_of_skipBlanks rest
          refine ⟨front ++ blanks, by simp [nonempty], ?_, fun inside' same => ?_⟩
          · rw [split, List.append_assoc, ← whole]
          · have begin : (blanks ++ inside').head? = rest.head? := by
              rw [whole, List.head?_append, List.head?_append, same]
            rw [← wordEnds_congr begin] at ends
            rw [← same] at solid
            unfold argument?
            rw [List.append_assoc, anywhere]
            simp only [ends, if_true, skipBlanks_append blank, skipBlanks_of_head? solid]
      · cases found

theorem include_cons : "include".toList = 'i' :: "nclude".toList := by decide

theorem extend_cons : "extend".toList = 'e' :: "xtend".toList := by decide

/-- A directive has one word. -/
theorem include_none_of_extend {cs inside : List Char} (found : argument? "extend" cs = some inside) :
    argument? "include" cs = none := by
  have headed {word : String} {inside : List Char} (found : argument? word cs = some inside) :
      ∃ rest, head? word cs = some rest := by
    unfold argument? at found
    cases headed : head? word cs with
    | none => simp [headed] at found
    | some rest => exact ⟨rest, rfl⟩
  rw [Option.eq_none_iff_forall_ne_some]
  intro other found'
  rcases headed found with ⟨_, extending⟩
  rcases headed found' with ⟨_, including⟩
  rcases head?_front extend_cons extending with ⟨_, _, _, _, inside, c, split, first, folded⟩
  rcases head?_front include_cons including with ⟨_, _, _, _, inside', c', split', first', folded'⟩
  rw [List.append_cancel_left (split.symm.trans split')] at first
  cases first.symm.trans first'
  -- The letter behind the white space would be the first of both words.
  simp [folds] at folded folded'
  rw [folded] at folded'
  exact absurd folded' (by decide)

/-! ## Include directives -/

/-- An include directive may have a quote before its closing. -/
theorem readsClosings_closeQuoted? : ReadsClosings closeQuoted? where
  takes := by
    intro cs left closed
    cases cs with
    | nil => cases closed
    | cons c cs =>
        rw [closeQuoted?] at closed
        -- The quote is optional: with one a closing stands behind it, without one it stands here.
        cases quote : isQuote c with
        | true =>
            rw [quote, if_pos rfl] at closed
            rcases readsClosings_close?.takes closed with ⟨closing, rfl, ends, anywhere⟩
            refine ⟨c :: closing, rfl, ends.cons ?_, fun left' => ?_⟩
            · rintro ⟨rest, split⟩
              rw [← (List.cons.inj split).1] at quote
              exact absurd quote (by decide)
            · rw [List.cons_append, closeQuoted?, quote, if_pos rfl, anywhere]
        | false =>
            rw [quote, if_neg Bool.false_ne_true] at closed
            rcases readsClosings_close?.takes closed with ⟨closing, split, ends, anywhere⟩
            refine ⟨closing, split, ends, fun left' => ?_⟩
            cases closing with
            | nil => exact absurd rfl ends.ne_nil
            | cons d ds =>
                cases split
                have here := anywhere left'
                rw [List.cons_append] at here ⊢
                rw [closeQuoted?, quote, if_neg Bool.false_ne_true, here]
  bare _ := rfl

/-- The text behind the word of an include directive. -/
def included? (cs : List Char) : Option (List Char) :=
  (argument? "include" cs).or (argument? "extend" cs)

/-- A text without the quote that may stand at its head. -/
def unquoted : List Char → List Char
  | [] => []
  | c :: cs => if isQuote c then cs else c :: cs

/-- An include directive is its word and the name up to its closing. -/
theorem inclusion_eq (cs : List Char) :
    inclusion cs =
      (included? cs).bind fun inside => until? closeQuoted? (fun c => c != '\n') (unquoted inside) := by
  unfold inclusion included?
  cases (argument? "include" cs).or (argument? "extend" cs) with
  | none => rfl
  | some inside => cases inside <;> rfl

/-- Behind the first characters of a text without its quote, anything may stand. -/
theorem exists_quote {inside span left : List Char} (nonempty : span ≠ [])
    (split : unquoted inside = span ++ left) :
    ∃ quote, inside = quote ++ (span ++ left) ∧
      ∀ left', (quote ++ (span ++ left')).head? = inside.head? ∧
        unquoted (quote ++ (span ++ left')) = span ++ left' := by
  cases inside with
  | nil => exact absurd (List.append_eq_nil_iff.1 split.symm).1 nonempty
  | cons c cs =>
      rw [unquoted] at split
      cases quote : isQuote c with
      | true =>
          rw [quote, if_pos rfl] at split
          exact ⟨[c], congrArg (c :: ·) split, fun left' => ⟨rfl, if_pos quote⟩⟩
      | false =>
          rw [quote, if_neg Bool.false_ne_true] at split
          cases span with
          | nil => exact absurd rfl nonempty
          | cons d ds =>
              cases split
              exact ⟨[], rfl, fun left' => ⟨rfl, by simp [unquoted, quote]⟩⟩

/-- What stands behind the word counts by its first character only. -/
theorem included?_front {cs inside : List Char} (found : included? cs = some inside) :
    ∃ front, front ≠ [] ∧ cs = front ++ inside ∧
      ∀ inside', inside'.head? = inside.head? → included? (front ++ inside') = some inside' := by
  rcases Option.or_eq_some_iff.1 found with includes | ⟨_, extending⟩
  · rcases argument?_front include_cons includes with ⟨front, nonempty, split, anywhere⟩
    refine ⟨front, nonempty, split, fun inside' same => ?_⟩
    rw [included?, anywhere inside' same]
    rfl
  · rcases argument?_front extend_cons extending with ⟨front, nonempty, split, anywhere⟩
    refine ⟨front, nonempty, split, fun inside' same => ?_⟩
    have here := anywhere inside' same
    rw [included?, include_none_of_extend here, here]
    rfl

/-- An include directive is a span of the text, and is read so whatever stands behind it. -/
theorem inclusion_span {cs name left : List Char} (found : inclusion cs = some (name, left)) :
    ∃ span, span ≠ [] ∧ cs = span ++ left ∧ ∀ left', inclusion (span ++ left') = some (name, left') := by
  rw [inclusion_eq] at found
  rcases Option.bind_eq_some_iff.1 found with ⟨inside, opened, named⟩
  rcases included?_front opened with ⟨front, nonempty, rfl, anywhere⟩
  rcases readsClosings_closeQuoted?.until? named with ⟨span, split, ends, closes⟩
  rcases exists_quote ends.ne_nil split with ⟨quote, rfl, unquotes⟩
  refine ⟨front ++ (quote ++ span), by simp [nonempty], by simp, fun left' => ?_⟩
  rw [inclusion_eq, List.append_assoc, List.append_assoc, anywhere _ (unquotes left').1,
    Option.bind_some, (unquotes left').2, closes]

/-- An include directive is a span of the text. -/
theorem takesSpans_inclusion : TakesSpans inclusion := by
  intro cs name left found
  rcases inclusion_span found with ⟨span, nonempty, split, _⟩
  exact ⟨span, nonempty, split⟩

/-! ## Directives within a text -/

/-- No include directive lies within the text: one that begins in it goes on behind it. -/
def Unclosed (text : List Char) : Prop :=
  ∀ before here behind name left, text = before ++ here →
    inclusion (here ++ behind) = some (name, left) → left.length < behind.length

/-- Where the scan finds no directive in a text that something stands behind, none lies within it. -/
theorem unclosed_of_skips {text rest : List Char} (skips : Skips inclusion text rest) :
    Unclosed text := by
  rintro before here behind name left rfl found
  rcases inclusion_span found with ⟨span, nonempty, split, anywhere⟩
  -- Otherwise the span would be read at its place before the rest too.
  by_contra within
  have whole : ∃ more, here = span ++ more := by
    rcases List.append_eq_append_iff.1 split with ⟨more, span_eq, behind_eq⟩ | ⟨more, here_eq, _⟩
    · refine ⟨[], ?_⟩
      rw [behind_eq, List.length_append] at within
      have none : more = [] := List.eq_nil_of_length_eq_zero (by omega)
      rw [span_eq, none, List.append_nil, List.append_nil]
    · exact ⟨more, here_eq⟩
  rcases whole with ⟨more, rfl⟩
  have there := (Text.skips_append.1 skips).2
  cases span with
  | nil => exact nonempty rfl
  | cons c cs =>
      have unread : inclusion (c :: cs ++ (more ++ rest)) = none := by simpa using there.1
      rw [anywhere] at unread
      cases unread

end Directive
end TemplateEngine
