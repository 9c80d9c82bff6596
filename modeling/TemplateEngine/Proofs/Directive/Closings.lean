import TemplateEngine.Proofs.Directive.Islands
import TemplateEngine.Proofs.Text.Division

/-!
# Where directives close

A directive that becomes an island ends at the first closing behind its opening. The one exception is a
directive of white space alone: its body needs a character, so where there is another closing behind its
own, it takes its own closing for the beginning of its body and goes on to the next one. With nothing to
go on to, it closes at its own.
-/

namespace TemplateEngine
namespace Directive

open Text (isBlank after? until? occurs Recogniser Stretch Division TakesSpans)

/-! ## Closings -/

/-- A closing ends the text, and there is none before. -/
def EndsAtClosing (cs : List Char) : Prop :=
  directiveClose <:+ cs ∧ occurs directiveClose cs.dropLast = false

instance (cs : List Char) : Decidable (EndsAtClosing cs) :=
  inferInstanceAs (Decidable (_ ∧ _))

/-- The span of a directive ends at the first closing behind the opening. -/
def ClosesFirst (opening span : List Char) : Prop :=
  ∃ inside, span = opening ++ inside ∧ EndsAtClosing inside

/-- The span of a directive of white space alone goes on behind the closing of the directive: it ends at
the first closing that is looked for behind the first brace of that one. -/
def RunsOver (opening span : List Char) : Prop :=
  ∃ blanks more, (∀ c ∈ blanks, isBlank c = true) ∧
    span = opening ++ (blanks ++ '\x7d' :: '\x7d' :: more) ∧ EndsAtClosing ('\x7d' :: more)

/-- A directive of white space alone begins a text, and there is another closing behind its own. -/
def Overrunning (opening cs : List Char) : Prop :=
  ∃ blanks rest, (∀ c ∈ blanks, isBlank c = true) ∧
    cs = opening ++ (blanks ++ (directiveClose ++ rest)) ∧
      occurs directiveClose ('\x7d' :: rest) = true

theorem EndsAtClosing.ne_nil {cs : List Char} (ends : EndsAtClosing cs) : cs ≠ [] := by
  rintro rfl
  exact absurd ends (by decide)

theorem EndsAtClosing.more {more : List Char} (ends : EndsAtClosing ('\x7d' :: more)) :
    more ≠ [] := by
  rintro rfl
  exact absurd ends (by decide)

/-- A text that ends at a closing has one, whatever stands behind it. -/
theorem EndsAtClosing.occurs {cs : List Char} (ends : EndsAtClosing cs) (rest : List Char) :
    Text.occurs directiveClose (cs ++ rest) = true := by
  rcases ends.1 with ⟨before, rfl⟩
  exact Text.occurs_iff.2 ⟨before, rest, List.append_assoc ..⟩

/-- A character in front begins no closing, if none can be read there. -/
theorem EndsAtClosing.cons {c : Char} {cs : List Char} (ends : EndsAtClosing cs)
    (apart : ¬ directiveClose <+: c :: cs) : EndsAtClosing (c :: cs) := by
  refine ⟨ends.1.trans (List.suffix_cons c cs), ?_⟩
  have here : directiveClose.isPrefixOf (c :: cs.dropLast) = false := by
    rw [Bool.eq_false_iff]
    intro closing
    have front : c :: cs.dropLast <+: c :: cs := by
      rw [List.prefix_cons_inj]
      exact List.dropLast_prefix cs
    exact apart ((List.isPrefixOf_iff_prefix.1 closing).trans front)
  rw [List.dropLast_cons_of_ne_nil ends.ne_nil, Text.occurs, here, ends.2]
  rfl

/-- White space has no closing in it. -/
theorem endsAtClosing_blanks {blanks cs : List Char} (blank : ∀ c ∈ blanks, isBlank c = true)
    (ends : EndsAtClosing cs) : EndsAtClosing (blanks ++ cs) := by
  induction blanks with
  | nil => exact ends
  | cons b bs ih =>
      refine (ih fun c member => blank c (List.mem_cons_of_mem b member)).cons ?_
      intro closing
      have brace : b = '\x7d' := (List.cons_prefix_cons.1 closing).1.symm
      have here := blank b List.mem_cons_self
      rw [brace] at here
      exact absurd here (by decide)

theorem endsAtClosing_close : EndsAtClosing directiveClose := by decide

/-! ## Bodies -/

/-- A reader takes closings: what it takes ends at the first closing in it and is taken whatever stands
behind, and the two braces by themselves are taken too. -/
structure ReadsClosings (close : List Char → Option (List Char)) : Prop where
  takes : ∀ {cs left}, close cs = some left → ∃ closing, cs = closing ++ left ∧
    EndsAtClosing closing ∧ ∀ left', close (closing ++ left') = some left'
  bare : ∀ rest, close (directiveClose ++ rest) = some rest

/-- The closing of a directive takes white space and two braces. -/
theorem readsClosings_close? : ReadsClosings close? where
  takes := by
    intro cs left closed
    have blank : ∀ c ∈ cs.takeWhile isBlank, isBlank c = true := List.all_eq_true.1 List.all_takeWhile
    refine ⟨_, ?_, endsAtClosing_blanks blank endsAtClosing_close, fun left' => ?_⟩
    · calc
        cs = cs.takeWhile isBlank ++ skipBlanks cs := List.takeWhile_append_dropWhile.symm
        _ = cs.takeWhile isBlank ++ (directiveClose ++ left) :=
          congrArg (_ ++ ·) (Text.after?_eq_some_iff.1 closed)
        _ = _ := (List.append_assoc ..).symm
    · rw [close?, List.append_assoc, skipBlanks_append blank]
      rfl
  bare _ := rfl

/-- A reader that takes nothing before a closing takes nothing there whatever follows the closing. -/
theorem ReadsClosings.none {close : List Char → Option (List Char)} (reads : ReadsClosings close)
    {cs left : List Char} (there : occurs directiveClose cs = true) (none : close (cs ++ left) = none)
    (left' : List Char) : close (cs ++ left') = .none := by
  rw [Option.eq_none_iff_forall_ne_some]
  intro rest found
  rcases reads.takes found with ⟨closing, split, ends, anywhere⟩
  rcases List.append_eq_append_iff.1 split with ⟨more, whole, _⟩ | ⟨more, whole, _⟩
  · by_cases same : more = []
    · rw [same, List.append_nil] at whole
      rw [← whole, anywhere] at none
      cases none
    · -- What was taken has a closing in it before its end.
      have early := ends.2
      rw [whole, List.dropLast_append_of_ne_nil same] at early
      rcases Text.occurs_iff.1 there with ⟨before, after, rfl⟩
      rw [Text.occurs_iff.2 ⟨before, after ++ more.dropLast, by simp⟩] at early
      cases early
  · rw [whole, List.append_assoc, anywhere] at none
    cases none

/-- A search for a closing ends at the first one, and what stands behind makes no difference. -/
theorem ReadsClosings.until? {close : List Char → Option (List Char)} (reads : ReadsClosings close)
    {allowed : Char → Bool} {cs read left : List Char}
    (found : Text.until? close allowed cs = some (read, left)) :
    ∃ span, cs = span ++ left ∧ EndsAtClosing span ∧
      ∀ left', Text.until? close allowed (span ++ left') = some (read, left') := by
  induction cs generalizing read with
  | nil =>
      rw [Text.until?, Option.map_eq_some_iff] at found
      rcases found with ⟨rest, closed, _⟩
      rcases reads.takes closed with ⟨closing, split, ends, _⟩
      exact absurd (List.append_eq_nil_iff.1 split.symm).1 ends.ne_nil
  | cons c cs ih =>
      rw [Text.until?] at found
      -- The search ends here, or passes a character. A closing that cannot be read here cannot
      -- begin here, so the first one is still ahead.
      cases closed : close (c :: cs) with
      | some behind =>
          rw [closed] at found
          cases found
          rcases reads.takes closed with ⟨closing, split, ends, anywhere⟩
          refine ⟨closing, split, ends, fun left' => ?_⟩
          cases closing with
          | nil => exact absurd rfl ends.ne_nil
          | cons d ds =>
              have here := anywhere left'
              rw [List.cons_append] at here ⊢
              rw [Text.until?, here]
      | none =>
          rw [closed] at found
          cases free : allowed c with
          | false => simp [free] at found
          | true =>
              simp only [free, if_true, Option.map_eq_some_iff] at found
              rcases found with ⟨⟨read', left'⟩, later, same⟩
              cases same
              rcases ih later with ⟨span, rfl, ends, anywhere⟩
              have apart : ¬ directiveClose <+: c :: span := by
                rintro ⟨rest, closing⟩
                rw [← List.cons_append, ← closing, List.append_assoc, reads.bare] at closed
                cases closed
              have first := ends.cons apart
              refine ⟨c :: span, rfl, first, fun left' => ?_⟩
              have there := first.occurs []
              rw [List.append_nil] at there
              rw [← List.cons_append] at closed
              rw [List.cons_append, Text.until?, ← List.cons_append, reads.none there closed left']
              simp [free, anywhere left']

/-- What follows a directive of white space alone. -/
theorem body_blanks {blanks rest : List Char} (blank : ∀ c ∈ blanks, isBlank c = true)
    (again : occurs directiveClose ('\x7d' :: rest) = true) :
    ∃ more left, rest = more ++ left ∧ EndsAtClosing ('\x7d' :: more) ∧
      ∃ read, body (blanks ++ (directiveClose ++ rest)) = some (read, left) := by
  have solid : (blanks ++ (directiveClose ++ rest)).dropWhile isBlank =
      '\x7d' :: '\x7d' :: rest :=
    (List.dropWhile_append_of_pos blank).trans rfl
  cases found : until? close? (fun _ => true) ('\x7d' :: rest) with
  | none =>
      rw [until?_close?_eq_none_iff.1 found] at again
      cases again
  | some accepted =>
      rcases accepted with ⟨read, left⟩
      rcases readsClosings_close?.until? found with ⟨span, split, ends, _⟩
      cases span with
      | nil => exact absurd rfl ends.ne_nil
      | cons c more =>
          cases split
          refine ⟨more, left, rfl, ends, '\x7d' :: read, ?_⟩
          rw [body, solid]
          simp only [found]

/-- The body of a directive ends at the first closing, or the directive is white space alone. -/
theorem body_span {inside read left : List Char} (bodied : body inside = some (read, left)) :
    ∃ span, inside = span ++ left ∧
      (EndsAtClosing span ∨ ∃ blanks more, (∀ c ∈ blanks, isBlank c = true) ∧
        span = blanks ++ '\x7d' :: '\x7d' :: more ∧ EndsAtClosing ('\x7d' :: more)) := by
  have whole : inside.takeWhile isBlank ++ inside.dropWhile isBlank = inside :=
    List.takeWhile_append_dropWhile
  have blank : ∀ c ∈ inside.takeWhile isBlank, isBlank c = true :=
    List.all_eq_true.1 List.all_takeWhile
  rw [body] at bodied
  rw [← whole]
  generalize inside.takeWhile isBlank = blanks at bodied blank ⊢
  cases chars : inside.dropWhile isBlank with
  | nil => simp [chars] at bodied
  | cons c cs =>
      simp only [chars] at bodied
      -- The body takes one character before its search, so the closing may begin with it.
      cases found : until? close? (fun _ => true) cs with
      | some accepted =>
          rcases accepted with ⟨before, behind⟩
          rw [found] at bodied
          cases bodied
          rcases readsClosings_close?.until? found with ⟨span, rfl, ends, _⟩
          refine ⟨blanks ++ c :: span, by simp, ?_⟩
          by_cases closing : directiveClose <+: c :: span
          · -- The closing behind the white space is the first one, and the search began in it.
            right
            rcases closing with ⟨more, split⟩
            simp only [directiveClose, List.cons_append, List.nil_append, List.cons.injEq] at split
            rcases split with ⟨rfl, rfl⟩
            exact ⟨blanks, more, blank, rfl, ends⟩
          · exact Or.inl (endsAtClosing_blanks blank (ends.cons closing))
      | none =>
          simp only [found] at bodied
          split at bodied
          · next closed =>
              cases bodied
              refine ⟨blanks ++ directiveClose, ?_, Or.inl ?_⟩
              · rw [Text.after?_eq_some_iff.1 closed, List.append_assoc]
              · exact endsAtClosing_blanks blank endsAtClosing_close
          · cases bodied

/-! ## Spans -/

/-- The directives with an opening, whatever their body. -/
def directive (opening : List Char) : Recogniser (List Char) := fun cs =>
  (after? opening cs).bind body

/-- A span ends at its first closing, or runs over that of a blank directive. -/
theorem directive_span {opening cs read left : List Char}
    (found : directive opening cs = some (read, left)) :
    ∃ span, cs = span ++ left ∧ (ClosesFirst opening span ∨ RunsOver opening span) := by
  rcases Option.bind_eq_some_iff.1 found with ⟨inside, opened, bodied⟩
  rcases body_span bodied with ⟨span, rfl, ends⟩
  refine ⟨opening ++ span, ?_, ?_⟩
  · rw [Text.after?_eq_some_iff.1 opened, List.append_assoc]
  · rcases ends with ends | ⟨blanks, more, blank, rfl, ends⟩
    · exact Or.inl ⟨span, rfl, ends⟩
    · exact Or.inr ⟨blanks, more, blank, rfl, ends⟩

theorem takesSpans_directive {opening : List Char} (nonempty : opening ≠ []) :
    TakesSpans (directive opening) := by
  intro cs read left found
  rcases directive_span found with ⟨span, split, ends⟩
  refine ⟨span, ?_, split⟩
  rintro rfl
  rcases ends with ⟨inside, same, _⟩ | ⟨blanks, more, _, same, _⟩
  · exact nonempty (List.append_eq_nil_iff.1 same.symm).1
  · exact nonempty (List.append_eq_nil_iff.1 same.symm).1

/-- A span that runs over does not close first: the first closing is that of the white space. -/
theorem RunsOver.not_closesFirst {opening span : List Char} (runs : RunsOver opening span) :
    ¬ ClosesFirst opening span := by
  rintro ⟨inside, split, _, first⟩
  rcases runs with ⟨blanks, more, _, split', ends⟩
  have same : inside = blanks ++ '\x7d' :: '\x7d' :: more :=
    List.append_cancel_left (split.symm.trans split')
  have early : occurs directiveClose inside.dropLast = true := by
    rw [same, List.dropLast_append_of_ne_nil (by simp), List.dropLast_cons_of_ne_nil (by simp),
      List.dropLast_cons_of_ne_nil ends.more]
    exact Text.occurs_iff.2 ⟨blanks, more.dropLast, rfl⟩
  rw [first] at early
  cases early

/-- The spans of a pass close first except where it comes to a directive of white space alone with
another closing behind its own. -/
theorem closesFirst_iff {opening : List Char} (nonempty : opening ≠ [])
    {parts : List (Stretch (List Char))} {cs : List Char}
    (division : Division (directive opening) parts cs) :
    (∀ span read, .span span read ∈ parts → ClosesFirst opening span) ↔
      ∀ before after, parts = before ++ after →
        ¬ Overrunning opening (after.flatMap Stretch.chars) := by
  constructor
  · rintro first before after rfl ⟨blanks, rest, blank, here, again⟩
    have there := division.of_append
    rcases body_blanks blank again with ⟨more, left, split, ends, read, bodied⟩
    have found : directive opening (after.flatMap Stretch.chars) = some (read, left) := by
      rw [here, directive, Text.after?_append]
      exact bodied
    -- What is read there is a span that goes on behind the closing of the white space.
    rcases there.head_of_read (takesSpans_directive nonempty) found with ⟨span, after', rfl, chars⟩
    have span_eq : span = opening ++ (blanks ++ '\x7d' :: '\x7d' :: more) := by
      refine List.append_cancel_right (?_ : _ ++ left = _ ++ left)
      rw [← chars, here, split]
      simp [directiveClose]
    have onwards : RunsOver opening span := ⟨blanks, more, blank, span_eq, ends⟩
    exact onwards.not_closesFirst (first span read (by simp))
  · intro never span read member
    rcases List.append_of_mem member with ⟨before, after, split⟩
    have found := (split ▸ division).read_span
    rcases directive_span found with ⟨span', same, closes | ⟨blanks, more, blank, runs, ends⟩⟩
    · rwa [List.append_cancel_right same]
    · rw [← List.append_cancel_right same] at runs
      refine absurd ?_ (never before _ split)
      refine ⟨blanks, more ++ after.flatMap Stretch.chars, blank, ?_, ends.occurs _⟩
      rw [List.flatMap_cons, Stretch.chars, runs]
      simp [directiveClose]

/-! ## The two passes -/

/-- How the directives with an opening close in a text that is divided at them: each span begins with the
opening and ends at the first closing behind it, or it is one of white space alone that runs over; and
none runs over exactly where no directive of white space alone that the pass comes to has another closing
behind its own. -/
structure Closings (opening : List Char) (parts : List (Stretch (List Char))) : Prop where
  each : ∀ span read, .span span read ∈ parts → ClosesFirst opening span ∨ RunsOver opening span
  first_iff : (∀ span read, .span span read ∈ parts → ClosesFirst opening span) ↔
    ∀ before after, parts = before ++ after → ¬ Overrunning opening (after.flatMap Stretch.chars)

/-- Whatever a text is divided into at its directives, they close in these two ways. -/
theorem closings {opening : List Char} (nonempty : opening ≠ [])
    {parts : List (Stretch (List Char))} {cs : List Char}
    (division : Division (directive opening) parts cs) : Closings opening parts where
  each span read member := by
    rcases List.append_of_mem member with ⟨before, after, split⟩
    rcases directive_span (split ▸ division).read_span with ⟨span', same, closes⟩
    rwa [List.append_cancel_right same]
  first_iff := closesFirst_iff nonempty division

/-- Both passes divide any text into the spans that they rewrite and the characters that they keep, and
each span closes at the first closing behind its opening unless it is of white space alone and runs
over to another closing. -/
theorem islands_closings (text : String) :
    (∃ parts, Division code parts text.toList ∧ Closings directiveOpen parts ∧
      codeToIslands text = String.ofList (parts.flatMap (Stretch.rewritten codeIsland))) ∧
    ∃ parts, Division interpolation parts text.toList ∧ Closings interpolationOpen parts ∧
      interpolationsToIslands text =
        String.ofList (parts.flatMap (Stretch.rewritten echoIsland)) := by
  constructor
  · have opens : directiveOpen ≠ [] := by decide
    rcases Text.exists_division (takesSpans_directive opens) text.toList with ⟨parts, division⟩
    exact ⟨parts, division, closings opens division,
      congrArg String.ofList (division.replaceSpans codeIsland)⟩
  · have opens : interpolationOpen ≠ [] := by decide
    rcases Text.exists_division (takesSpans_directive opens) text.toList with ⟨parts, division⟩
    exact ⟨parts, division, closings opens division,
      congrArg String.ofList (division.replaceSpans echoIsland)⟩

/-- A directive of white space alone, a word, and another directive. -/
def blankThenCode : String := "\x7b\x7b@ \x7d\x7d and \x7b\x7b@ echo 1 \x7d\x7d"

/-- The same with interpolations. -/
def blankThenName : String := "\x7b\x7b \x7d\x7d and \x7b\x7b x \x7d\x7d"

/-- The whole text is one span of each pass, though it has a closing near its beginning. -/
theorem islands_runOver :
    Division code [.span blankThenCode.toList "\x7d\x7d and \x7b\x7b@ echo 1".toList]
        blankThenCode.toList ∧
      ¬ ClosesFirst directiveOpen blankThenCode.toList ∧
      codeToIslands blankThenCode = "<% \x7d\x7d and \x7b\x7b@ echo 1 %>" ∧
      Division interpolation [.span blankThenName.toList "\x7d\x7d and \x7b\x7b x".toList]
        blankThenName.toList ∧
      ¬ ClosesFirst interpolationOpen blankThenName.toList ∧
      interpolationsToIslands blankThenName = "<% echo \x7d\x7d and \x7b\x7b x %>" := by
  have codeFound : code (blankThenCode.toList ++ []) =
      some ("\x7d\x7d and \x7b\x7b@ echo 1".toList, []) := by decide +kernel
  have nameFound : interpolation (blankThenName.toList ++ []) =
      some ("\x7d\x7d and \x7b\x7b x".toList, []) := by decide +kernel
  have blank : ∀ c ∈ [' '], isBlank c = true := List.forall_mem_singleton.2 (by decide)
  have codeOver : RunsOver directiveOpen blankThenCode.toList :=
    ⟨[' '], " and \x7b\x7b@ echo 1 \x7d\x7d".toList, blank, by decide, by decide⟩
  have nameOver : RunsOver interpolationOpen blankThenName.toList :=
    ⟨[' '], " and \x7b\x7b x \x7d\x7d".toList, blank, by decide, by decide⟩
  have codeDivided := Division.span (by decide) codeFound .done
  have nameDivided := Division.span (by decide) nameFound .done
  rw [List.append_nil] at codeDivided nameDivided
  refine ⟨codeDivided, codeOver.not_closesFirst, ?_, nameDivided, nameOver.not_closesFirst, ?_⟩
  · decide +kernel
  · decide +kernel

/-- With no other closing behind it a directive of white space alone is an island with a blank in it. -/
example : codeToIslands "\x7b\x7b@ \x7d\x7d and" = "<%   %> and" := by decide +kernel

end Directive
end TemplateEngine
