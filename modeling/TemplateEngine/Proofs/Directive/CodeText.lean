import TemplateEngine.Directive.Island
import TemplateEngine.Proofs.Directive.PathReadings

/-!
# Texts of code and interpolations

Templates made of literal pieces, code directives and interpolations, as data, with the islands that
they become. What a directive holds has neither an opening nor a closing in it and no white space at its
ends, so its body is cut out exactly, also where it ends in a brace, and no opening lies across two
pieces. Code becomes islands first; in what that leaves, an interpolation is found only where one was
written.
-/

namespace TemplateEngine
namespace Directive

open Text (isBlank after? until? occurs Skips)

/-! ## Directives -/

/-- What a code directive or an interpolation can hold. -/
structure Content where
  chars : List Char
  nonempty : chars ≠ []
  solidFirst : ∀ c ∈ chars.head?, isBlank c = false
  solidLast : ∀ c ∈ chars.getLast?, isBlank c = false
  noOpening : occurs interpolationOpen chars = false
  noClosing : occurs directiveClose chars = false

/-- A content with its closing, in any spacing. White space keeps the closing apart from a brace. -/
structure Enclosed where
  opening : Spacing
  content : Content
  closing : Spacing
  apart : closing.chars = [] → content.chars.getLast? ≠ some '\x7d'

/-- An enclosed content that opens no other directive behind two braces. -/
structure Interpolated extends Enclosed where
  bare : opening.chars = [] → ∀ c ∈ content.chars.head?, c ≠ '@' ∧ c ≠ '\x7b'

def Enclosed.chars (e : Enclosed) : List Char :=
  e.opening.chars ++ (e.content.chars ++ (e.closing.chars ++ directiveClose))

/-! ## Texts -/

inductive CodePart
  | literal (piece : Literal)
  | code (e : Enclosed)
  | interpolation (i : Interpolated)

def CodePart.chars : CodePart → List Char
  | .literal piece => piece.chars
  | .code e => directiveOpen ++ e.chars
  | .interpolation i => interpolationOpen ++ i.chars

def codeText (parts : List CodePart) : String := String.ofList (parts.flatMap CodePart.chars)

/-- What a part becomes: code as it is in an island of its own, and an interpolation echoed with arrows
for its dots, behind the sigil if it needs one. -/
def CodePart.island : CodePart → List Char
  | .literal piece => piece.chars
  | .code e => "<% ".toList ++ (e.content.chars ++ " %>".toList)
  | .interpolation i =>
      let chain := arrows i.content.chars
      let sigil := if needsSigil chain then ['$'] else []
      "<% echo ".toList ++ (sigil ++ (chain ++ " %>".toList))

/-- A part when only the code directives are islands. -/
def CodePart.withCode : CodePart → List Char
  | .code e => codeIsland e.content.chars
  | part => part.chars

/-! ## Where a directive closes -/

/-- Within a content no closing is read, whatever stands behind the closing of the directive. -/
theorem Enclosed.close?_within (e : Enclosed) {before here : List Char}
    (split : e.content.chars = before ++ here) (nonempty : here ≠ []) (rest : List Char) :
    close? (here ++ (e.closing.chars ++ (directiveClose ++ rest))) = none := by
  induction here generalizing before with
  | nil => exact absurd rfl nonempty
  | cons c cs ih =>
      have last (d : Char) (ends : (before ++ c :: cs).getLast? = some d) : isBlank d = false :=
        e.content.solidLast d (split ▸ ends)
      cases blank : isBlank c with
      | true =>
          -- White space is passed over, and it is not the last of the content.
          have more : cs ≠ [] := by
            rintro rfl
            have solid := last c (by simp)
            rw [blank] at solid
            cases solid
          have next : e.content.chars = (before ++ [c]) ++ cs := by simp [split]
          have later := ih next more
          unfold close? at later ⊢
          rwa [List.cons_append, skipBlanks, List.dropWhile_cons_of_pos blank]
      | false =>
          unfold close?
          rw [List.cons_append, skipBlanks_of_head blank]
          cases closed : after? directiveClose
              (c :: (cs ++ (e.closing.chars ++ (directiveClose ++ rest)))) with
          | none => rfl
          | some left =>
              have braces := Text.after?_eq_some_iff.1 closed
              simp only [directiveClose, List.cons_append, List.nil_append, List.cons.injEq]
                at braces
              rcases braces with ⟨rfl, behind⟩
              cases cs with
              | nil =>
                  -- One brace is the last of the content, and what stands behind it is none.
                  have atEnd : e.content.chars.getLast? = some '\x7d' := by simp [split]
                  cases spacing : e.closing.chars with
                  | nil => exact absurd atEnd (e.apart spacing)
                  | cons d ds =>
                      have blank := e.closing.blank d (by simp [spacing])
                      simp only [spacing, List.nil_append, List.cons_append, List.cons.injEq]
                        at behind
                      rw [behind.1] at blank
                      exact absurd blank (by decide)
              | cons d ds =>
                  have twice : e.content.chars = before ++ (directiveClose ++ ds) := by
                    rw [split, (List.cons.inj behind).1]
                    rfl
                  have there : occurs directiveClose e.content.chars = true :=
                    Text.occurs_iff.2 ⟨before, ds, twice⟩
                  rw [e.content.noClosing] at there
                  cases there

/-- The body of a directive is exactly its content. -/
theorem Enclosed.body_chars (e : Enclosed) (rest : List Char) :
    body (e.chars ++ rest) = some (e.content.chars, rest) := by
  cases chars : e.content.chars with
  | nil => exact absurd chars e.content.nonempty
  | cons c cs =>
      have solid : isBlank c = false := e.content.solidFirst c (by simp [chars])
      have skipped : Skips close? cs (e.closing.chars ++ (directiveClose ++ rest)) := by
        apply Text.skips_of_splits
        intro before here split nonempty
        have within : e.content.chars = (c :: before) ++ here := by rw [chars, split]; rfl
        exact e.close?_within within nonempty rest
      have closed : until? close? (fun _ => true) (cs ++ (e.closing.chars ++
          (directiveClose ++ rest))) = some (cs, rest) :=
        Text.until?_append_of_skips skipped (close?_closing e.closing rest) fun _ _ => rfl
      have behind : (e.opening.chars ++ (c :: (cs ++
          (e.closing.chars ++ (directiveClose ++ rest))))).dropWhile isBlank =
          c :: (cs ++ (e.closing.chars ++ (directiveClose ++ rest))) :=
        (skipBlanks_append e.opening.blank).trans (skipBlanks_of_head solid _)
      unfold body Enclosed.chars
      simp only [chars, List.append_assoc, List.cons_append, behind, closed]

/-- Code is read as it is, without the white space around it. -/
theorem code_chars (e : Enclosed) (rest : List Char) :
    code ((CodePart.code e).chars ++ rest) = some (e.content.chars, rest) := by
  unfold code CodePart.chars
  rw [List.append_assoc, Text.after?_append, Option.bind_some, e.body_chars]

/-- So is an interpolated expression. -/
theorem interpolation_chars (i : Interpolated) (rest : List Char) :
    interpolation ((CodePart.interpolation i).chars ++ rest) = some (i.content.chars, rest) := by
  unfold interpolation CodePart.chars
  rw [List.append_assoc, Text.after?_append, Option.bind_some, i.body_chars]

/-! ## Where nothing opens -/

/-- No opening lies in a content or across its end, unless a brace stands behind it. -/
theorem Content.opens_none (content : Content) {rest : List Char}
    (apart : ∀ c ∈ rest.head?, c ≠ '\x7b') :
    Skips (after? interpolationOpen) content.chars rest := by
  apply Text.skips_of_not_occurs content.noOpening
  intro c first
  simp [interpolationOpen, apart c first]

/-- Without a brace no directive opens. -/
theorem opens_none_of_clean {cs : List Char} (clean : '\x7b' ∉ cs) (rest : List Char) :
    Skips (after? interpolationOpen) cs rest := by
  refine Text.skips_of_forall (fun c member cs => ?_) rest
  have notBrace : '\x7b' ≠ c := by
    rintro rfl
    exact clean member
  simp [interpolationOpen, after?, notBrace]

/-- Behind a content stands white space or the closing. -/
theorem Enclosed.head_ending (e : Enclosed) (rest : List Char) :
    ∀ c ∈ (e.closing.chars ++ (directiveClose ++ rest)).head?, isBlank c = true ∨ c = '\x7d' := by
  intro c first
  cases spacing : e.closing.chars with
  | nil =>
      have same : '\x7d' = c := by simpa [spacing, directiveClose] using first
      exact .inr same.symm
  | cons d ds =>
      have same : d = c := by simpa [spacing] using first
      exact .inl (e.closing.blank c (by simp [spacing, same]))

/-- No directive opens within another one. -/
theorem Enclosed.opens_none (e : Enclosed) (rest : List Char) :
    Skips (after? interpolationOpen) e.chars rest := by
  have closing : Skips (after? interpolationOpen) (e.closing.chars ++ directiveClose) rest :=
    opens_none_of_clean (by simp [e.closing.clean, directiveClose]) rest
  have content : Skips (after? interpolationOpen) e.content.chars
      ((e.closing.chars ++ directiveClose) ++ rest) := by
    apply e.content.opens_none
    intro c first
    rw [List.append_assoc] at first
    rcases e.head_ending rest c first with blank | rfl
    · exact Text.ne_of_class blank (by decide)
    · decide
  exact Text.skips_append.2
    ⟨opens_none_of_clean e.opening.clean _, Text.skips_append.2 ⟨content, closing⟩⟩

/-- Within an interpolation no other directive opens. -/
theorem interpolation_opens_no_directive (i : Interpolated) (rest : List Char) :
    Skips (after? directiveOpen) (CodePart.interpolation i).chars rest := by
  have inside : Skips (after? directiveOpen) i.chars rest :=
    (i.opens_none rest).mono fun _ => after?_directiveOpen_none
  -- An opening has a third character, which the first one of the interpolation is not.
  have head : ∀ c ∈ (i.chars ++ rest).head?, c ≠ '@' ∧ c ≠ '\x7b' := by
    intro c first
    cases spacing : i.opening.chars with
    | nil =>
        cases chars : i.content.chars with
        | nil => exact absurd chars i.content.nonempty
        | cons d ds =>
            have same : d = c := by simpa [Enclosed.chars, spacing, chars] using first
            exact i.bare spacing c (by simp [chars, same])
    | cons d ds =>
        have same : d = c := by simpa [Enclosed.chars, spacing] using first
        have blank := i.opening.blank d (by simp [spacing])
        constructor <;>
        · rintro rfl
          rw [same] at blank
          exact absurd blank (by decide)
  unfold CodePart.chars
  cases next : i.chars ++ rest with
  | nil => simp [Enclosed.chars, directiveClose] at next
  | cons c cs =>
      rw [next] at head
      have unlike := head c rfl
      refine ⟨?_, ?_, inside⟩
      · simp [directiveOpen, after?, next, Ne.symm unlike.1]
      · simp [directiveOpen, after?, next, Ne.symm unlike.2]

/-- Within the island of a code directive no interpolation opens. -/
theorem skips_interpolation_codeIsland (content : Content) (rest : List Char) :
    Skips interpolation (codeIsland content.chars) rest := by
  have opened : Skips (after? interpolationOpen) "<% ".toList
      ((content.chars ++ " %>".toList) ++ rest) := opens_none_of_clean (by decide) _
  have closed : Skips (after? interpolationOpen) " %>".toList rest :=
    opens_none_of_clean (by decide) rest
  have inside : Skips (after? interpolationOpen) content.chars (" %>".toList ++ rest) := by
    apply content.opens_none
    intro c first
    have same : ' ' = c := by simpa using first
    rw [← same]
    decide
  apply Skips.mono _ interpolation_onlyAtOpenings
  unfold codeIsland
  rw [List.append_assoc]
  exact Text.skips_append.2 ⟨opened, Text.skips_append.2 ⟨inside, closed⟩⟩

/-! ## Islands -/

/-- The pass over code directives leaves the other parts, and goes on behind them. -/
theorem replaceSpans_code (part : CodePart) (rest : List Char) :
    Text.replaceSpans code codeIsland (part.chars ++ rest) =
      part.withCode ++ Text.replaceSpans code codeIsland rest := by
  cases part with
  | literal piece =>
      have skipped : Skips code piece.chars rest :=
        (literal_opens_none piece rest).mono code_onlyAtDirectives
      exact Text.replaceSpans_append_of_skips skipped
  | code e =>
      exact Text.replaceSpans_append_of_found (code_chars e rest)
        (by simp [CodePart.chars, directiveOpen])
  | interpolation i =>
      have skipped : Skips code (CodePart.interpolation i).chars rest :=
        (interpolation_opens_no_directive i rest).mono code_onlyAtDirectives
      exact Text.replaceSpans_append_of_skips skipped

/-- What an interpolation echoes, written out. -/
theorem echoIsland_content (i : Interpolated) :
    echoIsland i.content.chars = (CodePart.interpolation i).island := by
  unfold echoIsland echoed
  dsimp only [CodePart.island]
  cases needsSigil (arrows i.content.chars) <;>
    simp only [if_true, Bool.false_eq_true, if_false, List.append_assoc, List.cons_append,
      List.nil_append]

/-- The pass over interpolations finds those that were written and nothing in the islands of code, and
goes on behind them. -/
theorem replaceSpans_interpolation (part : CodePart) (rest : List Char) :
    Text.replaceSpans interpolation echoIsland (part.withCode ++ rest) =
      part.island ++ Text.replaceSpans interpolation echoIsland rest := by
  cases part with
  | literal piece =>
      have skipped : Skips interpolation piece.chars rest :=
        (skips_literal piece rest).mono interpolation_onlyAtOpenings
      exact Text.replaceSpans_append_of_skips skipped
  | code e =>
      have island : (CodePart.code e).island = codeIsland e.content.chars :=
        (List.append_assoc _ _ _).symm
      rw [island]
      exact Text.replaceSpans_append_of_skips (skips_interpolation_codeIsland e.content rest)
  | interpolation i =>
      rw [← echoIsland_content]
      exact Text.replaceSpans_append_of_found (interpolation_chars i rest)
        (by simp [CodePart.withCode, CodePart.chars, interpolationOpen])

/-- The parts of a template become their islands, whatever stands behind them. -/
theorem replaceSpans_islands (parts : List CodePart) (rest : List Char) :
    Text.replaceSpans interpolation echoIsland
        (Text.replaceSpans code codeIsland (parts.flatMap CodePart.chars ++ rest)) =
      parts.flatMap CodePart.island ++
        Text.replaceSpans interpolation echoIsland (Text.replaceSpans code codeIsland rest) := by
  rw [Text.replaceSpans_flatMap replaceSpans_code, Text.replaceSpans_flatMap replaceSpans_interpolation]

/-- Both passes together turn each part into its island, and nothing else. -/
theorem islands_codeText (parts : List CodePart) :
    interpolationsToIslands (codeToIslands (codeText parts)) =
      String.ofList (parts.flatMap CodePart.island) := by
  have islands := replaceSpans_islands parts []
  rw [List.append_nil] at islands
  rw [interpolationsToIslands, codeToIslands, codeText, String.toList_ofList, String.toList_ofList,
    islands]
  exact congrArg String.ofList (List.append_nil _)

/-- Parts may be put one after another. -/
theorem codeText_append (parts more : List CodePart) :
    codeText parts ++ codeText more = codeText (parts ++ more) := by
  simp [codeText]

/-- A template is translated part by part, so templates that are joined are translated each by
itself. -/
theorem islands_partByPart (parts more : List CodePart) :
    interpolationsToIslands (codeToIslands (codeText parts)) =
        String.ofList (parts.flatMap CodePart.island) ∧
      interpolationsToIslands (codeToIslands (codeText parts ++ codeText more)) =
        interpolationsToIslands (codeToIslands (codeText parts)) ++
          interpolationsToIslands (codeToIslands (codeText more)) := by
  refine ⟨islands_codeText parts, ?_⟩
  rw [codeText_append, islands_codeText, islands_codeText, islands_codeText, List.flatMap_append,
    String.ofList_append]

end Directive
end TemplateEngine
