import TemplateEngine.Proofs.Directive.CodeText
import TemplateEngine.Proofs.Directive.Inclusions
import TemplateEngine.Proofs.Directive.SearchPlaces

/-!
# Texts with one directive that is not closed

Templates made of prose, code and interpolations, and at their end an opening with no closing behind it,
as data. No other directive is read in such a template, so it becomes islands and prose up to the opening.
A body loses the white space around it, with the line breaks in it; every other line break is kept.
-/

namespace TemplateEngine
namespace Directive

open Artifact (islandClose islandOpen)
open Text (isBlank after? until? occurs Skips)

/-! ## Directives that are not closed -/

/-- The reader accepts only where a closing follows. -/
def NeedsClosing {α : Type} (read : List Char → Option α) : Prop :=
  ∀ cs, occurs directiveClose cs = false → read cs = none

/-- Where no closing follows nothing is found. -/
theorem NeedsClosing.skips {α : Type} {read : List Char → Option α} (needs : NeedsClosing read)
    {cs : List Char} (never : occurs directiveClose cs = false) : Skips read cs [] := by
  apply Text.skips_of_splits
  rintro before here rfl -
  rw [List.append_nil]
  exact needs here (Text.not_occurs_of_append before never)

/-- What is taken up to a closing needs one. -/
theorem ReadsClosings.needsClosing {close : List Char → Option (List Char)}
    (reads : ReadsClosings close) (allowed : Char → Bool) :
    NeedsClosing (Text.until? close allowed) := by
  intro cs never
  rw [Option.eq_none_iff_forall_ne_some]
  rintro ⟨read, left⟩ found
  rcases reads.until? found with ⟨span, rfl, ends, -⟩
  exact absurd ((ends.occurs left).symm.trans never) (by decide)

/-- Without a closing in a text there is none behind its first word. -/
theorem argument?_not_occurs {word : String} {letter : Char} {letters cs inside : List Char}
    (begins : word.toList = letter :: letters) (found : argument? word cs = some inside)
    (never : occurs directiveClose cs = false) : occurs directiveClose inside = false := by
  rcases argument?_front begins found with ⟨front, -, rfl, -⟩
  exact Text.not_occurs_of_append front never

theorem needsClosing_inclusion : NeedsClosing inclusion := by
  intro cs never
  rw [inclusion_eq, Option.bind_eq_none_iff]
  intro inside opened
  rcases included?_front opened with ⟨front, -, rfl, -⟩
  apply readsClosings_closeQuoted?.needsClosing
  have behind := Text.not_occurs_of_append front never
  -- The quote that may stand before the name is no part of a closing.
  cases inside with
  | nil => exact behind
  | cons c cs =>
      rw [unquoted]
      split
      · exact Text.not_occurs_of_append [c] behind
      · exact behind

theorem needsClosing_setBlock : NeedsClosing setBlock := by
  intro cs never
  unfold setBlock
  cases opened : argument? "setblock" cs with
  | none => rfl
  | some inside =>
      have begins : "setblock".toList = 's' :: "etblock".toList := by decide
      have behind := argument?_not_occurs begins opened never
      simp only [readsClosings_close?.needsClosing _ inside behind]

theorem needsClosing_anyReference : NeedsClosing anyReference := by
  intro cs never
  unfold anyReference
  cases opened : argument? "block" cs with
  | none => rfl
  | some inside =>
      have begins : "block".toList = 'b' :: "lock".toList := by decide
      exact readsClosings_close?.needsClosing _ inside (argument?_not_occurs begins opened never)

theorem needsClosing_directive (opening : List Char) : NeedsClosing (directive opening) := by
  intro cs never
  rw [directive, Option.bind_eq_none_iff]
  intro inside opened
  rw [Text.after?_eq_some_iff.1 opened] at never
  exact body_of_not_occurs (Text.not_occurs_of_append opening never)

/-! ## Words of directives -/

/-- The words of the directives that are not code. -/
def directiveWords : List String := ["include", "extend", "setblock", "block"]

/-- The reader accepts only directives that begin with one of the words, and are closed. -/
structure ReadsWorded {α : Type} (read : List Char → Option α) : Prop where
  worded : ∀ cs, (∀ word ∈ directiveWords, argument? word cs = none) → read cs = none
  closed : NeedsClosing read

theorem readsWorded_inclusion : ReadsWorded inclusion where
  worded := by
    intro cs none
    have including := none "include" (by decide)
    have extending := none "extend" (by decide)
    simp only [inclusion, including, extending, Option.or_none]
  closed := needsClosing_inclusion

theorem readsWorded_setBlock : ReadsWorded setBlock where
  worded cs none := by simp only [setBlock, none "setblock" (by decide)]
  closed := needsClosing_setBlock

theorem readsWorded_anyReference : ReadsWorded anyReference where
  worded cs none := by simp only [anyReference, none "block" (by decide)]
  closed := needsClosing_anyReference

/-- What begins with a word stands only where a directive opens. -/
theorem ReadsWorded.onlyAtDirectives {α : Type} {read : List Char → Option α}
    (reads : ReadsWorded read) : OnlyAtDirectives read :=
  fun cs none => reads.worded cs fun word _ => argument?_onlyAtDirectives word cs none

/-- A word is read in a text if it is read at all, where what stands behind begins with no letter of it. -/
theorem word?_append_of_head {letters rest : List Char}
    (apart : ∀ c ∈ rest.head?, ∀ letter ∈ letters, folds letter c = false) (cs : List Char) :
    word? letters (cs ++ rest) = (word? letters cs).map (· ++ rest) := by
  induction letters generalizing cs with
  | nil => rfl
  | cons letter letters ih =>
      cases cs with
      | nil =>
          cases rest with
          | nil => rfl
          | cons c more => simp [word?, apart c rfl letter (.head _)]
      | cons c cs =>
          have later := ih (fun d first letter member => apart d first letter (.tail _ member)) cs
          cases same : folds letter c with
          | true => simpa [word?, same] using later
          | false => simp [word?, same]

/-- White space and braces are no letters of the words. -/
theorem not_folds_of_ending {word : String} (member : word ∈ directiveWords) {c : Char}
    (ending : isBlank c = true ∨ c = '\x7d') : ∀ letter ∈ word.toList, folds letter c = false := by
  have never : word.toList.any (folds · c) = false := by
    rcases ending with blank | rfl
    · refine Text.not_of_isBlank (p := fun c => word.toList.any (folds · c)) ?_ blank
      revert word
      decide +kernel
    · revert word
      decide +kernel
  simpa using never

/-- A directive begins with a word if its content by itself does. -/
theorem Enclosed.argument?_none (e : Enclosed) {word : String} (member : word ∈ directiveWords)
    (plain : argument? word (directiveOpen ++ e.content.chars) = none) (rest : List Char) :
    argument? word (directiveOpen ++ (e.chars ++ rest)) = none := by
  have solid (more : List Char) : skipBlanks (e.content.chars ++ more) = e.content.chars ++ more := by
    cases chars : e.content.chars with
    | nil => exact absurd chars e.content.nonempty
    | cons c cs => exact skipBlanks_of_head (e.content.solidFirst c (by simp [chars])) _
  have ends : Text.wordEnds (e.closing.chars ++ (directiveClose ++ rest)) = true :=
    wordEnds_spacing e.closing fun _ => rfl
  have worded := word?_append_of_head (fun c first => not_folds_of_ending member (e.head_ending rest c first))
    e.content.chars
  have alone := solid []
  rw [List.append_nil] at alone
  unfold argument? head? at plain ⊢
  simp only [Text.after?_append, Option.bind_some, alone] at plain
  simp only [Enclosed.chars, List.append_assoc, Text.after?_append, Option.bind_some,
    skipBlanks_append e.opening.blank, solid, worded]
  -- The content is read alike by itself and in the directive, and its last word ends with it.
  cases read : word? word.toList e.content.chars with
  | none => rfl
  | some behind =>
      rw [read] at plain
      cases behind with
      | nil => simp [Text.wordEnds] at plain
      | cons c cs => simpa [Text.wordEnds] using plain

/-! ## Templates -/

/-- A directive that becomes an island: code with no word of another directive before it, or an
interpolation. Its quotes are balanced. -/
inductive IslandDirective
  | code (e : Enclosed)
      (plain : ∀ word ∈ directiveWords, argument? word (directiveOpen ++ e.content.chars) = none)
      (balanced : Balanced e.content.chars)
  | interpolation (i : Interpolated) (balanced : Balanced i.content.chars)

def IslandDirective.part : IslandDirective → CodePart
  | .code e _ _ => .code e
  | .interpolation i _ => .interpolation i

def IslandDirective.content : IslandDirective → Content
  | .code e _ _ => e.content
  | .interpolation i _ => i.content

theorem IslandDirective.balanced : (d : IslandDirective) → Balanced d.content.chars
  | .code _ _ balanced => balanced
  | .interpolation _ balanced => balanced

/-- Prose and directives by turns, and then an opening that no closing follows. -/
structure UnclosedTemplate where
  first : Prose
  parts : List (IslandDirective × Prose)
  tail : List Char
  neverClosed : occurs directiveClose tail = false

def UnclosedTemplate.before (template : UnclosedTemplate) : List CodePart :=
  .literal template.first.toLiteral ::
    template.parts.flatMap fun part => [part.1.part, .literal part.2.toLiteral]

/-- What is left of a template from the opening on. -/
def UnclosedTemplate.opened (template : UnclosedTemplate) : List Char :=
  interpolationOpen ++ template.tail

def UnclosedTemplate.text (template : UnclosedTemplate) : String :=
  String.ofList (template.before.flatMap CodePart.chars ++ template.opened)

def UnclosedTemplate.line (template : UnclosedTemplate) : Nat :=
  Text.lineAfter (template.before.flatMap CodePart.chars)

def CodePart.spacing : CodePart → List Char
  | .literal _ => []
  | .code e => e.opening.chars ++ e.closing.chars
  | .interpolation i => i.opening.chars ++ i.closing.chars

/-- The line breaks in the white space around the bodies of a template. -/
def UnclosedTemplate.spacingBreaks (template : UnclosedTemplate) : Nat :=
  lineBreaks (template.before.flatMap CodePart.spacing)

/-! ## No other directives -/

/-- No closing follows the opening. -/
theorem UnclosedTemplate.never_opened (template : UnclosedTemplate) :
    occurs directiveClose template.opened = false := by
  rw [UnclosedTemplate.opened, interpolationOpen, List.cons_append, List.cons_append, occurs, occurs,
    List.nil_append, template.neverClosed]
  rfl

/-- A directive that becomes an island is none of the worded ones. -/
theorem IslandDirective.skips {α : Type} {read : List Char → Option α} (reads : ReadsWorded read)
    (d : IslandDirective) (rest : List Char) : Skips read d.part.chars rest := by
  match d with
  | .code e plain _ =>
      -- Behind the first brace of the directive nothing opens, and with that brace it has no word.
      have inside : Skips (after? interpolationOpen) ('\x7b' :: '@' :: e.chars) rest :=
        ⟨rfl, rfl, e.opens_none rest⟩
      have within : Skips read ('\x7b' :: '@' :: e.chars) rest :=
        (inside.mono fun _ => after?_directiveOpen_none).mono reads.onlyAtDirectives
      exact ⟨reads.worded _ fun word member => e.argument?_none member (plain word member) rest, within⟩
  | .interpolation i _ => exact (interpolation_opens_no_directive i rest).mono reads.onlyAtDirectives

/-- In a template no directive is read but code and interpolations. -/
theorem UnclosedTemplate.skips {α : Type} {read : List Char → Option α} (reads : ReadsWorded read)
    (template : UnclosedTemplate) : Skips read template.text.toList [] := by
  have prose (prose : Prose) (rest : List Char) : Skips read prose.chars rest :=
    (literal_opens_none prose.toLiteral rest).mono reads.onlyAtDirectives
  have parts (parts : List (IslandDirective × Prose)) (rest : List Char) : Skips read
      ((parts.flatMap fun part => [part.1.part, .literal part.2.toLiteral]).flatMap CodePart.chars)
      rest := by
    induction parts with
    | nil => trivial
    | cons part parts ih =>
        exact Text.skips_append.2 ⟨part.1.skips reads _, Text.skips_append.2 ⟨prose part.2 _, ih⟩⟩
  rw [UnclosedTemplate.text, String.toList_ofList]
  refine Text.skips_append.2 ⟨?_, reads.closed.skips template.never_opened⟩
  exact Text.skips_append.2 ⟨prose template.first _, parts template.parts _⟩

/-! ## Islands -/

/-- The islands of a template, and behind them the opening as it is. -/
theorem UnclosedTemplate.toIslands (template : UnclosedTemplate) :
    interpolationsToIslands (codeToIslands template.text) =
      String.ofList (template.before.flatMap CodePart.island ++ template.opened) := by
  have code : Skips code template.opened [] :=
    (needsClosing_directive directiveOpen).skips template.never_opened
  have interpolation : Skips interpolation template.opened [] :=
    (needsClosing_directive interpolationOpen).skips template.never_opened
  rw [interpolationsToIslands, codeToIslands, text, String.toList_ofList, String.toList_ofList,
    replaceSpans_islands, Text.replaceSpans_of_skips code, Text.replaceSpans_of_skips interpolation]

/-- Some characters that lead from literal text into an island. -/
structure LeadsIn (front : List Char) : Prop where
  begins : front.head? = some '<'
  clean : '\x7b' ∉ front
  noBreak : lineBreaks front = 0
  apart : ∀ c ∈ front.getLast?, c ≠ '<' ∧ c ≠ '%'
  leads : Place.behind .text front = .island

/-- An island of a content, which may have arrows for its dots. -/
inductive IslandOf (content : Content) : List Char → Prop
  | between {front inner : List Char} (into : LeadsIn front)
      (arrowed : Arrowed .island content.chars inner) :
      IslandOf content (front ++ (inner ++ " %>".toList))

/-- What the islands of code and of interpolations begin with. -/
def islandFronts : List (List Char) :=
  ["<% ".toList, "<% echo ".toList, "<% echo ".toList ++ ['$']]

theorem leadsIn_of_mem {front : List Char} (member : front ∈ islandFronts) : LeadsIn front := by
  simp only [islandFronts, List.mem_cons, List.not_mem_nil, or_false] at member
  rcases member with rfl | rfl | rfl
  all_goals exact ⟨rfl, by decide, by decide, by rintro c ⟨⟩; decide, rfl⟩

theorem code_islandOf (e : Enclosed) : IslandOf e.content (CodePart.code e).island :=
  .between (leadsIn_of_mem (.head _)) (.refl _ _)

theorem interpolation_islandOf (i : Interpolated) :
    IslandOf i.content (CodePart.interpolation i).island := by
  have arrowed := arrows_arrowed i.content.chars
  unfold CodePart.island
  dsimp only
  split
  · rw [← List.append_assoc]
    exact .between (leadsIn_of_mem (.tail _ (.tail _ (.head _)))) arrowed
  · exact .between (leadsIn_of_mem (.tail _ (.head _))) arrowed

/-- A directive becomes an island of its content. -/
theorem IslandDirective.islandOf (d : IslandDirective) : IslandOf d.content d.part.island := by
  cases d with
  | code e => exact code_islandOf e
  | interpolation i => exact interpolation_islandOf i

/-! ## Lines -/

/-- An island has the line breaks of its content. -/
theorem IslandOf.lineBreaks_eq {content : Content} {island : List Char} (h : IslandOf content island) :
    lineBreaks island = lineBreaks content.chars := by
  rcases h with ⟨into, arrowed⟩
  have closes : lineBreaks " %>".toList = 0 := by decide
  rw [lineBreaks_append, lineBreaks_append, into.noBreak, closes, arrowed.lineBreaks_eq, Nat.zero_add,
    Nat.add_zero]

/-- A directive has those of the white space around its content besides. -/
theorem Enclosed.lineBreaks_chars (e : Enclosed) :
    lineBreaks e.chars =
      lineBreaks e.content.chars + lineBreaks (e.opening.chars ++ e.closing.chars) := by
  have closing : lineBreaks directiveClose = 0 := by decide
  simp only [chars, lineBreaks_append, closing]
  omega

/-- A part has the line breaks of its island and those of its spacing. -/
theorem CodePart.lineBreaks_island (part : CodePart) :
    lineBreaks part.island + lineBreaks part.spacing = lineBreaks part.chars := by
  cases part with
  | literal piece => exact Nat.add_zero _
  | code e =>
      have opening : lineBreaks directiveOpen = 0 := by decide
      rw [(code_islandOf e).lineBreaks_eq, chars, spacing, lineBreaks_append directiveOpen, opening,
        Nat.zero_add, e.lineBreaks_chars]
  | interpolation i =>
      have opening : lineBreaks interpolationOpen = 0 := by decide
      rw [(interpolation_islandOf i).lineBreaks_eq, chars, spacing, lineBreaks_append interpolationOpen,
        opening, Nat.zero_add, i.lineBreaks_chars]

/-- Behind the islands of a template the opening is on an earlier line than in the template, by the line
breaks in the spacing. -/
theorem UnclosedTemplate.line_islands (template : UnclosedTemplate) :
    1 + lineBreaks (template.before.flatMap CodePart.island) + template.spacingBreaks =
      template.line := by
  have breaks (parts : List CodePart) : lineBreaks (parts.flatMap CodePart.island) +
      lineBreaks (parts.flatMap CodePart.spacing) = lineBreaks (parts.flatMap CodePart.chars) := by
    induction parts with
    | nil => rfl
    | cons part parts ih =>
        simp only [List.flatMap_cons, lineBreaks_append, ← part.lineBreaks_island, ← ih]
        omega
  rw [spacingBreaks, Nat.add_assoc, breaks, Nat.add_comm]
  rfl

/-! ## The search -/

variable (line : Nat)

/-- Behind a content with balanced quotes the search comes out of the island. -/
theorem openingLine?_content (content : Content) (balanced : Balanced content.chars)
    (rest : List Char) :
    openingLine? line .island false (content.chars ++ (" %>".toList ++ rest)) =
      openingLine? (line + lineBreaks content.chars) .text false rest := by
  have space : ∀ c ∈ (" %>".toList ++ rest).head?, c = ' ' := by
    rintro c ⟨⟩
    rfl
  have skips : Skips (after? interpolationOpen) content.chars (" %>".toList ++ rest) := by
    apply content.opens_none
    intro c first
    rw [space c first]
    decide
  have parted : Parted content.chars (" %>".toList ++ rest) := by
    refine parted_of_head (fun c first => ?_) content.chars
    rw [space c first]
    decide
  have clean : '\x7b' ∉ " %>".toList := by decide
  have ends : ∀ c ∈ " %>".toList.getLast?, c ≠ '<' ∧ c ≠ '%' := by
    rintro c ⟨⟩
    decide
  have closes : lineBreaks " %>".toList = 0 := by decide
  rw [openingLine?_behind line skips parted, openingLine?_behind _ (opens_none_of_clean clean rest)
    (parted_of_last ends rest), balanced.behind_close, closes, Nat.add_zero]

/-- The search passes over an island of a content with balanced quotes. -/
theorem IslandOf.openingLine?_eq {content : Content} {island : List Char} (h : IslandOf content island)
    (balanced : Balanced content.chars) (rest : List Char) :
    openingLine? line .text false (island ++ rest) =
      openingLine? (line + lineBreaks island) .text false rest := by
  rw [h.lineBreaks_eq]
  rcases h with @⟨front, inner, into, arrowed⟩
  have entered (more : List Char) :
      openingLine? line .text false (front ++ more) = openingLine? line .island false more := by
    rw [openingLine?_behind line (opens_none_of_clean into.clean more) (parted_of_last into.apart more),
      into.leads, into.noBreak, Nat.add_zero]
  have outside : Place.Proper .island := trivial
  have chars : (front ++ (inner ++ " %>".toList)) ++ rest =
      front ++ (inner ++ (" %>".toList ++ rest)) :=
    (List.append_assoc _ _ _).trans (congrArg _ (List.append_assoc _ _ _))
  rw [chars, entered, arrowed.openingLine?_eq line outside (by simp),
    openingLine?_content line content balanced]

/-- The search passes over prose, before anything but the end of a marker. -/
theorem openingLine?_prose (prose : Prose) {rest : List Char}
    (apart : ∀ c ∈ rest.head?, c ≠ '%' ∧ c ≠ '>') :
    openingLine? line .text false (prose.chars ++ rest) =
      openingLine? (line + lineBreaks prose.chars) .text false rest := by
  rw [openingLine?_behind line (skips_literal prose.toLiteral rest) (parted_of_head apart _),
    Place.behind_text prose.noIsland]

/-- An island begins with its marker. -/
theorem IslandOf.head? {content : Content} {island : List Char} (h : IslandOf content island)
    (rest : List Char) : (island ++ rest).head? = some '<' := by
  rcases h with ⟨into, -⟩
  simp [into.begins]

theorem CodePart.island_literal (piece : Literal) : (CodePart.literal piece).island = piece.chars :=
  rfl

/-- The search comes to the opening of a template, and has counted the line breaks of all before it. -/
theorem UnclosedTemplate.openingLine?_islands (template : UnclosedTemplate) :
    openingLine? line .text false (template.before.flatMap CodePart.island ++ template.opened) =
      some (line + lineBreaks (template.before.flatMap CodePart.island)) := by
  have apart {rest : List Char} {c : Char} (first : rest.head? = some c) (notMark : c ≠ '%' ∧ c ≠ '>') :
      ∀ d ∈ rest.head?, d ≠ '%' ∧ d ≠ '>' := by
    intro d here
    cases first.symm.trans here
    exact notMark
  have found (line : Nat) : openingLine? line .text false template.opened = some line := by
    simp [opened, interpolationOpen, openingLine?]
  -- By induction on the directives, from any line and with any prose before the first of them.
  unfold before
  generalize template.first = prose
  induction template.parts generalizing line prose with
  | nil =>
      have opens : template.opened.head? = some '\x7b' := rfl
      simp only [List.flatMap_nil, List.flatMap_cons, List.append_nil, CodePart.island_literal]
      rw [openingLine?_prose line prose (apart opens (by decide)), found]
  | cons part parts ih =>
      have island := part.1.islandOf
      have later := ih (line + lineBreaks prose.chars + lineBreaks part.1.part.island) part.2
      simp only [List.flatMap_cons, List.cons_append, List.nil_append, List.append_assoc,
        CodePart.island_literal] at later ⊢
      rw [openingLine?_prose line prose (apart (island.head? _) (by decide)),
        island.openingLine?_eq _ part.1.balanced, later]
      simp only [lineBreaks_append, Nat.add_assoc]

end Directive
end TemplateEngine
