import TemplateEngine.Proofs.Directive.BlockReadings
import TemplateEngine.Proofs.Directive.Inclusions
import TemplateEngine.Proofs.Text.Occurrences

/-!
# References that are left

Each block has one pass over the text, in the order of declaration, and what is left when all are over is
erased and its names reported. In any text and with any blocks a reference to a declared block is left in
two ways. There is no white space between the word and the name, where the pass of a block asks for some
and the last pass does not. Or the reference came too late: the pass of its own block or of one declared
after it wrote into it, by a content that refers to the block or by one that makes a reference of what
stands around it.
-/

namespace TemplateEngine
namespace Directive

open Text (Occurrence Stretch Division TakesSpans Keeps WritesInto isBlank until?)

/-! ## Spans of references -/

theorem block_cons : "block".toList = 'b' :: "lock".toList := by decide

/-- A reference is the word and what stands behind it up to a closing, on one line. -/
theorem anyReference_eq_some_iff {cs name left : List Char} :
    anyReference cs = some (name, left) ↔ ∃ inside, argument? "block" cs = some inside ∧
      until? close? (fun c => c != '\n') inside = some (name, left) := by
  unfold anyReference
  cases argument? "block" cs with
  | none => simp
  | some inside => simp

/-- A reference is a span of the text, and is read so whatever stands behind it. -/
theorem anyReference_span {cs name left : List Char} (found : anyReference cs = some (name, left)) :
    ∃ span, span ≠ [] ∧ cs = span ++ left ∧
      ∀ left', anyReference (span ++ left') = some (name, left') := by
  rcases anyReference_eq_some_iff.1 found with ⟨inside, opened, named⟩
  rcases argument?_front block_cons opened with ⟨front, nonempty, rfl, anywhere⟩
  rcases readsClosings_close?.until? named with ⟨span, rfl, ends, closes⟩
  refine ⟨front ++ span, by simp [nonempty], by simp, fun left' => ?_⟩
  refine anyReference_eq_some_iff.2 ⟨span ++ left', ?_, closes left'⟩
  rw [List.append_assoc]
  apply anywhere
  cases span with
  | nil => exact absurd rfl ends.ne_nil
  | cons c span => rfl

theorem takesSpans_anyReference : TakesSpans anyReference := by
  intro cs name left found
  rcases anyReference_span found with ⟨span, nonempty, split, _⟩
  exact ⟨span, nonempty, split⟩

/-- What the pass of a block takes is a span of the text. -/
theorem takesSpans_referenceTo (name : List Char) : TakesSpans (referenceTo name) := by
  intro cs _ left found
  unfold referenceTo at found
  cases headed : head? "block" cs with
  | none => simp [headed] at found
  | some inside =>
      simp only [headed, Option.map_eq_some_iff] at found
      rcases found with ⟨rest, named, same⟩
      cases same
      rcases List.exists_of_findSome?_eq_some named with ⟨n, _, closed⟩
      rcases Option.bind_eq_some_iff.1 closed with ⟨tail, reads, ends⟩
      rcases head?_front block_cons headed with ⟨front, nonempty, rfl, _⟩
      rcases readsClosings_close?.takes ends with ⟨closing, rfl, _⟩
      refine ⟨front ++ (inside.take (n + 1) ++ (name ++ closing)), by simp [nonempty], ?_⟩
      have split := Text.after?_eq_some_iff.1 reads
      rw [List.append_assoc, List.append_assoc, List.append_assoc, ← split, List.take_append_drop]

/-! ## White space before the name -/

/-- No white space stands behind the word of a reference. -/
def Gapless (reference : List Char) : Prop :=
  ∃ inside, head? "block" reference = some inside ∧ ∀ c ∈ inside.head?, isBlank c = false

/-- With white space behind the word, what is read as a reference with a name is read so by the pass of
the block of that name. -/
theorem referenceTo_of_anyReference {cs name left : List Char}
    (found : anyReference cs = some (name, left)) (gap : ¬ Gapless cs) :
    referenceTo name cs = some ((), left) := by
  rcases anyReference_eq_some_iff.1 found with ⟨argument, opened, named⟩
  rcases Text.until?_split named with ⟨tail, rfl, closed⟩
  unfold argument? at opened
  cases headed : head? "block" cs with
  | none => simp [headed] at opened
  | some inside =>
      have argument_eq : skipBlanks inside = name ++ tail := by
        simp only [headed] at opened
        split at opened
        · exact Option.some.inj opened
        · cases opened
      have whole : inside.takeWhile isBlank ++ (name ++ tail) = inside := by
        rw [← argument_eq]
        exact List.takeWhile_append_dropWhile
      -- All white space is taken first, and with that the name stands next.
      cases blanks : inside.takeWhile isBlank with
      | nil =>
          refine absurd ⟨inside, headed, fun c first => ?_⟩ gap
          cases inside with
          | nil => cases first
          | cons d ds =>
              cases first
              simpa [List.takeWhile_cons] using blanks
      | cons c gap =>
          rw [blanks] at whole
          have behind : inside.drop (gap.length + 1) = name ++ tail := by
            rw [← whole]
            exact List.drop_left
          unfold referenceTo
          simp only [headed, blanks, List.length_cons, List.range_succ, List.reverse_append,
            List.reverse_singleton, List.singleton_append, List.findSome?_cons, behind,
            Text.after?_append, Option.bind_some, closed, Option.map_some]

/-- What stands behind a reference does not count for its gap. -/
theorem gapless_of_append {cs name rest : List Char} (found : anyReference cs = some (name, []))
    (gapless : Gapless (cs ++ rest)) : Gapless cs := by
  rcases anyReference_eq_some_iff.1 found with ⟨argument, opened, _⟩
  rcases gapless with ⟨inside', headed', solid⟩
  unfold argument? at opened
  cases headed : head? "block" cs with
  | none => simp [headed] at opened
  | some inside =>
      rcases head?_front block_cons headed with ⟨front, _, rfl, anywhere, _⟩
      rw [List.append_assoc, anywhere] at headed'
      cases headed'
      refine ⟨inside, anywhere inside, fun c first => solid c ?_⟩
      simp [List.head?_append, Option.mem_def.1 first]

/-- A reference that the pass of its block keeps has no white space before the name. -/
theorem gapless_of_keeps {write : Unit → List Char} {name left : List Char}
    {place place' : Occurrence}
    (kept : Keeps (referenceTo name) write place place')
    (found : anyReference (place.here ++ left) = some (name, left)) : Gapless place.here := by
  rcases anyReference_span found with ⟨span, nonempty, split, anywhere⟩
  cases List.append_cancel_right split
  by_contra gap
  have alone := anywhere []
  rw [List.append_nil] at alone
  have read := referenceTo_of_anyReference (anywhere place.behind) (mt (gapless_of_append alone) gap)
  rw [kept.read_eq_none nonempty] at read
  cases read

/-! ## Passes -/

/-- A stretch goes through the passes of some blocks: each of them keeps it. -/
inductive Through : List (String × String) → Occurrence → Occurrence → Prop
  | done {place} : Through [] place place
  | pass {block blocks place place' place''}
      (kept : Keeps (referenceTo block.1.toList) (fun _ => block.2.toList) place place')
      (follow : Through blocks place' place'') : Through (block :: blocks) place place''

/-- A stretch of the text that the passes of some blocks give has come in with one of them: the pass of
the block writes its content into the stretch, and the passes of the blocks behind it keep that. -/
def BroughtIn (blocks : List (String × String)) (cs : List Char) (place : Occurrence) : Prop :=
  ∃ before block after place', blocks = before ++ block :: after ∧
    WritesInto (referenceTo block.1.toList) (fun _ => block.2.toList)
      (before.foldl substitute cs) place' ∧
    Through after place' place

/-- A stretch that goes through stays the same. -/
theorem Through.here_eq {blocks : List (String × String)} {place place' : Occurrence}
    (through : Through blocks place place') : place'.here = place.here := by
  induction through with
  | done => rfl
  | pass kept _ ih => exact ih.trans kept.here_eq

/-- What stands at a place when some blocks are done has gone through their passes, or has come in with
one of them. -/
theorem through_or_broughtIn {blocks : List (String × String)} {cs : List Char} {place : Occurrence}
    (text : place.text = blocks.foldl substitute cs) :
    (∃ origin, origin.text = cs ∧ Through blocks origin place) ∨ BroughtIn blocks cs place := by
  -- The induction is on the blocks. What stands behind the later passes stood before them at some
  -- place, and the first pass kept or wrote it.
  induction blocks generalizing cs with
  | nil => exact Or.inl ⟨place, text, .done⟩
  | cons block blocks ih =>
      rcases ih text with
        ⟨middle, middle_text, through⟩ | ⟨before, later, after, place', rfl, writes, through⟩
      · rcases Text.keeps_or_writesInto (takesSpans_referenceTo _) middle_text with
          ⟨origin, origin_text, kept⟩ | writes
        · exact Or.inl ⟨origin, origin_text, .pass kept through⟩
        · exact Or.inr ⟨[], block, blocks, middle, rfl, writes, through⟩
      · exact Or.inr ⟨block :: before, later, after, place', rfl, writes, through⟩

/-- A reference to a block that is left when the block and some more are done has no white space before
the name, or it has come in with one of the passes. -/
theorem gapless_or_broughtIn {block : String × String} {after : List (String × String)}
    {cs left : List Char} {place : Occurrence} (text : place.text = (block :: after).foldl substitute cs)
    (found : anyReference (place.here ++ left) = some (block.1.toList, left)) :
    Gapless place.here ∨ BroughtIn (block :: after) cs place := by
  rcases through_or_broughtIn text with ⟨origin, _, through⟩ | came
  · cases through with
    | pass kept follow =>
        rw [follow.here_eq, kept.here_eq] at found ⊢
        exact Or.inl (gapless_of_keeps kept found)
  · exact Or.inr came

/-! ## What is left -/

/-- When all blocks are done the references that are left are erased, and their names are reported. A
declared name is among these exactly where a reference with the name is left that has no white space
before it, or that has come in with the pass of its block or of one declared after it. -/
theorem resolveBlocks_remaining (text : String) (blocks : Blocks) :
    ∃ parts, Division anyReference parts (blocks.entries.foldl substitute text.toList) ∧
      (resolveBlocks text blocks).1 =
        String.ofList (parts.flatMap (Stretch.rewritten fun _ => [])) ∧
      ∀ name, (name ∈ (resolveBlocks text blocks).2 ∧ blocks.get? name ≠ none) ↔
        ∃ before content after front reference back,
          blocks.entries = before ++ (name, content) :: after ∧
          parts = front ++ .span reference name.toList :: back ∧
          (Gapless reference ∨
            BroughtIn ((name, content) :: after) (before.foldl substitute text.toList)
              ⟨front.flatMap Stretch.chars, reference, back.flatMap Stretch.chars⟩) := by
  -- The last pass takes the references of one division: their names are reported, and the rest is
  -- the result.
  have divided : ∃ parts, Division anyReference parts (blocks.entries.foldl substitute text.toList) :=
    Text.exists_division takesSpans_anyReference _
  rcases divided with ⟨parts, division⟩
  have reported (name : String) : name ∈ (resolveBlocks text blocks).2 ↔
      ∃ reference, .span reference name.toList ∈ parts := by
    have names : (resolveBlocks text blocks).2 =
        (Text.Piece.captures (parts.map Stretch.piece)).map String.ofList := by
      rw [← division.pieces]
      rfl
    rw [names, List.mem_map]
    simp only [Text.mem_captures_iff]
    constructor
    · rintro ⟨chars, ⟨reference, member⟩, rfl⟩
      exact ⟨reference, by rwa [String.toList_ofList]⟩
    · rintro ⟨reference, member⟩
      exact ⟨name.toList, ⟨reference, member⟩, String.ofList_toList⟩
  refine ⟨parts, division, congrArg String.ofList (division.replaceSpans fun _ => []), fun name => ?_⟩
  constructor
  · rintro ⟨left, declared⟩
    rcases (reported name).1 left with ⟨reference, member⟩
    rcases List.append_of_mem member with ⟨front, back, rfl⟩
    rcases Option.ne_none_iff_exists'.1 declared with ⟨content, found⟩
    rcases List.lookup_eq_some_iff.1 found with ⟨before, after, split, _⟩
    refine ⟨before, content, after, front, reference, back, split, rfl, ?_⟩
    let place : Occurrence := ⟨front.flatMap Stretch.chars, reference, back.flatMap Stretch.chars⟩
    have whole : place.text =
        ((name, content) :: after).foldl substitute (before.foldl substitute text.toList) := by
      rw [← List.foldl_append, ← split, ← division.chars, List.flatMap_append, List.flatMap_cons]
      rfl
    exact gapless_or_broughtIn whole division.read_span
  · rintro ⟨before, content, after, front, reference, back, split, rfl, _⟩
    refine ⟨(reported name).2 ⟨reference, by simp⟩, ?_⟩
    rw [Blocks.get?, split, Option.ne_none_iff_isSome, List.lookup_isSome_iff]
    exact ⟨(name, content), by simp⟩

/-- A content that refers to a block declared before its own. -/
theorem resolveBlocks_backward :
    let blocks : Blocks := ⟨[("a", "x"), ("b", "\x7b\x7b@ block a \x7d\x7d")]⟩
    resolveBlocks "\x7b\x7b@ block b \x7d\x7d" blocks = ("", ["a"]) ∧ blocks.get? "a" = some "x" := by
  decide

/-- A content that makes a reference of what stands around it. -/
example :
    resolveBlocks "\x7b\x7b@ \x7b\x7b@ block b \x7d\x7d a \x7d\x7d"
      ⟨[("a", "x"), ("b", "block")]⟩ = ("", ["a"]) := by
  decide

/-- A reference with no white space before the name. -/
example : resolveBlocks "\x7b\x7b@ block.x \x7d\x7d" ⟨[(".x", "y")]⟩ = ("", [".x"]) := by decide

end Directive
end TemplateEngine
