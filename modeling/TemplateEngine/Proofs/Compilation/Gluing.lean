import TemplateEngine.Proofs.Compilation.Expands
import TemplateEngine.Proofs.Directive.Inclusions
import TemplateEngine.Proofs.Files.Filing

/-!
# Gluing — what an expanded text is put together from

Each template is scanned once, by itself, and its texts between the include directives are glued to the
expanded texts of the templates included there. No directive is left within one of these texts, but two
texts may come to one where they meet, and nothing looks for it again.
-/

namespace TemplateEngine
namespace Compilation

open Text (Piece Stretch Division Skips)
open Directive (inclusion Unclosed)

/-! ## Texts between directives -/

/-- The texts that the expansion of a template, or of the rest of one, is put together from: what stands
before each include directive that the scan finds and behind the last one, and the texts of a template
that is included where its directive stands. -/
inductive Glued (files : Files) : (current : String) → List Char → List (List Char) → Prop
  | last {current text} (clean : Skips inclusion text []) : Glued files current text [text]
  | dropped {current text span name rest texts} (clean : Skips inclusion text (span ++ rest))
      (found : inclusion (span ++ rest) = some (name, rest))
      (nameless : (includeTarget name).isEmpty = true) (follow : Glued files current rest texts) :
      Glued files current (text ++ (span ++ rest)) (text :: texts)
  | included {current text span name rest source inner texts}
      (clean : Skips inclusion text (span ++ rest))
      (found : inclusion (span ++ rest) = some (name, rest))
      (named : (includeTarget name).isEmpty = false)
      (readable : files.read (locate files current (includeTarget name)) = .ok source)
      (inside : Glued files (locate files current (includeTarget name)) source.toList inner)
      (follow : Glued files current rest texts) :
      Glued files current (text ++ (span ++ rest)) (text :: (inner ++ texts))

variable {files : Files} {current : String} {cs : List Char} {texts : List (List Char)}

/-- A character at which no directive is read goes to the first text. -/
theorem Glued.cons (glued : Glued files current cs texts) {c : Char} (none : inclusion (c :: cs) = none) :
    ∃ text more, texts = text :: more ∧ Glued files current (c :: cs) ((c :: text) :: more) := by
  cases glued with
  | last clean => exact ⟨_, _, rfl, .last ⟨by simpa using none, clean⟩⟩
  | @dropped _ text span _ rest _ clean found nameless follow =>
      have first : Skips inclusion (c :: text) (span ++ rest) := ⟨none, clean⟩
      exact ⟨_, _, rfl, .dropped first found nameless follow⟩
  | @included _ text span _ rest _ _ _ clean found named readable inside follow =>
      have first : Skips inclusion (c :: text) (span ++ rest) := ⟨none, clean⟩
      exact ⟨_, _, rfl, .included first found named readable inside follow⟩

/-- By itself none of the texts has a directive in it. -/
theorem Glued.unclosed (glued : Glued files current cs texts) : ∀ text ∈ texts, Unclosed text := by
  induction glued with
  | last clean =>
      intro text member
      rw [List.mem_singleton.1 member]
      exact Directive.unclosed_of_skips clean
  | dropped clean _ _ _ ih =>
      exact List.forall_mem_cons.2 ⟨Directive.unclosed_of_skips clean, ih⟩
  | included clean _ _ _ _ _ ihInside ihFollow =>
      refine List.forall_mem_cons.2 ⟨Directive.unclosed_of_skips clean, ?_⟩
      exact List.forall_mem_append.2 ⟨ihInside, ihFollow⟩

/-- What a task is expanded to is glued from texts, where the pieces are those of a text. -/
def Task.GluedTo (files : Files) (expanded : List Char) : Task → Prop
  | .template path => ∃ source texts, files.read path = .ok source ∧
      Glued files path source.toList texts ∧ texts.flatten = expanded
  | .pieces current rest => ∀ parts cs, Division inclusion parts cs → parts.map Stretch.piece = rest →
      ∃ texts, Glued files current cs texts ∧ texts.flatten = expanded

/-- Whatever succeeds is glued together from texts. -/
theorem Expands.glued {limit : Option Nat} {opened visited after : List String} {task : Task}
    {outcome : Outcome} (h : Expands files limit opened task visited outcome after) :
    ∀ expanded, outcome = .ok expanded → task.GluedTo files expanded := by
  -- The pieces of a template belong to the one division of its text, so each rule for pieces meets
  -- the part of the division that its piece comes from.
  induction h with
  | cycle _ => exact fun _ eq => by cases eq
  | tooDeep _ _ _ => exact fun _ eq => by cases eq
  | unreadable _ _ _ => exact fun _ eq => by cases eq
  | template _ _ readable _ ih =>
      intro expanded ok
      rcases Text.exists_division Directive.takesSpans_inclusion _ with ⟨parts, division⟩
      rcases ih expanded ok parts _ division division.pieces.symm with ⟨texts, glued, joined⟩
      exact ⟨_, texts, readable, glued, joined⟩
  | done =>
      intro expanded ok parts cs division pieces
      cases division with
      | done =>
          cases ok
          exact ⟨[[]], .last trivial, rfl⟩
      | kept _ _ => cases pieces
      | span _ _ _ => cases pieces
  | @plain _ _ _ c _ outcome _ _ ih =>
      intro expanded ok parts cs division pieces
      cases outcome with
      | error e => cases ok
      | ok follow =>
          cases ok
          cases division with
          | done => cases pieces
          | kept none later =>
              cases pieces
              rcases ih follow rfl _ _ later rfl with ⟨texts, glued, joined⟩
              rcases glued.cons none with ⟨text, more, rfl, glued'⟩
              exact ⟨_, glued', congrArg (_ :: ·) joined⟩
          | span _ _ _ => cases pieces
  | dropped nameless _ ih =>
      intro expanded ok parts cs division pieces
      cases division with
      | done => cases pieces
      | kept _ _ => cases pieces
      | @span chars _ rest _ _ found later =>
          cases pieces
          rcases ih expanded ok _ _ later rfl with ⟨texts, glued, joined⟩
          have nothing : Skips inclusion [] (chars ++ rest) := trivial
          exact ⟨_, .dropped nothing found nameless glued, joined⟩
  | failed _ _ _ => exact fun _ eq => by cases eq
  | @included _ _ _ _ _ text outcome _ _ named _ _ ihInside ihFollow =>
      intro expanded ok parts cs division pieces
      cases outcome with
      | error e => cases ok
      | ok follow =>
          cases ok
          cases division with
          | done => cases pieces
          | kept _ _ => cases pieces
          | @span chars _ rest _ _ found later =>
              cases pieces
              have nothing : Skips inclusion [] (chars ++ rest) := trivial
              rcases ihInside text rfl with ⟨source, inner, readable, inside, joinedInside⟩
              rcases ihFollow follow rfl _ _ later rfl with ⟨texts, glued, joined⟩
              refine ⟨_, .included nothing found named readable inside glued, ?_⟩
              rw [List.flatten_cons, List.flatten_append, joinedInside, joined]
              rfl

/-! ## Directives across texts -/

/-- An include directive begins in one of the texts and ends behind it. -/
def Across (texts : List (List Char)) : Prop :=
  ∃ before text after front back name left, texts = before ++ text :: after ∧ text = front ++ back ∧
    back ≠ [] ∧ inclusion (back ++ after.flatten) = some (name, left) ∧
      left.length < after.flatten.length

/-- A place in joined texts is in one of them. -/
theorem exists_place {texts : List (List Char)} {front here : List Char}
    (split : texts.flatten = front ++ here) (nonempty : here ≠ []) :
    ∃ before text after front' back, texts = before ++ text :: after ∧ text = front' ++ back ∧
      back ≠ [] ∧ here = back ++ after.flatten := by
  rcases List.flatten_eq_append_iff.1 split with
    ⟨before, after, rfl, _, here_eq⟩ | ⟨before, front', c, back, after, rfl, _, here_eq⟩
  · -- The place is where a text begins; empty texts may stand before it.
    cases here with
    | nil => exact absurd rfl nonempty
    | cons c cs =>
        rcases List.flatten_eq_cons_iff.1 here_eq.symm with ⟨empty, back, more, rfl, _, rfl⟩
        exact ⟨before ++ empty, c :: back, more, [], c :: back, by simp, rfl, List.cons_ne_nil _ _,
          rfl⟩
  · exact ⟨before, _, after, front', c :: back, rfl, rfl, List.cons_ne_nil _ _, here_eq⟩

/-- An include directive is left in the joined texts exactly where one lies across two of them. -/
theorem found_mem_includes_iff {texts : List (List Char)}
    (unclosed : ∀ text ∈ texts, Unclosed text) :
    (∃ name, Piece.found name ∈ Directive.includes (String.ofList texts.flatten)) ↔ Across texts := by
  rw [Directive.includes, String.toList_ofList, Text.found_mem_pieces_iff]
  constructor
  · intro seen
    by_contra notAcross
    refine seen (Text.skips_of_splits fun front here split nonempty => ?_)
    rw [List.append_nil, Option.eq_none_iff_forall_ne_some]
    rintro ⟨name, left⟩ found
    rcases exists_place split nonempty with ⟨before, text, after, front', back, rfl, eq, some, rfl⟩
    have behind := unclosed text (by simp) front' back after.flatten name left eq found
    exact notAcross ⟨before, text, after, front', back, name, left, rfl, eq, some, found, behind⟩
  · rintro ⟨before, text, after, front, back, name, left, rfl, rfl, nonempty, found, _⟩ skips
    have there : Skips inclusion (back ++ after.flatten) [] := by
      have whole : (before ++ (front ++ back) :: after).flatten =
          (before.flatten ++ front) ++ (back ++ after.flatten) := by simp
      rw [whole] at skips
      exact (Text.skips_append.1 skips).2
    cases back with
    | nil => exact nonempty rfl
    | cons c cs =>
        have unread : inclusion (c :: cs ++ after.flatten) = none := by simpa using there.1
        rw [found] at unread
        cases unread

/-- A text in which no include directive is found is expanded to itself. -/
theorem expandPieces_of_clean {cs : List Char}
    (clean : ¬ ∃ name, Piece.found name ∈ Directive.includes (String.ofList cs)) (files : Files)
    (d : Nat) (opened : List String) (current : String) (visited : List String) :
    expandPieces files d opened current (Directive.includes (String.ofList cs)) visited =
      (.ok cs, visited) := by
  rw [Directive.includes, String.toList_ofList] at clean ⊢
  rw [Text.found_mem_pieces_iff, not_not] at clean
  rw [Text.pieces_of_skips clean]
  exact Expands.run_eq (expands_plain cs)

/-- An expanded text is glued from texts of the templates, none of which has an include directive in it.
The text has one exactly where one lies across two of them; where none does, it is expanded to itself. -/
theorem expand_glued {files : Files} {d : Nat} {path : String} {expanded : List Char}
    {visited : List String} (ran : expand files d path = (.ok expanded, visited)) :
    ∃ source texts, files.read path = .ok source ∧ Glued files path source.toList texts ∧
      texts.flatten = expanded ∧ (∀ text ∈ texts, Unclosed text) ∧
      ((∃ name, Piece.found name ∈ Directive.includes (String.ofList expanded)) ↔ Across texts) ∧
      (¬ Across texts → ∀ (d : Nat) (opened : List String) (current : String) (visited : List String),
        expandPieces files d opened current (Directive.includes (String.ofList expanded)) visited =
          (.ok expanded, visited)) := by
  rcases (expands_iff_expand.2 ran).glued expanded rfl with ⟨source, texts, readable, glued, rfl⟩
  have left := found_mem_includes_iff glued.unclosed
  exact ⟨source, texts, readable, glued, rfl, glued.unclosed, left,
    fun notAcross => expandPieces_of_clean (mt left.1 notAcross) files⟩

/-- A template that includes a word, with a directive opening before the word and some text behind. -/
def splitPages (behind : String) : Files where
  nodes := [(["a"], .file (.text ("\x7b\x7b@ \x7b\x7b@ include 'b' \x7d\x7d" ++ behind)) 0 0o644),
    (["b"], .file (.text "include") 0 0o644)]

/-- The word stands where the include directive stood, and is not scanned again. -/
theorem expand_splitPages {behind : String}
    (pieces : Directive.includes ("\x7b\x7b@ \x7b\x7b@ include 'b' \x7d\x7d" ++ behind) =
      "\x7b\x7b@ ".toList.map Piece.plain ++ .found ['b'] :: behind.toList.map Piece.plain) :
    expand (splitPages behind) 1 "/a" =
      (.ok ("\x7b\x7b@ ".toList ++ ("include".toList ++ behind.toList)), ["/a", "/b"]) := by
  have single : Path.IsSingle "a" := by decide
  have wordSingle : Path.IsSingle "b" := by decide
  have identity : (splitPages behind).identity "/a" = "/a" :=
    Files.identity_atRoot single (by decide) rfl
  have wordIdentity : (splitPages behind).identity "/b" = "/b" :=
    Files.identity_atRoot wordSingle (by decide) rfl
  have text : (splitPages behind).read "/a" =
      .ok ("\x7b\x7b@ \x7b\x7b@ include 'b' \x7d\x7d" ++ behind) :=
    Files.read_atRoot single (by decide) rfl
  have wordText : (splitPages behind).read "/b" = .ok "include" :=
    Files.read_atRoot wordSingle (by decide) rfl
  have wordPieces : Directive.includes "include" = "include".toList.map .plain := by decide +kernel
  have target : locate (splitPages behind) "/a" (includeTarget ['b']) = "/b" :=
    locate_beside (by decide) (by decide) (Files.at?_atRoot wordSingle (by decide) rfl)
  -- The word is a template of its own and has no directive, so it stands as it is.
  have included : Expands (splitPages behind) (some 1) ["/a"] (.template "/b") ["/a"]
      (.ok "include".toList) ["/a", "/b"] := by
    refine .template (by simp [wordIdentity]) (by simp [Within]) wordText ?_
    rw [wordIdentity, wordPieces]
    exact expands_plain _
  have whole : Expands (splitPages behind) (some 1) [] (.template "/a") []
      (.ok ("\x7b\x7b@ ".toList ++ ("include".toList ++ behind.toList))) ["/a", "/b"] := by
    refine .template (by simp) (by simp [Within]) text ?_
    rw [identity, pieces]
    exact .plain (.plain (.plain (.plain (.included (by decide) (target ▸ included) (expands_plain _)))))
  exact expands_iff_expand.1 whole

/-- With no closing behind the word no directive comes about. -/
theorem expand_glued_splitPages :
    expand (splitPages " 'x'") 1 "/a" = (.ok "\x7b\x7b@ include 'x'".toList, ["/a", "/b"]) ∧
      ∃ source texts, (splitPages " 'x'").read "/a" = .ok source ∧
        Glued (splitPages " 'x'") "/a" source.toList texts ∧
        texts.flatten = "\x7b\x7b@ include 'x'".toList ∧ ¬ Across texts ∧
        ∀ (d : Nat) (opened : List String) (current : String) (visited : List String),
          expandPieces (splitPages " 'x'") d opened current
              (Directive.includes (String.ofList "\x7b\x7b@ include 'x'".toList)) visited =
            (.ok "\x7b\x7b@ include 'x'".toList, visited) := by
  have ran : expand (splitPages " 'x'") 1 "/a" =
      (.ok "\x7b\x7b@ include 'x'".toList, ["/a", "/b"]) := expand_splitPages (by decide +kernel)
  have clean : ¬ ∃ name, Piece.found name ∈
      Directive.includes (String.ofList "\x7b\x7b@ include 'x'".toList) := by
    have plain : Directive.includes (String.ofList "\x7b\x7b@ include 'x'".toList) =
        "\x7b\x7b@ include 'x'".toList.map Piece.plain := by decide +kernel
    rw [plain]
    simp
  rcases expand_glued ran with ⟨source, texts, readable, glued, joined, _, left, again⟩
  have notAcross := mt left.2 clean
  exact ⟨ran, source, texts, readable, glued, joined, notAcross, again notAcross⟩

/-- With a closing behind it the word makes a directive of what stands around it, and that is left. -/
theorem expand_leaves_directive :
    expand (splitPages " 'x' \x7d\x7d") 1 "/a" =
        (.ok "\x7b\x7b@ include 'x' \x7d\x7d".toList, ["/a", "/b"]) ∧
      Directive.includes (String.ofList "\x7b\x7b@ include 'x' \x7d\x7d".toList) =
        [.found ['x']] := by
  refine ⟨expand_splitPages (by decide +kernel), ?_⟩
  decide +kernel

end Compilation
end TemplateEngine
