import Mathlib.Data.List.Induction
import TemplateEngine.Proofs.Directive.BlockReadings

/-!
# References to blocks

The references to a block are replaced in the whole text before those to the next block are looked at.
So a content may bring in references to the blocks behind its own, and these are replaced in turn; a
reference that it brings in to its own block or to one before it stays. Here a text is made of
references by a word, each with white space before it, and of characters among which no other reference
opens, and so are the contents; then it can be seen from the contents alone what is left.
-/

namespace TemplateEngine
namespace Directive

open Text (Piece Skips)

/-! ## Parts -/

/-- No reference opens among the characters, whatever stands behind them. -/
def Still (cs : List Char) : Prop := ∀ rest, Skips (head? "block") cs rest

def Shown.Still : Shown → Prop
  | .text cs => Directive.Still cs
  | .reference _ => True

def Shown.leftText : Shown → List Char
  | .text cs => cs
  | .reference _ => []

/-- The name of a reference that is left. -/
def Shown.leftName? : Shown → Option (List Char)
  | .text _ => none
  | .reference r => some r.name.chars

theorem shownChars_cons (part : Shown) (parts : List Shown) :
    shownChars (part :: parts) = part.chars ++ shownChars parts := rfl

theorem shownChars_append (parts parts' : List Shown) :
    shownChars (parts ++ parts') = shownChars parts ++ shownChars parts' :=
  List.flatMap_append

/-- No pass finds a reference in still characters. -/
theorem referenceTo_skips {cs : List Char} (still : Still cs) (name rest : List Char) :
    Skips (referenceTo name) cs rest := by
  apply (still rest).mono
  intro cs none
  simp [referenceTo, none]

/-- Nor does the last one. -/
theorem anyReference_skips {cs : List Char} (still : Still cs) (rest : List Char) :
    Skips anyReference cs rest := by
  apply (still rest).mono
  intro cs none
  simp [anyReference, argument?, none]

/-! ## Replacing the references to one block -/

/-- A part after the references to one block were replaced. -/
def Shown.expand (name : List Char) (content : List Shown) : Shown → List Shown
  | .text cs => [.text cs]
  | .reference r => if r.name.chars = name then content else [.reference r]

/-- The pass of a block replaces each reference to it and leaves the other parts. -/
theorem substitute_expand (name : Name) (content : List Shown) {parts : List Shown}
    (still : ∀ part ∈ parts, part.Still) :
    substitute (shownChars parts) (String.ofList name.chars, String.ofList (shownChars content)) =
      shownChars (parts.flatMap (Shown.expand name.chars content)) := by
  unfold substitute
  rw [String.toList_ofList, String.toList_ofList]
  induction parts with
  | nil => rfl
  | cons part parts ih =>
      have rest := ih fun later member => still later (List.mem_cons_of_mem part member)
      rw [List.flatMap_cons, shownChars_append, shownChars_cons, ← rest]
      cases part with
      | text cs =>
          have here : Still cs := still (.text cs) List.mem_cons_self
          have kept : shownChars ((Shown.text cs).expand name.chars content) = cs := by
            simp [Shown.expand, shownChars, Shown.chars]
          rw [kept]
          exact Text.replaceSpans_append_of_skips (referenceTo_skips here name.chars _)
      | reference r =>
          -- The block's own references are found, and others are no references to it.
          by_cases same : r.name.chars = name.chars
          · have found := referenceTo_same r (shownChars parts)
            rw [same] at found
            have gone : (Shown.reference r).expand name.chars content = content := if_pos same
            rw [gone]
            exact Text.replaceSpans_append_of_found found r.isDirective.ne_nil
          · have other := referenceTo_other name r (fun eq => same eq.symm) (shownChars parts)
            have skipped := r.isDirective.skips (referenceTo_onlyAtOpenings name.chars) other
            have kept : (Shown.reference r).expand name.chars content = [.reference r] :=
              if_neg same
            rw [kept]
            have chars : shownChars [.reference r] = r.chars := by simp [shownChars, Shown.chars]
            rw [chars]
            exact Text.replaceSpans_append_of_skips skipped

/-! ## References that are left -/

/-- The last pass leaves nothing of the references. -/
theorem replaceSpans_anyReference {parts : List Shown} (still : ∀ part ∈ parts, part.Still) :
    Text.replaceSpans anyReference (fun _ => []) (shownChars parts) =
      parts.flatMap Shown.leftText := by
  induction parts with
  | nil => rfl
  | cons part parts ih =>
      have rest := ih fun later member => still later (List.mem_cons_of_mem part member)
      rw [shownChars_cons, List.flatMap_cons, ← rest]
      cases part with
      | text cs =>
          have here : Still cs := still (.text cs) List.mem_cons_self
          exact Text.replaceSpans_append_of_skips (anyReference_skips here _)
      | reference r =>
          have found := anyReference_naming r (shownChars parts)
          exact Text.replaceSpans_append_of_found found r.isDirective.ne_nil

/-- It reports their names in the order of the text. -/
theorem captures_anyReference {parts : List Shown} (still : ∀ part ∈ parts, part.Still) :
    Piece.captures (Text.pieces anyReference (shownChars parts)) =
      parts.filterMap Shown.leftName? := by
  induction parts with
  | nil => rfl
  | cons part parts ih =>
      have rest := ih fun later member => still later (List.mem_cons_of_mem part member)
      rw [shownChars_cons]
      cases part with
      | text cs =>
          have here : Still cs := still (.text cs) List.mem_cons_self
          have step := Text.captures_append_of_skips (anyReference_skips here (shownChars parts))
          exact step.trans rest
      | reference r =>
          have found := anyReference_naming r (shownChars parts)
          have step := Text.captures_append_of_found found r.isDirective.ne_nil
          exact step.trans (congrArg (r.name.chars :: ·) rest)

/-! ## Passages and tables -/

/-- A text of references, with nothing else in it that could be one. -/
structure Passage where
  parts : List Shown
  still : ∀ part ∈ parts, part.Still

/-- Blocks whose contents may refer to blocks, in the order of declaration and each name once. -/
structure BlockTable where
  blocks : List (Name × Passage)
  distinct : (blocks.map fun block => block.1.chars).Nodup

def Passage.chars (text : Passage) : List Char := shownChars text.parts

def Passage.names (text : Passage) : List (List Char) := text.parts.filterMap Shown.leftName?

def namesOf (blocks : List (Name × Passage)) : List (List Char) :=
  blocks.map fun block => block.1.chars

def entryOf (block : Name × Passage) : String × String :=
  (String.ofList block.1.chars, String.ofList block.2.chars)

def BlockTable.toBlocks (table : BlockTable) : Blocks := ⟨table.blocks.map entryOf⟩

/-- The blocks of a table are those that it names. -/
theorem get?_toBlocks {table : BlockTable} {name : List Char} :
    table.toBlocks.get? (String.ofList name) = none ↔ name ∉ namesOf table.blocks := by
  rw [Blocks.get?, BlockTable.toBlocks, List.lookup_eq_none_iff]
  simp only [List.mem_map, forall_exists_index, and_imp, forall_apply_eq_imp_iff₂, namesOf,
    entryOf, bne_iff_ne, ne_eq, String.ofList_inj, not_exists, not_and]
  exact forall₂_congr fun block _ => not_congr eq_comm

/-- A text after the references to one block were replaced. -/
def Passage.expand (text : Passage) (block : Name × Passage) : Passage where
  parts := text.parts.flatMap (Shown.expand block.1.chars block.2.parts)
  still := by
    intro part member
    rcases List.mem_flatMap.1 member with ⟨origin, old, new⟩
    have before := text.still origin old
    cases origin with
    | text cs =>
        rw [List.mem_singleton.1 new]
        exact before
    | reference r =>
        by_cases same : r.name.chars = block.1.chars
        · rw [Shown.expand, if_pos same] at new
          exact block.2.still part new
        · rw [Shown.expand, if_neg same] at new
          rw [List.mem_singleton.1 new]
          trivial

/-- The names that are referred to then: the others as before, and those of the content. -/
theorem mem_names_expand {text : Passage} {block : Name × Passage} {name : List Char} :
    name ∈ (text.expand block).names ↔
      (name ∈ text.names ∧ name ≠ block.1.chars) ∨
        (block.1.chars ∈ text.names ∧ name ∈ block.2.names) := by
  -- The names of a text are those of its references.
  have referred {parts : List Shown} {name : List Char} :
      name ∈ parts.filterMap Shown.leftName? ↔ ∃ r, .reference r ∈ parts ∧ r.name.chars = name := by
    rw [List.mem_filterMap]
    constructor
    · rintro ⟨part, member, named⟩
      cases part with
      | text cs => cases named
      | reference r => exact ⟨r, member, Option.some.inj named⟩
    · rintro ⟨r, member, named⟩
      exact ⟨.reference r, member, congrArg some named⟩
  unfold Passage.names
  simp only [referred, Passage.expand, List.mem_flatMap]
  constructor
  · rintro ⟨r, ⟨origin, old, new⟩, rfl⟩
    cases origin with
    | text cs => cases List.mem_singleton.1 new
    | reference r' =>
        -- A reference of the result is one that was kept, or comes from the content.
        by_cases same : r'.name.chars = block.1.chars
        · rw [Shown.expand, if_pos same] at new
          exact Or.inr ⟨⟨r', old, same⟩, r, new, rfl⟩
        · rw [Shown.expand, if_neg same] at new
          cases List.mem_singleton.1 new
          exact Or.inl ⟨⟨r, old, rfl⟩, same⟩
  · rintro (⟨⟨r, old, rfl⟩, other⟩ | ⟨⟨r, old, same⟩, r', new, rfl⟩)
    · refine ⟨r, ⟨.reference r, old, ?_⟩, rfl⟩
      rw [Shown.expand, if_neg other]
      exact List.mem_singleton.2 rfl
    · refine ⟨r', ⟨.reference r, old, ?_⟩, rfl⟩
      rw [Shown.expand, if_pos same]
      exact new

/-- The passes of some blocks expand a text one block at a time. -/
theorem foldl_substitute_expand (blocks : List (Name × Passage)) (text : Passage) :
    (blocks.map entryOf).foldl substitute text.chars = (blocks.foldl Passage.expand text).chars := by
  induction blocks generalizing text with
  | nil => rfl
  | cons block blocks ih =>
      have first : substitute text.chars (entryOf block) = (text.expand block).chars :=
        substitute_expand block.1 block.2.parts text.still
      calc
        ((block :: blocks).map entryOf).foldl substitute text.chars
            = (blocks.map entryOf).foldl substitute (text.expand block).chars :=
          congrArg ((blocks.map entryOf).foldl substitute) first
        _ = ((block :: blocks).foldl Passage.expand text).chars := ih (text.expand block)

/-- The names that are reported are those still referred to when all blocks have been replaced. -/
theorem unknown_resolveBlocks (table : BlockTable) (text : Passage) :
    (resolveBlocks (String.ofList text.chars) table.toBlocks).2 =
      (table.blocks.foldl Passage.expand text).names.map String.ofList := by
  have left := captures_anyReference (table.blocks.foldl Passage.expand text).still
  have folded := foldl_substitute_expand table.blocks text
  unfold resolveBlocks
  rw [String.toList_ofList, BlockTable.toBlocks, folded]
  exact congrArg (List.map String.ofList) left

/-! ## Blocks that are put in -/

/-- The content of a block is put into a text, where the given blocks are declared before it: the text
refers to the block, or the content of one of those does that is itself put in. -/
inductive PutIn (text : Passage) : List (Name × Passage) → Name × Passage → Prop
  | byText {before block} (referred : block.1.chars ∈ text.names) : PutIn text before block
  | byContent {before outer between block} (earlier : PutIn text before outer)
      (referred : block.1.chars ∈ outer.2.names) : PutIn text (before ++ outer :: between) block

theorem namesOf_append (blocks blocks' : List (Name × Passage)) :
    namesOf (blocks ++ blocks') = namesOf blocks ++ namesOf blocks' :=
  List.map_append

/-- A content that is put in refers to a name, and no block declared after it has the name. -/
def Remains (text : Passage) (blocks : List (Name × Passage)) (name : List Char) : Prop :=
  ∃ before outer after, blocks = before ++ outer :: after ∧ PutIn text before outer ∧
    name ∈ outer.2.names ∧ name ∉ namesOf after

/-- A further block takes its own name away and brings in the names of its content. -/
theorem remains_append_singleton {text : Passage} {blocks : List (Name × Passage)}
    {block : Name × Passage} {name : List Char} :
    Remains text (blocks ++ [block]) name ↔
      (Remains text blocks name ∧ name ≠ block.1.chars) ∨
        (PutIn text blocks block ∧ name ∈ block.2.names) := by
  constructor
  · rintro ⟨before, outer, after, split, inside, referred, later⟩
    rcases List.eq_nil_or_concat after with rfl | ⟨after, last, rfl⟩
    · rcases List.append_inj' split rfl with ⟨rfl, same⟩
      cases same
      exact Or.inr ⟨inside, referred⟩
    · rw [List.concat_eq_append, ← List.cons_append, ← List.append_assoc] at split
      rcases List.append_inj' split rfl with ⟨rfl, same⟩
      cases same
      rw [List.concat_eq_append, namesOf_append, List.mem_append, not_or] at later
      refine Or.inl ⟨⟨before, outer, after, rfl, inside, referred, later.1⟩, ?_⟩
      intro same
      exact later.2 (List.mem_singleton.2 same)
  · rintro (⟨⟨before, outer, after, rfl, inside, referred, later⟩, other⟩ | ⟨inside, referred⟩)
    · refine ⟨before, outer, after ++ [block], by simp, inside, referred, ?_⟩
      rw [namesOf_append, List.mem_append]
      exact not_or.2 ⟨later, fun here => other (List.mem_singleton.1 here)⟩
    · exact ⟨blocks, block, [], rfl, inside, referred, List.not_mem_nil⟩

/-- Behind blocks that do not have its name, a block is put in where its name is left. -/
theorem putIn_iff {text : Passage} {blocks : List (Name × Passage)} {block : Name × Passage}
    (fresh : block.1.chars ∉ namesOf blocks) :
    PutIn text blocks block ↔ block.1.chars ∈ text.names ∨ Remains text blocks block.1.chars := by
  constructor
  · intro inside
    cases inside with
    | byText referred => exact Or.inl referred
    | byContent inside referred =>
        refine Or.inr ⟨_, _, _, rfl, inside, referred, ?_⟩
        -- A later block of the same name would be among those before this one.
        intro later
        apply fresh
        rw [namesOf_append]
        exact List.mem_append_right _ (List.mem_cons_of_mem _ later)
  · rintro (referred | ⟨before, outer, after, rfl, inside, referred, _⟩)
    · exact .byText referred
    · exact .byContent inside referred

/-- The names still referred to in the end: those of the text that no block has, and those that
remain of the contents. -/
theorem mem_names_foldl {blocks : List (Name × Passage)} (distinct : (namesOf blocks).Nodup)
    {text : Passage} {name : List Char} :
    name ∈ (blocks.foldl Passage.expand text).names ↔
      (name ∈ text.names ∧ name ∉ namesOf blocks) ∨ Remains text blocks name := by
  -- The induction takes the last block away: what was put in before it does not know of it.
  induction blocks using List.reverseRecOn generalizing name with
  | nil => simp [namesOf, Remains]
  | append_singleton blocks block ih =>
      rw [namesOf_append] at distinct
      have apart := List.nodup_append.1 distinct
      have fresh : block.1.chars ∉ namesOf blocks := by
        intro member
        exact apart.2.2 _ member _ (List.mem_singleton.2 rfl) rfl
      have referred : block.1.chars ∈ (blocks.foldl Passage.expand text).names ↔
          PutIn text blocks block := by
        rw [ih apart.1, putIn_iff fresh]
        simp [fresh]
      have last : name ∈ namesOf [block] ↔ name = block.1.chars := List.mem_singleton
      rw [List.foldl_append, List.foldl_cons, List.foldl_nil, mem_names_expand, referred,
        ih apart.1, remains_append_singleton, namesOf_append, List.mem_append, last]
      tauto

/-- Among passages only undeclared names are reported exactly where no content that is put in refers to its
own block or to one declared before it. -/
theorem passage_undeclared_iff (table : BlockTable) (text : Passage) :
    (∀ name ∈ (resolveBlocks (String.ofList text.chars) table.toBlocks).2,
        table.toBlocks.get? name = none) ↔
      ∀ before outer after, table.blocks = before ++ outer :: after → PutIn text before outer →
        ∀ block ∈ before ++ [outer], block.1.chars ∉ outer.2.names := by
  have distinct : (namesOf table.blocks).Nodup := table.distinct
  rw [unknown_resolveBlocks]
  constructor
  · -- Such a reference comes in when its block is over, and no later block takes it away.
    intro undeclared before outer after split inside block member referred
    rw [split, ← List.singleton_append, ← List.append_assoc, namesOf_append] at distinct
    have named : block.1.chars ∈ namesOf (before ++ [outer]) :=
      List.mem_map_of_mem (f := fun block : Name × Passage => block.1.chars) member
    have notLater : block.1.chars ∉ namesOf after := by
      intro later
      exact (List.nodup_append.1 distinct).2.2 _ named _ later rfl
    have left : block.1.chars ∈ (table.blocks.foldl Passage.expand text).names :=
      (mem_names_foldl table.distinct).2
        (Or.inr ⟨before, outer, after, split, inside, referred, notLater⟩)
    apply get?_toBlocks.1 (undeclared _ (List.mem_map_of_mem left))
    rw [split, ← List.singleton_append, ← List.append_assoc, namesOf_append]
    exact List.mem_append_left _ named
  · intro forward reported member
    rcases List.mem_map.1 member with ⟨name, left, rfl⟩
    apply get?_toBlocks.2
    rcases (mem_names_foldl distinct).1 left with
      ⟨_, undeclared⟩ | ⟨before, outer, after, split, inside, referred, notLater⟩
    · exact undeclared
    · rw [split, ← List.singleton_append, ← List.append_assoc, namesOf_append]
      intro declared
      rcases List.mem_append.1 declared with early | late
      · rcases List.mem_map.1 early with ⟨block, here, rfl⟩
        exact forward before outer after split inside block here referred
      · exact notLater late

end Directive
end TemplateEngine
