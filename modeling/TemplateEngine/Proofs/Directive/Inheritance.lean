import TemplateEngine.Proofs.Directive.BlockChanges
import TemplateEngine.Proofs.Directive.References

/-!
# Inheritance — declarations folded, references substituted

The two passes over block directives, on any template made of literal pieces, references and
declarations. The first leaves what is shown and folds the bodies of each name; the second replaces
every reference by the final content of its name. The names are replaced one after another; since no
content opens a directive, that comes to replacing them all at once.
-/

namespace TemplateEngine
namespace Directive

open Text (after? Piece Skips)

/-! ## Taking out the declarations -/

theorem partChars_cons (part : Part) (parts : List Part) :
    partChars (part :: parts) = part.chars ++ partChars parts := rfl

/-- A reference to a block declares none. -/
theorem setBlock_skips_reference (r : Naming .block) (rest : List Char) :
    Skips setBlock r.chars rest :=
  skips_reference setBlock_onlyAtOpenings (setBlock_other (by decide)) r rest

/-- Literal text declares none. -/
theorem setBlock_skips_literal (piece : Literal) (rest : List Char) :
    Skips setBlock piece.chars rest :=
  (skips_literal piece rest).mono setBlock_onlyAtOpenings

theorem declaration_ne_nil (opening : Naming .setBlock) (cs : List Char) :
    opening.chars ++ cs ≠ [] := by
  intro empty
  exact opening.isDirective.ne_nil (List.append_eq_nil_iff.1 empty).1

/-- Without its declarations a template is what it shows. -/
theorem replaceSpans_setBlock (parts : List Part) :
    Text.replaceSpans setBlock (fun _ => []) (partChars parts) = shownChars (shown parts) := by
  induction parts with
  | nil => rfl
  | cons part parts ih =>
      rw [partChars_cons]
      cases part with
      | literal piece =>
          rw [Part.chars, Text.replaceSpans_append_of_skips (setBlock_skips_literal piece _), ih]
          rfl
      | reference r =>
          rw [Part.chars, Text.replaceSpans_append_of_skips (setBlock_skips_reference r _), ih]
          rfl
      | declaration opening body closing =>
          rw [Part.chars, Text.replaceSpans_append_of_found
            (setBlock_declaration opening body closing _) (declaration_ne_nil opening _), ih]
          rfl

/-- The declarations of a template are read with their names and bodies, in text order. -/
theorem declarations_partChars (parts : List Part) :
    declarations (partChars parts) =
      (declared parts).map fun d => (d.1.chars, bodyChars d.2) := by
  induction parts with
  | nil => rfl
  | cons part parts ih =>
      unfold declarations at ih ⊢
      rw [partChars_cons]
      cases part with
      | literal piece =>
          rw [Part.chars, Text.captures_append_of_skips (setBlock_skips_literal piece _), ih]
          rfl
      | reference r =>
          rw [Part.chars, Text.captures_append_of_skips (setBlock_skips_reference r _), ih]
          rfl
      | declaration opening body closing =>
          rw [Part.chars, Text.captures_append_of_found
            (setBlock_declaration opening body closing _) (declaration_ne_nil opening _), ih]
          rfl

/-! ## Bodies -/

/-- The placeholder that bodies are brought to. -/
def placeholder : List Char := Blocks.parentPlaceholder.toList

theorem placeholder_ne_nil : placeholder ≠ [] := by decide

/-- The placeholder stands only where two braces open. -/
theorem placeholder_onlyAtOpenings : OnlyAtOpenings (after? placeholder) := by
  intro cs none
  cases found : after? placeholder cs with
  | none => rfl
  | some rest =>
      have split : cs = placeholder ++ rest := Text.after?_eq_some_iff.1 found
      -- The placeholder is a directive too: its first two characters open one.
      have opens : placeholder ++ rest = interpolationOpen ++ ("@parent\x7d\x7d".toList ++ rest) := rfl
      rw [split, opens, Text.after?_append] at none
      cases none

/-- Literal text of a body stays. -/
@[simp]
theorem fill_literal (previous : List Char) (piece : Literal) (body : List BodyPart) :
    fill previous (.literal piece :: body) = piece.chars ++ fill previous body := rfl

/-- The previous content takes the place of a placeholder. -/
@[simp]
theorem fill_parent (previous : List Char) (d : Bare .parent) (body : List BodyPart) :
    fill previous (.parent d :: body) = previous ++ fill previous body := rfl

/-- In its canonical form a body has the one placeholder for all of its own. -/
theorem canonicalBody_bodyChars (body : List BodyPart) :
    canonicalBody (bodyChars body) = fill placeholder body := by
  induction body with
  | nil => rfl
  | cons part body ih =>
      unfold canonicalBody at ih ⊢
      cases part with
      | literal piece =>
          have skipped := (skips_literal piece (bodyChars body)).mono parentReference_onlyAtOpenings
          rw [fill_literal, ← ih]
          exact Text.replaceSpans_append_of_skips skipped
      | parent d =>
          have found := parentReference_bare d (bodyChars body)
          rw [fill_parent, ← ih]
          exact Text.replaceSpans_append_of_found found d.isDirective.ne_nil

/-- Placeholders in a body are replaced one by one; the content that is put in is not looked at again. -/
theorem replaceAll_fill (previous : List Char) (body : List BodyPart) :
    Text.replaceAll placeholder previous (fill placeholder body) = fill previous body := by
  induction body with
  | nil => rfl
  | cons part body ih =>
      cases part with
      | literal piece =>
          have skipped := (skips_literal piece (fill placeholder body)).mono
            placeholder_onlyAtOpenings
          rw [fill_literal, fill_literal, ← ih]
          exact Text.replaceAll_append_of_skips placeholder_ne_nil previous skipped
      | parent d =>
          rw [fill_parent, fill_parent, ← ih]
          exact Text.replaceAll_append_mark placeholder_ne_nil previous _

/-- A declaration fills its body with the previous content, also where the body has no placeholder. -/
theorem extend_fill (previous : String) (body : List BodyPart) :
    Blocks.extend Blocks.parentPlaceholder (String.ofList (fill placeholder body)) previous =
      String.ofList (fill previous.toList body) := by
  rw [Blocks.extend_eq_replaceAll placeholder_ne_nil, String.toList_ofList]
  exact congrArg String.ofList (replaceAll_fill previous.toList body)

/-! ## Contents -/

/-- The blocks hold what some declarations come to. -/
def Holds (blocks : Blocks) (declarations : List (Name × List BodyPart)) : Prop :=
  ∀ name, blocks.get? (String.ofList name) =
    if bodiesOf name declarations = [] then none
    else some (String.ofList (contentOf name declarations))

/-- A further declaration adds a body to its own block only. -/
theorem bodiesOf_append (name : List Char) (done : List (Name × List BodyPart)) (key : Name)
    (body : List BodyPart) :
    bodiesOf name (done ++ [(key, body)]) =
      bodiesOf name done ++ if key.chars = name then [body] else [] := by
  by_cases same : key.chars = name
  · simp [bodiesOf, same]
  · simp [bodiesOf, same]

/-- A block that is not declared has the empty content. -/
theorem Holds.previous {blocks : Blocks} {done : List (Name × List BodyPart)}
    (h : Holds blocks done) (name : List Char) :
    (blocks.get? (String.ofList name)).getD "" = String.ofList (contentOf name done) := by
  rw [h name]
  split
  · next empty => simp [contentOf, empty]
  · rfl

/-- One more declaration goes on with what its name had, and leaves the other names alone. -/
theorem Holds.declare {blocks : Blocks} {done : List (Name × List BodyPart)}
    (h : Holds blocks done) (key : Name) (body : List BodyPart) :
    Holds (blocks.declare Blocks.parentPlaceholder (String.ofList key.chars)
      (String.ofList (fill placeholder body))) (done ++ [(key, body)]) := by
  intro name
  unfold Blocks.declare
  rw [h.previous, extend_fill, String.toList_ofList, bodiesOf_append]
  by_cases same : key.chars = name
  · have content : contentOf name (done ++ [(key, body)]) = fill (contentOf name done) body := by
      simp [contentOf, bodiesOf_append, same]
    rw [content, same, Blocks.get?_set_self]
    simp
  · have content : contentOf name (done ++ [(key, body)]) = contentOf name done := by
      simp [contentOf, bodiesOf_append, same]
    have different : String.ofList name ≠ String.ofList key.chars := by
      intro eq
      exact same (String.ofList_injective eq).symm
    rw [content, Blocks.get?_set_of_ne different, h name]
    simp [same]

/-- Declarations one after another come to the fold of their bodies. -/
theorem holds_declareAll {blocks : Blocks} {done : List (Name × List BodyPart)}
    (h : Holds blocks done) (more : List (Name × List BodyPart)) :
    Holds (declareAll blocks (more.map fun d => (d.1.chars, bodyChars d.2))) (done ++ more) := by
  induction more generalizing blocks done with
  | nil => simpa [declareAll] using h
  | cons d more ih =>
      have step := h.declare d.1 d.2
      rw [← canonicalBody_bodyChars] at step
      -- The invariant is `Holds`, for the declarations gone through so far.
      have rest := ih step
      simpa [declareAll] using rest

/-! ## Contents open no directive -/

/-- No two braces open in the text, whatever stands behind it. -/
def Quiet (cs : List Char) : Prop := ∀ rest, Skips (after? interpolationOpen) cs rest

/-- A body with quiet content put in is quiet. -/
theorem quiet_fill {previous : List Char} (quiet : Quiet previous) (body : List BodyPart) :
    Quiet (fill previous body) := by
  intro rest
  induction body with
  | nil => trivial
  | cons part body ih =>
      cases part with
      | literal piece => exact Text.skips_append.2 ⟨skips_literal piece _, ih⟩
      | parent d => exact Text.skips_append.2 ⟨quiet _, ih⟩

/-- What is shown holds only literal text and references. -/
def Shown.Quiet : Shown → Prop
  | .text cs => Directive.Quiet cs
  | .reference _ => True

theorem Quiet.still {cs : List Char} (quiet : Quiet cs) : Still cs :=
  fun rest => (quiet rest).mono (head?_onlyAtOpenings "block")

theorem Shown.Quiet.still {part : Shown} (quiet : part.Quiet) : part.Still := by
  cases part with
  | text cs => exact Directive.Quiet.still quiet
  | reference r => trivial

/-- Nothing but literal text and references is shown. -/
theorem quiet_shown (parts : List Part) : ∀ part ∈ shown parts, part.Quiet := by
  intro part member
  rcases List.mem_filterMap.1 member with ⟨origin, _, eq⟩
  cases origin with
  | literal piece =>
      cases eq
      exact skips_literal piece
  | reference r =>
      cases eq
      trivial
  | declaration opening body closing => cases eq

/-! ## Replacing references -/

/-- A part after the references to one block were replaced. -/
def Shown.substitute (name content : String) : Shown → Shown
  | .text cs => .text cs
  | .reference r =>
      if String.ofList r.name.chars = name then .text content.toList else .reference r

/-- A part after the references to some blocks were replaced. -/
def Shown.substituteAll (entries : List (String × String)) : Shown → Shown
  | .text cs => .text cs
  | .reference r =>
      match entries.lookup (String.ofList r.name.chars) with
      | some content => .text content.toList
      | none => .reference r

/-- The entries are named by words, and no content opens a directive. -/
def Sound (entries : List (String × String)) : Prop :=
  ∀ entry ∈ entries, (∃ name : Name, entry.1 = String.ofList name.chars) ∧
    Quiet entry.2.toList

/-- Replacing the references to one block. -/
theorem substitute_shownChars (name : Name) (content : String) {parts : List Shown}
    (quiet : ∀ part ∈ parts, part.Quiet) :
    substitute (shownChars parts) (String.ofList name.chars, content) =
      shownChars (parts.map (Shown.substitute (String.ofList name.chars) content)) := by
  have still : ∀ part ∈ parts, part.Still := fun part member => (quiet part member).still
  have expanded := substitute_expand name [.text content.toList] still
  have text : shownChars [.text content.toList] = content.toList := by
    simp [shownChars, Shown.chars]
  -- A content that is text takes the place of a reference as one part.
  have single (part : Shown) : part.expand name.chars [.text content.toList] =
      [part.substitute (String.ofList name.chars) content] := by
    cases part with
    | text cs => rfl
    | reference r =>
        by_cases same : r.name.chars = name.chars
        · simp [Shown.expand, Shown.substitute, same]
        · simp [Shown.expand, Shown.substitute, same, String.ofList_inj]
  rw [text, String.ofList_toList] at expanded
  rw [expanded, List.map_eq_flatMap]
  congr 2
  funext part
  exact single part

/-- A quiet content brings in no reference. -/
theorem quiet_substitute {name content : String} (quietContent : Quiet content.toList)
    {part : Shown} (quiet : part.Quiet) : (part.substitute name content).Quiet := by
  cases part with
  | text cs => exact quiet
  | reference r =>
      by_cases same : String.ofList r.name.chars = name
      · have eq : (Shown.reference r).substitute name content = .text content.toList := if_pos same
        rw [eq]
        exact quietContent
      · have eq : (Shown.reference r).substitute name content = .reference r := if_neg same
        rw [eq]
        trivial

/-- Replacing the blocks one after another comes to replacing them all at once. -/
theorem foldl_substitute {entries : List (String × String)} (sound : Sound entries)
    {parts : List Shown} (quiet : ∀ part ∈ parts, part.Quiet) :
    entries.foldl substitute (shownChars parts) =
      shownChars (parts.map (Shown.substituteAll entries)) := by
  induction entries generalizing parts with
  | nil =>
      have same : parts.map (Shown.substituteAll []) = parts.map id := by
        refine List.map_congr_left fun part _ => ?_
        cases part <;> rfl
      rw [List.foldl_nil, same, List.map_id]
  | cons entry entries ih =>
      rcases sound entry List.mem_cons_self with ⟨⟨name, named⟩, quietContent⟩
      have soundRest : Sound entries := fun later member =>
        sound later (List.mem_cons_of_mem entry member)
      have first : substitute (shownChars parts) entry =
          shownChars (parts.map (Shown.substitute entry.1 entry.2)) := by
        have step := substitute_shownChars name entry.2 quiet
        rwa [← named] at step
      -- Quiet parts stay quiet, so the later names meet no directive but the references left.
      have quietFirst : ∀ part ∈ parts.map (Shown.substitute entry.1 entry.2), part.Quiet := by
        intro part member
        rcases List.mem_map.1 member with ⟨origin, old, rfl⟩
        exact quiet_substitute quietContent (quiet origin old)
      -- The first entry for a name is the one that counts: what it replaced is text from then on.
      have both (part : Shown) : (part.substitute entry.1 entry.2).substituteAll entries =
          part.substituteAll (entry :: entries) := by
        rcases entry with ⟨key, content⟩
        cases part with
        | text cs => rfl
        | reference r =>
            by_cases same : String.ofList r.name.chars = key
            · simp [Shown.substitute, Shown.substituteAll, same]
            · simp [Shown.substitute, Shown.substituteAll, same, List.lookup_cons,
                beq_eq_false_iff_ne.2 same]
      rw [List.foldl_cons, first, ih soundRest quietFirst, List.map_map]
      congr 1
      exact List.map_congr_left fun part _ => both part

/-! ## Blocks of a template -/

theorem mem_set {key content : String} {entry : String × String}
    {entries : List (String × String)} (member : entry ∈ Entries.set key content entries) :
    entry ∈ entries ∨ entry = (key, content) := by
  induction entries with
  | nil => simpa [Entries.set] using member
  | cons first entries ih =>
      rcases first with ⟨k, c⟩
      by_cases same : k = key
      · have eq : Entries.set key content ((k, c) :: entries) = (k, content) :: entries := by
          simp [Entries.set, same]
        rw [eq] at member
        rcases List.mem_cons.1 member with rfl | later
        · exact Or.inr (by rw [same])
        · exact Or.inl (List.mem_cons_of_mem _ later)
      · have eq : Entries.set key content ((k, c) :: entries) =
            (k, c) :: Entries.set key content entries := by
          simp [Entries.set, same]
        rw [eq] at member
        rcases List.mem_cons.1 member with rfl | later
        · exact Or.inl List.mem_cons_self
        · exact (ih later).imp (List.mem_cons_of_mem _) id

/-- The contents of blocks are quiet. -/
theorem Sound.quiet_lookup {entries : List (String × String)} (sound : Sound entries)
    {key content : String} (found : entries.lookup key = some content) :
    Quiet content.toList := by
  rcases List.lookup_eq_some_iff.1 found with ⟨before, after, split, _⟩
  exact (sound (key, content) (by simp [split])).2

/-- A declaration keeps the blocks sound. -/
theorem Sound.declare {blocks : Blocks} (sound : Sound blocks.entries) (key : Name)
    (body : List BodyPart) :
    Sound (blocks.declare Blocks.parentPlaceholder (String.ofList key.chars)
      (String.ofList (fill placeholder body))).entries := by
  -- A name without a content counts as the empty content, which is quiet.
  have quietPrevious : Quiet ((blocks.get? (String.ofList key.chars)).getD "").toList := by
    cases found : blocks.get? (String.ofList key.chars) with
    | none => exact fun _ => trivial
    | some content => exact sound.quiet_lookup found
  intro entry member
  unfold Blocks.declare at member
  rw [extend_fill] at member
  rcases mem_set member with old | new
  · exact sound entry old
  · rw [new]
    refine ⟨⟨key, rfl⟩, ?_⟩
    rw [String.toList_ofList]
    exact quiet_fill quietPrevious body

/-- So do all of them. -/
theorem sound_declareAll {blocks : Blocks} (sound : Sound blocks.entries)
    (more : List (Name × List BodyPart)) :
    Sound (declareAll blocks (more.map fun d => (d.1.chars, bodyChars d.2))).entries := by
  induction more generalizing blocks with
  | nil => exact sound
  | cons d more ih =>
      have step := sound.declare d.1 d.2
      rw [← canonicalBody_bodyChars] at step
      exact ih step

/-! ## The two passes together -/

/-- When all blocks are done, each reference shows the final content of its name. -/
theorem Holds.leftText {blocks : Blocks} {declarations : List (Name × List BodyPart)}
    (h : Holds blocks declarations) (parts : List Shown) :
    (parts.map (Shown.substituteAll blocks.entries)).flatMap Shown.leftText =
      resolved declarations parts := by
  unfold resolved
  rw [List.flatMap_map]
  congr 1
  funext part
  cases part with
  | text cs => rfl
  | reference r =>
      have found : blocks.entries.lookup (String.ofList r.name.chars) = _ := h r.name.chars
      by_cases empty : bodiesOf r.name.chars declarations = []
      · simp [Shown.substituteAll, found, empty, Shown.leftText, contentOf]
      · simp [Shown.substituteAll, found, empty, Shown.leftText]

/-- What is left are the references to no block. -/
theorem Holds.leftNames {blocks : Blocks} {declarations : List (Name × List BodyPart)}
    (h : Holds blocks declarations) (parts : List Shown) :
    (parts.map (Shown.substituteAll blocks.entries)).filterMap Shown.leftName? =
      undeclared declarations parts := by
  unfold undeclared
  rw [List.filterMap_map]
  congr 1
  funext part
  cases part with
  | text cs => rfl
  | reference r =>
      have found : blocks.entries.lookup (String.ofList r.name.chars) = _ := h r.name.chars
      by_cases empty : bodiesOf r.name.chars declarations = []
      · simp [Shown.substituteAll, found, empty, Shown.leftName?]
      · simp [Shown.substituteAll, found, empty, Shown.leftName?]

/-- The passes of all blocks bring in no reference. -/
theorem quiet_substituteAll {entries : List (String × String)} (sound : Sound entries)
    {part : Shown} (quiet : part.Quiet) : (part.substituteAll entries).Quiet := by
  cases part with
  | text cs => exact quiet
  | reference r =>
      cases found : entries.lookup (String.ofList r.name.chars) with
      | none => simp [Shown.substituteAll, found, Shown.Quiet]
      | some content =>
          have quietContent := sound.quiet_lookup found
          simpa [Shown.substituteAll, found, Shown.Quiet] using quietContent

/-- A template after both passes: its blocks taken out, and its references resolved by them. -/
def inherit (template : String) : String × List String :=
  resolveBlocks (extractBlocks template {}).1 (extractBlocks template {}).2

/-- The two passes give what is resolved, and the undeclared names. -/
theorem inherit_partChars (parts : List Part) :
    inherit (String.ofList (partChars parts)) =
      (String.ofList (resolved (declared parts) (shown parts)),
        (undeclared (declared parts) (shown parts)).map String.ofList) := by
  have start : Holds {} [] := fun _ => rfl
  have nothing : Sound ({} : Blocks).entries := fun _ member => by cases member
  have holds := holds_declareAll start (declared parts)
  have sound := sound_declareAll nothing (declared parts)
  rw [← declarations_partChars, List.nil_append] at holds
  rw [← declarations_partChars] at sound
  have quiet := quiet_shown parts
  -- No content brings a reference of its own: what is left are references without a
  -- declaration.
  have still : ∀ part ∈ (shown parts).map (Shown.substituteAll
      (declareAll {} (declarations (partChars parts))).entries), part.Still := by
    intro part member
    rcases List.mem_map.1 member with ⟨origin, old, rfl⟩
    exact (quiet_substituteAll sound (quiet origin old)).still
  have text := replaceSpans_anyReference still
  have names := captures_anyReference still
  rw [holds.leftText] at text
  rw [holds.leftNames] at names
  unfold Text.replaceSpans at text
  simp only [inherit, extractBlocks, resolveBlocks, String.toList_ofList, replaceSpans_setBlock,
    foldl_substitute sound quiet, text, names]

/-- Taking out the declarations and resolving the references gives what is shown, each reference
replaced by the fold of the bodies of its name, and the names no declaration is for. Templates with
the same declarations and the same shown parts come to the same, wherever their declarations stand. -/
theorem inherit_fold_substitute (parts : List Part) :
    inherit (String.ofList (partChars parts)) =
      (String.ofList (resolved (declared parts) (shown parts)),
        (undeclared (declared parts) (shown parts)).map String.ofList) ∧
    ∀ parts', declared parts' = declared parts → shown parts' = shown parts →
      inherit (String.ofList (partChars parts')) = inherit (String.ofList (partChars parts)) := by
  refine ⟨inherit_partChars parts, ?_⟩
  intro parts' sameDeclarations sameShown
  rw [inherit_partChars, inherit_partChars, sameDeclarations, sameShown]

/-- A title that a later declaration extends, after a reference to it and one to no block. -/
def titlePage : List Part :=
  let title : Name := .single 't' rfl
  let footer : Name := .single 'f' rfl
  [.reference (.plain .block title), .literal ⟨['|'], by decide, by decide⟩,
    .reference (.plain .block footer),
    .declaration (.plain .setBlock title) [.literal ⟨['A'], by decide, by decide⟩]
      (.plain .endSetBlock),
    .declaration (.plain .setBlock title)
      [.parent (.plain .parent), .literal ⟨['B'], by decide, by decide⟩, .parent (.plain .parent)]
      (.plain .endSetBlock)]

/-- Rotating the parts leaves the order of the declarations and what is shown. -/
theorem inherit_titlePage :
    declared (titlePage.rotate 3) = declared titlePage ∧
      shown (titlePage.rotate 3) = shown titlePage ∧
      inherit (String.ofList (partChars titlePage)) = ("ABA|", ["f"]) ∧
      inherit (String.ofList (partChars (titlePage.rotate 3))) = ("ABA|", ["f"]) := by
  have page := inherit_fold_substitute titlePage
  have declarations : declared (titlePage.rotate 3) = declared titlePage := rfl
  have parts : shown (titlePage.rotate 3) = shown titlePage := rfl
  have text : inherit (String.ofList (partChars titlePage)) = ("ABA|", ["f"]) := page.1.trans rfl
  exact ⟨declarations, parts, text, (page.2 _ declarations parts).trans text⟩

end Directive
end TemplateEngine
