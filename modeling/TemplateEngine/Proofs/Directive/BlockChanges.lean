import Mathlib.Data.Finset.Card
import TemplateEngine.Directive.Blocks
import TemplateEngine.Proofs.Entries
import TemplateEngine.Proofs.Text.Separation

/-!
# Changes of blocks

Blocks are changed by setting contents and by declarations. Whatever is done to blocks that were empty at
first, every name has one entry, at the place of its first mention, and its content is what the changes of
that name come to, as if there were no others.
-/

namespace TemplateEngine
namespace Blocks

/-! ## Changes -/

/-- What can be done to blocks. -/
inductive Change
  | set (name content : String)
  /-- A declaration. Its placeholder is never empty. -/
  | declare (placeholder name body : String) (marked : placeholder ≠ "")

namespace Change

def name : Change → String
  | .set name _ => name
  | .declare _ name _ _ => name

def apply (blocks : Blocks) : Change → Blocks
  | .set name content => blocks.set name content
  | .declare placeholder name body _ => blocks.declare placeholder name body

/-- A change gives a block with the previous content a new one. Setting a content gives it. A declaration
gives its body with the previous content in place of every placeholder. -/
inductive Gives (previous : String) : Change → String → Prop
  | set {name content} : Gives previous (.set name content) content
  | declare {placeholder name body marked parts}
      (separated : Text.Separates placeholder.toList body.toList parts) :
      Gives previous (.declare placeholder name body marked)
        (String.ofList (previous.toList.intercalate parts))

def content (previous : String) : Change → String
  | .set _ content => content
  | .declare placeholder _ body _ => extend placeholder body previous

end Change

def applyAll (blocks : Blocks) (changes : List Change) : Blocks :=
  changes.foldl Change.apply blocks

def changesOf (name : String) (changes : List Change) : List Change :=
  changes.filter fun change => change.name = name

/-- Changes of one block, one after another, take its content to another one. -/
inductive Lead : String → List Change → String → Prop
  | nil {content} : Lead content [] content
  | cons {previous change next changes content} (first : Change.Gives previous change next)
      (follow : Lead next changes content) : Lead previous (change :: changes) content

/-! ## What one change gives -/

/-- Without a placeholder a declaration keeps its body, which is what replacing would give. -/
theorem extend_eq_replaceAll {placeholder : String} (marked : placeholder.toList ≠ [])
    (body previous : String) :
    extend placeholder body previous =
      String.ofList (Text.replaceAll placeholder.toList previous.toList body.toList) := by
  unfold extend
  split
  · rfl
  · next absent =>
      rw [Text.replaceAll_of_not_occurs marked _ (Bool.eq_false_iff.2 absent), String.ofList_toList]

/-- What a change gives is the content that it computes. -/
theorem gives_iff {previous content : String} {change : Change} :
    change.Gives previous content ↔ content = change.content previous := by
  constructor
  · intro gives
    cases gives with
    | set => rfl
    | @declare placeholder name body marked parts separated =>
        have nonempty : placeholder.toList ≠ [] := by simpa using marked
        rw [Change.content, extend_eq_replaceAll nonempty, separated.replaceAll nonempty]
  · rintro rfl
    cases change with
    | set name content => exact .set
    | declare placeholder name body marked =>
        have nonempty : placeholder.toList ≠ [] := by simpa using marked
        rcases Text.exists_separates nonempty body.toList with ⟨parts, separated⟩
        rw [Change.content, extend_eq_replaceAll nonempty, separated.replaceAll nonempty]
        exact .declare separated

/-- Changes lead to the fold of their contents. -/
theorem lead_iff {previous content : String} {changes : List Change} :
    Lead previous changes content ↔ content = changes.foldl Change.content previous := by
  induction changes generalizing previous with
  | nil =>
      constructor
      · rintro ⟨⟩
        rfl
      · rintro rfl
        exact .nil
  | cons change changes ih =>
      constructor
      · intro lead
        cases lead with
        | cons first follow =>
            rw [List.foldl_cons, ← gives_iff.1 first]
            exact ih.1 follow
      · intro eq
        exact .cons (gives_iff.2 rfl) (ih.2 eq)

/-! ## What one change leaves -/

variable {done : List Change} {blocks : Blocks}

def names (blocks : Blocks) : List String :=
  blocks.entries.map Prod.fst

theorem has_iff_mem_names {name : String} : blocks.has name = true ↔ name ∈ blocks.names :=
  Entries.lookup_isSome_iff

/-- A new name comes last, and an old one keeps its place. -/
theorem names_set (name content : String) (blocks : Blocks) :
    (blocks.set name content).names =
      if blocks.has name then blocks.names else blocks.names ++ [name] :=
  Entries.keys_set name content blocks.entries

/-- Each change sets a content, which depends on what its block had and on nothing else. -/
theorem apply_eq_set (blocks : Blocks) (change : Change) :
    change.apply blocks =
      blocks.set change.name (change.content ((blocks.get? change.name).getD "")) := by
  cases change <;> rfl

/-- Blocks record some changes: every changed name has one entry, in the order of the first mentions, and
its content is what the changes of that name come to. -/
structure Records (done : List Change) (blocks : Blocks) : Prop where
  names_eq : blocks.names = (done.map Change.name).eraseDups
  distinct : blocks.names.Nodup
  get?_eq : ∀ name, blocks.get? name =
    if name ∈ done.map Change.name then some ((changesOf name done).foldl Change.content "")
    else none

theorem records_nil : Records [] {} where
  names_eq := rfl
  distinct := .nil
  get?_eq _ := rfl

/-- A change of a block is the last one of that block. -/
theorem changesOf_concat_self (done : List Change) (change : Change) :
    changesOf change.name (done ++ [change]) = changesOf change.name done ++ [change] := by
  simp [changesOf]

/-- It is none of another block. -/
theorem changesOf_concat_of_ne {name : String} {change : Change} (different : name ≠ change.name)
    (done : List Change) : changesOf name (done ++ [change]) = changesOf name done := by
  simp [changesOf, Ne.symm different]

/-- A name that was never changed has no changes, so it begins with the empty content. -/
theorem Records.previous (h : Records done blocks) (name : String) :
    (blocks.get? name).getD "" = (changesOf name done).foldl Change.content "" := by
  rw [h.get?_eq]
  split
  · rfl
  · next unmentioned =>
      have none : changesOf name done = [] := by
        refine List.filter_eq_nil_iff.2 fun change member same => unmentioned ?_
        exact List.mem_map.2 ⟨change, member, of_decide_eq_true same⟩
      rw [none]
      rfl

theorem Records.has_iff (h : Records done blocks) {name : String} :
    blocks.has name = true ↔ name ∈ done.map Change.name := by
  rw [has_iff_mem_names, h.names_eq, List.mem_eraseDups]

/-- One more change goes on with what the changes of its name came to, and leaves other blocks alone. -/
theorem Records.apply (h : Records done blocks) (change : Change) :
    Records (done ++ [change]) (change.apply blocks) := by
  rw [apply_eq_set, h.previous]
  constructor
  case names_eq =>
    rw [names_set, List.map_append, List.map_singleton, Entries.eraseDups_concat, ← h.names_eq]
    exact if_congr h.has_iff rfl rfl
  case distinct => exact Entries.nodup_set _ _ h.distinct
  case get?_eq =>
    intro name
    by_cases same : name = change.name
    · rw [same, get?_set_self, changesOf_concat_self]
      simp
    · rw [get?_set_of_ne same, h.get?_eq, changesOf_concat_of_ne same]
      simp [same]

/-- Blocks that record some changes record the further ones that are applied to them. -/
theorem records_applyAll (h : Records done blocks) (changes : List Change) :
    Records (done ++ changes) (applyAll blocks changes) := by
  induction changes generalizing done blocks with
  | nil => simpa [applyAll] using h
  | cons change changes ih =>
      -- The invariant is `Records`, for the changes gone through so far.
      have rest := ih (h.apply change)
      simpa [applyAll] using rest

/-! ## After any changes -/

/-- The changes of other names have no part in what a name comes to. -/
theorem get?_applyAll_changesOf (changes : List Change) (name : String) :
    (applyAll {} (changesOf name changes)).get? name = (applyAll {} changes).get? name := by
  have all := (records_applyAll records_nil changes).get?_eq name
  have own := (records_applyAll records_nil (changesOf name changes)).get?_eq name
  rw [List.nil_append] at all own
  have same : changesOf name (changesOf name changes) = changesOf name changes := by
    simp [changesOf]
  have mentioned : name ∈ (changesOf name changes).map Change.name ↔
      name ∈ changes.map Change.name := by
    simp [changesOf]
  rw [all, own, same]
  exact if_congr mentioned rfl rfl

/-- After any changes of blocks that were empty at first, the names are distinct and stand in the order of
their first mentions; a look-up finds exactly the entries, and there are as many as there are names; and
the content of a name is what its own changes lead to from the empty content. -/
theorem applyAll_representation (changes : List Change) :
    ((applyAll {} changes).names.Nodup ∧
        (applyAll {} changes).names = (changes.map Change.name).eraseDups) ∧
      ((∀ name content, (applyAll {} changes).get? name = some content ↔
            (name, content) ∈ (applyAll {} changes).entries) ∧
        (∀ name, (applyAll {} changes).has name = true ↔
          ∃ content, (applyAll {} changes).get? name = some content) ∧
        (applyAll {} changes).size = (applyAll {} changes).names.toFinset.card) ∧
      ∀ name,
        (∀ content, (applyAll {} changes).get? name = some content ↔
          name ∈ changes.map Change.name ∧ Lead "" (changesOf name changes) content) ∧
        (applyAll {} changes).get? name = (applyAll {} (changesOf name changes)).get? name := by
  have records : Records changes (applyAll {} changes) := by
    simpa using records_applyAll records_nil changes
  refine ⟨⟨records.distinct, records.names_eq⟩, ⟨?get, ?has, ?size⟩, fun name => ⟨?content, ?own⟩⟩
  case get => exact fun name content => Entries.lookup_eq_some_iff_mem records.distinct
  case has => exact fun name => Option.isSome_iff_exists
  case size => rw [List.toFinset_card_of_nodup records.distinct, names, List.length_map, Blocks.size]
  case content =>
    intro content
    rw [records.get?_eq, lead_iff]
    by_cases mentioned : name ∈ changes.map Change.name
    · simp only [mentioned, if_true, true_and, Option.some.injEq, eq_comm]
    · simp [mentioned]
  case own => exact (get?_applyAll_changesOf changes name).symm

/-- What was put in is not looked at again, though it holds the placeholder. -/
example : (applyAll {} [.set "nav" "[p]", .set "title" "", .declare "p" "nav" "p, p" (by decide)]).get?
    "nav" = some "[p], [p]" := by decide

end Blocks
end TemplateEngine
