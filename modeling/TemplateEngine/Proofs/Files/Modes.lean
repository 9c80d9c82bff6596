import TemplateEngine.Proofs.Files.IsTree

/-!
# Modes — trees that differ in permissions

Permissions are set and never asked for: a tree whose nodes have other permissions answers each
question about its paths alike.
-/

namespace TemplateEngine
namespace Files

/-- Two trees differ in permissions at most. -/
structure DifferInModes (files files' : Files) : Prop where
  nodes : ∀ place,
    (files'.node? place).map (Node.withMode 0) = (files.node? place).map (Node.withMode 0)
  workingDirectory : files'.workingDirectory = files.workingDirectory

theorem Node.withMode_withMode (mode mode' : Nat) (node : Node) :
    (node.withMode mode').withMode mode = node.withMode mode := by
  cases node <;> rfl

theorem DifferInModes.refl (files : Files) : DifferInModes files files :=
  ⟨fun _ => rfl, rfl⟩

theorem DifferInModes.symm {files files' : Files} (h : DifferInModes files files') :
    DifferInModes files' files :=
  ⟨fun place => (h.nodes place).symm, h.workingDirectory.symm⟩

theorem DifferInModes.trans {files files' files'' : Files} (first : DifferInModes files files')
    (second : DifferInModes files' files'') : DifferInModes files files'' :=
  ⟨fun place => (second.nodes place).trans (first.nodes place),
    second.workingDirectory.trans first.workingDirectory⟩

/-- A new mode changes modes only. -/
theorem differInModes_setMode (mode : Nat) (path : String) (files : Files) :
    DifferInModes files (files.setMode mode path) := by
  unfold setMode adjust
  split
  · exact .refl files
  · next place _ =>
    split
    · exact .refl files
    · next node found =>
      refine ⟨fun other => ?_, rfl⟩
      by_cases same : other = place
      · by_cases root : place = []
        · simp [same, root, node?]
        · rw [same, node?_put_self root, found]
          simp [Node.withMode_withMode]
      · rw [node?_put_of_ne same]

section DifferInModes

variable {files files' : Files} (h : DifferInModes files files')
include h

/-- A change of modes keeps the kinds. -/
theorem DifferInModes.sameKinds : SameKinds files files' := by
  intro place
  have kinds : ∀ node : Node, kindOf node = kindOf (node.withMode 0) := by
    intro node
    cases node <;> rfl
  have same := congrArg (Option.map kindOf) (h.nodes place)
  simp only [Option.map_map] at same
  have forget : kindOf ∘ Node.withMode 0 = kindOf := funext fun node => (kinds node).symm
  rwa [forget] at same

/-- There is the same at a location, but for its permissions. -/
theorem DifferInModes.node? {place : Location} {node : Node} (found : files.node? place = some node) :
    ∃ mode, files'.node? place = some (node.withMode mode) := by
  have same := h.nodes place
  rw [found] at same
  rcases Option.map_eq_some_iff.1 same with ⟨node', found', bare⟩
  cases node' with
  | file content time mode =>
      refine ⟨mode, ?_⟩
      rw [found', ← Node.withMode_withMode mode 0, ← bare]
      rfl
  | directory time mode =>
      refine ⟨mode, ?_⟩
      rw [found', ← Node.withMode_withMode mode 0, ← bare]
      rfl
  | link target =>
      refine ⟨0, ?_⟩
      rw [found', ← bare]
      rfl

theorem DifferInModes.origin_eq (path : String) : files'.origin path = files.origin path := by
  simp only [origin, h.workingDirectory]

/-- Paths resolve as before. -/
theorem DifferInModes.resolve_eq (path : String) : files'.resolve path = files.resolve path := by
  simp only [resolve, h.origin_eq, h.sameKinds.follow_eq]

theorem DifferInModes.identity_eq (path : String) : files'.identity path = files.identity path := by
  simp only [identity, h.resolve_eq]

/-- Texts are read as before. -/
theorem DifferInModes.read_eq (path : String) : files'.read path = files.read path := by
  unfold read
  rw [h.resolve_eq]
  split
  · next place _ =>
    unfold textAt
    cases found : files.node? place with
    | none => rw [h.sameKinds.nothing found]
    | some node =>
        rcases h.node? found with ⟨mode, found'⟩
        rw [found']
        cases node with
        | file content => cases content <;> rfl
        | directory => rfl
        | link => rfl
  · rfl

/-- A path leads to nothing in either tree, or to the same but for its permissions. -/
theorem DifferInModes.at? (path : String) :
    (files.at? path = none ∧ files'.at? path = none) ∨
      ∃ node mode, files.at? path = some node ∧ files'.at? path = some (node.withMode mode) := by
  unfold Files.at?
  rw [h.resolve_eq]
  cases files.resolve path with
  | error e => exact Or.inl ⟨rfl, rfl⟩
  | ok place =>
      cases found : files.node? place with
      | none => exact Or.inl ⟨found, h.sameKinds.nothing found⟩
      | some node =>
          rcases h.node? found with ⟨mode, found'⟩
          exact Or.inr ⟨node, mode, found, found'⟩

theorem DifferInModes.exists?_eq (path : String) : files'.exists? path = files.exists? path := by
  unfold exists?
  rcases h.at? path with ⟨nothing, nothing'⟩ | ⟨node, mode, found, found'⟩
  · rw [nothing, nothing']
  · rw [found, found']
    rfl

theorem DifferInModes.isFile_eq (path : String) : files'.isFile path = files.isFile path := by
  unfold isFile
  rcases h.at? path with ⟨nothing, nothing'⟩ | ⟨node, mode, found, found'⟩
  · rw [nothing, nothing']
  · rw [found, found']
    cases node <;> rfl

theorem DifferInModes.isDirectory_eq (path : String) :
    files'.isDirectory path = files.isDirectory path := by
  unfold isDirectory
  rcases h.at? path with ⟨nothing, nothing'⟩ | ⟨node, mode, found, found'⟩
  · rw [nothing, nothing']
  · rw [found, found']
    cases node <;> rfl

theorem DifferInModes.time?_eq (path : String) : files'.time? path = files.time? path := by
  unfold time?
  rcases h.at? path with ⟨nothing, nothing'⟩ | ⟨node, mode, found, found'⟩
  · rw [nothing, nothing']
  · rw [found, found']
    cases node <;> rfl

/-- A tree stays one. -/
theorem DifferInModes.isTree (tree : files.IsTree) : files'.IsTree where
  inDirectory := by
    intro place name there
    rcases Option.isSome_iff_exists.1 there with ⟨node, found⟩
    rcases h.symm.node? found with ⟨mode, found'⟩
    exact h.sameKinds.keepsKinds.directory (tree.inDirectory place name (by simp [found']))
  workingDirectory := by
    rw [h.workingDirectory]
    exact h.sameKinds.keepsKinds.directory tree.workingDirectory

end DifferInModes

end Files
end TemplateEngine
