import TemplateEngine.Proofs.Files.Filing

/-!
# Changes — what filing and erasing leave alone

A file that is filed or erased stands on the way to no directory, and neither does a link that leads
to a file. So paths to directories lead where they did, and of the entries of a directory only the one
that is meant changes.
-/

namespace TemplateEngine
namespace Files

variable {files files' : Files} {dir name : String} {home place : Location}

/-! ## Directories are kept -/

/-- Directories are found where they were. -/
theorem Keeps.resolve (keeps : Keeps files files')
    (working : files'.workingDirectory = files.workingDirectory)
    (resolved : files.resolve dir = .ok home) (directory : files.HasDirectory home) :
    files'.resolve dir = .ok home :=
  resolve_of_carried working (fun _ _ _ leads => keeps.leads leads directory) resolved

theorem Keeps.isDirectory (keeps : Keeps files files')
    (working : files'.workingDirectory = files.workingDirectory)
    (directory : files.isDirectory dir = true) : files'.isDirectory dir = true := by
  rcases isDirectory_iff.1 directory with ⟨home, resolved, home_⟩
  exact isDirectory_iff.2
    ⟨home, keeps.resolve working resolved home_, keeps.directories home home_⟩

/-- A node put where neither a directory nor a link is keeps directories and links. -/
theorem keeps_put (notDirectory : ¬ files.HasDirectory place)
    (notLink : ∀ target, files.node? place ≠ some (.link target)) (node : Node) :
    Keeps files (files.put place node) where
  directories := by
    intro other directory
    exact (hasDirectory_put_of_ne (ne_of_notDirectory notDirectory directory)).2 directory
  links := by
    intro above other target there
    refine .inl ?_
    rw [node?_put_of_ne]
    · exact there
    · rintro rfl
      exact notLink target there

/-- So does the removal of a file, or of a link whose end is not a directory. -/
theorem keeps_erase (notDirectory : ¬ files.HasDirectory (home ++ [name]))
    (link : ∀ target, files.node? (home ++ [name]) = some (.link target) →
      ∃ n goal, Leads files (linkOrigin home target) (Path.parts target) n goal ∧
        ¬ files.HasDirectory goal) :
    Keeps files (files.erase (home ++ [name])) where
  directories := by
    intro other directory
    exact (hasDirectory_erase_of_ne (ne_of_notDirectory notDirectory directory)).2 directory
  links := by
    intro above other target there
    by_cases same : above ++ [other] = home ++ [name]
    · have sameAbove : above = home := by simpa using congrArg List.dropLast same
      rw [same] at there
      exact .inr (sameAbove ▸ link target there)
    · exact .inl ((node?_erase_of_ne same files).trans there)

/-! ## Removing a file -/

/-- A path names a file if it resolves to one. -/
theorem isFile_iff {path : String} :
    files.isFile path = true ↔ ∃ place content time mode, files.resolve path = .ok place ∧
      files.node? place = some (.file content time mode) := by
  unfold isFile at?
  cases files.resolve path with
  | error e => simp
  | ok place =>
      cases found : files.node? place with
      | none => simp [found]
      | some node => cases node <;> simp [found]

/-- Removing the file at a path takes away one entry and no way to a directory. -/
theorem remove_eq_ok {path : String} (isFile : files.isFile path = true)
    (removed : files.remove path = .ok files') :
    ∃ home name, files' = files.erase (home ++ [name]) ∧
      ¬ files.HasDirectory (home ++ [name]) ∧ Keeps files files' := by
  unfold remove at removed
  cases placed : files.placeOf path with
  | error e => simp [placed] at removed
  | ok place =>
      rcases placeOf_eq_ok placed with ⟨home, name, rfl, directory, proper, _, onward⟩
      rcases isFile_iff.1 isFile with ⟨goal, content, time, mode, resolved, there⟩
      have goalNotDirectory : ¬ files.HasDirectory goal := by simp [HasDirectory, there]
      have notDirectory : ¬ files.HasDirectory (home ++ [name]) := by
        rintro ⟨time, mode, found⟩
        simp [placed, found] at removed
      have same : files' = files.erase (home ++ [name]) := by
        simp only [placed] at removed
        split at removed
        · cases removed
        · cases removed
        · cases removed
          rfl
      refine ⟨home, name, same, notDirectory, same ▸ keeps_erase notDirectory ?_⟩
      -- A link in this place leads to the file that the path leads to.
      intro target link
      rcases onward goal resolved with ⟨n, leads⟩
      rcases (leads.single proper).2 with ⟨node, found, notLink⟩ | ⟨target', m, found, rest⟩
      · exact absurd (Option.some.inj (found.symm.trans link)) (notLink _)
      · rw [link] at found
        cases found
        exact ⟨m, goal, rest, goalNotDirectory⟩

/-- A tree that comes from another one by taking away files, seen from one directory. -/
structure Thinned (dir : String) (files files' : Files) : Prop where
  tree : files.IsTree → files'.IsTree
  directory : files.isDirectory dir = true → files'.isDirectory dir = true
  entries : files.isDirectory dir = true → ∀ name,
    files'.filed? dir name = files.filed? dir name ∨ files'.filed? dir name = none

theorem Thinned.refl (dir : String) (files : Files) : Thinned dir files files :=
  ⟨id, id, fun _ _ => .inl rfl⟩

theorem Thinned.trans {files'' : Files} (first : Thinned dir files files')
    (second : Thinned dir files' files'') : Thinned dir files files'' where
  tree := second.tree ∘ first.tree
  directory := second.directory ∘ first.directory
  entries := by
    intro directory name
    rcases second.entries (first.directory directory) name with same | gone
    · rw [same]
      exact first.entries directory name
    · exact .inr gone

/-- The removal of a file is a loss of files. -/
theorem thinned_remove {path : String} (isFile : files.isFile path = true)
    (removed : files.remove path = .ok files') (dir : String) : Thinned dir files files' := by
  rcases remove_eq_ok isFile removed with ⟨above, other, rfl, notDirectory, keeps⟩
  refine ⟨fun tree => tree.erase notDirectory, keeps.isDirectory rfl, ?_⟩
  intro directory name
  rcases isDirectory_iff.1 directory with ⟨home, resolved, home_⟩
  rw [filed?_eq resolved, filed?_eq (keeps.resolve rfl resolved home_)]
  by_cases same : home ++ [name] = above ++ [other]
  · refine .inr ?_
    rw [same, node?_erase_self (by simp)]
  · exact .inl (node?_erase_of_ne same files)

/-! ## Filing a file -/

/-- The names in a directory are those that something is filed under. -/
theorem mem_namesIn_iff : name ∈ files.namesIn home ↔ (files.node? (home ++ [name])).isSome := by
  have lookup : files.node? (home ++ [name]) = files.nodes.lookup (home ++ [name]) := by
    simp [node?]
  rw [lookup]
  constructor
  · intro listed
    rcases List.mem_filterMap.1 listed with ⟨⟨place, node⟩, member, named⟩
    split at named
    · next above =>
      rcases List.getLast?_eq_some_iff.1 named with ⟨rest, whole⟩
      have same : place = home ++ [name] := by
        have front : rest = home := by rw [← above, whole, List.dropLast_concat]
        exact front ▸ whole
      cases found : files.nodes.lookup (home ++ [name]) with
      | some node => rfl
      | none =>
          have other := List.lookup_eq_none_iff.1 found (place, node) member
          simp [same] at other
    · cases named
  · intro there
    rcases Option.isSome_iff_exists.1 there with ⟨node, found⟩
    rcases List.lookup_eq_some_iff.1 found with ⟨before, after, split_, _⟩
    refine List.mem_filterMap.2 ⟨(home ++ [name], node), ?_, ?_⟩
    · simp [split_]
    · simp

/-- The name for staging a file is the name of no entry. -/
theorem node?_freshName (files : Files) (home : Location) :
    files.node? (home ++ [freshName (files.namesIn home)]) = none := by
  have longest : ∀ (names : List String), ∀ name ∈ names,
      name.length ≤ names.foldr (fun name n => max name.length n) 0 := by
    intro names name member
    induction names with
    | nil => cases member
    | cons first others ih =>
        rcases List.mem_cons.1 member with rfl | later
        · exact Nat.le_max_left _ _
        · exact Nat.le_trans (ih later) (Nat.le_max_right _ _)
  cases found : files.node? (home ++ [freshName (files.namesIn home)]) with
  | none => rfl
  | some node =>
      -- It is longer than each name that is listed.
      have short := longest _ _ (mem_namesIn_iff.2 (Option.isSome_of_eq_some found))
      simp only [freshName, String.length_ofList, List.length_cons, List.length_replicate] at short
      exact absurd short (Nat.not_succ_le_self _)

/-- A temporary name does not end as an artifact does. -/
theorem freshName_getLast? (names : List String) :
    (freshName names).toList.getLast? ≠ some 'c' := by
  unfold freshName
  rw [String.toList_ofList]
  cases names.foldr (fun name n => max name.length n) 0 with
  | zero => decide
  | succ n =>
      rw [List.replicate_succ', ← List.cons_append, List.getLast?_concat]
      decide

/-- No text is written under a name that is too long. -/
theorem replace_of_not_fits (resolved : files.resolve dir = .ok home)
    (directory : files.HasDirectory home) (single : Path.IsSingle name) (long : ¬ Fits dir name)
    (now : Nat) (text : String) :
    ∃ e, files.replace now text (Path.join dir name) = (.error e, files) := by
  unfold replace
  cases placed : files.placeOf (Path.join dir name) with
  | error e => exact ⟨e, rfl⟩
  | ok place => exact absurd ((placeOf_join resolved directory single).1 placed).1 long

/-- A staged file is moved over anything that is not a directory. -/
theorem moveOrDrop_eq {source target : Location} (notDirectory : ¬ files.HasDirectory target)
    (node : Node) :
    moveOrDrop source target node files = (.ok (), (files.put target node).erase source) := by
  unfold moveOrDrop
  split
  · next time mode found => exact absurd ⟨time, mode, found⟩ notDirectory
  · rfl

/-- Where a directory stands it is dropped. -/
theorem moveOrDrop_directory {source target : Location} (directory : files.HasDirectory target)
    (node : Node) :
    moveOrDrop source target node files = (.error .isDirectory, files.erase source) := by
  rcases directory with ⟨time, mode, found⟩
  simp only [moveOrDrop, found]

/-- A file that is staged and dropped leaves no trace. -/
theorem differInModes_unstaged {staged : Location} (notRoot : staged ≠ [])
    (nothing : files.node? staged = none) (node : Node) :
    DifferInModes files ((files.put staged node).erase staged) := by
  refine ⟨fun other => congrArg (Option.map (Node.withMode 0)) ?_, rfl⟩
  by_cases same : other = staged
  · rw [same, node?_erase_self notRoot, nothing]
  · rw [node?_erase_of_ne same, node?_put_of_ne same]

/-- A file that is staged and moved is put in its place. -/
theorem differInModes_moved {staged : Location} (notRoot : staged ≠ []) (target : place ≠ [])
    (nothing : files.node? staged = none) (apart : place ≠ staged) (node : Node) :
    DifferInModes (files.put place node) (((files.put staged node).put place node).erase staged) := by
  refine ⟨fun other => congrArg (Option.map (Node.withMode 0)) ?_, rfl⟩
  by_cases same : other = staged
  · rw [same, node?_erase_self notRoot, node?_put_of_ne apart.symm, nothing]
  · rw [node?_erase_of_ne same]
    by_cases found : other = place
    · rw [found, node?_put_self target, node?_put_self target]
    · rw [node?_put_of_ne found, node?_put_of_ne same, node?_put_of_ne found]

/-- A text takes the place of what its path names, unless that is a directory. Either way the name it
was staged under is free again. -/
theorem replace_of_placeOf {path : String} (placed : files.placeOf path = .ok (home ++ [name]))
    (ending : name.toList.getLast? = some 'c') (now : Nat) (text : String) :
    (files.HasDirectory (home ++ [name]) ∧
      ∃ files', files.replace now text path = (.error .isDirectory, files') ∧
        DifferInModes files files') ∨
    (¬ files.HasDirectory (home ++ [name]) ∧
      ∃ files', files.replace now text path = (.ok (), files') ∧
        DifferInModes (files.put (home ++ [name]) (.file (.text text) now stagedMode)) files') := by
  -- The place of the staged file gets a name of its own, so that it is not computed below.
  have staging : ∃ staged : Location, staged = home ++ [freshName (files.namesIn home)] := ⟨_, rfl⟩
  rcases staging with ⟨staged, stagedEq⟩
  have replacing : files.replace now text path =
      (files.put staged (.file (.text text) now stagedMode)).moveOrDrop staged (home ++ [name])
        (.file (.text text) now stagedMode) := by
    unfold replace
    simp only [placed, List.dropLast_concat, ← stagedEq]
  have notRoot : staged ≠ [] := by simp [stagedEq]
  have nothing : files.node? staged = none := stagedEq ▸ node?_freshName files home
  -- Names for staging end differently from the names of artifacts.
  have apart : home ++ [name] ≠ staged := by
    rw [stagedEq]
    intro same
    have sameName : name = freshName (files.namesIn home) := by simpa using same
    exact freshName_getLast? _ (sameName ▸ ending)
  rw [replacing]
  by_cases directory : files.HasDirectory (home ++ [name])
  · refine .inl ⟨directory, _, moveOrDrop_directory ?_ _, ?_⟩
    · exact (hasDirectory_put_of_ne apart).2 directory
    · exact differInModes_unstaged notRoot nothing _
  · refine .inr ⟨directory, _, moveOrDrop_eq ?_ _, ?_⟩
    · exact mt (hasDirectory_put_of_ne apart).1 directory
    · exact differInModes_moved notRoot (by simp) nothing apart _

/-- A text of a fitting name is put in its place, up to modes. -/
theorem replace_of_fits (resolved : files.resolve dir = .ok home)
    (directory : files.HasDirectory home) (single : Path.IsSingle name) (fits : Fits dir name)
    (ending : name.toList.getLast? = some 'c') (notDirectory : ¬ files.HasDirectory (home ++ [name]))
    (now : Nat) (text : String) :
    ∃ files', files.replace now text (Path.join dir name) = (.ok (), files') ∧
      DifferInModes (files.put (home ++ [name]) (.file (.text text) now stagedMode)) files' := by
  have placed := (placeOf_join resolved directory single).2 ⟨fits, rfl⟩
  rcases replace_of_placeOf placed ending now text with ⟨there, _⟩ | ⟨_, done⟩
  · exact absurd there notDirectory
  · exact done

/-- A file under a name of a directory is filed there, and under no other name. -/
theorem filed?_put (resolved : files.resolve dir = .ok home)
    (directory : files.HasDirectory home) (notDirectory : ¬ files.HasDirectory (home ++ [name]))
    (notLink : ∀ target, files.node? (home ++ [name]) ≠ some (.link target)) (node : Node)
    (other : String) :
    (files.put (home ++ [name]) node).filed? dir other =
      if other = name then some node else files.filed? dir other := by
  have keeps := keeps_put notDirectory notLink node
  rw [filed?_eq (keeps.resolve rfl resolved directory), filed?_eq resolved]
  split
  · next same => rw [same, node?_put_self (by simp)]
  · next different => rw [node?_put_of_ne (by simpa using different)]

/-- A file that is taken away is filed no longer, and the other entries are. -/
theorem filed?_erase (resolved : files.resolve dir = .ok home)
    (directory : files.HasDirectory home) (notDirectory : ¬ files.HasDirectory (home ++ [name]))
    (notLink : ∀ target, files.node? (home ++ [name]) ≠ some (.link target)) (other : String) :
    (files.erase (home ++ [name])).filed? dir other =
      if other = name then none else files.filed? dir other := by
  have keeps := keeps_erase notDirectory fun target there => absurd there (notLink target)
  rw [filed?_eq (keeps.resolve rfl resolved directory), filed?_eq resolved]
  split
  · next same => rw [same, node?_erase_self (by simp)]
  · next different => rw [node?_erase_of_ne (by simpa using different)]

end Files
end TemplateEngine
