import TemplateEngine.Proofs.Files.Leads

/-!
# IsTree — files that lie in directories

In a tree whatever is there lies in a directory, so a path that is followed to its end leads to a
file or a directory and never to nothing or a link. Filing and erasing keep a tree a tree.
-/

namespace TemplateEngine
namespace Files

/-- Whatever is there lies in a directory, and so does whoever works there. -/
structure IsTree (files : Files) : Prop where
  inDirectory : ∀ place name, (files.node? (place ++ [name])).isSome → files.HasDirectory place
  workingDirectory : files.HasDirectory files.workingDirectory

/-- Files at the root alone are a tree. -/
theorem isTree_of_shallow {files : Files} (shallow : ∀ entry ∈ files.nodes, entry.1.length ≤ 1)
    (atRoot : files.workingDirectory = []) : files.IsTree where
  inDirectory := by
    intro place name there
    have deep : (place ++ [name]).isEmpty = false := by simp
    rw [node?, deep, if_neg Bool.false_ne_true] at there
    rcases Option.isSome_iff_exists.1 there with ⟨node, found⟩
    rcases List.lookup_eq_some_iff.1 found with ⟨before, after, split, -⟩
    have short := shallow (place ++ [name], node) (by simp [split])
    have root : place = [] := List.eq_nil_of_length_eq_zero (by simpa using short)
    rw [root]
    exact hasDirectory_root files
  workingDirectory := atRoot ▸ hasDirectory_root files

/-- There is a file or a directory at a location. -/
def HasEnd (files : Files) (place : Location) : Prop :=
  ∃ node, files.node? place = some node ∧ ∀ target, node ≠ .link target

variable {files : Files} {place goal : Location} {names : List String} {n : Nat}

theorem HasDirectory.hasEnd (h : files.HasDirectory place) : files.HasEnd place := by
  rcases h with ⟨time, mode, found⟩
  exact ⟨_, found, by simp⟩

theorem IsTree.parent (tree : files.IsTree) (h : files.HasDirectory place) :
    files.HasDirectory place.dropLast := by
  rcases List.eq_nil_or_concat place with rfl | ⟨above, name, rfl⟩
  · exact h
  · rcases h with ⟨time, mode, found⟩
    rw [List.concat_eq_append, List.dropLast_concat]
    rw [List.concat_eq_append] at found
    exact tree.inDirectory above name (by simp [found])

/-- In a tree a way that starts at a node ends at one. -/
theorem IsTree.leads (tree : files.IsTree) (h : Leads files place names n goal)
    (start : files.HasEnd place) : files.HasEnd goal := by
  induction h with
  | done => exact start
  | still _ _ _ ih => exact ih start
  | up directory _ ih => exact ih (tree.parent directory).hasEnd
  | down _ _ _ there notLink _ ih => exact ih ⟨_, there, notLink⟩
  | link directory _ _ _ _ ih =>
      refine ih ?_
      unfold linkOrigin
      split
      · exact (hasDirectory_root files).hasEnd
      · exact directory.hasEnd

/-- A path that resolves has a way of few links. -/
theorem leads_of_resolve {path : String} (h : files.resolve path = .ok place) :
    badPath? path = none ∧ ∃ n, n ≤ maxLinks ∧
      Leads files (files.origin path) (Path.parts path) n place := by
  unfold resolve at h
  split at h
  · cases h
  · next good => exact ⟨good, follow_eq_ok_iff.1 h⟩

/-- Such a way resolves the path. -/
theorem resolve_of_leads {path : String} {n : Nat} (good : badPath? path = none)
    (enough : n ≤ maxLinks) (leads : Leads files (files.origin path) (Path.parts path) n place) :
    files.resolve path = .ok place := by
  unfold resolve
  rw [good]
  exact leads.follow_eq enough

/-- A path leads to the same in another tree whose names do. -/
theorem resolve_of_carried {files' : Files} {path : String}
    (working : files'.workingDirectory = files.workingDirectory)
    (carried : ∀ start names n, Leads files start names n place →
      Leads files' start names n place)
    (h : files.resolve path = .ok place) : files'.resolve path = .ok place := by
  rcases leads_of_resolve h with ⟨good, n, enough, leads⟩
  have leads' := carried _ _ _ leads
  have sameOrigin : files'.origin path = files.origin path := by
    simp only [origin, working]
  rw [← sameOrigin] at leads'
  exact resolve_of_leads good enough leads'

theorem IsTree.hasEnd_of_resolve (tree : files.IsTree) {path : String}
    (h : files.resolve path = .ok place) : files.HasEnd place := by
  rcases leads_of_resolve h with ⟨_, n, _, leads⟩
  refine tree.leads leads ?_
  unfold origin
  split
  · exact (hasDirectory_root files).hasEnd
  · exact tree.workingDirectory.hasEnd

/-- A path exists if it resolves to a node. -/
theorem exists?_iff {path : String} :
    files.exists? path = true ↔
      ∃ place node, files.resolve path = .ok place ∧ files.node? place = some node := by
  unfold exists? at?
  cases files.resolve path with
  | error e => simp
  | ok place => simp [Option.isSome_iff_exists]

/-- Whatever is there has a time. -/
theorem IsTree.exists_time (tree : files.IsTree) {path : String}
    (there : files.exists? path = true) : ∃ time, files.time? path = some time := by
  rcases exists?_iff.1 there with ⟨place, _, resolved, _⟩
  rcases tree.hasEnd_of_resolve resolved with ⟨node, found, notLink⟩
  unfold time? at?
  cases node with
  | file content time mode => exact ⟨time, by simp [resolved, found]⟩
  | directory time mode => exact ⟨time, by simp [resolved, found]⟩
  | link target => exact absurd rfl (notLink target)

theorem exists_of_time? {path : String} {time : Nat}
    (timed : files.time? path = some time) : files.exists? path = true := by
  unfold time? at timed
  unfold exists?
  cases there : files.at? path with
  | none => simp [there] at timed
  | some node => rfl

/-! ## Why a path cannot be read -/

/-- The errors of a search: they never say what there is at its end. -/
def IsSearchError (e : FileError) : Prop :=
  e ≠ .isDirectory ∧ e ≠ .notText

/-- A search that fails has an error of a search. -/
theorem isSearchError_of_follow {links : Nat} {e : FileError}
    (h : files.follow links place names = .error e) : IsSearchError e := by
  -- A search fails at one name, and what it fails with is seen there.
  induction links, place, names using followInduction files with
  | done => simp [follow] at h
  | nothing links place name names nothing =>
      simp [follow_nothing nothing] at h
      simp [IsSearchError, ← h]
  | file links place name names content time mode found =>
      simp [follow_file found] at h
      simp [IsSearchError, ← h]
  | throughLink links place name names target found =>
      simp [follow_throughLink found] at h
      simp [IsSearchError, ← h]
  | still links place name names directory still ih =>
      rw [follow_still directory still] at h
      exact ih h
  | up links place names directory ih =>
      rw [follow_up directory] at h
      exact ih h
  | long links place name names directory proper long =>
      simp [follow_long directory proper long] at h
      simp [IsSearchError, ← h]
  | absent links place name names directory proper short absent =>
      simp [follow_absent directory proper short absent] at h
      simp [IsSearchError, ← h]
  | noLinks place name names target directory proper short there =>
      simp [follow_noLinks directory proper short there] at h
      simp [IsSearchError, ← h]
  | link links place name names target directory proper short there ih =>
      rw [follow_link directory proper short there] at h
      exact ih h
  | down links place name names node directory proper short there notLink ih =>
      rw [follow_down directory proper short there notLink] at h
      exact ih h

theorem isSearchError_of_resolve {path : String} {e : FileError}
    (h : files.resolve path = .error e) : IsSearchError e := by
  unfold resolve badPath? at h
  split at h
  · next e' bad =>
    cases h
    split at bad
    · cases bad
      simp [IsSearchError]
    · split at bad
      · cases bad
        simp [IsSearchError]
      · split at bad
        · cases bad
          simp [IsSearchError]
        · cases bad
  · exact isSearchError_of_follow h

/-- What is missing cannot be read, and the error does not say that something is there. -/
theorem read_of_missing {path : String} (missing : files.exists? path = false) :
    ∃ e, files.read path = .error e ∧ IsSearchError e := by
  unfold exists? at? at missing
  unfold read
  split at missing
  · next place found =>
    have nothing : files.node? place = none := by simpa using missing
    exact ⟨.notFound, by simp [textAt, nothing], by simp [IsSearchError]⟩
  · next e failed => exact ⟨e, rfl, isSearchError_of_resolve failed⟩

/-- What is there and cannot be read is a directory or no text. -/
theorem IsTree.read_error (tree : files.IsTree) {path : String} {e : FileError}
    (there : files.exists? path = true) (failed : files.read path = .error e) :
    ¬ IsSearchError e := by
  rcases exists?_iff.1 there with ⟨place, _, resolved, _⟩
  rcases tree.hasEnd_of_resolve resolved with ⟨node, found, notLink⟩
  simp only [read, resolved] at failed
  cases node with
  | file content time mode =>
      cases content with
      | text s => simp [textAt, found] at failed
      | binary =>
          simp [textAt, found] at failed
          simp [IsSearchError, ← failed]
  | directory time mode =>
      simp [textAt, found] at failed
      simp [IsSearchError, ← failed]
  | link target => exact absurd rfl (notLink target)

/-! ## Filing and erasing -/

/-- The place of a path is that of its last name, in the directory that its other names lead to. -/
theorem above_of_placeOf {path : String} (h : files.placeOf path = .ok place) :
    badPath? path = none ∧ ∃ above home name n, Path.parts path = above ++ [name] ∧
      place = home ++ [name] ∧ files.HasDirectory home ∧ IsName name ∧
        name.utf8ByteSize ≤ maxName ∧ n ≤ maxLinks ∧
          Leads files (files.origin path) above n home := by
  -- Every other way in which the search for a place can go ends in an error.
  unfold placeOf at h
  cases bad : badPath? path with
  | some e => simp [bad] at h
  | none =>
  cases followed : files.follow maxLinks (files.origin path) (Path.parts path).dropLast with
  | error e => simp [bad, followed] at h
  | ok home =>
  cases named : (Path.parts path).getLast? with
  | none =>
    simp [bad, followed, named] at h
    split at h <;> cases h
  | some name =>
  cases found : files.node? home with
  | none => simp [bad, followed, found] at h
  | some node =>
  cases node with
  | file content time mode => simp [bad, followed, found] at h
  | link target => simp [bad, followed, found] at h
  | directory time mode =>
  simp only [bad, followed, named, found, Option.getD_some] at h
  split at h
  · cases h
  · next proper =>
    split at h
    · cases h
    · next short =>
      cases h
      simp only [Bool.or_eq_true, String.isEmpty_iff, beq_iff_eq, not_or] at proper
      rcases List.getLast?_eq_some_iff.1 named with ⟨above, whole⟩
      rw [whole, List.dropLast_concat] at followed
      rcases follow_eq_ok_iff.1 followed with ⟨n, enough, reaches⟩
      exact ⟨rfl, above, home, name, n, whole, rfl, ⟨time, mode, found⟩,
        ⟨proper.1.1, proper.1.2, proper.2⟩, Nat.le_of_not_lt short, enough, reaches⟩

/-- The place of a path is in a directory, and the path leads on from there. -/
theorem placeOf_eq_ok {path : String} (h : files.placeOf path = .ok place) :
    ∃ home name, place = home ++ [name] ∧ files.HasDirectory home ∧ IsName name ∧
      (Path.parts path).getLast? = some name ∧
        ∀ goal, files.resolve path = .ok goal → ∃ n, Leads files home [name] n goal := by
  rcases above_of_placeOf h with
    ⟨_, above, home, name, m, whole, rfl, directory, proper, _, _, reaches⟩
  refine ⟨home, name, rfl, directory, proper, by rw [whole, List.getLast?_concat], ?_⟩
  intro goal resolved
  rcases leads_of_resolve resolved with ⟨_, n, _, leads⟩
  rw [whole] at leads
  rcases leads.cut with ⟨middle, k, l, before, after, _⟩
  rcases reaches.unique before with ⟨rfl, _⟩
  exact ⟨l, after⟩

/-- A path whose place is free leads nowhere. -/
theorem not_resolve_of_free {path : String} (placed : files.placeOf path = .ok place)
    (free : files.node? place = none) (goal : Location) : files.resolve path ≠ .ok goal := by
  intro resolved
  rcases placeOf_eq_ok placed with ⟨home, name, rfl, _, proper, _, onward⟩
  rcases onward goal resolved with ⟨n, leads⟩
  rcases (leads.single proper).2 with ⟨_, found, _⟩ | ⟨_, _, found, _⟩
  · simp [free] at found
  · simp [free] at found

theorem hasDirectory_put_of_ne {other : Location} (different : other ≠ place) {node : Node} :
    (files.put place node).HasDirectory other ↔ files.HasDirectory other := by
  simp only [HasDirectory, node?_put_of_ne different]

theorem hasDirectory_erase_of_ne {other : Location} (different : other ≠ place) :
    (files.erase place).HasDirectory other ↔ files.HasDirectory other := by
  simp only [HasDirectory, node?_erase_of_ne different]

theorem ne_of_notDirectory {other : Location} (notDirectory : ¬ files.HasDirectory place)
    (directory : files.HasDirectory other) : other ≠ place := by
  rintro rfl
  exact notDirectory directory

/-- A node put in a directory keeps the tree. -/
theorem IsTree.put (tree : files.IsTree) {dir : Location} {name : String} {node : Node}
    (directory : files.HasDirectory dir) (notDirectory : ¬ files.HasDirectory (dir ++ [name])) :
    (files.put (dir ++ [name]) node).IsTree where
  inDirectory := by
    intro above other there
    by_cases same : above ++ [other] = dir ++ [name]
    · have sameDir : above = dir := by simpa using congrArg List.dropLast same
      rw [sameDir, hasDirectory_put_of_ne (ne_of_notDirectory notDirectory directory)]
      exact directory
    · rw [node?_put_of_ne same] at there
      have above_ := tree.inDirectory above other there
      exact (hasDirectory_put_of_ne (ne_of_notDirectory notDirectory above_)).2 above_
  workingDirectory :=
    (hasDirectory_put_of_ne (ne_of_notDirectory notDirectory tree.workingDirectory)).2
      tree.workingDirectory

/-- So does the removal of anything but a directory. -/
theorem IsTree.erase (tree : files.IsTree) (notDirectory : ¬ files.HasDirectory place) :
    (files.erase place).IsTree where
  inDirectory := by
    intro above other there
    by_cases same : above ++ [other] = place
    · have notRoot : place ≠ [] := by simp [← same]
      rw [same, node?_erase_self notRoot] at there
      simp at there
    · rw [node?_erase_of_ne same] at there
      have above_ := tree.inDirectory above other there
      exact (hasDirectory_erase_of_ne (ne_of_notDirectory notDirectory above_)).2 above_
  workingDirectory :=
    (hasDirectory_erase_of_ne (ne_of_notDirectory notDirectory tree.workingDirectory)).2
      tree.workingDirectory

/-- So does a new directory. -/
theorem IsTree.makeDirectory (tree : files.IsTree) {files' : Files} {now : Nat} {path : String}
    (made : files.makeDirectory now path = .ok files') : files'.IsTree := by
  unfold Files.makeDirectory at made
  split at made
  · cases made
  · next place placed =>
    rcases placeOf_eq_ok placed with ⟨home, name, rfl, directory, _⟩
    split at made
    · cases made
    · next nothing =>
      cases made
      exact tree.put directory (by simp [HasDirectory, nothing])

theorem IsTree.makeAll (tree : files.IsTree) (now : Nat) (paths : List String) :
    (makeAll now paths files).2.IsTree := by
  induction paths with
  | nil => exact tree
  | cons path outer ih =>
      unfold Files.makeAll
      split
      · next failed =>
        rw [failed] at ih
        exact ih
      · next done =>
        rw [done] at ih
        split
        · next made => exact ih.makeDirectory made
        · exact ih

theorem IsTree.makeDirectories (tree : files.IsTree) (now : Nat) (path : String) :
    (files.makeDirectories now path).2.IsTree := by
  unfold Files.makeDirectories
  split
  · exact tree
  · exact tree.makeAll now _

end Files
end TemplateEngine
