import TemplateEngine.Proofs.Files.Changes

/-!
# Growth — what making directories leaves alone

Making a directory puts one where nothing was. However far an attempt gets before it fails, each file
keeps its place, its content and its time, and every path that led somewhere leads there still.
-/

namespace TemplateEngine
namespace Files

variable {files files' files'' : Files} {place : Location} {path : String} {now : Nat}

/-- Where the kinds are kept a path resolves as before. -/
theorem KeepsKinds.resolve (keeps : KeepsKinds files files')
    (working : files'.workingDirectory = files.workingDirectory)
    (resolved : files.resolve path = .ok place) : files'.resolve path = .ok place :=
  resolve_of_carried working (fun _ _ _ leads => keeps.leads leads) resolved

/-- A file may be put anywhere but over a directory or a link. -/
theorem keepsKinds_put (notDirectory : ¬ files.HasDirectory place)
    (notLink : ∀ target, files.node? place ≠ some (.link target)) (notRoot : place ≠ [])
    (content : Content) (time mode : Nat) :
    KeepsKinds files (files.put place (.file content time mode)) := by
  intro other node found
  by_cases same : other = place
  · -- Only a file can have been where a file is put.
    subst same
    refine ⟨_, node?_put_self notRoot _ files, ?_⟩
    cases node with
    | file => rfl
    | directory time mode => exact absurd ⟨time, mode, found⟩ notDirectory
    | link target => exact absurd found (notLink target)
  · exact ⟨node, (node?_put_of_ne same _ files).trans found, rfl⟩

/-- What was there is there still, but for its permissions, and what is new is a directory. -/
structure GainsDirectories (files files' : Files) : Prop where
  kept : ∀ place node, files.node? place = some node →
    ∃ mode, files'.node? place = some (node.withMode mode)
  gained : ∀ place, files.node? place = none →
    files'.node? place = none ∨ files'.HasDirectory place
  workingDirectory : files'.workingDirectory = files.workingDirectory

/-- A change of modes makes no directory. -/
theorem DifferInModes.gainsDirectories (h : DifferInModes files files') :
    GainsDirectories files files' where
  kept := fun _ _ found => h.node? found
  gained := fun _ nothing => .inl (h.sameKinds.nothing nothing)
  workingDirectory := h.workingDirectory

theorem GainsDirectories.refl (files : Files) : GainsDirectories files files :=
  (DifferInModes.refl files).gainsDirectories

section GainsDirectories

variable (gains : GainsDirectories files files')
include gains

theorem GainsDirectories.hasDirectory (directory : files.HasDirectory place) :
    files'.HasDirectory place := by
  rcases directory with ⟨time, mode, found⟩
  rcases gains.kept place _ found with ⟨mode', found'⟩
  exact ⟨time, mode', found'⟩

theorem GainsDirectories.trans (later : GainsDirectories files' files'') :
    GainsDirectories files files'' where
  kept := by
    intro place node found
    rcases gains.kept place node found with ⟨mode, found'⟩
    rcases later.kept place _ found' with ⟨mode', found''⟩
    exact ⟨mode', by rw [found'', Node.withMode_withMode]⟩
  gained := by
    intro place nothing
    rcases gains.gained place nothing with nothing' | directory
    · exact later.gained place nothing'
    · exact .inr (later.hasDirectory directory)
  workingDirectory := later.workingDirectory.trans gains.workingDirectory

/-- New directories keep the kinds. -/
theorem GainsDirectories.keepsKinds : KeepsKinds files files' := by
  intro place node found
  rcases gains.kept place node found with ⟨mode, found'⟩
  refine ⟨_, found', ?_⟩
  cases node <;> rfl

/-- Every path that led to something leads to the same. -/
theorem GainsDirectories.at? {node : Node} (there : files.at? path = some node) :
    ∃ mode, files'.at? path = some (node.withMode mode) := by
  unfold Files.at? at there ⊢
  cases resolved : files.resolve path with
  | error e => simp [resolved] at there
  | ok place =>
      rw [resolved] at there
      rw [gains.keepsKinds.resolve gains.workingDirectory resolved]
      exact gains.kept place node there

end GainsDirectories

/-! ## Making directories -/

/-- A directory put where nothing was is a new one. -/
theorem gainsDirectories_put (notRoot : place ≠ []) (nothing : files.node? place = none)
    (time mode : Nat) : GainsDirectories files (files.put place (.directory time mode)) where
  kept := by
    intro other node found
    have apart : other ≠ place := by
      rintro rfl
      simp [nothing] at found
    rw [node?_put_of_ne apart]
    exact (GainsDirectories.refl files).kept other node found
  gained := by
    intro other nothing'
    by_cases same : other = place
    · exact .inr ⟨time, mode, same ▸ node?_put_self notRoot _ files⟩
    · exact .inl ((node?_put_of_ne same _ files).trans nothing')
  workingDirectory := rfl

/-- A path whose place was free leads to the directory that is put there. -/
theorem resolve_put_directory (placed : files.placeOf path = .ok place)
    (free : files.node? place = none) (time mode : Nat) :
    (files.put place (.directory time mode)).resolve path = .ok place := by
  rcases above_of_placeOf placed with
    ⟨good, above, home, name, n, whole, rfl, directory, proper, short, enough, reaches⟩
  have gains := gainsDirectories_put (by simp) free time mode
  have there : (files.put (home ++ [name]) (.directory time mode)).node? (home ++ [name]) =
      some (.directory time mode) := node?_put_self (by simp) _ files
  have last : Leads (files.put (home ++ [name]) (.directory time mode)) home [name] 0
      (home ++ [name]) :=
    .down (gains.hasDirectory directory) proper short there (by simp) .done
  have leads := (gains.keepsKinds.leads reaches).append last
  unfold Files.resolve
  rw [good, whole]
  exact leads.follow_eq enough

theorem gainsDirectories_makeDirectory (made : files.makeDirectory now path = .ok files') :
    GainsDirectories files files' := by
  unfold makeDirectory at made
  split at made
  · cases made
  · next place placed =>
    rcases placeOf_eq_ok placed with ⟨home, name, rfl, _⟩
    split at made
    · cases made
    · next nothing =>
      cases made
      exact gainsDirectories_put (by simp) nothing now directoryMode

theorem gainsDirectories_makeAll (now : Nat) (paths : List String) (files : Files) :
    GainsDirectories files (makeAll now paths files).2 := by
  -- The outer directories are made first, so the induction goes from the outermost one inwards.
  induction paths with
  | nil => exact .refl files
  | cons path outer ih =>
      unfold makeAll
      split
      · next failed =>
        rw [failed] at ih
        exact ih
      · next done =>
        rw [done] at ih
        split
        · next made => exact ih.trans (gainsDirectories_makeDirectory made)
        · exact ih

/-- So are the directories on the way to a path. -/
theorem gainsDirectories_makeDirectories (now : Nat) (path : String) (files : Files) :
    GainsDirectories files (files.makeDirectories now path).2 := by
  unfold makeDirectories
  split
  · exact .refl files
  · exact gainsDirectories_makeAll now _ files

end Files
end TemplateEngine
