import TemplateEngine.Cache.Store
import TemplateEngine.Proofs.Cache.Names
import TemplateEngine.Proofs.Files.Growth

/-!
# Effects — what the operations of the cache change

Opening the cache keeps a tree a tree, writing an artifact changes one entry, and clearing takes entries
away. Permissions are left out of account.
-/

namespace TemplateEngine
namespace Cache

variable {cache : Cache} {files opened : Files} {now : Nat}

/-! ## Opening -/

/-- A cache directory that is there is only opened to every user. -/
theorem ensure_of_isDirectory (cache : Cache) (now : Nat)
    (directory : files.isDirectory cache.directory = true) :
    cache.ensure now files =
      (.ok (), files.setMode sharedDirectoryMode cache.directory) := by
  simp [ensure, directory]

/-- Opening the cache makes directories at most, whether or not it succeeds. -/
theorem gainsDirectories_ensure (cache : Cache) (now : Nat) (files : Files) :
    files.GainsDirectories (cache.ensure now files).2 := by
  unfold ensure
  split
  · next made files' making =>
    have gains : files.GainsDirectories files' := by
      split at making
      · cases making
        exact .refl files
      · have whole := Files.gainsDirectories_makeDirectories now cache.directory files
        rwa [making] at whole
    split
    · exact gains
    · exact gains.trans (Files.differInModes_setMode _ _ _).gainsDirectories

/-- Whether or not it succeeds, opening the cache leaves a tree. -/
theorem isTree_opened (cache : Cache) (now : Nat) (tree : files.IsTree) :
    (cache.ensure now files).2.IsTree := by
  unfold ensure
  split
  · next made files' making =>
    -- The tree is one before its permissions are set, whether or not the directory was there.
    have tree' : files'.IsTree := by
      split at making
      · cases making
        exact tree
      · have whole := tree.makeDirectories now cache.directory
        rwa [making] at whole
    split
    · exact tree'
    · exact (Files.differInModes_setMode _ _ _).isTree tree'

theorem isTree_ensure (tree : files.IsTree) (ensured : cache.ensure now files = (.ok (), opened)) :
    opened.IsTree := by
  have tree' := isTree_opened cache now tree
  rwa [ensured] at tree'

/-! ## Writing -/

/-- Writing an artifact changes nothing where it fails, and one entry of its directory where it
succeeds. -/
theorem write_cases {dir name : String} (single : Path.IsSingle name)
    (ending : name.toList.getLast? = some 'c') (now : Nat) (code : String) (files : Files) :
    (∃ e files', write now (Path.join dir name) code files = (.error e, files') ∧
      files.DifferInModes files') ∨
    (∃ place files', files.placeOf (Path.join dir name) = .ok place ∧
      write now (Path.join dir name) code files = (.ok (), files') ∧
        (files.put place (.file (.text code) now Files.stagedMode)).DifferInModes files') := by
  cases placed : files.placeOf (Path.join dir name) with
  | error e =>
      refine .inl ⟨.writeFailed (Path.join dir name) e, files, ?_, .refl files⟩
      simp only [write, Files.replace, placed]
  | ok place =>
      rcases Files.placeOf_eq_ok placed with ⟨home, last, rfl, _, _, named, _⟩
      cases named.symm.trans (Path.getLast?_parts_join dir single)
      rcases Files.replace_of_placeOf placed ending now code with
        ⟨_, files', failed, same⟩ | ⟨_, files', done, same⟩
      · refine .inl ⟨.writeFailed (Path.join dir name) .isDirectory, files', ?_, same⟩
        simp only [write, failed]
      · refine .inr ⟨_, files'.setMode sharedFileMode (Path.join dir name), rfl, ?_, ?_⟩
        · simp only [write, done]
        · exact same.trans (Files.differInModes_setMode _ _ _)

section Write

variable {dir name : String} {home : Location} (resolved : files.resolve dir = .ok home)
  (directory : files.HasDirectory home) (single : Path.IsSingle name)
include resolved directory single

/-- An artifact whose name is too long is refused, and the files stay as they are. -/
theorem write_of_not_fits (long : ¬ Files.Fits dir name) (now : Nat) (code : String) :
    ∃ e, write now (Path.join dir name) code files = (.error e, files) := by
  rcases Files.replace_of_not_fits resolved directory single long now code with ⟨e, failed⟩
  exact ⟨.writeFailed (Path.join dir name) e, by simp [write, failed]⟩

/-- An artifact that fits is filed, whatever was there if it is no directory. -/
theorem write_of_fits (fits : Files.Fits dir name) (ending : name.toList.getLast? = some 'c')
    (notDirectory : ¬ files.HasDirectory (home ++ [name])) (now : Nat) (code : String) :
    ∃ files', write now (Path.join dir name) code files = (.ok (), files') ∧
      (files.put (home ++ [name]) (.file (.text code) now Files.stagedMode)).DifferInModes
        files' := by
  rcases Files.replace_of_fits resolved directory single fits ending notDirectory now code with
    ⟨replaced, done, same⟩
  refine ⟨replaced.setMode sharedFileMode (Path.join dir name), by simp [write, done], ?_⟩
  exact same.trans (Files.differInModes_setMode _ _ _)

/-- Whether or not it succeeds, writing an artifact changes one entry at most. -/
theorem files_write (ending : name.toList.getLast? = some 'c')
    (notDirectory : ¬ files.HasDirectory (home ++ [name])) (now : Nat) (code : String) :
    (write now (Path.join dir name) code files).2 = files ∨
      (files.put (home ++ [name]) (.file (.text code) now Files.stagedMode)).DifferInModes
        (write now (Path.join dir name) code files).2 := by
  by_cases fits : Files.Fits dir name
  · rcases write_of_fits resolved directory single fits ending notDirectory now code with
      ⟨files', done, same⟩
    rw [done]
    exact .inr same
  · rcases write_of_not_fits resolved directory single fits now code with ⟨e, failed⟩
    rw [failed]
    exact .inl rfl

end Write

/-! ## Clearing -/

/-- Clearing one name takes away at most the file that has it. -/
theorem thinned_clearName (cleared : Nat × Files) (name dir : String) :
    Files.Thinned dir cleared.2 (cache.clearName cleared name).2 := by
  rcases cleared with ⟨count, files⟩
  unfold clearName
  simp only
  split
  · next isFile =>
    simp only [Bool.and_eq_true] at isFile
    split
    · next removed => exact Files.thinned_remove isFile.2 removed dir
    · exact .refl dir files
  · exact .refl dir files

theorem thinned_clearNames (names : List String) (cleared : Nat × Files) (dir : String) :
    Files.Thinned dir cleared.2 (names.foldl cache.clearName cleared).2 := by
  induction names generalizing cleared with
  | nil => exact .refl dir cleared.2
  | cons name names ih => exact (thinned_clearName cleared name dir).trans (ih _)

/-- Clearing the cache takes away files only. -/
theorem thinned_clear (ensured : cache.ensure now files = (.ok (), opened)) (dir : String) :
    Files.Thinned dir opened (cache.clear now files).2 := by
  unfold clear
  rw [ensured]
  simp only
  split
  · exact .refl dir opened
  · next names _ => exact thinned_clearNames names (0, opened) dir

end Cache
end TemplateEngine
