import Mathlib.Logic.Relation
import TemplateEngine.Proofs.Cache.Contents

/-!
# Vacancy — a cache directory that is missing or empty

Before the first artifact is written the cache directory is missing or empty. An attempt to open it may
fail and leave some of the directories above it, and later ones may fail again; where one succeeds
there is an empty directory.
-/

namespace TemplateEngine
namespace Cache

variable {cache : Cache} {files opened : Files} {now : Nat}

/-- The files after any number of attempts to open the cache directory. -/
def Attempted (cache : Cache) : Files → Files → Prop :=
  Relation.ReflTransGen fun files files' => ∃ now, files' = (cache.ensure now files).2

/-- However often one tries to open the cache directory, there is nothing in it, and where that
succeeds it is a directory. It does not suffice that nothing is at its path: the path of a missing
directory may go through other missing ones and up again to one that is there and full. -/
structure Vacant (cache : Cache) (files : Files) : Prop where
  empty : ∀ files', cache.Attempted files files' → ∀ name,
    files'.filed? cache.directory name = none
  opens : ∀ files', cache.Attempted files files' → ∀ now opened,
    cache.ensure now files' = (.ok (), opened) → opened.isDirectory cache.directory = true

/-- An attempt to open a vacant directory leaves it vacant. -/
theorem Vacant.attempt (vacant : cache.Vacant files) (now : Nat) :
    cache.Vacant (cache.ensure now files).2 where
  empty := fun files' later => vacant.empty files' (later.head ⟨now, rfl⟩)
  opens := fun files' later => vacant.opens files' (later.head ⟨now, rfl⟩)

/-- The empty path is none of a vacant directory: it can be opened and leads nowhere. -/
theorem Vacant.path_ne_empty (vacant : cache.Vacant files) : cache.directory ≠ "" := by
  intro empty
  have nowhere : ∀ files : Files, files.isDirectory "" = false := by
    intro files
    simp [Files.isDirectory, Files.at?, Files.resolve, Files.badPath?]
  have ensured : cache.ensure 0 files = (.ok (), files.setMode sharedDirectoryMode "") := by
    simp [ensure, empty, nowhere, Files.makeDirectories, Path.ancestors, Files.missing,
      Files.makeAll]
  have directory := vacant.opens files .refl 0 _ ensured
  rw [empty] at directory
  cases (nowhere _).symm.trans directory

/-- An empty directory holds no text. -/
theorem holds_nothing (tree : files.IsTree) (directory : files.isDirectory cache.directory = true)
    (empty : ∀ name, files.filed? cache.directory name = none) : Holds cache.directory files [] where
  tree := tree
  directory := directory
  distinct := List.nodup_nil
  single := by simp
  fits := by simp
  text := by simp
  nothingElse := by
    intro name node found
    cases (empty name).symm.trans found

/-- When a vacant cache is open it holds nothing. -/
theorem Vacant.holds (vacant : cache.Vacant files) (tree : files.IsTree)
    (ensured : cache.ensure now files = (.ok (), opened)) : Holds cache.directory opened [] := by
  have attempt := vacant.attempt now
  rw [ensured] at attempt
  exact holds_nothing (isTree_ensure tree ensured) (vacant.opens files .refl now opened ensured)
    (attempt.empty opened .refl)

/-- An empty directory is vacant. -/
theorem vacant_of_empty (directory : files.isDirectory cache.directory = true)
    (empty : ∀ name, files.filed? cache.directory name = none) : cache.Vacant files := by
  -- No attempt does more than to set permissions, by induction on their number.
  have attempts : ∀ files', cache.Attempted files files' → files.DifferInModes files' := by
    intro files' attempted
    induction attempted with
    | refl => exact .refl files
    | tail _ attempt same =>
        rcases attempt with ⟨now, rfl⟩
        rw [ensure_of_isDirectory cache now ((same.isDirectory_eq _).trans directory)]
        exact same.trans (Files.differInModes_setMode _ _ _)
  refine ⟨fun files' attempted name => (attempts files' attempted).filed?_none (empty name), ?_⟩
  intro files' attempted now opened ensured
  have same := attempts opened (attempted.tail ⟨now, by rw [ensured]⟩)
  exact (same.isDirectory_eq _).trans directory

/-- A directory that has nothing in it is vacant if it is after the first attempt to open it. -/
theorem vacant_of_attempt (empty : ∀ name, files.filed? cache.directory name = none)
    (opens : ∀ now opened, cache.ensure now files = (.ok (), opened) →
      opened.isDirectory cache.directory = true)
    (next : ∀ now, cache.Vacant (cache.ensure now files).2) : cache.Vacant files where
  empty := by
    intro files' attempted
    rcases attempted.cases_head with rfl | ⟨_, ⟨now, rfl⟩, attempts⟩
    · exact empty
    · exact (next now).empty files' attempts
  opens := by
    intro files' attempted
    rcases attempted.cases_head with rfl | ⟨_, ⟨now, rfl⟩, attempts⟩
    · exact opens
    · exact (next now).opens files' attempts

/-! ## A missing directory -/

section Missing

variable {place : Location} (placed : files.placeOf cache.directory = .ok place)
  (free : files.node? place = none) (plain : Files.withoutSlashes cache.directory = cache.directory)
  (below : (Path.parent? cache.directory).isSome = true)
include placed free plain below

/-- Opening a directory that is missing in one that is there makes it. -/
theorem ensure_of_free (now : Nat) :
    cache.ensure now files =
      (.ok (), (files.put place (.directory now Files.directoryMode)).setMode sharedDirectoryMode
        cache.directory) := by
  -- The search for missing directories stops at the first: it can be made.
  have absent : files.isDirectory cache.directory = false := by
    refine Bool.eq_false_iff.2 fun directory => ?_
    rcases Files.isDirectory_iff.1 directory with ⟨goal, resolved, _⟩
    exact Files.not_resolve_of_free placed free goal resolved
  have made : files.makeDirectory now cache.directory =
      .ok (files.put place (.directory now Files.directoryMode)) := by
    simp only [Files.makeDirectory, plain, placed, free]
  have notEmpty : cache.directory ≠ "" := by
    intro empty
    simp [Files.placeOf, Files.badPath?, empty] at placed
  rcases Option.isSome_iff_exists.1 below with ⟨above, parent⟩
  have ancestors : ∃ outer,
      Path.ancestors cache.directory.length cache.directory = cache.directory :: outer := by
    have some_length : cache.directory.length ≠ 0 := by simpa using notEmpty
    rcases Nat.exists_eq_succ_of_ne_zero some_length with ⟨fuel, length⟩
    refine ⟨Path.ancestors fuel above, ?_⟩
    rw [length, Path.ancestors, parent]
    simp [notEmpty]
  rcases ancestors with ⟨outer, ancestors⟩
  simp [ensure, absent, Files.makeDirectories, ancestors, Files.missing, made, Files.makeAll]

/-- A directory that is missing in one that is there is vacant. -/
theorem vacant_of_free (tree : files.IsTree) : cache.Vacant files := by
  have made : ∀ now, (cache.ensure now files).2.isDirectory cache.directory = true ∧
      ∀ name, (cache.ensure now files).2.filed? cache.directory name = none := by
    intro now
    rcases Files.above_of_placeOf placed with ⟨_, _, home, last, _, _, rfl, _⟩
    have resolved := Files.resolve_put_directory placed free now Files.directoryMode
    have modes := Files.differInModes_setMode sharedDirectoryMode cache.directory
      (files.put (home ++ [last]) (.directory now Files.directoryMode))
    rw [ensure_of_free placed free plain below now]
    refine ⟨?_, fun name => modes.filed?_none ?_⟩
    · rw [modes.isDirectory_eq, Files.isDirectory_iff]
      exact ⟨_, resolved, now, _, Files.node?_put_self (by simp) _ files⟩
    · -- Nothing lies in a directory that was not there.
      rw [Files.filed?_eq resolved, Files.node?_put_of_ne (by simp)]
      cases found : files.node? (home ++ [last] ++ [name]) with
      | none => rfl
      | some node =>
          rcases tree.inDirectory _ name (Option.isSome_of_eq_some found) with ⟨_, _, there⟩
          cases free.symm.trans there
  -- After the first attempt there is an empty directory; before it there is nothing to look into.
  refine vacant_of_attempt ?_ ?_ fun now => vacant_of_empty (made now).1 (made now).2
  · intro name
    unfold Files.filed?
    split
    · next goal resolved => exact absurd resolved (Files.not_resolve_of_free placed free goal)
    · rfl
  · intro now opened ensured
    have directory := (made now).1
    rwa [ensured] at directory

end Missing

end Cache
end TemplateEngine
