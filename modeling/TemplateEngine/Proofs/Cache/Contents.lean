import TemplateEngine.Proofs.Cache.Effects

/-!
# Contents — what a cache directory holds

A cache directory that nobody else writes holds the texts written into it and nothing else. Writing an
artifact sets the text of one name. Clearing takes away one name after the other, each of which counts
once, until none is left.
-/

namespace TemplateEngine
namespace Cache

/-! ## Texts by their names -/

variable {name code : String} {texts : List (String × String)}

def without (name : String) (texts : List (String × String)) : List (String × String) :=
  texts.filter fun entry => entry.1 != name

theorem mem_without {entry : String × String} :
    entry ∈ without name texts ↔ entry ∈ texts ∧ entry.1 ≠ name := by
  simp [without]

/-- Taking a name away leaves the others in their order. -/
theorem names_without (name : String) (texts : List (String × String)) :
    (without name texts).map Prod.fst = (texts.map Prod.fst).filter (· != name) := by
  rw [without, List.filter_map]
  rfl

theorem nodup_without (name : String) (distinct : (texts.map Prod.fst).Nodup) :
    ((without name texts).map Prod.fst).Nodup := by
  rw [names_without]
  exact distinct.filter _

/-- Taking away a name that is there leaves one less. -/
theorem length_without (distinct : (texts.map Prod.fst).Nodup)
    (member : name ∈ texts.map Prod.fst) : (without name texts).length + 1 = texts.length := by
  have positive : 0 < texts.length := by
    rw [← List.length_map Prod.fst]
    exact List.length_pos_of_mem member
  -- Each name occurs once, so taking out its texts takes out one name.
  calc
    (without name texts).length + 1
        = ((texts.map Prod.fst).erase name).length + 1 := by
          rw [distinct.erase_eq_filter, ← names_without, List.length_map]
    _ = texts.length - 1 + 1 := by rw [List.length_erase_of_mem member, List.length_map]
    _ = texts.length := Nat.sub_add_cancel positive

/-! ## The directory -/

/-- A directory holds texts under some names, each name once, and nothing else. -/
structure Holds (dir : String) (files : Files) (texts : List (String × String)) : Prop where
  tree : files.IsTree
  directory : files.isDirectory dir = true
  distinct : (texts.map Prod.fst).Nodup
  single : ∀ entry ∈ texts, Path.IsSingle entry.1
  fits : ∀ entry ∈ texts, Files.Fits dir entry.1
  text : ∀ entry ∈ texts, ∃ time mode,
    files.filed? dir entry.1 = some (.file (.text entry.2) time mode)
  nothingElse : ∀ name node, files.filed? dir name = some node → name ∈ texts.map Prod.fst

variable {dir : String} {files files' : Files} {home : Location} {now : Nat}

/-- Nothing is filed under any other name. -/
theorem Holds.nothing (holds : Holds dir files texts) (absent : name ∉ texts.map Prod.fst) :
    files.filed? dir name = none := by
  cases found : files.filed? dir name with
  | none => rfl
  | some node => exact absurd (holds.nothingElse name node found) absent

/-- What is filed under a name is a text if it is anything. -/
theorem Holds.not_directory (holds : Holds dir files texts) (resolved : files.resolve dir = .ok home)
    (name : String) :
    ¬ files.HasDirectory (home ++ [name]) ∧
      ∀ target, files.node? (home ++ [name]) ≠ some (.link target) := by
  rw [Files.HasDirectory, ← Files.filed?_eq resolved]
  by_cases member : name ∈ texts.map Prod.fst
  · rcases List.mem_map.1 member with ⟨entry, entry_mem, rfl⟩
    rcases holds.text entry entry_mem with ⟨time, mode, found⟩
    simp [found]
  · simp [holds.nothing member]

/-- The file of a text is found by its path. -/
theorem Holds.at? (holds : Holds dir files texts) {entry : String × String}
    (member : entry ∈ texts) : ∃ time mode,
      files.at? (Path.join dir entry.1) = some (.file (.text entry.2) time mode) := by
  rcases holds.text entry member with ⟨time, mode, found⟩
  have fits := holds.fits entry member
  exact ⟨time, mode, Files.at?_join holds.directory (holds.single entry member) fits found (by simp)⟩

/-- Permissions do not matter for what a directory holds. -/
theorem Holds.modes (holds : Holds dir files texts) (h : files.DifferInModes files') :
    Holds dir files' texts where
  tree := h.isTree holds.tree
  directory := (h.isDirectory_eq dir).trans holds.directory
  distinct := holds.distinct
  single := holds.single
  fits := holds.fits
  text := by
    intro entry member
    rcases holds.text entry member with ⟨time, mode, found⟩
    rcases h.filed?_file found with ⟨mode', found'⟩
    exact ⟨time, mode', found'⟩
  nothingElse := by
    intro name node found
    refine Classical.byContradiction fun absent => ?_
    have nothing := h.filed?_none (holds.nothing absent)
    cases nothing.symm.trans found

/-! ## Writing -/

/-- A text that is filed under a name takes the place of what was filed there. -/
theorem Holds.put (holds : Holds dir files texts) (resolved : files.resolve dir = .ok home)
    (single : Path.IsSingle name) (fits : Files.Fits dir name) (code : String) (time mode : Nat) :
    Holds dir (files.put (home ++ [name]) (.file (.text code) time mode))
      ((name, code) :: without name texts) := by
  have directory := Files.hasDirectory_of_isDirectory holds.directory resolved
  rcases holds.not_directory resolved name with ⟨notDirectory, notLink⟩
  have filed : ∀ other,
      (files.put (home ++ [name]) (.file (.text code) time mode)).filed? dir other =
        if other = name then some (.file (.text code) time mode) else files.filed? dir other :=
    Files.filed?_put resolved directory notDirectory notLink _
  -- The new text stands in front, and the others are those that were there under other names.
  refine ⟨holds.tree.put directory notDirectory, ?_, ?_, ?_, ?_, ?_, ?_⟩
  · exact (Files.keeps_put notDirectory notLink _).isDirectory rfl holds.directory
  · refine List.nodup_cons.2 ⟨?_, nodup_without name holds.distinct⟩
    rw [names_without]
    simp
  · intro entry member
    rcases List.mem_cons.1 member with rfl | other
    · exact single
    · exact holds.single entry (mem_without.1 other).1
  · intro entry member
    rcases List.mem_cons.1 member with rfl | other
    · exact fits
    · exact holds.fits entry (mem_without.1 other).1
  · intro entry member
    rw [filed]
    rcases List.mem_cons.1 member with rfl | other
    · exact ⟨time, mode, if_pos rfl⟩
    · rcases mem_without.1 other with ⟨before, different⟩
      rw [if_neg different]
      exact holds.text entry before
  · intro other node found
    rw [filed] at found
    split at found
    · next same => simp [same]
    · next different =>
      have before := holds.nothingElse other node found
      rw [List.map_cons, names_without]
      simp [before, different]

/-- Writing an artifact sets its text where it succeeds, and nothing changes where it fails. Paths lead
where they did. -/
theorem Holds.write (holds : Holds dir files texts) (single : Path.IsSingle name)
    (ending : name.toList.getLast? = some 'c') (now : Nat) (code : String) :
    (∃ e, write now (Path.join dir name) code files = (.error e, files)) ∨
    (∃ files', write now (Path.join dir name) code files = (.ok (), files') ∧
      Holds dir files' ((name, code) :: without name texts) ∧
        ∀ path place, files.resolve path = .ok place → files'.resolve path = .ok place) := by
  rcases Files.isDirectory_iff.1 holds.directory with ⟨home, resolved, directory⟩
  rcases holds.not_directory resolved name with ⟨notDirectory, notLink⟩
  -- The place is that of a file or free, so only a path that is too long makes the writing fail.
  by_cases fits : Files.Fits dir name
  · rcases write_of_fits resolved directory single fits ending notDirectory now code with
      ⟨files', done, same⟩
    refine .inr ⟨files', done, (holds.put resolved single fits code now _).modes same, ?_⟩
    intro path place leads
    have keeps := Files.keepsKinds_put notDirectory notLink (by simp) (.text code) now
      Files.stagedMode
    exact (same.resolve_eq path).trans (keeps.resolve rfl leads)
  · exact .inl (write_of_not_fits resolved directory single fits now code)

/-! ## Clearing -/

/-- When one name is gone the directory holds the others. -/
theorem Holds.erase (holds : Holds dir files texts) (resolved : files.resolve dir = .ok home)
    (name : String) : Holds dir (files.erase (home ++ [name])) (without name texts) := by
  have directory := Files.hasDirectory_of_isDirectory holds.directory resolved
  rcases holds.not_directory resolved name with ⟨notDirectory, notLink⟩
  have filed := Files.filed?_erase resolved directory notDirectory notLink
  refine ⟨holds.tree.erase notDirectory, ?_, nodup_without name holds.distinct, ?_, ?_, ?_, ?_⟩
  · refine (Files.keeps_erase notDirectory ?_).isDirectory rfl holds.directory
    exact fun target there => absurd there (notLink target)
  · exact fun entry member => holds.single entry (mem_without.1 member).1
  · exact fun entry member => holds.fits entry (mem_without.1 member).1
  · intro entry member
    rcases mem_without.1 member with ⟨before, different⟩
    rw [filed, if_neg different]
    exact holds.text entry before
  · intro other node found
    rw [filed] at found
    split at found
    · cases found
    · next different =>
      have before := holds.nothingElse other node found
      rw [names_without]
      simp [before, different]

variable {cache : Cache}

/-- The name of a text is taken out and counted. -/
theorem Holds.clearName (holds : Holds cache.directory files texts)
    (member : name ∈ texts.map Prod.fst) (artifact : isArtifactName name = true) (count : Nat) :
    ∃ files', cache.clearName (count, files) name = (count + 1, files') ∧
      Holds cache.directory files' (without name texts) := by
  rcases List.mem_map.1 member with ⟨entry, entry_mem, rfl⟩
  rcases Files.isDirectory_iff.1 holds.directory with ⟨home, resolved, directory⟩
  rcases holds.at? entry_mem with ⟨time, mode, there⟩
  rcases holds.text entry entry_mem with ⟨_, _, found⟩
  rw [Files.filed?_eq resolved] at found
  have isFile : files.isFile (Path.join cache.directory entry.1) = true := by
    simp only [Files.isFile, there]
  have placed := (Files.placeOf_join resolved directory (holds.single entry entry_mem)).2
    ⟨holds.fits entry entry_mem, rfl⟩
  have removed : files.remove (Path.join cache.directory entry.1) =
      .ok (files.erase (home ++ [entry.1])) := by
    simp only [Files.remove, placed, found]
  refine ⟨_, ?_, holds.erase resolved entry.1⟩
  simp only [Cache.clearName, artifact, isFile, Bool.and_self, if_true, removed]

/-- A name that is gone already does not count. -/
theorem Holds.clearName_gone (holds : Holds cache.directory files texts)
    (absent : name ∉ texts.map Prod.fst) (single : Path.IsSingle name) (count : Nat) :
    cache.clearName (count, files) name = (count, files) := by
  have missing := Files.exists?_join_of_filed?_none holds.directory single (holds.nothing absent)
  have notFile : files.isFile (Path.join cache.directory name) = false := by
    unfold Files.exists? at missing
    simp only [Files.isFile, Option.not_isSome_iff_eq_none.1 (Bool.eq_false_iff.1 missing)]
  simp only [Cache.clearName, notFile, Bool.and_false, Bool.false_eq_true, if_false]

/-- Each step of a clearing keeps the count and the number of texts that are left together. -/
theorem Holds.clearNames (holds : Holds cache.directory files texts) (count : Nat)
    (names : List String)
    (clearable : ∀ name ∈ names, Path.IsSingle name ∧ isArtifactName name = true) :
    ∃ count' files' left, names.foldl cache.clearName (count, files) = (count', files') ∧
      Holds cache.directory files' left ∧ count' + left.length = count + texts.length ∧
        ∀ entry ∈ left, entry ∈ texts ∧ entry.1 ∉ names := by
  -- The induction is on the names still to come; the count grows as the texts get fewer.
  induction names generalizing count files texts with
  | nil => exact ⟨count, files, texts, rfl, holds, rfl, by simp⟩
  | cons name names ih =>
      have later : ∀ name ∈ names, Path.IsSingle name ∧ isArtifactName name = true :=
        fun other member => clearable other (List.mem_cons_of_mem name member)
      rcases clearable name List.mem_cons_self with ⟨single, artifact⟩
      rw [List.foldl_cons]
      by_cases member : name ∈ texts.map Prod.fst
      · rcases holds.clearName member artifact count with ⟨files₁, step, holds₁⟩
        rcases ih holds₁ (count + 1) later with ⟨count', files', left, steps, holds', sum, rest⟩
        have one := length_without holds.distinct member
        refine ⟨count', files', left, by rw [step, steps], holds', by omega, ?_⟩
        intro entry left_mem
        rcases rest entry left_mem with ⟨before, notLater⟩
        rcases mem_without.1 before with ⟨start, different⟩
        exact ⟨start, by simp [different, notLater]⟩
      · -- The name was taken out before: a directory may list it twice.
        rcases ih holds count later with ⟨count', files', left, steps, holds', sum, rest⟩
        refine ⟨count', files', left, by rw [holds.clearName_gone member single count, steps], holds', sum, ?_⟩
        intro entry left_mem
        rcases rest entry left_mem with ⟨start, notLater⟩
        have different : entry.1 ≠ name := by
          rintro rfl
          exact member (List.mem_map_of_mem start)
        exact ⟨start, by simp [different, notLater]⟩

/-- Clearing takes out all texts, counts them, and leaves an empty directory. -/
theorem Holds.clear (ensured : cache.ensure now files = (.ok (), files'))
    (holds : Holds cache.directory files' texts)
    (artifacts : ∀ entry ∈ texts, isArtifactName entry.1 = true) :
    ∃ cleared, cache.clear now files = (.ok texts.length, cleared) ∧
      Holds cache.directory cleared [] := by
  rcases Files.isDirectory_iff.1 holds.directory with ⟨home, resolved, time, mode, found⟩
  have listed : files'.list cache.directory = .ok (files'.namesIn home) := by
    simp only [Files.list, resolved, found]
  have names_iff : ∀ name, name ∈ files'.namesIn home ↔ name ∈ texts.map Prod.fst := by
    intro name
    rw [Files.mem_namesIn_iff, ← Files.filed?_eq resolved]
    constructor
    · intro there
      rcases Option.isSome_iff_exists.1 there with ⟨node, found⟩
      exact holds.nothingElse name node found
    · intro member
      rcases List.mem_map.1 member with ⟨entry, entry_mem, rfl⟩
      rcases holds.text entry entry_mem with ⟨time, mode, found⟩
      simp [found]
  have clearable : ∀ name ∈ files'.namesIn home,
      Path.IsSingle name ∧ isArtifactName name = true := by
    intro name member
    rcases List.mem_map.1 ((names_iff name).1 member) with ⟨entry, entry_mem, rfl⟩
    exact ⟨holds.single entry entry_mem, artifacts entry entry_mem⟩
  rcases holds.clearNames 0 _ clearable with
    ⟨count, cleared, left, steps, holds', sum, rest⟩
  -- Every text is listed, so none is left.
  have none_left : left = [] := by
    refine List.eq_nil_iff_forall_not_mem.2 fun entry left_mem => ?_
    rcases rest entry left_mem with ⟨start, notListed⟩
    exact notListed ((names_iff _).2 (List.mem_map_of_mem start))
  rw [none_left] at holds' sum
  refine ⟨cleared, ?_, holds'⟩
  have total : count = texts.length := by simpa using sum
  unfold Cache.clear
  simp only [ensured, listed, steps, total]

end Cache
end TemplateEngine
