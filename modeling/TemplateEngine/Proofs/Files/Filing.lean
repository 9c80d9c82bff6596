import TemplateEngine.Proofs.Files.Modes

/-!
# Filing — names in a directory

A name that is put behind the path of a directory leads to its entry in that directory, unless the
path or the name grows too long.
-/

namespace TemplateEngine
namespace Path

/-- A path is cut at each slash. -/
theorem cutAtSlashes_append (before after : List Char) :
    cutAtSlashes (before ++ '/' :: after) = cutAtSlashes before ++ cutAtSlashes after := by
  induction before with
  | nil => simp [cutAtSlashes]
  | cons c cs ih =>
      by_cases slash : c = '/'
      · simp [cutAtSlashes, slash, ih]
      · have nonempty : cutAtSlashes cs ≠ [] := by
          cases cs with
          | nil => simp [cutAtSlashes]
          | cons d ds =>
              rw [cutAtSlashes]
              split
              · simp
              · split <;> simp
        cases whole : cutAtSlashes cs with
        | nil => exact absurd whole nonempty
        | cons part parts => simp [cutAtSlashes, slash, ih, whole]

theorem cutAtSlashes_of_not_mem {cs : List Char} (noSlash : '/' ∉ cs) : cutAtSlashes cs = [cs] := by
  induction cs with
  | nil => rfl
  | cons c cs ih =>
      simp only [List.mem_cons, not_or] at noSlash
      simp [cutAtSlashes, Ne.symm noSlash.1, ih noSlash.2]

/-- A text that is a name of its own as a path. -/
structure IsSingle (name : String) : Prop where
  isName : Files.IsName name
  noSlash : '/' ∉ name.toList

instance (name : String) : Decidable (IsSingle name) :=
  decidable_of_iff (Files.IsName name ∧ '/' ∉ name.toList)
    ⟨fun h => ⟨h.1, h.2⟩, fun single => ⟨single.isName, single.noSlash⟩⟩

/-- A single name is not absolute. -/
theorem IsSingle.not_isAbsolute {name : String} (single : IsSingle name) :
    isAbsolute name = false := by
  unfold isAbsolute
  cases spelled : name.toList with
  | nil => rfl
  | cons c cs =>
      have noSlash := single.noSlash
      simp only [spelled, List.mem_cons, not_or] at noSlash
      simp [Ne.symm noSlash.1]

/-- The names of a directory stand before a name put behind it; a slash at its end counts as one
more name, an empty one. -/
theorem exists_parts_join {dir : String} (notEmpty : dir ≠ "") :
    ∃ above, (parts dir = above ∨ parts dir = above ++ [""]) ∧
      ∀ name, IsSingle name → parts (join dir name) = above ++ [name] := by
  by_cases slash : dir.toList.getLast? = some '/'
  · rcases List.getLast?_eq_some_iff.1 slash with ⟨before, spelled⟩
    refine ⟨(cutAtSlashes before).map String.ofList, Or.inr ?_, fun name single => ?_⟩
    · rw [parts, spelled, cutAtSlashes_append]
      simp [cutAtSlashes]
    · rw [join, if_neg (by simp [single.not_isAbsolute]), if_pos (by simp [slash]), parts]
      rw [String.toList_append, spelled, List.append_assoc]
      have cut := cutAtSlashes_append before name.toList
      simp [cut, cutAtSlashes_of_not_mem single.noSlash]
  · refine ⟨parts dir, Or.inl rfl, fun name single => ?_⟩
    rw [join, if_neg (by simp [single.not_isAbsolute]),
      if_neg (by simp [slash, notEmpty]), parts]
    have cut := cutAtSlashes_append dir.toList name.toList
    simp [cut, cutAtSlashes_of_not_mem single.noSlash, parts]

/-- The last part of a joined path is the name. -/
theorem getLast?_parts_join (dir : String) {name : String} (single : IsSingle name) :
    (parts (join dir name)).getLast? = some name := by
  by_cases empty : dir = ""
  · have alone : join dir name = name := by simp [join, single.not_isAbsolute, empty]
    simp [alone, parts, cutAtSlashes_of_not_mem single.noSlash]
  · rcases exists_parts_join empty with ⟨above, _, parts_join⟩
    rw [parts_join name single, List.getLast?_concat]

theorem isAbsolute_join {dir name : String} (notEmpty : dir ≠ "") (single : IsSingle name) :
    isAbsolute (join dir name) = isAbsolute dir := by
  have spelled : dir.toList ≠ [] := by simpa using notEmpty
  rcases List.exists_cons_of_ne_nil spelled with ⟨c, cs, spelled⟩
  rw [join, if_neg (by simp [single.not_isAbsolute])]
  split <;> simp [isAbsolute, spelled]

theorem exists_join_eq_append (dir : String) {name : String} (single : IsSingle name) :
    ∃ more, join dir name = dir ++ more := by
  rw [join, if_neg (by simp [single.not_isAbsolute])]
  split
  · exact ⟨name, rfl⟩
  · exact ⟨"/" ++ name, String.append_assoc⟩

end Path

namespace Files

/-- What is filed under a name in the directory at a path. -/
def filed? (files : Files) (dir name : String) : Option Node :=
  match files.resolve dir with
  | .ok place => files.node? (place ++ [name])
  | .error _ => none

/-- A name and the path that it has in a directory are not too long. -/
def Fits (dir name : String) : Prop :=
  badPath? (Path.join dir name) = none ∧ name.utf8ByteSize ≤ maxName

instance (dir name : String) : Decidable (Fits dir name) :=
  inferInstanceAs (Decidable (_ ∧ _))

/-- A path names a directory if it resolves to one. -/
theorem isDirectory_iff {files : Files} {dir : String} :
    files.isDirectory dir = true ↔
      ∃ place, files.resolve dir = .ok place ∧ files.HasDirectory place := by
  unfold isDirectory at? HasDirectory
  cases files.resolve dir with
  | error e => simp
  | ok place =>
      cases found : files.node? place with
      | none => simp [found]
      | some node => cases node <;> simp [found]

theorem hasDirectory_of_isDirectory {files : Files} {dir : String} {home : Location}
    (directory : files.isDirectory dir = true) (resolved : files.resolve dir = .ok home) :
    files.HasDirectory home := by
  rcases isDirectory_iff.1 directory with ⟨place, resolved', there⟩
  rw [resolved] at resolved'
  cases resolved'
  exact there

section Directory

variable {files : Files} {dir name : String} {home : Location}

/-- The directory's own names lead to it. -/
theorem leads_above (resolved : files.resolve dir = .ok home) {above : List String}
    (names : Path.parts dir = above ∨ Path.parts dir = above ++ [""]) :
    ∃ n, n ≤ maxLinks ∧ Leads files (files.origin dir) above n home := by
  rcases leads_of_resolve resolved with ⟨_, n, enough, leads⟩
  rcases names with same | ended
  · exact ⟨n, enough, same ▸ leads⟩
  · -- The empty name at the end leads nowhere else.
    rw [ended] at leads
    rcases leads.cut with ⟨middle, k, m, before, after, sum⟩
    have stays : Leads files middle [""] 0 middle := .still after.hasDirectory (.inl rfl) .done
    rcases stays.unique after with ⟨rfl, _⟩
    exact ⟨k, Nat.le_trans (Nat.le_add_right k m) (sum ▸ enough), before⟩

/-- The path of an entry goes to the directory first and takes one more name there. -/
theorem exists_above (resolved : files.resolve dir = .ok home) :
    ∃ above n, n ≤ maxLinks ∧ Leads files (files.origin dir) above n home ∧
      ∀ name, Path.IsSingle name → Path.parts (Path.join dir name) = above ++ [name] ∧
        files.origin (Path.join dir name) = files.origin dir := by
  have notEmpty : dir ≠ "" := by
    rintro rfl
    simp [resolve, badPath?] at resolved
  rcases Path.exists_parts_join notEmpty with ⟨above, names, parts_join⟩
  rcases leads_above resolved names with ⟨n, enough, reaches⟩
  refine ⟨above, n, enough, reaches, fun name single => ⟨parts_join name single, ?_⟩⟩
  simp only [origin, Path.isAbsolute_join notEmpty single]

/-- Where an entry of a directory is to be found: behind the location of the directory. -/
theorem leads_of_resolve_join (resolved : files.resolve dir = .ok home)
    (single : Path.IsSingle name) {place : Location}
    (h : files.resolve (Path.join dir name) = .ok place) :
    badPath? (Path.join dir name) = none ∧ ∃ n, Leads files home [name] n place := by
  rcases leads_of_resolve h with ⟨good, n, _, leads⟩
  rcases exists_above resolved with ⟨above, m, _, reaches, entry⟩
  rcases entry name single with ⟨parts_join, sameOrigin⟩
  rw [parts_join, sameOrigin] at leads
  rcases leads.cut with ⟨middle, k, l, before, after, _⟩
  rcases reaches.unique before with ⟨rfl, _⟩
  exact ⟨good, l, after⟩

/-- A filed name resolves to a place in the directory. -/
theorem resolve_join (resolved : files.resolve dir = .ok home)
    (directory : files.HasDirectory home) (single : Path.IsSingle name) (fits : Fits dir name)
    (there : files.HasEnd (home ++ [name])) :
    files.resolve (Path.join dir name) = .ok (home ++ [name]) := by
  rcases exists_above resolved with ⟨above, m, enough, reaches, entry⟩
  rcases entry name single with ⟨parts_join, sameOrigin⟩
  rcases there with ⟨node, found, notLink⟩
  have last : Leads files home [name] 0 (home ++ [name]) :=
    .down directory single.isName fits.2 found notLink .done
  have whole := reaches.append last
  unfold resolve
  rw [fits.1, parts_join, sameOrigin]
  exact whole.follow_eq enough

/-- So does a name that is to be filed, if it fits. -/
theorem placeOf_join (resolved : files.resolve dir = .ok home)
    (directory : files.HasDirectory home) (single : Path.IsSingle name) {place : Location} :
    files.placeOf (Path.join dir name) = .ok place ↔ Fits dir name ∧ place = home ++ [name] := by
  rcases exists_above resolved with ⟨above, m, enough, reaches, entry⟩
  rcases entry name single with ⟨parts_join, sameOrigin⟩
  have follows := reaches.follow_eq enough
  rcases directory with ⟨time, mode, found⟩
  rcases single.isName with ⟨notEmptyName, notDot, notUp⟩
  unfold placeOf Fits
  rw [parts_join, sameOrigin]
  cases bad : badPath? (Path.join dir name) with
  | some e => simp
  | none =>
      by_cases long : maxName < name.utf8ByteSize
      · have tooLong : ¬ name.utf8ByteSize ≤ maxName := Nat.not_le_of_lt long
        simp [follows, found, notEmptyName, notDot, notUp, long, tooLong]
      · have short : name.utf8ByteSize ≤ maxName := Nat.le_of_not_lt long
        simp only [List.dropLast_concat, follows, List.getLast?_concat, Option.getD_some, found,
          String.isEmpty_iff, Bool.or_eq_true, beq_iff_eq, notEmptyName, notDot, notUp, or_self,
          if_false, long, short, and_self, true_and, Except.ok.injEq]
        exact eq_comm

/-! ## Entries by their paths -/

/-- What is filed under a name is the node there. -/
theorem filed?_eq (resolved : files.resolve dir = .ok home) (name : String) :
    files.filed? dir name = files.node? (home ++ [name]) := by
  simp [filed?, resolved]

theorem DifferInModes.filed?_none {files' : Files} (h : DifferInModes files files')
    (nothing : files.filed? dir name = none) : files'.filed? dir name = none := by
  unfold Files.filed? at nothing ⊢
  rw [h.resolve_eq]
  split
  · next place resolved =>
    rw [resolved] at nothing
    exact h.sameKinds.nothing nothing
  · rfl

theorem DifferInModes.filed?_file {files' : Files} (h : DifferInModes files files')
    {content : Content} {time mode : Nat}
    (found : files.filed? dir name = some (.file content time mode)) :
    ∃ mode', files'.filed? dir name = some (.file content time mode') := by
  unfold Files.filed? at found ⊢
  rw [h.resolve_eq]
  split
  · next place resolved =>
    rw [resolved] at found
    exact h.node? found
  · next e failed => simp [failed] at found

/-- What is not filed does not exist. -/
theorem exists?_join_of_filed?_none (directory : files.isDirectory dir = true)
    (single : Path.IsSingle name) (nothing : files.filed? dir name = none) :
    files.exists? (Path.join dir name) = false := by
  rcases isDirectory_iff.1 directory with ⟨home, resolved, _⟩
  rw [filed?_eq resolved] at nothing
  unfold exists? at?
  split
  · next place found =>
    rcases leads_of_resolve_join resolved single found with ⟨_, n, leads⟩
    rcases (leads.single single.isName).2 with ⟨_, found', _⟩ | ⟨_, _, found', _⟩
    · simp [nothing] at found'
    · simp [nothing] at found'
  · rfl

theorem badPath?_of_append {more : String} (notEmpty : dir ≠ "")
    (good : badPath? (dir ++ more) = none) : badPath? dir = none := by
  unfold badPath? at good ⊢
  split at good
  · cases good
  · split at good
    · cases good
    · next noNul =>
      split at good
      · cases good
      · next short =>
        simp only [String.toList_append, List.contains_eq_mem, List.mem_append, decide_eq_true_eq,
          not_or] at noNul
        rw [String.utf8ByteSize_append] at short
        have shorter : ¬ pathLimit ≤ dir.utf8ByteSize :=
          fun long => short (Nat.le_trans long (Nat.le_add_right _ _))
        simp [notEmpty, noNul.1, shorter]

/-- What is in a directory shows that the directory is there. -/
theorem isDirectory_of_exists?_join (notEmpty : dir ≠ "") (single : Path.IsSingle name)
    (there : files.exists? (Path.join dir name) = true) : files.isDirectory dir = true := by
  rcases exists?_iff.1 there with ⟨place, _, resolved, _⟩
  rcases leads_of_resolve resolved with ⟨good, n, enough, leads⟩
  rcases Path.exists_join_eq_append dir single with ⟨more, whole⟩
  rcases Path.exists_parts_join notEmpty with ⟨above, names, parts_join⟩
  rw [parts_join name single] at leads
  rcases leads.cut with ⟨home, k, m, before, after, sum⟩
  have directory := after.hasDirectory
  have sameOrigin : files.origin (Path.join dir name) = files.origin dir := by
    simp only [origin, Path.isAbsolute_join notEmpty single]
  rw [sameOrigin] at before
  have fewer : k ≤ maxLinks := Nat.le_trans (Nat.le_add_right k m) (sum ▸ enough)
  refine isDirectory_iff.2 ⟨home, ?_, directory⟩
  unfold resolve
  rw [badPath?_of_append notEmpty (whole ▸ good)]
  rcases names with same | ended
  · rw [same]
    exact before.follow_eq fewer
  · -- The empty name at the end leads nowhere else.
    have stays : Leads files home [""] 0 home := .still directory (.inl rfl) .done
    rw [ended]
    exact (before.append stays).follow_eq fewer

/-- What exists fits. -/
theorem fits_of_exists? (directory : files.isDirectory dir = true) (single : Path.IsSingle name)
    (there : files.exists? (Path.join dir name) = true) : Fits dir name := by
  rcases isDirectory_iff.1 directory with ⟨home, resolved, _⟩
  rcases exists?_iff.1 there with ⟨place, _, found, _⟩
  rcases leads_of_resolve_join resolved single found with ⟨good, n, leads⟩
  exact ⟨good, (leads.single single.isName).1⟩

/-- What is filed is found by its path. -/
theorem at?_join (directory : files.isDirectory dir = true) (single : Path.IsSingle name)
    (fits : Fits dir name) {node : Node} (found : files.filed? dir name = some node)
    (notLink : ∀ target, node ≠ .link target) :
    files.at? (Path.join dir name) = some node := by
  rcases isDirectory_iff.1 directory with ⟨home, resolved, home_⟩
  rw [filed?_eq resolved] at found
  unfold at?
  rw [resolve_join resolved home_ single fits ⟨node, found, notLink⟩]
  exact found

/-- A text that is found can be read. -/
theorem read_of_at? {path text : String} {time mode : Nat}
    (there : files.at? path = some (.file (.text text) time mode)) :
    files.read path = .ok text := by
  unfold at? at there
  unfold read
  split at there
  · simp [textAt, there]
  · cases there

end Directory

theorem resolve_root (files : Files) : files.resolve "/" = .ok [] := by
  have root := hasDirectory_root files
  have leads : Leads files [] ["", ""] 0 [] :=
    .still root (.inl rfl) (.still root (.inl rfl) .done)
  exact leads.follow_eq (Nat.zero_le _)

section AtRoot

variable {files : Files} {name : String} (single : Path.IsSingle name) (fits : Fits "/" name)
include single fits

/-- A name at the root resolves to itself. -/
theorem resolve_atRoot (there : files.HasEnd [name]) :
    files.resolve (Path.join "/" name) = .ok [name] :=
  resolve_join (resolve_root files) (hasDirectory_root files) single fits there

theorem placeOf_atRoot : files.placeOf (Path.join "/" name) = .ok [name] :=
  (placeOf_join (resolve_root files) (hasDirectory_root files) single).2 ⟨fits, rfl⟩

variable {text : String} {time mode : Nat}
  (there : files.node? [name] = some (.file (.text text) time mode))
include there

theorem at?_atRoot : files.at? (Path.join "/" name) = some (.file (.text text) time mode) := by
  unfold at?
  rw [resolve_atRoot single fits ⟨_, there, by simp⟩]
  exact there

theorem read_atRoot : files.read (Path.join "/" name) = .ok text :=
  read_of_at? (at?_atRoot single fits there)

theorem identity_atRoot : files.identity (Path.join "/" name) = pathOf [name] := by
  unfold identity
  rw [resolve_atRoot single fits ⟨_, there, by simp⟩]

end AtRoot

end Files
end TemplateEngine
