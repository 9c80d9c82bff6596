import TemplateEngine.Files.Change

/-!
# Leads — where names lead, as a relation

The rules by which names lead from one location to another, with the number of links that are
replaced on the way. A list of names can be cut anywhere, and `follow` succeeds exactly where there
are links enough. Errors are spoken of in terms of `follow` itself.
-/

namespace TemplateEngine
namespace Files

def HasDirectory (files : Files) (place : Location) : Prop :=
  ∃ time mode, files.node? place = some (.directory time mode)

/-- A name that something can be filed under. -/
def IsName (name : String) : Prop :=
  name ≠ "" ∧ name ≠ "." ∧ name ≠ ".."

instance (name : String) : Decidable (IsName name) :=
  inferInstanceAs (Decidable (_ ∧ _ ∧ _))

/-- Where the target of a link in a directory starts from. -/
def linkOrigin (place : Location) (target : String) : Location :=
  if Path.isAbsolute target then [] else place

/-- Names lead from one location to another, over some number of links. -/
inductive Leads (files : Files) : Location → List String → Nat → Location → Prop
  | done {place} : Leads files place [] 0 place
  | still {place name names n goal} (directory : files.HasDirectory place)
      (still : name = "" ∨ name = ".") (rest : Leads files place names n goal) :
      Leads files place (name :: names) n goal
  | up {place names n goal} (directory : files.HasDirectory place)
      (rest : Leads files place.dropLast names n goal) : Leads files place (".." :: names) n goal
  | down {place name names n goal node} (directory : files.HasDirectory place)
      (proper : IsName name) (short : name.utf8ByteSize ≤ maxName)
      (there : files.node? (place ++ [name]) = some node) (notLink : ∀ target, node ≠ .link target)
      (rest : Leads files (place ++ [name]) names n goal) : Leads files place (name :: names) n goal
  | link {place name names n goal target} (directory : files.HasDirectory place)
      (proper : IsName name) (short : name.utf8ByteSize ≤ maxName)
      (there : files.node? (place ++ [name]) = some (.link target))
      (rest : Leads files (linkOrigin place target) (Path.parts target ++ names) n goal) :
      Leads files place (name :: names) (n + 1) goal

variable {files : Files} {place goal : Location} {names : List String} {n : Nat}

theorem hasDirectory_root (files : Files) : files.HasDirectory [] :=
  ⟨0, 0o755, rfl⟩

theorem Leads.hasDirectory {name : String} (h : Leads files place (name :: names) n goal) :
    files.HasDirectory place := by
  cases h with
  | still directory => exact directory
  | up directory => exact directory
  | down directory => exact directory
  | link directory => exact directory

/-! ## A list of names can be cut -/

/-- Ways are joined end to end. -/
theorem Leads.append {middle : Location} {more : List String} {m : Nat}
    (first : Leads files place names n middle) (second : Leads files middle more m goal) :
    Leads files place (names ++ more) (n + m) goal := by
  induction first with
  | done => simpa using second
  | still directory still _ ih => exact .still directory still (ih second)
  | up directory _ ih => exact .up directory (ih second)
  | down directory proper short there notLink _ ih =>
      exact .down directory proper short there notLink (ih second)
  | link directory proper short there _ ih =>
      -- The names of the target come first, then those that were left, then the others.
      have rest := ih second
      rw [List.append_assoc] at rest
      have whole := Leads.link directory proper short there rest
      rwa [Nat.add_right_comm] at whole

theorem Leads.cut_nil (h : Leads files place names n goal) :
    ∃ middle k m, Leads files place [] k middle ∧ Leads files middle names m goal ∧ k + m = n :=
  ⟨place, 0, n, .done, h, Nat.zero_add n⟩

/-- A way is cut behind any of its names. -/
theorem Leads.cut {more : List String} (h : Leads files place (names ++ more) n goal) :
    ∃ middle k m, Leads files place names k middle ∧ Leads files middle more m goal ∧
      k + m = n := by
  -- The names of a link stand before those that are left, so the cut moves behind them.
  generalize whole : names ++ more = all at h
  induction h generalizing names with
  | done =>
      rcases List.append_eq_nil_iff.1 whole with ⟨rfl, rfl⟩
      exact ⟨_, 0, 0, .done, .done, rfl⟩
  | @still place name rest n goal directory still tail ih =>
      cases names with
      | nil =>
          rw [List.nil_append] at whole
          exact Leads.cut_nil (whole ▸ .still directory still tail)
      | cons first others =>
          rcases List.cons.inj whole with ⟨rfl, split⟩
          rcases ih split with ⟨middle, k, m, before, after, sum⟩
          exact ⟨middle, k, m, .still directory still before, after, sum⟩
  | @up place rest n goal directory tail ih =>
      cases names with
      | nil =>
          rw [List.nil_append] at whole
          exact Leads.cut_nil (whole ▸ .up directory tail)
      | cons first others =>
          rcases List.cons.inj whole with ⟨rfl, split⟩
          rcases ih split with ⟨middle, k, m, before, after, sum⟩
          exact ⟨middle, k, m, .up directory before, after, sum⟩
  | @down place name rest n goal node directory proper short there notLink tail ih =>
      cases names with
      | nil =>
          rw [List.nil_append] at whole
          exact Leads.cut_nil (whole ▸ .down directory proper short there notLink tail)
      | cons first others =>
          rcases List.cons.inj whole with ⟨rfl, split⟩
          rcases ih split with ⟨middle, k, m, before, after, sum⟩
          exact ⟨middle, k, m, .down directory proper short there notLink before, after, sum⟩
  | @link place name rest n goal target directory proper short there tail ih =>
      cases names with
      | nil =>
          rw [List.nil_append] at whole
          exact Leads.cut_nil (whole ▸ .link directory proper short there tail)
      | cons first others =>
          rcases List.cons.inj whole with ⟨rfl, split⟩
          have moved : (Path.parts target ++ others) ++ more = Path.parts target ++ rest := by
            rw [List.append_assoc]
            exact congrArg (Path.parts target ++ ·) split
          rcases ih moved with ⟨middle, k, m, before, after, sum⟩
          refine ⟨middle, k + 1, m, .link directory proper short there before, after, ?_⟩
          rw [Nat.add_right_comm, sum]

/-! ## Names lead to one location only -/

theorem not_isName_of_still {name : String} (still : name = "" ∨ name = ".") : ¬ IsName name := by
  rintro ⟨notEmpty, notDot, _⟩
  rcases still with rfl | rfl
  · exact notEmpty rfl
  · exact notDot rfl

/-- A way has one end. -/
theorem Leads.unique {goal' : Location} {n' : Nat} (h : Leads files place names n goal)
    (h' : Leads files place names n' goal') : goal' = goal ∧ n' = n := by
  induction h generalizing n' goal' with
  | done =>
      cases h'
      exact ⟨rfl, rfl⟩
  | still _ still _ ih =>
      cases h' with
      | still _ _ rest => exact ih rest
      | up => simp at still
      | down _ proper => exact absurd proper (not_isName_of_still still)
      | link _ proper => exact absurd proper (not_isName_of_still still)
  | up _ _ ih =>
      cases h' with
      | still _ still => simp at still
      | up _ rest => exact ih rest
      | down _ proper => exact absurd rfl proper.2.2
      | link _ proper => exact absurd rfl proper.2.2
  -- A name is of one kind, and the node under it is a link or none.
  | down _ proper _ there notLink _ ih =>
      cases h' with
      | still _ still => exact absurd proper (not_isName_of_still still)
      | up => exact absurd rfl proper.2.2
      | down _ _ _ _ _ rest => exact ih rest
      | link _ _ _ there' _ =>
          rw [there] at there'
          exact absurd (Option.some.inj there') (notLink _)
  | link _ proper _ there _ ih =>
      cases h' with
      | still _ still => exact absurd proper (not_isName_of_still still)
      | up => exact absurd rfl proper.2.2
      | down _ _ _ there' notLink _ =>
          rw [there] at there'
          exact absurd (Option.some.inj there').symm (notLink _)
      | link _ _ _ there' rest =>
          rw [there] at there'
          cases there'
          rcases ih rest with ⟨rfl, rfl⟩
          exact ⟨rfl, rfl⟩

/-- A single name leads to what is filed under it, or on from the link there. -/
theorem Leads.single {name : String} (h : Leads files place [name] n goal) (proper : IsName name) :
    name.utf8ByteSize ≤ maxName ∧
      ((∃ node, files.node? (place ++ [name]) = some node ∧ ∀ target, node ≠ .link target) ∨
        ∃ target m, files.node? (place ++ [name]) = some (.link target) ∧
          Leads files (linkOrigin place target) (Path.parts target) m goal) := by
  cases h with
  | still _ still => exact absurd proper (not_isName_of_still still)
  | up => exact absurd rfl proper.2.2
  | down _ _ short there notLink _ => exact ⟨short, .inl ⟨_, there, notLink⟩⟩
  | link _ _ short there rest =>
      rw [List.append_nil] at rest
      exact ⟨short, .inr ⟨_, _, there, rest⟩⟩

/-! ## The search that runs, name by name -/

section Follow

variable {name : String} {links : Nat}

theorem follow_nothing (nothing : files.node? place = none) :
    files.follow links place (name :: names) = .error .notFound := by
  simp [follow, nothing]

theorem follow_file {content : Content} {time mode : Nat}
    (found : files.node? place = some (.file content time mode)) :
    files.follow links place (name :: names) = .error .notDirectory := by
  simp [follow, found]

theorem follow_throughLink {target : String} (found : files.node? place = some (.link target)) :
    files.follow links place (name :: names) = .error .notDirectory := by
  simp [follow, found]

variable (directory : files.HasDirectory place)
include directory

theorem follow_still (still : name = "" ∨ name = ".") :
    files.follow links place (name :: names) = files.follow links place names := by
  rcases directory with ⟨time, mode, found⟩
  rcases still with rfl | rfl <;> rw [follow] <;> simp [found]

theorem follow_up :
    files.follow links place (".." :: names) = files.follow links place.dropLast names := by
  rcases directory with ⟨time, mode, found⟩
  rw [follow]
  simp [found]

variable (proper : IsName name)
include proper

theorem follow_long (long : maxName < name.utf8ByteSize) :
    files.follow links place (name :: names) = .error .nameTooLong := by
  rcases directory with ⟨time, mode, found⟩
  rcases proper with ⟨notEmpty, notDot, notUp⟩
  simp [follow, found, notEmpty, notDot, notUp, long]

variable (short : name.utf8ByteSize ≤ maxName)
include short

/-- Nothing is found where nothing is. -/
theorem follow_absent (absent : files.node? (place ++ [name]) = none) :
    files.follow links place (name :: names) = .error .notFound := by
  rcases directory with ⟨time, mode, found⟩
  rcases proper with ⟨notEmpty, notDot, notUp⟩
  simp [follow, found, notEmpty, notDot, notUp, Nat.not_lt_of_le short, absent]

/-- A name that is not a link is followed down. -/
theorem follow_down {node : Node} (there : files.node? (place ++ [name]) = some node)
    (notLink : ∀ target, node ≠ .link target) :
    files.follow links place (name :: names) = files.follow links (place ++ [name]) names := by
  rcases directory with ⟨time, mode, found⟩
  rcases proper with ⟨notEmpty, notDot, notUp⟩
  rw [follow]
  cases node with
  | file => simp [found, notEmpty, notDot, notUp, Nat.not_lt_of_le short, there]
  | directory => simp [found, notEmpty, notDot, notUp, Nat.not_lt_of_le short, there]
  | link target => exact absurd rfl (notLink target)

/-- No link is followed when none is left. -/
theorem follow_noLinks {target : String}
    (there : files.node? (place ++ [name]) = some (.link target)) :
    files.follow 0 place (name :: names) = .error .tooManyLinks := by
  rcases directory with ⟨time, mode, found⟩
  rcases proper with ⟨notEmpty, notDot, notUp⟩
  simp [follow, found, notEmpty, notDot, notUp, Nat.not_lt_of_le short, there]

/-- A link is followed from where it starts. -/
theorem follow_link {target : String}
    (there : files.node? (place ++ [name]) = some (.link target)) :
    files.follow (links + 1) place (name :: names) =
      files.follow links (linkOrigin place target) (Path.parts target ++ names) := by
  rcases directory with ⟨time, mode, found⟩
  rcases proper with ⟨notEmpty, notDot, notUp⟩
  rw [follow, linkOrigin]
  simp [found, notEmpty, notDot, notUp, Nat.not_lt_of_le short, there]

end Follow

/-- The cases of a search, with what is there and what the name is. -/
theorem followInduction (files : Files) {motive : Nat → Location → List String → Prop}
    (done : ∀ links place, motive links place [])
    (nothing : ∀ links place name names, files.node? place = none →
      motive links place (name :: names))
    (file : ∀ links place name names content time mode,
      files.node? place = some (.file content time mode) → motive links place (name :: names))
    (throughLink : ∀ links place name names target, files.node? place = some (.link target) →
      motive links place (name :: names))
    (still : ∀ links place name names, files.HasDirectory place → (name = "" ∨ name = ".") →
      motive links place names → motive links place (name :: names))
    (up : ∀ links place names, files.HasDirectory place → motive links place.dropLast names →
      motive links place (".." :: names))
    (long : ∀ links place name names, files.HasDirectory place → IsName name →
      maxName < name.utf8ByteSize → motive links place (name :: names))
    (absent : ∀ links place name names, files.HasDirectory place → IsName name →
      name.utf8ByteSize ≤ maxName → files.node? (place ++ [name]) = none →
        motive links place (name :: names))
    (noLinks : ∀ place name names target, files.HasDirectory place → IsName name →
      name.utf8ByteSize ≤ maxName → files.node? (place ++ [name]) = some (.link target) →
        motive 0 place (name :: names))
    (link : ∀ links place name names target, files.HasDirectory place → IsName name →
      name.utf8ByteSize ≤ maxName → files.node? (place ++ [name]) = some (.link target) →
        motive links (linkOrigin place target) (Path.parts target ++ names) →
          motive (links + 1) place (name :: names))
    (down : ∀ links place name names node, files.HasDirectory place → IsName name →
      name.utf8ByteSize ≤ maxName → files.node? (place ++ [name]) = some node →
        (∀ target, node ≠ .link target) → motive links (place ++ [name]) names →
          motive links place (name :: names))
    (links : Nat) (place : Location) (names : List String) : motive links place names := by
  -- The function tests the name with booleans; what the cases are given is what they mean.
  have isName : ∀ {name : String}, ¬ (name.isEmpty || name == ".") = true →
      ¬ (name == "..") = true → IsName name := by
    intro name moving notUp
    simp only [Bool.or_eq_true, not_or, String.isEmpty_iff, beq_iff_eq] at moving notUp
    exact ⟨moving.1, moving.2, notUp⟩
  induction links, place, names using follow.induct files with
  | case1 links place => exact done links place
  | case2 links place name names found => exact nothing links place name names found
  | case3 links place name names content time mode found =>
      exact file links place name names content time mode found
  | case4 links place name names target found =>
      exact throughLink links place name names target found
  | case5 links place name names time mode found named ih =>
      exact still links place name names ⟨time, mode, found⟩ (by simpa using named) ih
  | case6 links place name names time mode found moving named ih =>
      rw [eq_of_beq named]
      exact up links place names ⟨time, mode, found⟩ ih
  | case7 links place name names time mode found moving notUp tooLong =>
      exact long links place name names ⟨time, mode, found⟩ (isName moving notUp) tooLong
  | case8 links place name names time mode found moving notUp short next there =>
      exact absent links place name names ⟨time, mode, found⟩ (isName moving notUp)
        (Nat.le_of_not_lt short) there
  | case9 place name names time mode found moving notUp short next target there =>
      exact noLinks place name names target ⟨time, mode, found⟩ (isName moving notUp)
        (Nat.le_of_not_lt short) there
  | case10 place name names time mode found moving notUp short next target there links ih =>
      exact link links place name names target ⟨time, mode, found⟩ (isName moving notUp)
        (Nat.le_of_not_lt short) there ih
  | case11 links place name names time mode found moving notUp short next node notLink there ih =>
      exact down links place name names node ⟨time, mode, found⟩ (isName moving notUp)
        (Nat.le_of_not_lt short) there notLink ih

/-! ## The search that runs -/

/-- A search goes the way. -/
theorem Leads.follow_eq {links : Nat} (h : Leads files place names n goal) (enough : n ≤ links) :
    files.follow links place names = .ok goal := by
  induction h generalizing links with
  | done => rw [follow]
  | still directory still _ ih => exact (follow_still directory still).trans (ih enough)
  | up directory _ ih => exact (follow_up directory).trans (ih enough)
  | down directory proper short there notLink _ ih =>
      exact (follow_down directory proper short there notLink).trans (ih enough)
  | link directory proper short there _ ih =>
      cases links with
      | zero => exact absurd enough (Nat.not_succ_le_zero _)
      | succ links =>
          have rest := ih (Nat.le_of_succ_le_succ enough)
          exact (follow_link directory proper short there).trans rest

/-- What a search has gone is a way. -/
theorem leads_of_follow {links : Nat} (h : files.follow links place names = .ok goal) :
    ∃ n, n ≤ links ∧ Leads files place names n goal := by
  -- A case that ends in an error is not one of a search that succeeds.
  induction links, place, names using followInduction files with
  | done links place =>
      rw [follow] at h
      cases h
      exact ⟨0, Nat.zero_le links, .done⟩
  | nothing links place name names nothing => simp [follow_nothing nothing] at h
  | file links place name names content time mode found => simp [follow_file found] at h
  | throughLink links place name names target found => simp [follow_throughLink found] at h
  | still links place name names directory still ih =>
      rw [follow_still directory still] at h
      rcases ih h with ⟨n, enough, rest⟩
      exact ⟨n, enough, .still directory still rest⟩
  | up links place names directory ih =>
      rw [follow_up directory] at h
      rcases ih h with ⟨n, enough, rest⟩
      exact ⟨n, enough, .up directory rest⟩
  | long links place name names directory proper long =>
      simp [follow_long directory proper long] at h
  | absent links place name names directory proper short absent =>
      simp [follow_absent directory proper short absent] at h
  | noLinks place name names target directory proper short there =>
      simp [follow_noLinks directory proper short there] at h
  | link links place name names target directory proper short there ih =>
      rw [follow_link directory proper short there] at h
      rcases ih h with ⟨n, enough, rest⟩
      exact ⟨n + 1, Nat.succ_le_succ enough, .link directory proper short there rest⟩
  | down links place name names node directory proper short there notLink ih =>
      rw [follow_down directory proper short there notLink] at h
      rcases ih h with ⟨n, enough, rest⟩
      exact ⟨n, enough, .down directory proper short there notLink rest⟩

/-- A search succeeds along the ways of few links. -/
theorem follow_eq_ok_iff {links : Nat} :
    files.follow links place names = .ok goal ↔
      ∃ n, n ≤ links ∧ Leads files place names n goal := by
  constructor
  · exact leads_of_follow
  · rintro ⟨n, enough, h⟩
    exact h.follow_eq enough

/-! ## Another tree -/

/-- The directories of one tree are directories of another, and so are its links, except those that
lead to something else than a directory. -/
structure Keeps (files files' : Files) : Prop where
  directories : ∀ place, files.HasDirectory place → files'.HasDirectory place
  links : ∀ place name target, files.node? (place ++ [name]) = some (.link target) →
    files'.node? (place ++ [name]) = some (.link target) ∨
      ∃ n goal, Leads files (linkOrigin place target) (Path.parts target) n goal ∧
        ¬ files.HasDirectory goal

/-- Names that lead to a directory lead there in every tree that keeps the directories. -/
theorem Keeps.leads {files' : Files} (keeps : Keeps files files')
    (h : Leads files place names n goal) (directory : files.HasDirectory goal) :
    Leads files' place names n goal := by
  -- A link that is lost would have to lead to a directory, for it stands on the way to one.
  have onTheWay : ∀ {middle names n goal}, Leads files middle names n goal →
      files.HasDirectory goal → files.HasDirectory middle := by
    intro middle names n goal h directory
    cases names with
    | nil =>
        cases h
        exact directory
    | cons name names => exact h.hasDirectory
  induction h with
  | done => exact .done
  | still here still _ ih => exact .still (keeps.directories _ here) still (ih directory)
  | up here _ ih => exact .up (keeps.directories _ here) (ih directory)
  | down here proper short _ _ rest ih =>
      rcases keeps.directories _ (onTheWay rest directory) with ⟨time, mode, there⟩
      exact .down (keeps.directories _ here) proper short there (by simp) (ih directory)
  | link here proper short there rest ih =>
      rcases keeps.links _ _ _ there with kept | ⟨m, other, leads, notDirectory⟩
      · exact .link (keeps.directories _ here) proper short kept (ih directory)
      -- The target of the link leads to a place that is on the way, where no directory is.
      · rcases rest.cut with ⟨middle, k, l, before, after, _⟩
        rcases leads.unique before with ⟨rfl, _⟩
        exact absurd (onTheWay after directory) notDirectory

/-- What a node is, without what it holds: as much as a search for a location sees of it. -/
inductive Kind
  | file
  | directory
  | link (target : String)

def kindOf : Node → Kind
  | .file .. => .file
  | .directory .. => .directory
  | .link target => .link target

/-- Whatever one tree has, another has something of its kind there. -/
def KeepsKinds (files files' : Files) : Prop :=
  ∀ place node, files.node? place = some node →
    ∃ node', files'.node? place = some node' ∧ kindOf node' = kindOf node

section KeepsKinds

variable {files' : Files} (keeps : KeepsKinds files files')
include keeps

theorem KeepsKinds.file {content : Content} {time mode : Nat}
    (found : files.node? place = some (.file content time mode)) :
    ∃ content' time' mode', files'.node? place = some (.file content' time' mode') := by
  rcases keeps place _ found with ⟨node', found', kinds⟩
  cases node' with
  | file content' time' mode' => exact ⟨content', time', mode', found'⟩
  | directory => cases kinds
  | link => cases kinds

theorem KeepsKinds.directory (found : files.HasDirectory place) : files'.HasDirectory place := by
  rcases found with ⟨time, mode, found⟩
  rcases keeps place _ found with ⟨node', found', kinds⟩
  cases node' with
  | file => cases kinds
  | directory time' mode' => exact ⟨time', mode', found'⟩
  | link => cases kinds

theorem KeepsKinds.link {target : String} (found : files.node? place = some (.link target)) :
    files'.node? place = some (.link target) := by
  rcases keeps place _ found with ⟨node', found', kinds⟩
  cases node' with
  | file => cases kinds
  | directory => cases kinds
  | link target' =>
      cases kinds
      exact found'

theorem KeepsKinds.notLink {node : Node} (found : files.node? place = some node)
    (notLink : ∀ target, node ≠ .link target) :
    ∃ node', files'.node? place = some node' ∧ ∀ target, node' ≠ .link target := by
  rcases keeps place _ found with ⟨node', found', kinds⟩
  refine ⟨node', found', fun target isLink => ?_⟩
  cases node with
  | file => simp [isLink, kindOf] at kinds
  | directory => simp [isLink, kindOf] at kinds
  | link target => exact notLink target rfl

/-- Names that lead somewhere lead there in a tree that has more. -/
theorem KeepsKinds.leads (h : Leads files place names n goal) : Leads files' place names n goal := by
  induction h with
  | done => exact .done
  | still here still _ ih => exact .still (keeps.directory here) still ih
  | up here _ ih => exact .up (keeps.directory here) ih
  | down here proper short there notLink _ ih =>
      rcases keeps.notLink there notLink with ⟨node', there', notLink'⟩
      exact .down (keeps.directory here) proper short there' notLink' ih
  | link here proper short there _ ih =>
      exact .link (keeps.directory here) proper short (keeps.link there) ih

end KeepsKinds

/-- Two trees have nodes of the same kinds. -/
def SameKinds (files files' : Files) : Prop :=
  ∀ place, (files'.node? place).map kindOf = (files.node? place).map kindOf

section SameKinds

variable {files' : Files} (same : SameKinds files files')
include same

theorem SameKinds.nothing (found : files.node? place = none) : files'.node? place = none := by
  have kinds := same place
  rw [found] at kinds
  exact Option.map_eq_none_iff.1 kinds

/-- What has the same kinds keeps them. -/
theorem SameKinds.keepsKinds : KeepsKinds files files' := by
  intro place node found
  have kinds := same place
  rw [found] at kinds
  exact Option.map_eq_some_iff.1 kinds

/-- A search finds the same in trees with nodes of the same kinds. -/
theorem SameKinds.follow_eq (links : Nat) (place : Location) (names : List String) :
    files'.follow links place names = files.follow links place names := by
  -- Each case of the search asks for the kinds of nodes only, so both trees are in the same case.
  have keeps := same.keepsKinds
  induction links, place, names using followInduction files with
  | done links place => rw [follow, follow]
  | nothing links place name names nothing =>
      rw [follow_nothing nothing, follow_nothing (same.nothing nothing)]
  | file links place name names content time mode found =>
      rcases keeps.file found with ⟨content', time', mode', found'⟩
      rw [follow_file found, follow_file found']
  | throughLink links place name names target found =>
      rw [follow_throughLink found, follow_throughLink (keeps.link found)]
  | still links place name names directory still ih =>
      rw [follow_still directory still, follow_still (keeps.directory directory) still, ih]
  | up links place names directory ih =>
      rw [follow_up directory, follow_up (keeps.directory directory), ih]
  | long links place name names directory proper long =>
      rw [follow_long directory proper long, follow_long (keeps.directory directory) proper long]
  | absent links place name names directory proper short absent =>
      rw [follow_absent directory proper short absent,
        follow_absent (keeps.directory directory) proper short (same.nothing absent)]
  | noLinks place name names target directory proper short there =>
      rw [follow_noLinks directory proper short there,
        follow_noLinks (keeps.directory directory) proper short (keeps.link there)]
  | link links place name names target directory proper short there ih =>
      rw [follow_link directory proper short there,
        follow_link (keeps.directory directory) proper short (keeps.link there), ih]
  | down links place name names node directory proper short there notLink ih =>
      rcases keeps.notLink there notLink with ⟨node', there', notLink'⟩
      rw [follow_down directory proper short there notLink,
        follow_down (keeps.directory directory) proper short there' notLink', ih]

end SameKinds

end Files
end TemplateEngine
