import TemplateEngine.Proofs.Artifact.Seams

/-!
# Echoed tokens

Some tokens beside the same tokens with an `echo` of a quoted text, ended by a semicolon, for every
literal text. A literal text only stands at the start or behind a semicolon, so no expression sees a
difference, and every statement is read on both sides or on neither.
-/

namespace TemplateEngine
namespace Artifact

/-! ## Programs side by side -/

/-- The second program is the first one with an `echo` for some of its literal texts, in its blocks also. -/
inductive Echoes : Program → Program → Prop
  | nil : Echoes [] []
  | same (s) {p q} (later : Echoes p q) : Echoes (s :: p) (s :: q)
  | text (s) {p q} (later : Echoes p q) : Echoes (.text s :: p) (.echo [.text s] :: q)
  | ifThen (condition) {body body' p q} (within : Echoes body body') (later : Echoes p q) :
      Echoes (.ifThen condition body :: p) (.ifThen condition body' :: q)
  | ifElse (condition) {body body' otherwise otherwise' p q} (within : Echoes body body')
      (without : Echoes otherwise otherwise') (later : Echoes p q) :
      Echoes (.ifElse condition body otherwise :: p) (.ifElse condition body' otherwise' :: q)
  | forEach (key item source) {body body' p q} (within : Echoes body body') (later : Echoes p q) :
      Echoes (.forEach key item source body :: p) (.forEach key item source body' :: q)

/-- Statements may be echoed one after another. -/
theorem Echoes.cons {s s' : Statement} {p q : Program} (first : Echoes [s] [s'])
    (later : Echoes p q) : Echoes (s :: p) (s' :: q) := by
  cases first with
  | same => exact .same s later
  | text s => exact .text s later
  | ifThen condition within => exact .ifThen condition within later
  | ifElse condition within without => exact .ifElse condition within without later
  | forEach key item source within => exact .forEach key item source within later

/-! ## Tokens side by side -/

/-- The tokens of an artifact from the start of a segment on, and the same with every literal text
echoed. What an island holds is the same on both sides up to its end. -/
inductive Starts : List Token → List Token → Prop
  | done : Starts [] []
  | text (s) {ts ts'} (later : Starts ts ts') :
      Starts (.text s :: ts)
        (.keyword .echoWord :: .quoted s :: .symbol .semicolon :: ts')
  | upTo (us) {ts ts'} (later : Starts ts ts') :
      Starts (us ++ .symbol .semicolon :: ts) (us ++ .symbol .semicolon :: ts')

/-- The tokens from within an island on. -/
inductive Within : List Token → List Token → Prop
  | upTo (us) {ts ts'} (later : Starts ts ts') :
      Within (us ++ .symbol .semicolon :: ts) (us ++ .symbol .semicolon :: ts')

/-- Behind an island the next segment starts. -/
theorem Within.starts {ts ts' : List Token} (h : Within ts ts') : Starts ts ts' := by
  cases h with
  | upTo us later => exact .upTo us later

/-- The start of a segment, past any semicolons. -/
def Resumes (ts ts' : List Token) : Prop := Starts (unseparated ts) (unseparated ts')

/-- Semicolons in front are passed over on both sides. -/
theorem Starts.resumes {ts ts' : List Token} (h : Starts ts ts') : Resumes ts ts' := by
  induction h with
  | done => exact .done
  | text s later => exact .text s later
  | @upTo us ts ts' later ih =>
      induction us with
      | nil => exact ih
      | cons u us ihu =>
          cases semicolon : isSemicolon u with
          | true =>
              have skipped (tail : List Token) :
                  unseparated (u :: us ++ tail) = unseparated (us ++ tail) :=
                List.dropWhile_cons_of_pos semicolon
              rw [Resumes, skipped, skipped]
              exact ihu
          | false =>
              have kept (tail : List Token) : unseparated (u :: us ++ tail) = u :: us ++ tail :=
                List.dropWhile_cons_of_neg (by simp [semicolon])
              rw [Resumes, kept, kept]
              exact .upTo (u :: us) later

/-! ## Outcomes side by side -/

/-- Both readers stop, or both give something, with fewer than `n` tokens left. -/
def Paired {α : Type} (left : List Token → List Token → Prop) (same : α → α → Prop) (n : Nat)
    (r r' : Outcome α) : Prop :=
  (r = none ∧ r' = none) ∨
    ∃ a a' rest rest', same a a' ∧ left rest rest' ∧ rest.length < n ∧ r = some (a, rest) ∧
      r' = some (a', rest')

variable {α β : Type} {left left' : List Token → List Token → Prop} {same : α → α → Prop}
  {same' : β → β → Prop} {n m : Nat} {ts ts' : List Token}

namespace Paired

theorem none : Paired left same n none none := .inl ⟨rfl, rfl⟩

theorem some {a a' : α} {rest rest' : List Token} (h : same a a') (there : left rest rest')
    (less : rest.length < n) : Paired left same n (some (a, rest)) (some (a', rest')) :=
  .inr ⟨a, a', rest, rest', h, there, less, rfl, rfl⟩

/-- A bound on what is left may be raised. -/
theorem mono {r r' : Outcome α} (h : Paired left same n r r') (le : n ≤ m) :
    Paired left same m r r' := by
  rcases h with stopped | ⟨a, a', rest, rest', alike, there, less, eq, eq'⟩
  · exact .inl stopped
  · exact .inr ⟨a, a', rest, rest', alike, there, Nat.lt_of_lt_of_le less le, eq, eq'⟩

/-- Two readers that are paired may be followed by paired ones. -/
theorem bind {r r' : Outcome α} {f f' : α × List Token → Outcome β} (h : Paired left same n r r')
    (next : ∀ a a' rest rest', same a a' → left rest rest' → rest.length < n →
      Paired left' same' m (f (a, rest)) (f' (a', rest'))) :
    Paired left' same' m (r.bind f) (r'.bind f') := by
  rcases h with ⟨rfl, rfl⟩ | ⟨a, a', rest, rest', alike, there, less, rfl, rfl⟩
  · exact none
  · exact next a a' rest rest' alike there less

/-- What paired readers give may be changed on both sides. -/
theorem map {r r' : Outcome α} (h : Paired left same n r r') {f f' : α → β}
    (maps : ∀ a a', same a a' → same' (f a) (f' a')) :
    Paired left same' n (r.map fun (a, rest) => (f a, rest))
      (r'.map fun (a, rest) => (f' a, rest)) := by
  rcases h with ⟨rfl, rfl⟩ | ⟨a, a', rest, rest', alike, there, less, rfl, rfl⟩
  · exact none
  · exact some (maps a a' alike) there less

/-- The relations of what is given and of what is left may be weakened. -/
theorem imp {same' : α → α → Prop} {r r' : Outcome α} (h : Paired left same n r r')
    (weaker : ∀ rest rest', left rest rest' → left' rest rest')
    (looser : ∀ a a', same a a' → same' a a') : Paired left' same' n r r' := by
  rcases h with stopped | ⟨a, a', rest, rest', alike, there, less, eq, eq'⟩
  · exact .inl stopped
  · exact .inr ⟨a, a', rest, rest', looser a a' alike, weaker rest rest' there, less, eq, eq'⟩

/-- A reader that may give nothing stays paired when it falls back on both sides. -/
theorem getD {r r' : Outcome α} (h : Paired left same n r r') {a a' : α} {rest rest' : List Token}
    (alike : same a a') (there : left rest rest') (less : rest.length < n) :
    Paired left same n (Option.some (r.getD (a, rest))) (Option.some (r'.getD (a', rest'))) := by
  rcases h with ⟨rfl, rfl⟩ | ⟨b, b', more, more', alike', there', less', rfl, rfl⟩
  · exact some alike there less
  · exact some alike' there' less'

end Paired

/-! ## Expressions -/

/-- Both sides go on with a semicolon. -/
theorem seam_semicolon (ts ts' : List Token) :
    Seam (.symbol .semicolon :: ts) (.symbol .semicolon :: ts') where
  here := ⟨_, ts, rfl, rfl⟩
  there := ⟨_, ts', rfl, rfl⟩

/-- What is read alike up to the end of an island is read alike on both sides. -/
theorem Alike.paired {r r' : Outcome α} (later : Starts ts ts')
    (h : Alike n (.symbol .semicolon :: ts) (.symbol .semicolon :: ts') r r') :
    Paired Within Eq (n + (ts.length + 1)) r r' := by
  rcases h with ⟨rfl, rfl⟩ | ⟨a, ws, less, rfl, rfl⟩
  · exact .none
  · refine .some rfl (.upTo ws later) ?_
    rw [List.length_append, List.length_cons]
    exact Nat.add_lt_add_right less _

/-- A reader that goes over no semicolon. -/
theorem Within.paired {read : List Token → Outcome α} (h : Within ts ts')
    (alike : ∀ (us tail tail' : List Token), Seam tail tail' →
      Alike us.length tail tail' (read (us ++ tail)) (read (us ++ tail'))) :
    Paired Within Eq ts.length (read ts) (read ts') := by
  cases h with
  | @upTo us tail tail' later =>
      have paired := (alike us _ _ (seam_semicolon tail tail')).paired later
      rwa [List.length_append, List.length_cons]

/-- No literal text stands in an expression, so it is read alike on both sides. -/
theorem exprAt_paired (level : Nat) (h : Within ts ts') :
    Paired Within Eq ts.length (exprAt level ts) (exprAt level ts') :=
  h.paired fun us _ _ seam => exprAt_alike seam level us

/-- The head of a loop is read alike on both sides. -/
theorem loopHeadAt_paired (h : Within ts ts') :
    Paired Within Eq ts.length (loopHeadAt ts) (loopHeadAt ts') :=
  h.paired fun us _ _ seam => loopHeadAt_alike seam us

/-! ## Statements -/

/-- A token that is neither a separator nor an `echo` is the same on both sides, and the readers behind
it are paired. -/
theorem afterToken_paired {t : Token} (solid : ¬ t.Separates) (notEcho : t ≠ .keyword .echoWord)
    {read read' : List Token → Outcome α} (h : Starts ts ts')
    (next : ∀ us us', Within us us' → us.length < ts.length →
      Paired left same n (read us) (read' us')) :
    Paired left same n (afterToken t read ts) (afterToken t read' ts') := by
  cases h with
  | done => exact .none
  | text s later =>
      have notText : Token.text s ≠ t := fun same => solid (same ▸ trivial)
      rw [afterToken_of_head read (by simpa using notText),
        afterToken_of_head read' (by simpa using notEcho.symm)]
      exact .none
  | @upTo us tail tail' later =>
      cases us with
      | nil =>
          have notSemicolon : Token.symbol .semicolon ≠ t := fun same => solid (same ▸ rfl)
          rw [List.nil_append, List.nil_append,
            afterToken_of_head read (by simpa using notSemicolon),
            afterToken_of_head read' (by simpa using notSemicolon)]
          exact .none
      | cons u us =>
          simp only [List.cons_append, afterToken]
          split
          · exact next _ _ (.upTo us later) (Nat.lt_succ_self _)
          · exact .none

/-- A token that both sides need next lies within an island. -/
theorem upToToken_paired {t : Token} (solid : ¬ t.Separates) (notEcho : t ≠ .keyword .echoWord)
    {read : List Token → Outcome α}
    (h : Paired Starts same (n + 1) (read ts) (read ts')) :
    Paired Within same n (upToToken t read ts) (upToToken t read ts') := by
  apply h.bind
  intro a a' rest rest' alike starts less
  apply afterToken_paired solid notEcho starts
  intro us us' within shorter
  exact .some alike within (Nat.lt_of_lt_of_le shorter (Nat.le_of_lt_succ less))

/-- A semicolon begins no statement. -/
theorem statementAt_semicolon (ts : List Token) :
    statementAt (.symbol .semicolon :: ts) = none := by
  have separated : Separated (.symbol .semicolon :: ts) := ⟨_, ts, rfl, rfl⟩
  rw [statementAt_cons]
  simp only [statementAfter, evalAt, exprAt_eq, operandAt_separated separated]
  rfl

/-- The `echo` of a literal text is a statement, and the semicolon that ends it is left. -/
theorem statementAt_echo (s : String) (ts : List Token) :
    statementAt (.keyword .echoWord :: .quoted s :: .symbol .semicolon :: ts) =
      some (.echo [.text s], .symbol .semicolon :: ts) := by
  have separated : Separated (.symbol .semicolon :: ts) := ⟨_, ts, rfl, rfl⟩
  have value : exprAt 1 (.quoted s :: .symbol .semicolon :: ts) =
      some (.text s, .symbol .semicolon :: ts) := by
    rw [exprAt_eq, operandAt_cons]
    simp only [operandAfter, Token.literal?, Option.map_some, Option.bind_some]
    rw [accessesAt_eq, accessAt_separated 1 (.text s) separated]
  have noMore :
      moreExpressionsAt (.symbol .semicolon :: ts) = some ([], .symbol .semicolon :: ts) := by
    rw [moreExpressionsAt_eq, afterToken_separated (by simp [Token.Separates]) _ separated]
  rw [statementAt_cons]
  simp only [statementAfter, value, Option.bind_some, noMore, Option.map_some]

-- The induction is on the tokens left. Where a reader hands on all of them, the second component
-- counts down.
mutual

/-- A statement is the same on both sides, or a literal text and its `echo`. -/
theorem statementAt_paired {ts ts' : List Token} (h : Starts ts ts') :
    Paired Resumes (fun s s' => Echoes [s] [s']) ts.length (statementAt ts) (statementAt ts') := by
  cases h with
  | done =>
      rw [statementAt_nil]
      exact .none
  | @text s tail tail' later =>
      rw [statementAt_echo, statementAt_cons]
      exact .some (.text s .nil) later.resumes (Nat.lt_succ_self _)
  | @upTo us tail tail' later =>
      cases us with
      | nil =>
          rw [List.nil_append, List.nil_append, statementAt_semicolon, statementAt_semicolon]
          exact .none
      | cons u us =>
          have length : (u :: us ++ .symbol .semicolon :: tail).length =
              us.length + 1 + (tail.length + 1) := by
            rw [List.length_append, List.length_cons, List.length_cons]
          have resumes : ∀ rest rest', Within rest rest' → Resumes rest rest' :=
            fun _ _ within => within.starts.resumes
          -- The conditional and the loop go on inside their bodies, which may have texts. Any other
          -- statement ends before the semicolon and is read alike.
          by_cases isIf : u = .keyword .ifWord
          · subst isIf
            rw [List.cons_append, List.cons_append, statementAt_cons, statementAt_cons]
            have paired := (conditionalAt_paired (.upTo us later)).mono (Nat.le_succ _)
            exact paired.imp resumes fun _ _ alike => alike
          by_cases isFor : u = .keyword .forWord
          · subst isFor
            rw [List.cons_append, List.cons_append, statementAt_cons, statementAt_cons]
            apply (loopHeadAt_paired (.upTo us later)).bind
            rintro ⟨key, item, source⟩ _ rest rest' rfl within less
            have shorter : rest.length < us.length + 1 + (tail.length + 1) :=
              length ▸ Nat.lt_succ_of_lt less
            rw [← List.cons_append, length]
            have body := (blockAt_paired within).imp resumes fun _ _ bodies => bodies
            refine (body.mono (Nat.le_of_lt shorter)).map ?_
            exact fun _ _ bodies => .forEach key item source bodies .nil
          · have alike := statementAt_alike (seam_semicolon tail tail') isIf isFor us
            have paired := alike.paired later
            rw [← length] at paired
            refine paired.imp resumes ?_
            rintro s _ rfl
            exact .same s .nil
termination_by (ts.length, 1)

theorem conditionalAt_paired {ts ts' : List Token} (h : Within ts ts') :
    Paired Within (fun s s' => Echoes [s] [s']) ts.length (conditionalAt ts)
      (conditionalAt ts') := by
  rw [conditionalAt_eq, conditionalAt_eq]
  apply (exprAt_paired 1 h).bind
  rintro condition _ rest rest' rfl within less
  apply (blockAt_paired within).bind
  intro body body' rest₂ rest₂' bodies within₂ less₂
  refine ((alternativeAt_paired within₂).mono (by omega)).map ?_
  rintro _ _ (others | _)
  · exact .ifElse condition bodies others .nil
  · exact .ifThen condition bodies .nil
termination_by (ts.length, 2)

theorem alternativeAt_paired {ts ts' : List Token} (h : Within ts ts') :
    Paired Within (Option.Rel Echoes) (ts.length + 1) (alternativeAt ts) (alternativeAt ts') := by
  have short : ts.length < ts.length + 1 := Nat.lt_succ_self _
  have shorter := length_unseparated_le ts
  have taken : Paired Within Echoes (ts.length + 1)
      (afterToken (.keyword .elseWord) otherwiseAt (unseparated ts))
      (afterToken (.keyword .elseWord) otherwiseAt (unseparated ts')) := by
    apply afterToken_paired (by simp [Token.Separates]) (by simp) h.starts.resumes
    intro us us' within less
    exact (otherwiseAt_paired within).mono (by omega)
  rw [alternativeAt_eq, alternativeAt_eq]
  exact (taken.map fun _ _ others => .some others).getD .none h short
termination_by (ts.length, 3)

theorem otherwiseAt_paired {ts ts' : List Token} (h : Within ts ts') :
    Paired Within Echoes ts.length (otherwiseAt ts) (otherwiseAt ts') := by
  cases h with
  | @upTo us tail tail' later =>
      by_cases isIf : us.head? = some (.keyword .ifWord)
      · rcases List.head?_eq_some_iff.1 isIf with ⟨inner, rfl⟩
        exact ((conditionalAt_paired (.upTo inner later)).mono (Nat.le_succ _)).map
          fun _ _ alike => alike
      · have other (tail : List Token) :
            (us ++ .symbol .semicolon :: tail).head? ≠ some (.keyword .ifWord) := by
          cases us with
          | nil => simp
          | cons u us => exact isIf
        rw [otherwiseAt_of_head (other tail), otherwiseAt_of_head (other tail')]
        exact blockAt_paired (.upTo us later)
termination_by (ts.length, 2)

/-- The statements of a block are echoed one by one. -/
theorem blockAt_paired {ts ts' : List Token} (h : Within ts ts') :
    Paired Within Echoes ts.length (blockAt ts) (blockAt ts') := by
  rw [blockAt_eq, blockAt_eq]
  apply afterToken_paired (by simp [Token.Separates]) (by simp) h.starts
  intro us us' within less
  have shorter := length_unseparated_le us
  have body := statementsAt_paired within.starts.resumes
  exact upToToken_paired (by simp [Token.Separates]) (by simp) (body.mono (by omega))
termination_by (ts.length, 1)

/-- The statements from the start of a segment on are echoed one by one. -/
theorem statementsAt_paired {ts ts' : List Token} (h : Starts ts ts') :
    Paired Starts Echoes (ts.length + 1) (statementsAt ts) (statementsAt ts') := by
  rw [statementsAt_eq, statementsAt_eq]
  rcases statementAt_paired h with ⟨eq, eq'⟩ | ⟨s, s', rest, rest', first, resumes, less, eq, eq'⟩
  · rw [eq, eq']
    exact .some .nil h (Nat.lt_succ_self _)
  · rw [eq, eq']
    have shorter := length_unseparated_le rest
    exact ((statementsAt_paired resumes).mono (by omega)).map fun _ _ later => first.cons later
termination_by (ts.length, 2)

end

/-- Both sides are programs, the second one echoing the first, or neither side is a program. -/
theorem programs_of_starts {ts ts' : List Token} (h : Starts ts ts') :
    (∃ p q, statementsAt (unseparated ts) = some (p, []) ∧
      statementsAt (unseparated ts') = some (q, []) ∧ Echoes p q) ∨
    ((∀ p, statementsAt (unseparated ts) ≠ some (p, [])) ∧
      ∀ q, statementsAt (unseparated ts') ≠ some (q, [])) := by
  rcases statementsAt_paired h.resumes with ⟨eq, eq'⟩ |
    ⟨p, q, rest, rest', echoes, starts, less, eq, eq'⟩
  · exact .inr ⟨by simp [eq], by simp [eq']⟩
  · -- Tokens are left over on both sides or on neither.
    rw [eq, eq']
    cases starts with
    | done => exact .inl ⟨p, q, rfl, rfl, echoes⟩
    | text s later => exact .inr ⟨by simp, by simp⟩
    | upTo us later => exact .inr ⟨by simp, by simp⟩

end Artifact
end TemplateEngine
