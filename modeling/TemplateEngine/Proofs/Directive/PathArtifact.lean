import TemplateEngine.Directive.Unterminated
import TemplateEngine.Proofs.Artifact.RoundTrip
import TemplateEngine.Proofs.Directive.PathReadings

/-!
# Artifacts of data paths

The islands that the interpolations of a template become are those of its program as it would be
printed. So the artifact is read as that program. Nothing in it looks like a directive that is not
closed.
-/

namespace TemplateEngine
namespace Directive

open Text (isNamePart)
open Artifact (Expr Token Mark Statement IsField ProgramWritable spell programMarks islandOpen
  islandClose accessLevel)

/-! ## The program can be written -/

theorem PathStep.isField (step : PathStep) : IsField step.text := by
  cases step with
  | name word isName => exact Or.inl isName
  | position n small => exact Or.inr ⟨n, small, String.toList_ofList⟩

/-- Every step down can be written as a member. -/
theorem writable_steps (steps : List PathStep) {e : Expr} (writable : e.Writable) :
    (steps.foldl (fun e step => Expr.member e step.text) e).Writable := by
  induction steps generalizing e with
  | nil => exact writable
  | cons step steps ih => exact ih ⟨writable, step.isField⟩

theorem programWritable_append {p q : List Statement} (first : ProgramWritable p)
    (second : ProgramWritable q) : ProgramWritable (p ++ q) := by
  induction p with
  | nil => exact second
  | cons s p ih => exact ⟨first.1, ih first.2⟩

theorem writable_prose (prose : Prose) : ProgramWritable prose.statements := by
  unfold Prose.statements
  split
  · trivial
  · next nonempty =>
      refine ⟨?_, trivial⟩
      rw [Statement.Writable, String.toList_ofList]
      exact ⟨nonempty, prose.noIsland⟩

/-- The program of a template can be written. -/
theorem writable_template (template : PathTemplate) : ProgramWritable template.program := by
  refine programWritable_append (writable_prose template.first) ?_
  induction template.parts with
  | nil => trivial
  | cons part parts ih =>
      have echo : (Statement.echo [part.1.path.expr]).Writable :=
        ⟨List.cons_ne_nil _ _, writable_steps part.1.path.steps part.1.path.isName, trivial⟩
      have here : ProgramWritable (.echo [part.1.path.expr] :: part.2.statements) :=
        ⟨echo, writable_prose part.2⟩
      exact programWritable_append here ih

/-! ## Its artifact -/

theorem spelling_step (step : PathStep) :
    (Token.ofField step.text).spelling = step.text.toList := by
  cases step with
  | name word isName =>
      rw [PathStep.text, Token.ofField, if_pos isName, Artifact.spelling_ofWord]
  | position n small =>
      have digits : (PathStep.position n small).text.toList = Decimal.digits n :=
        String.toList_ofList
      rw [Artifact.ofField_digits digits, Artifact.spelling_number small, digits]

/-- Members are spelled behind what they are taken of, on any level. -/
theorem spell_steps (steps : List PathStep) {e : Expr} {object : List Char}
    (spelled : ∀ level, spell (e.marks level) = object) (level : Nat) :
    spell ((steps.foldl (fun e step => Expr.member e step.text) e).marks level) =
      object ++ stepChars ['-', '>'] steps := by
  induction steps generalizing e object with
  | nil => simp [stepChars, spelled]
  | cons step steps ih =>
      have member (level : Nat) : spell ((Expr.member e step.text).marks level) =
          object ++ (['-', '>'] ++ step.text.toList) := by
        have arrow : spell [Mark.symbol .arrow] = ['-', '>'] := by decide
        have field : spell [Mark.token (.ofField step.text)] = step.text.toList := by
          simp [Mark.spelling, spelling_step]
        have split : (Expr.member e step.text).marks level =
            e.marks accessLevel ++ ([Mark.symbol .arrow] ++ [Mark.token (.ofField step.text)]) := rfl
        rw [split, Artifact.spell_append, Artifact.spell_append, spelled, arrow, field]
      rw [List.foldl_cons, ih member]
      simp [stepChars]

/-- The expression of a path is spelled as an interpolation of it is echoed. -/
theorem spell_path (path : DataPath) (level : Nat) :
    spell (path.expr.marks level) = echoed path.chars := by
  have root (level : Nat) : spell ((Expr.var path.root).marks level) = '$' :: path.root.toList := by
    simp [Expr.marks, Mark.spelling, Token.spelling]
  rw [echoed_path, DataPath.expr, spell_steps path.steps root]
  rfl

/-- So is the statement, as the island of that. -/
theorem spell_echo (path : DataPath) :
    spell ((Statement.echo [path.expr]).marks) = echoIsland path.chars := by
  have opened : (Mark.enter :: Mark.blank :: [Mark.keyword .echoWord, .blank]).flatMap
      Mark.spelling = "<% echo ".toList := by decide
  have closed : spell [.blank, .leave] = " %>".toList := by decide
  unfold echoIsland
  rw [← opened, ← closed, ← spell_path path 1]
  simp [Statement.marks, Artifact.island, Artifact.itemMarks, Artifact.moreItemMarks, spell]

/-- Prose is spelled as it is: what comes next in a template is no prose. -/
theorem spell_prose (prose : Prose) (parts : PathParts) :
    spell (programMarks (prose.statements ++ pathPartStatements parts)) =
      prose.chars ++ spell (programMarks (pathPartStatements parts)) := by
  unfold Prose.statements
  split
  · next empty => simp [empty]
  · cases parts with
    | nil =>
        simp [pathPartStatements, programMarks, Statement.marks, Artifact.separator, Mark.spelling]
    | cons part parts =>
        simp [pathPartStatements, programMarks, Statement.marks, Artifact.separator, Mark.spelling]

/-- The program of the parts is spelled as their islands. -/
theorem spell_pathParts (parts : PathParts) :
    spell (programMarks (pathPartStatements parts)) = islandChars parts := by
  induction parts with
  | nil => rfl
  | cons part parts ih =>
      have split : pathPartStatements (part :: parts) =
          .echo [part.1.path.expr] :: (part.2.statements ++ pathPartStatements parts) := rfl
      rw [split, programMarks, Artifact.spell_append, Artifact.spell_append, spell_echo,
        spell_prose, ih]
      simp [Artifact.separator, islandChars]

/-- The islands of a template are those of its program. -/
theorem interpolationsToIslands_eq_print (template : PathTemplate) :
    interpolationsToIslands template.text = Artifact.print template.program := by
  rw [interpolationsToIslands_template, Artifact.print, PathTemplate.program, spell_prose,
    spell_pathParts]

/-- The artifact of a template of paths is read as its program. -/
theorem parse_interpolationsToIslands (template : PathTemplate) :
    Artifact.parse (interpolationsToIslands template.text) = .ok template.program := by
  have writable := writable_template template
  rcases Artifact.tokenize_print template.program writable with ⟨lexemes, tokenized, tokens⟩
  have read := Artifact.program_tokensOf template.program writable
  rw [← tokens] at read
  rw [interpolationsToIslands_eq_print]
  exact Artifact.parse_of_program tokenized read

/-! ## Nothing is left open -/

/-- No directive opens in the literal text of some characters, whatever line they begin on. -/
def Settled (cs : List Char) : Prop :=
  ∀ line, openingLine? line .text false cs = none

/-- Prose opens no directive. -/
theorem settled_prose (prose : Prose) {rest : List Char}
    (opens : rest = [] ∨ ∃ more, rest = islandOpen ++ more) (settled : Settled rest) :
    Settled (prose.chars ++ rest) := by
  have noOpening := skips_literal prose.toLiteral rest
  have noIsland := Artifact.literal_append prose.noIsland opens
  generalize prose.chars = cs at noOpening noIsland
  induction cs with
  | nil => exact settled
  | cons c cs ih =>
      -- At the first character neither an island nor a directive opens.
      have plain : islandOpen.isPrefixOf (c :: (cs ++ rest)) = false := by
        cases opening : islandOpen.isPrefixOf (c :: (cs ++ rest)) with
        | false => rfl
        | true => simp [Artifact.literal, opening] at noIsland
      have later : Artifact.literal (cs ++ rest) = cs := by
        simpa [Artifact.literal, plain] using noIsland
      have next := ih noOpening.2 later
      intro line
      rw [List.cons_append, openingLine?]
      cases following : cs ++ rest with
      | nil => simp [openingLine?]
      | cons d ds =>
          have brace := noOpening.1
          rw [following] at next plain brace
          have noMark : ¬(c = '<' ∧ d = '%') := by
            rintro ⟨rfl, rfl⟩
            simp [islandOpen] at plain
          have noBraces : ¬(c = '\x7b' ∧ d = '\x7b') := by
            rintro ⟨rfl, rfl⟩
            simp [interpolationOpen, Text.after?] at brace
          simp [noMark, noBraces, Place.after, next _]

/-- A character of an island that neither quotes a text nor could belong to a closing. -/
def IsPlain (c : Char) : Prop := c ≠ '\'' ∧ c ≠ '"' ∧ c ≠ '%'

/-- An island without quoted texts ends at its first closing. -/
theorem settled_island {inside : List Char} (plain : ∀ c ∈ inside, IsPlain c)
    {rest : List Char} (settled : Settled rest) :
    Settled (islandOpen ++ (inside ++ (islandClose ++ rest))) := by
  have closed (line : Nat) :
      openingLine? line .island false (inside ++ (islandClose ++ rest)) = none := by
    induction inside generalizing line with
    | nil => simp [islandClose, openingLine?, settled _]
    | cons c inside ih =>
        rcases plain c List.mem_cons_self with ⟨notSingle, notDouble, notPercent⟩
        have next := ih fun d member => plain d (List.mem_cons_of_mem c member)
        simp [openingLine?, notSingle, notDouble, notPercent, Place.after, next]
  intro line
  simp [islandOpen, openingLine?, closed]

/-- A path has names, digits and arrows only. -/
theorem isPlain_of_mem_echoed {path : DataPath} {c : Char} (member : c ∈ echoed path.chars) :
    IsPlain c := by
  have ofPart (part : isNamePart c = true) : IsPlain c :=
    ⟨Text.ne_of_class part (by decide), Text.ne_of_class part (by decide),
      Text.ne_of_class part (by decide)⟩
  rw [echoed_path, List.mem_cons, List.mem_append] at member
  rcases member with rfl | root | steps
  · unfold IsPlain
    decide
  · exact ofPart ((parts_of_isName path.isName).2 c root)
  · rcases mem_stepChars steps with mark | part
    · simp only [List.mem_cons, List.not_mem_nil, or_false] at mark
      rcases mark with rfl | rfl <;>
      · unfold IsPlain
        decide
    · exact ofPart part

/-- Nor does the island of a path. -/
theorem settled_echoIsland (path : DataPath) {rest : List Char} (settled : Settled rest) :
    Settled (echoIsland path.chars ++ rest) := by
  have word : ∀ c ∈ " echo ".toList, IsPlain c := by
    have spelled : " echo ".toList = [' ', 'e', 'c', 'h', 'o', ' '] := by decide
    simp [spelled, IsPlain]
  have plain : ∀ c ∈ " echo ".toList ++ (echoed path.chars ++ [' ']), IsPlain c := by
    intro c member
    simp only [List.mem_append, List.mem_singleton] at member
    rcases member with inWord | inPath | rfl
    · exact word c inWord
    · exact isPlain_of_mem_echoed inPath
    · exact word ' ' (by decide)
  have opened : "<% echo ".toList = islandOpen ++ " echo ".toList := by decide
  have closed : " %>".toList = [' '] ++ islandClose := by decide
  have island := settled_island plain settled
  unfold echoIsland
  rw [opened, closed]
  simpa only [List.append_assoc] using island

/-- Strict compilation finds nothing to refuse in the artifact of a template of paths. -/
theorem unterminatedLine?_template (template : PathTemplate) :
    unterminatedLine? (interpolationsToIslands template.text) = none := by
  have parts (parts : PathParts) : Settled (islandChars parts) ∧
      (islandChars parts = [] ∨ ∃ more, islandChars parts = islandOpen ++ more) := by
    induction parts with
    | nil => exact ⟨fun line => rfl, Or.inl rfl⟩
    | cons part parts ih =>
        have split : islandChars (part :: parts) =
            echoIsland part.1.path.chars ++ (part.2.chars ++ islandChars parts) := by
          simp [islandChars]
        rw [split]
        refine ⟨settled_echoIsland part.1.path (settled_prose part.2 ih.2 ih.1), Or.inr ?_⟩
        exact ⟨_, List.append_assoc _ _ _⟩
  rw [interpolationsToIslands_template, unterminatedLine?, String.toList_ofList]
  exact settled_prose template.first (parts template.parts).2 (parts template.parts).1 1

end Directive
end TemplateEngine
