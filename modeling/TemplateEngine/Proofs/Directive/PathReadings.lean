import TemplateEngine.Directive.Include
import TemplateEngine.Directive.Island
import TemplateEngine.Proofs.Number.WholeDouble
import TemplateEngine.Proofs.Directive.BlockReadings
import TemplateEngine.Proofs.Directive.ChainStates
import TemplateEngine.Proofs.Directive.PathText

/-!
# Readings of data paths

A path with dots is rewritten to the path with arrows, behind the sigil, also where its steps are
digits: a run of digits behind an arrow is no number, so the dot after it is not a decimal point. An
interpolation of a path is read as such, and no other directive is read anywhere in a template of
paths.
-/

namespace TemplateEngine
namespace Directive

open Text (isBlank isNameStart isNamePart isName after? until? Skips)

/-! ## Characters of paths -/

theorem not_isBlank_of_isNamePart {c : Char} (part : isNamePart c = true) : isBlank c = false :=
  Text.not_of_excluded (fun _ => Text.not_isNamePart_of_isBlank) c part

/-- A name is made of name characters, one at least. -/
theorem parts_of_isName {word : List Char} (name : isName word = true) :
    word ≠ [] ∧ ∀ c ∈ word, isNamePart c = true := by
  cases word with
  | nil => simp [isName] at name
  | cons c cs =>
      simp only [isName, Bool.and_eq_true, List.all_eq_true] at name
      refine ⟨List.cons_ne_nil c cs, ?_⟩
      intro d member
      rcases List.mem_cons.1 member with rfl | later
      · exact Text.isNamePart_of_isNameStart name.1
      · exact name.2 d later

/-- A step is written in characters of names, and it has some. -/
theorem PathStep.parts (step : PathStep) :
    step.text.toList ≠ [] ∧ ∀ c ∈ step.text.toList, isNamePart c = true := by
  cases step with
  | name word isName => exact parts_of_isName isName
  | position n small =>
      rw [PathStep.text, String.toList_ofList]
      refine ⟨Decimal.digits_ne_nil n, ?_⟩
      intro c member
      exact Text.isNamePart_of_isDigit (Decimal.isDigit_of_mem_digits member)

/-- A path begins like a name. -/
theorem DataPath.chars_cons (path : DataPath) :
    ∃ c cs, path.chars = c :: cs ∧ isNameStart c = true := by
  have name := path.isName
  cases root : path.root.toList with
  | nil => exact absurd root (parts_of_isName name).1
  | cons c cs =>
      rw [root] at name
      have start : isNameStart c = true := (Bool.and_eq_true_iff.1 name).1
      exact ⟨c, cs ++ stepChars ['.'] path.steps, by simp [DataPath.chars, root], start⟩

theorem mem_stepChars {c : Char} {mark : List Char} {steps : List PathStep}
    (member : c ∈ stepChars mark steps) : c ∈ mark ∨ isNamePart c = true := by
  rcases List.mem_flatMap.1 member with ⟨step, _, here⟩
  exact (List.mem_append.1 here).imp_right (step.parts.2 c)

/-- The characters of a path are those of names and the dot. -/
theorem DataPath.part_or_dot (path : DataPath) {c : Char} (member : c ∈ path.chars) :
    isNamePart c = true ∨ c = '.' := by
  rcases List.mem_append.1 member with inRoot | inSteps
  · exact Or.inl ((parts_of_isName path.isName).2 c inRoot)
  · exact (mem_stepChars inSteps).symm.imp_right List.mem_singleton.1

/-! ## Arrows -/

/-- Behind a name every dot of a path becomes an arrow. -/
theorem ChainState.Object.rewrites_steps {s : ChainState} (h : s.Object) (steps : List PathStep) :
    ∃ s' : ChainState, s'.Object ∧ s.Rewrites (stepChars ['.'] steps) (stepChars ['-', '>'] steps) s' := by
  induction steps generalizing s with
  | nil => exact ⟨s, h, .refl s⟩
  | cons step steps ih =>
      rcases h.rewrites_member step.parts.1 step.parts.2 with ⟨between, inRun, member⟩
      rcases ih inRun.object with ⟨s', object, others⟩
      exact ⟨s', object, member.append others⟩

/-- Each dot of a path becomes an arrow. -/
theorem arrows_path (path : DataPath) :
    arrows path.chars = path.root.toList ++ stepChars ['-', '>'] path.steps := by
  have parts := parts_of_isName path.isName
  have notNumber : path.root.toList.all Char.isDigit = false := by
    have name := path.isName
    cases root : path.root.toList with
    | nil => exact absurd root parts.1
    | cons c cs =>
        rw [root] at name
        have start : isNameStart c = true := (Bool.and_eq_true_iff.1 name).1
        rw [List.all_cons, Text.not_isDigit_of_isNameStart start, Bool.false_and]
  rcases ChainState.rewrites_word ChainState.Fresh.initial.toUnquoted rfl parts.1 parts.2 with
    ⟨between, inRun, root⟩
  rw [notNumber, Bool.and_false] at inRun
  rcases inRun.object.rewrites_steps path.steps with ⟨s, -, steps⟩
  exact (root.append steps).arrows

/-! ## The sigil -/

/-- The root of a path with arrows is a variable by its bare name. -/
theorem needsSigil_path (path : DataPath) :
    needsSigil (path.root.toList ++ stepChars ['-', '>'] path.steps) = true := by
  have parts := parts_of_isName path.isName
  have all : path.root.toList.all isNamePart = true := List.all_eq_true.2 parts.2
  -- Behind the root stands an arrow or nothing.
  have behind : stepChars ['-', '>'] path.steps = [] ∨
      ∃ more, stepChars ['-', '>'] path.steps = '-' :: more := by
    cases path.steps with
    | nil => exact Or.inl rfl
    | cons step steps => exact Or.inr ⟨_, rfl⟩
  have stop : ∀ c ∈ (stepChars ['-', '>'] path.steps).head?, isNamePart c = false := by
    intro c member
    rcases behind with none | ⟨more, arrow⟩
    · simp [none] at member
    · rw [arrow] at member
      rw [← Option.some.inj member]
      decide
  have name := Text.takeWhile_append_of_all all stop
  have left : (path.root.toList ++ stepChars ['-', '>'] path.steps).dropWhile isNamePart =
      stepChars ['-', '>'] path.steps := by
    have split := List.takeWhile_append_dropWhile (p := isNamePart)
      (l := path.root.toList ++ stepChars ['-', '>'] path.steps)
    rw [name] at split
    exact List.append_cancel_left split
  have notCalled : ((stepChars ['-', '>'] path.steps).dropWhile isBlank).head? ≠ some '(' := by
    have solid : isBlank '-' = false := by decide
    rcases behind with none | ⟨more, arrow⟩
    · simp [none]
    · simp [arrow, solid]
  have notConstant : ["true".toList, "false".toList, "null".toList].contains path.root.toList =
      false := by
    have fresh := path.notConstant
    simpa [← String.toList_inj] using fresh
  have start : (path.root.toList ++ stepChars ['-', '>'] path.steps).head?.any isNameStart =
      true := by
    have isName := path.isName
    cases root : path.root.toList with
    | nil => exact absurd root parts.1
    | cons c cs =>
        rw [root] at isName
        have first : isNameStart c = true := (Bool.and_eq_true_iff.1 isName).1
        simpa using first
  unfold needsSigil
  simp only [name, left, start, notConstant, Bool.not_false, Bool.true_and, bne_iff_ne]
  exact notCalled

/-- A path is echoed with its sigil. -/
theorem echoed_path (path : DataPath) :
    echoed path.chars = '$' :: (path.root.toList ++ stepChars ['-', '>'] path.steps) := by
  simp only [echoed, arrows_path, needsSigil_path, if_true]

/-! ## Interpolations -/

/-- No closing begins with a character that is neither blank nor a brace. -/
theorem close?_other {c : Char} (solid : isBlank c = false) (notBrace : c ≠ '\x7d')
    (cs : List Char) : close? (c :: cs) = none := by
  unfold close?
  rw [skipBlanks_of_head solid]
  simp [directiveClose, after?, Ne.symm notBrace]

/-- An interpolation of a path is read as that path. -/
theorem interpolation_path (i : PathInterpolation) (rest : List Char) :
    interpolation (i.chars ++ rest) = some (i.path.chars, rest) := by
  rcases i.path.chars_cons with ⟨c, cs, chars, start⟩
  have solid := Text.not_isBlank_of_isNameStart start
  have skipped : Skips close? cs (i.closing.chars ++ (directiveClose ++ rest)) := by
    refine Text.skips_of_forall (fun d member more => ?_) _
    rcases i.path.part_or_dot (c := d) (by simp [chars, member]) with part | rfl
    · exact close?_other (not_isBlank_of_isNamePart part) (Text.ne_of_class part (by decide)) more
    · exact close?_other (by decide) (by decide) more
  have closed : until? close? (fun _ => true) (cs ++ (i.closing.chars ++
      (directiveClose ++ rest))) = some (cs, rest) :=
    Text.until?_append_of_skips skipped (close?_closing i.closing rest) fun _ _ => rfl
  have behind : (i.opening.chars ++ (c :: (cs ++
      (i.closing.chars ++ (directiveClose ++ rest))))).dropWhile isBlank =
      c :: (cs ++ (i.closing.chars ++ (directiveClose ++ rest))) :=
    (skipBlanks_append i.opening.blank).trans (skipBlanks_of_head solid _)
  unfold interpolation PathInterpolation.chars
  simp only [List.append_assoc, Text.after?_append, Option.bind_some]
  unfold body
  simp only [chars, List.cons_append, behind, closed]

theorem PathInterpolation.ne_nil (i : PathInterpolation) : i.chars ≠ [] := by
  simp [PathInterpolation.chars, interpolationOpen]

theorem interpolation_onlyAtOpenings : OnlyAtOpenings interpolation := by
  intro cs none
  simp [interpolation, none]

/-! ## Other directives -/

/-- The reader accepts only where a directive other than an interpolation opens. -/
def OnlyAtDirectives {α : Type} (read : List Char → Option α) : Prop :=
  ∀ cs, after? directiveOpen cs = none → read cs = none

/-- What has a word stands only where a directive other than an interpolation opens. -/
theorem argument?_onlyAtDirectives (word : String) : OnlyAtDirectives (argument? word) := by
  intro cs none
  simp only [argument?, head?, none, Option.bind_none]

theorem inclusion_onlyAtDirectives : OnlyAtDirectives inclusion := by
  intro cs none
  have unread (word : String) : argument? word cs = Option.none :=
    argument?_onlyAtDirectives word cs none
  simp only [inclusion, unread, Option.or_none]

theorem setBlock_onlyAtDirectives : OnlyAtDirectives setBlock := by
  intro cs none
  simp only [setBlock, argument?_onlyAtDirectives "setblock" cs none]

theorem anyReference_onlyAtDirectives : OnlyAtDirectives anyReference := by
  intro cs none
  simp only [anyReference, argument?_onlyAtDirectives "block" cs none]

theorem code_onlyAtDirectives : OnlyAtDirectives code := by
  intro cs none
  simp [code, none]

theorem after?_directiveOpen_none {cs : List Char}
    (notOpen : after? interpolationOpen cs = none) : after? directiveOpen cs = none := by
  cases found : after? directiveOpen cs with
  | none => rfl
  | some rest =>
      have split : cs = directiveOpen ++ rest := Text.after?_eq_some_iff.1 found
      have opens : directiveOpen ++ rest = interpolationOpen ++ '@' :: rest := rfl
      rw [split, opens, Text.after?_append] at notOpen
      cases notOpen

/-- Literal text opens no directive. -/
theorem literal_opens_none (piece : Literal) (rest : List Char) :
    Skips (after? directiveOpen) piece.chars rest :=
  (skips_literal piece rest).mono fun _ => after?_directiveOpen_none

/-- Behind the braces of an interpolation of a path stands no at sign. -/
theorem interpolation_opens_none (i : PathInterpolation) (rest : List Char) :
    Skips (after? directiveOpen) i.chars rest := by
  -- Behind the two braces no character could go on with an opening.
  have inside : ∀ c ∈ i.opening.chars ++ (i.path.chars ++ (i.closing.chars ++ directiveClose)),
      c ≠ '\x7b' ∧ c ≠ '@' := by
    intro c member
    have blank {spacing : Spacing} (here : c ∈ spacing.chars) : c ≠ '\x7b' ∧ c ≠ '@' := by
      have blank := spacing.blank c here
      exact ⟨Text.ne_of_class blank (by decide), Text.ne_of_class blank (by decide)⟩
    simp only [List.mem_append] at member
    rcases member with spacing | path | spacing | close
    · exact blank spacing
    · rcases i.path.part_or_dot path with part | rfl
      · exact ⟨Text.ne_of_class part (by decide), Text.ne_of_class part (by decide)⟩
      · decide
    · exact blank spacing
    · simp only [directiveClose, List.mem_cons, List.not_mem_nil, or_false, or_self] at close
      rw [close]
      decide
  have clean : Skips (after? directiveOpen)
      (i.opening.chars ++ (i.path.chars ++ (i.closing.chars ++ directiveClose))) rest := by
    refine Text.skips_of_forall (fun c member cs => ?_) rest
    simp [directiveOpen, after?, Ne.symm (inside c member).1]
  unfold PathInterpolation.chars
  cases next : i.opening.chars ++ (i.path.chars ++ (i.closing.chars ++ directiveClose)) with
  | nil => simp [directiveClose] at next
  | cons c cs =>
      rw [next] at clean
      have unlike := inside c (by simp [next])
      refine ⟨?_, ?_, clean⟩
      · simp [directiveOpen, after?, Ne.symm unlike.2]
      · simp [directiveOpen, after?, Ne.symm unlike.1]

/-- No directive other than interpolations opens in a template of paths. -/
theorem template_opens_none (template : PathTemplate) :
    Skips (after? directiveOpen) template.text.toList [] := by
  have parts (parts : PathParts) : Skips (after? directiveOpen) (pathPartChars parts) [] := by
    induction parts with
    | nil => trivial
    | cons part parts ih =>
        have here : Skips (after? directiveOpen) (part.1.chars ++ part.2.chars)
            (pathPartChars parts ++ []) :=
          Text.skips_append.2 ⟨interpolation_opens_none part.1 _, literal_opens_none _ _⟩
        exact Text.skips_append.2 ⟨here, ih⟩
  rw [PathTemplate.text, String.toList_ofList]
  exact Text.skips_append.2 ⟨literal_opens_none _ _, parts template.parts⟩

/-! ## Islands -/

/-- The islands of some interpolations, with the prose between them. -/
def islandChars (parts : PathParts) : List Char :=
  parts.flatMap fun part => echoIsland part.1.path.chars ++ part.2.chars

/-- In a template of paths the interpolations become islands and the prose stays. -/
theorem interpolationsToIslands_template (template : PathTemplate) :
    interpolationsToIslands template.text =
      String.ofList (template.first.chars ++ islandChars template.parts) := by
  have skipped (prose : Prose) (rest : List Char) : Skips interpolation prose.chars rest :=
    (skips_literal prose.toLiteral rest).mono interpolation_onlyAtOpenings
  have parts (parts : PathParts) :
      Text.replaceSpans interpolation echoIsland (pathPartChars parts) = islandChars parts := by
    induction parts with
    | nil => rfl
    | cons part parts ih =>
        have split : pathPartChars (part :: parts) =
            part.1.chars ++ (part.2.chars ++ pathPartChars parts) := by simp [pathPartChars]
        rw [split, Text.replaceSpans_append_of_found (interpolation_path part.1 _) part.1.ne_nil,
          Text.replaceSpans_append_of_skips (skipped part.2 _), ih]
        simp [islandChars]
  rw [interpolationsToIslands, PathTemplate.text, String.toList_ofList,
    Text.replaceSpans_append_of_skips (skipped template.first _), parts]

end Directive
end TemplateEngine
