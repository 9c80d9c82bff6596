import TemplateEngine.Proofs.Directive.BlockText
import TemplateEngine.Proofs.Text.CharClass
import TemplateEngine.Proofs.Text.Scan

/-!
# Readings of block directives

Each recogniser of block directives accepts exactly the directives of its word, and none of them
accepts where no two braces open. So literal text is skipped by all of them, and a directive by those
of the other words.
-/

namespace TemplateEngine
namespace Directive

open Text (isBlank isWordPart after? until? Skips)

/-! ## Words -/

def BlockWord.first : BlockWord → Char
  | .block => 'b'
  | .setBlock => 's'
  | .endSetBlock => 'e'
  | .parent => 'p'

theorem BlockWord.spelling_cons (w : BlockWord) :
    ∃ more, w.spelling.toList = w.first :: more := by
  cases w <;> exact ⟨_, rfl⟩

/-- The first letter tells which of the four words a directive has. -/
theorem folds_unique {w w' : BlockWord} {c : Char} (h : folds w.first c = true)
    (h' : folds w'.first c = true) : w = w' := by
  cases w <;> cases w' <;> simp_all [BlockWord.first, folds]

theorem not_folds_of_isBlank (w : BlockWord) {c : Char} (blank : isBlank c = true) :
    folds w.first c = false := by
  refine Text.not_of_isBlank (p := folds w.first) ?_ blank
  cases w <;> decide +kernel

theorem not_isBlank_of_folds {w : BlockWord} {c : Char} (h : folds w.first c = true) :
    isBlank c = false :=
  Text.not_of_excluded (fun _ => not_folds_of_isBlank w) c h

/-- A word is read in any letter case. -/
theorem word?_of_spelled {word letters : List Char}
    (h : List.Forall₂ (fun letter c => folds letter c = true) word letters) (rest : List Char) :
    word? word (letters ++ rest) = some rest := by
  induction h with
  | nil => rfl
  | cons same _ ih => simp [word?, same, ih]

/-- White space at the head of a text is passed over. -/
theorem skipBlanks_append {blanks cs : List Char} (blank : ∀ c ∈ blanks, isBlank c = true) :
    skipBlanks (blanks ++ cs) = skipBlanks cs := by
  unfold skipBlanks
  exact List.dropWhile_append_of_pos blank

theorem skipBlanks_of_head {c : Char} (h : isBlank c = false) (cs : List Char) :
    skipBlanks (c :: cs) = c :: cs := by
  simp [skipBlanks, h]

/-! ## Heads of directives -/

theorem Head.letters_cons {w : BlockWord} (head : Head w) :
    ∃ c cs, head.letters = c :: cs ∧ folds w.first c = true := by
  have spelled := head.spelled
  rcases w.spelling_cons with ⟨more, eq⟩
  rw [eq] at spelled
  rcases List.forall₂_cons_left_iff.1 spelled with ⟨c, cs, first, _, letters⟩
  exact ⟨c, cs, letters, first⟩

theorem skipBlanks_head {w : BlockWord} (head : Head w) (rest : List Char) :
    skipBlanks (head.spacing.chars ++ (head.letters ++ rest)) = head.letters ++ rest := by
  rcases head.letters_cons with ⟨c, cs, letters, first⟩
  rw [skipBlanks_append head.spacing.blank, letters, List.cons_append,
    skipBlanks_of_head (not_isBlank_of_folds first)]

/-- The head of a directive is read in any spacing and letter case. -/
theorem head?_chars {w : BlockWord} (head : Head w) (rest : List Char) :
    head? w.spelling (head.chars ++ rest) = some rest := by
  unfold head? Head.chars
  rw [List.append_assoc, Text.after?_append, Option.bind_some, List.append_assoc,
    skipBlanks_head, word?_of_spelled head.spelled]

/-- It is not read as that of another directive. -/
theorem head?_other {w w' : BlockWord} (ne : w' ≠ w) (head : Head w) (rest : List Char) :
    head? w'.spelling (head.chars ++ rest) = none := by
  rcases head.letters_cons with ⟨c, cs, letters, first⟩
  -- The first letters of the words tell them apart, in either case.
  have unlike : folds w'.first c = false := by
    cases like : folds w'.first c with
    | false => rfl
    | true => exact absurd (folds_unique like first) ne
  unfold head? Head.chars
  rw [List.append_assoc, Text.after?_append, Option.bind_some, List.append_assoc,
    skipBlanks_head, letters]
  rcases w'.spelling_cons with ⟨more, spelled⟩
  simp [spelled, word?, unlike]

/-- The reader accepts only where two braces open. -/
def OnlyAtOpenings {α : Type} (read : List Char → Option α) : Prop :=
  ∀ cs, after? interpolationOpen cs = none → read cs = none

theorem head?_onlyAtOpenings (word : String) : OnlyAtOpenings (head? word) := by
  intro cs none
  cases found : after? directiveOpen cs with
  | none => simp [head?, found]
  | some rest =>
      have split : cs = directiveOpen ++ rest := Text.after?_eq_some_iff.1 found
      have opens : directiveOpen ++ rest = interpolationOpen ++ '@' :: rest := rfl
      rw [split, opens, Text.after?_append] at none
      cases none

/-! ## Closings and names -/

/-- A closing is read with any white space before it. -/
theorem close?_closing (closing : Spacing) (rest : List Char) :
    close? (closing.chars ++ (directiveClose ++ rest)) = some rest := by
  have brace : isBlank '\x7d' = false := by decide
  unfold close?
  rw [skipBlanks_append closing.blank, directiveClose, List.cons_append,
    skipBlanks_of_head brace]
  exact Text.after?_append directiveClose rest

/-- No closing begins with a character of a word. -/
theorem close?_word {c : Char} (word : isWordPart c = true) (cs : List Char) :
    close? (c :: cs) = none := by
  have notBrace : '\x7d' ≠ c := (Text.ne_of_class word (by decide)).symm
  unfold close?
  rw [skipBlanks_of_head (Text.not_isBlank_of_isWordPart word)]
  simp [directiveClose, after?, notBrace]

theorem Name.chars_cons (name : Name) :
    ∃ c cs, name.chars = c :: cs ∧ isWordPart c = true := by
  cases chars : name.chars with
  | nil => exact absurd chars name.nonempty
  | cons c cs => exact ⟨c, cs, rfl, name.word c (by simp [chars])⟩

/-- A word ends before white space, and before what ends it behind no white space at all. -/
theorem wordEnds_spacing (spacing : Spacing) {cs : List Char}
    (bare : spacing.chars = [] → Text.wordEnds cs = true) :
    Text.wordEnds (spacing.chars ++ cs) = true := by
  cases chars : spacing.chars with
  | nil => exact bare chars
  | cons c blanks =>
      have blank := spacing.blank c (by simp [chars])
      simp [Text.wordEnds, Text.not_isWordPart_of_isBlank blank]

/-- A name is read up to the white space and the closing behind it. -/
theorem until?_name (name : Name) (closing : Spacing) (rest : List Char) {allowed : Char → Bool}
    (free : ∀ c ∈ name.chars, allowed c = true) :
    until? close? allowed (name.chars ++ (closing.chars ++ (directiveClose ++ rest))) =
      some (name.chars, rest) :=
  Text.until?_append_of_skips
    (Text.skips_of_forall (fun c member cs => close?_word (name.word c member) cs) _)
    (close?_closing closing rest) free

/-- Behind the word of a directive its name begins. -/
theorem argument?_naming {w : BlockWord} (d : Naming w) (rest : List Char) :
    argument? w.spelling (d.chars ++ rest) =
      some (d.name.chars ++ (d.closing.chars ++ (directiveClose ++ rest))) := by
  have ends (cs : List Char) : Text.wordEnds (d.gap.chars ++ cs) = true :=
    wordEnds_spacing d.gap fun none => absurd none d.apart
  have named (cs : List Char) : skipBlanks (d.name.chars ++ cs) = d.name.chars ++ cs := by
    rcases d.name.chars_cons with ⟨c, name, chars, word⟩
    rw [chars, List.cons_append]
    exact skipBlanks_of_head (Text.not_isBlank_of_isWordPart word) _
  unfold argument? Naming.chars
  simp only [List.append_assoc, head?_chars, ends, if_true, skipBlanks_append d.gap.blank, named]

/-- Another directive has no argument for this word. -/
theorem argument?_other {w w' : BlockWord} (ne : w' ≠ w) (head : Head w) (rest : List Char) :
    argument? w'.spelling (head.chars ++ rest) = none := by
  simp [argument?, head?_other ne]

theorem argument?_onlyAtOpenings (word : String) : OnlyAtOpenings (argument? word) := by
  intro cs none
  simp [argument?, head?_onlyAtOpenings word cs none]

/-! ## Texts without openings -/

/-- No directive opens in literal text. -/
theorem skips_literal (piece : Literal) (rest : List Char) :
    Skips (after? interpolationOpen) piece.chars rest := by
  rcases piece with ⟨cs, noOpening, noBraceLast⟩
  show Skips (after? interpolationOpen) cs rest
  induction cs with
  | nil => trivial
  | cons c cs ih =>
      -- A brace opens with the character behind it, so the last character is a case of its own.
      simp only [Text.occurs, Bool.or_eq_false_iff] at noOpening
      cases cs with
      | nil =>
          have notBrace : '\x7b' ≠ c := by
            rintro rfl
            exact noBraceLast rfl
          exact ⟨by simp [interpolationOpen, after?, notBrace], trivial⟩
      | cons d cs =>
          refine ⟨?_, ih noOpening.2 (by simpa using noBraceLast)⟩
          have unlike := noOpening.1
          simp only [interpolationOpen, List.isPrefixOf, Bool.and_true, Bool.and_eq_false_iff,
            beq_eq_false_iff_ne] at unlike
          by_cases first : '\x7b' = c
          · have second : '\x7b' ≠ d := unlike.resolve_left fun ne => ne first
            simp [interpolationOpen, after?, second]
          · simp [interpolationOpen, after?, first]

/-- After its first brace, a directive with no brace inside opens nothing. -/
theorem skips_inside {inside : List Char} (clean : '\x7b' ∉ inside) (rest : List Char) :
    Skips (after? interpolationOpen) ('\x7b' :: '@' :: inside) rest := by
  refine ⟨rfl, rfl, Text.skips_of_forall (fun c member cs => ?_) rest⟩
  have notBrace : '\x7b' ≠ c := by
    rintro rfl
    exact clean member
  simp [interpolationOpen, after?, notBrace]

theorem Spacing.clean (spacing : Spacing) : '\x7b' ∉ spacing.chars := by
  intro member
  exact absurd (spacing.blank _ member) (by decide)

theorem Name.clean (name : Name) : '\x7b' ∉ name.chars := by
  intro member
  exact absurd (name.word _ member) (by decide)

theorem mem_of_spelled {word letters : List Char} {c : Char}
    (h : List.Forall₂ (fun letter c => folds letter c = true) word letters) (member : c ∈ letters) :
    ∃ letter ∈ word, folds letter c = true := by
  induction h with
  | nil => cases member
  | cons same _ ih =>
      rcases List.mem_cons.1 member with rfl | later
      · exact ⟨_, by simp, same⟩
      · rcases ih later with ⟨letter, inWord, like⟩
        exact ⟨letter, by simp [inWord], like⟩

theorem Head.clean {w : BlockWord} (head : Head w) : '\x7b' ∉ head.letters := by
  have unlike : w.spelling.toList.all (fun letter => !folds letter '\x7b') = true := by
    cases w <;> decide
  intro member
  rcases mem_of_spelled head.spelled member with ⟨letter, inWord, like⟩
  have here := List.all_eq_true.1 unlike letter inWord
  simp [like] at here

/-- The text of a directive: two braces and an at sign, and no further brace that opens. -/
def IsDirective (cs : List Char) : Prop :=
  ∃ inside, cs = directiveOpen ++ inside ∧ '\x7b' ∉ inside

/-- A directive without a name opens once. -/
theorem Bare.isDirective {w : BlockWord} (d : Bare w) : IsDirective d.chars := by
  refine ⟨d.head.spacing.chars ++ d.head.letters ++ (d.closing.chars ++ directiveClose), ?_, ?_⟩
  · simp [Bare.chars, Head.chars]
  · simp [d.head.spacing.clean, d.head.clean, d.closing.clean, directiveClose]

/-- So does a directive with a name. -/
theorem Naming.isDirective {w : BlockWord} (d : Naming w) : IsDirective d.chars := by
  refine ⟨d.head.spacing.chars ++ d.head.letters ++ (d.gap.chars ++
    (d.name.chars ++ (d.closing.chars ++ directiveClose))), ?_, ?_⟩
  · simp [Naming.chars, Head.chars]
  · simp [d.head.spacing.clean, d.head.clean, d.gap.clean, d.name.clean, d.closing.clean,
      directiveClose]

/-- A directive that the reader does not accept is skipped by it. -/
theorem IsDirective.skips {α : Type} {read : List Char → Option α} {cs rest : List Char}
    (h : IsDirective cs) (only : OnlyAtOpenings read) (fails : read (cs ++ rest) = none) :
    Skips read cs rest := by
  rcases h with ⟨inside, rfl, clean⟩
  exact ⟨fails, (skips_inside clean rest).mono only⟩

theorem IsDirective.ne_nil {cs : List Char} (h : IsDirective cs) : cs ≠ [] := by
  rcases h with ⟨inside, rfl, _⟩
  simp [directiveOpen]

/-! ## Declarations -/

theorem setBlock_onlyAtOpenings : OnlyAtOpenings setBlock := by
  intro cs none
  simp [setBlock, argument?_onlyAtOpenings "setblock" cs none]

theorem blockEnd?_onlyAtOpenings : OnlyAtOpenings blockEnd? := by
  intro cs none
  simp [blockEnd?, head?_onlyAtOpenings "endsetblock" cs none]

/-- The end of a declaration is read in any spacing and letter case. -/
theorem blockEnd?_bare (d : Bare .endSetBlock) (rest : List Char) :
    blockEnd? (d.chars ++ rest) = some rest := by
  have brace : isBlank '\x7d' = false := by decide
  have closed := close?_closing ⟨[], by simp⟩ rest
  have head := head?_chars d.head (d.closing.chars ++ (directiveClose ++ rest))
  unfold blockEnd? Bare.chars
  simp only [BlockWord.spelling] at head
  simp only [List.append_assoc, head, Option.bind_some, skipBlanks_append d.closing.blank]
  rw [directiveClose, List.cons_append, skipBlanks_of_head brace]
  exact closed

theorem blockEnd?_other {w : BlockWord} (ne : .endSetBlock ≠ w) (head : Head w)
    (rest : List Char) : blockEnd? (head.chars ++ rest) = none := by
  have other : head? "endsetblock" (head.chars ++ rest) = none := head?_other ne head rest
  simp [blockEnd?, other]

/-- No declaration ends within a body. -/
theorem skips_body (body : List BodyPart) (rest : List Char) :
    Skips blockEnd? (bodyChars body) rest := by
  induction body with
  | nil => trivial
  | cons part body ih =>
      refine Text.skips_append.2 ⟨?_, ih⟩
      cases part with
      | literal piece => exact (skips_literal piece _).mono blockEnd?_onlyAtOpenings
      | parent placeholder =>
          refine placeholder.isDirective.skips blockEnd?_onlyAtOpenings ?_
          simp only [Bare.chars, List.append_assoc]
          exact blockEnd?_other (by decide) placeholder.head _

/-- A declaration is read as its name and its body. -/
theorem setBlock_declaration (opening : Naming .setBlock) (body : List BodyPart)
    (closing : Bare .endSetBlock) (rest : List Char) :
    setBlock (opening.chars ++ (bodyChars body ++ closing.chars) ++ rest) =
      some ((opening.name.chars, bodyChars body), rest) := by
  have argument := argument?_naming opening (bodyChars body ++ (closing.chars ++ rest))
  have named := @until?_name opening.name opening.closing
    (bodyChars body ++ (closing.chars ++ rest)) (fun _ => true) fun _ _ => rfl
  have ended : until? blockEnd? (fun _ => true) (bodyChars body ++ (closing.chars ++ rest)) =
      some (bodyChars body, rest) :=
    Text.until?_append_of_skips (skips_body body _) (blockEnd?_bare closing rest) fun _ _ => rfl
  simp only [BlockWord.spelling] at argument
  unfold setBlock
  simp only [List.append_assoc, argument, named, ended, Option.map_some]

theorem setBlock_other {w : BlockWord} (ne : .setBlock ≠ w) (head : Head w) (rest : List Char) :
    setBlock (head.chars ++ rest) = none := by
  have other : argument? "setblock" (head.chars ++ rest) = none := argument?_other ne head rest
  simp [setBlock, other]

/-- A reference to a block is no directive of another kind. -/
theorem skips_reference {α : Type} {read : List Char → Option α} (only : OnlyAtOpenings read)
    (other : ∀ (head : Head .block) rest, read (head.chars ++ rest) = none) (r : Naming .block)
    (rest : List Char) : Skips read r.chars rest := by
  refine r.isDirective.skips only ?_
  simp only [Naming.chars, List.append_assoc]
  exact other r.head _

/-! ## Placeholders -/

theorem parentReference_onlyAtOpenings : OnlyAtOpenings parentReference := by
  intro cs none
  simp [parentReference, head?_onlyAtOpenings "parent" cs none]

/-- A reference to the parent content is read in any spacing and letter case. -/
theorem parentReference_bare (d : Bare .parent) (rest : List Char) :
    parentReference (d.chars ++ rest) = some ((), rest) := by
  have head := head?_chars d.head (d.closing.chars ++ (directiveClose ++ rest))
  simp only [BlockWord.spelling] at head
  unfold parentReference Bare.chars
  simp only [List.append_assoc, head, Option.bind_some, close?_closing, Option.map_some]

/-! ## References -/

/-- A reference to a block is read, whatever its name is. -/
theorem anyReference_naming (r : Naming .block) (rest : List Char) :
    anyReference (r.chars ++ rest) = some (r.name.chars, rest) := by
  have argument := argument?_naming r rest
  have free : ∀ c ∈ r.name.chars, (c != '\n') = true := by
    intro c member
    have unlike : c ≠ '\n' := Text.ne_of_class (r.name.word c member) (by decide)
    simpa using unlike
  simp only [BlockWord.spelling] at argument
  unfold anyReference
  simp only [argument, until?_name r.name r.closing rest free]

theorem referenceTo_onlyAtOpenings (name : List Char) : OnlyAtOpenings (referenceTo name) := by
  intro cs none
  simp [referenceTo, head?_onlyAtOpenings "block" cs none]

/-- What stands after the white space of a reference, for the recogniser of one name. -/
theorem referenceTo_eq (name : List Char) (r : Naming .block) (rest : List Char) :
    referenceTo name (r.chars ++ rest) =
      ((List.range r.gap.chars.length).reverse.findSome? fun n =>
        (after? name ((r.gap.chars ++ (r.name.chars ++
          (r.closing.chars ++ (directiveClose ++ rest)))).drop (n + 1))).bind close?).map
        fun rest => ((), rest) := by
  have head := head?_chars r.head (r.gap.chars ++ (r.name.chars ++
    (r.closing.chars ++ (directiveClose ++ rest))))
  have blanks : (r.gap.chars ++ (r.name.chars ++
      (r.closing.chars ++ (directiveClose ++ rest)))).takeWhile isBlank = r.gap.chars := by
    refine Text.takeWhile_append_of_all (List.all_eq_true.2 r.gap.blank) ?_
    rcases r.name.chars_cons with ⟨c, name, chars, word⟩
    intro d first
    have same : c = d := by simpa [chars] using first
    rw [← same]
    exact Text.not_isBlank_of_isWordPart word
  simp only [BlockWord.spelling] at head
  unfold referenceTo
  simp only [Naming.chars, List.append_assoc, head, blanks]

/-- The pass of a block finds a reference to it. -/
theorem referenceTo_same (r : Naming .block) (rest : List Char) :
    referenceTo r.name.chars (r.chars ++ rest) = some ((), rest) := by
  rw [referenceTo_eq]
  cases chars : r.gap.chars with
  | nil => exact absurd chars r.apart
  | cons c gap =>
      -- All of the white space goes before the name, and the name stands right behind it.
      have behind : ((c :: gap) ++ (r.name.chars ++
          (r.closing.chars ++ (directiveClose ++ rest)))).drop (gap.length + 1) =
          r.name.chars ++ (r.closing.chars ++ (directiveClose ++ rest)) :=
        List.drop_left
      rw [List.length_cons, List.range_succ, List.reverse_append, List.reverse_singleton,
        List.singleton_append, List.findSome?_cons, behind, Text.after?_append, Option.bind_some,
        close?_closing]
      rfl

/-- A name is not read where another name and then no further character of a word stand. -/
theorem after?_name_other {name other : Name} (ne : name.chars ≠ other.chars) {stop : List Char}
    (ends : Text.wordEnds stop = true) :
    (after? name.chars (other.chars ++ stop)).bind close? = none := by
  cases found : after? name.chars (other.chars ++ stop) with
  | none => rfl
  | some rest =>
      have split := Text.after?_eq_some_iff.1 found
      -- One name is the beginning of the other: what is over stands behind it, and cannot.
      rcases List.append_eq_append_iff.1 split with ⟨more, longer, left⟩ | ⟨more, longer, left⟩
      · cases more with
        | nil => exact absurd (by simpa using longer) ne
        | cons c more =>
            have word := name.word c (by simp [longer])
            simp [left, Text.wordEnds, word] at ends
      · cases more with
        | nil => exact absurd (by simpa using longer.symm) ne
        | cons c more =>
            have word := other.word c (by simp [longer])
            rw [Option.bind_some, left]
            exact close?_word word _

/-- It passes over one to another block. -/
theorem referenceTo_other (name : Name) (r : Naming .block) (ne : name.chars ≠ r.name.chars)
    (rest : List Char) : referenceTo name.chars (r.chars ++ rest) = none := by
  have ends : Text.wordEnds (r.closing.chars ++ (directiveClose ++ rest)) = true :=
    wordEnds_spacing r.closing fun _ => rfl
  have nowhere : ∀ n ∈ (List.range r.gap.chars.length).reverse,
      (after? name.chars ((r.gap.chars ++ (r.name.chars ++
        (r.closing.chars ++ (directiveClose ++ rest)))).drop (n + 1))).bind close? = none := by
    intro n member
    have below : n + 1 ≤ r.gap.chars.length := List.mem_range.1 (List.mem_reverse.1 member)
    rw [List.drop_append_of_le_length below]
    cases left : r.gap.chars.drop (n + 1) with
    | nil => exact after?_name_other ne ends
    | cons c gap =>
        -- The name begins with a character of a word, and here is white space.
        have blank := r.gap.blank c (List.mem_of_mem_drop (by rw [left]; simp))
        rcases name.chars_cons with ⟨d, more, chars, word⟩
        have unlike : d ≠ c := Text.ne_of_class word (Text.not_isWordPart_of_isBlank blank)
        simp [chars, after?, unlike]
  rw [referenceTo_eq, List.findSome?_eq_none_iff.2 nowhere]
  rfl

end Directive
end TemplateEngine
