import TemplateEngine.Directive.Marker
import TemplateEngine.Directive.Unterminated
import TemplateEngine.Proofs.Artifact.Lexing
import TemplateEngine.Proofs.Artifact.Segments
import TemplateEngine.Proofs.Text.Scan

/-!
# Openings in literal text

The search for a directive that is not closed walks an artifact by itself: it knows markers, quotes and
backslashes, and no tokens. Where the artifact splits into tokens it passes over an island just as the
lexer reads it, so it finds an opening exactly if a literal text has one.
-/

namespace TemplateEngine
namespace Directive

open Artifact (Divides Interior Lexeme Segment Symbol Token doubleSymbol? islandClose islandOpen numberAfter
  quotedBody? readNumber readSymbol segmentChars singleSymbol?)
open Text (isBlank isNamePart isNameStart occurs)

/-! ## Steps of the search -/

def lineBreaks (cs : List Char) : Nat := cs.count '\n'

@[simp]
theorem lineBreaks_nil : lineBreaks [] = 0 := rfl

theorem lineBreaks_cons (c : Char) (cs : List Char) :
    lineBreaks (c :: cs) = lineBreaks [c] + lineBreaks cs := by
  rw [lineBreaks, lineBreaks, lineBreaks, ← List.count_append, List.singleton_append]

theorem lineBreaks_append (cs cs' : List Char) :
    lineBreaks (cs ++ cs') = lineBreaks cs + lineBreaks cs' := List.count_append ..

theorem next_line (line : Nat) (c : Char) :
    (if c = '\n' then line + 1 else line) = line + lineBreaks [c] := by
  by_cases h : c = '\n' <;> simp [lineBreaks, h]

theorem isPrefixOf_pair (a b c : Char) (cs : List Char) :
    [a, b].isPrefixOf (c :: cs) = (c == a && cs.head? == some b) := by
  rw [List.isPrefixOf, BEq.comm]
  cases cs with
  | nil => simp [List.isPrefixOf]
  | cons d cs => simp [List.isPrefixOf, BEq.comm]

variable (line : Nat)

/-- Behind an opening marker the search is in an island. -/
theorem openingLine?_enter (rest : List Char) :
    openingLine? line .text false (islandOpen ++ rest) = openingLine? line .island false rest := by
  simp [islandOpen, openingLine?]

/-- Behind a closing marker the search is in text. -/
theorem openingLine?_leave (rest : List Char) :
    openingLine? line .island false (islandClose ++ rest) = openingLine? line .text false rest := by
  simp [islandClose, openingLine?]

/-- Within an island the search goes on from character to character, up to a closing marker that is
not in a quoted text. -/
theorem openingLine?_within {place : Place} {c : Char} {cs : List Char} (notText : place ≠ .text)
    (stays : place = .island → islandClose.isPrefixOf (c :: cs) = false) :
    openingLine? line place false (c :: cs) =
      openingLine? (line + lineBreaks [c]) (place.after c) false cs := by
  have open' : (place = .island && c = '%' && cs.head? == some '>') = false := by
    by_cases inIsland : place = .island
    · have plain := stays inIsland
      rw [islandClose, isPrefixOf_pair] at plain
      simpa [inIsland] using plain
    · simp [inIsland]
  rw [openingLine?, next_line]
  simp only [notText, open', decide_false, Bool.false_and, Bool.false_eq_true, if_false]

/-- In literal text the search stops at the first opening. -/
theorem openingLine?_text {c : Char} {cs : List Char}
    (noIsland : islandOpen.isPrefixOf (c :: cs) = false) :
    openingLine? line .text false (c :: cs) =
      if interpolationOpen.isPrefixOf (c :: cs) then some line
      else openingLine? (line + lineBreaks [c]) .text false cs := by
  rw [islandOpen, isPrefixOf_pair] at noIsland
  have outside : (c = '<' && cs.head? == some '%') = false := by simpa using noIsland
  rw [openingLine?, next_line, interpolationOpen, isPrefixOf_pair]
  simp [outside, Place.after]

/-! ## Tokens of an island -/

/-- A character that neither closes an island nor begins or ends a quoted text. -/
def Unmarked (c : Char) : Prop := c ≠ '%' ∧ c ≠ '\'' ∧ c ≠ '"'

theorem unmarked_of_class {p : Char → Bool} {c : Char} (member : p c = true)
    (apart : p '%' = false ∧ p '\'' = false ∧ p '"' = false) : Unmarked c :=
  ⟨Text.ne_of_class member apart.1, Text.ne_of_class member apart.2.1,
    Text.ne_of_class member apart.2.2⟩

theorem unmarked_takeWhile {p : Char → Bool} (apart : p '%' = false ∧ p '\'' = false ∧ p '"' = false)
    (cs : List Char) : ∀ d ∈ cs.takeWhile p, Unmarked d :=
  fun d member => unmarked_of_class (List.all_eq_true.1 List.all_takeWhile d member) apart

/-- Nothing that the search heeds is in a number. -/
theorem unmarked_number {cs taken : List Char} {value : Double}
    (found : readNumber cs = .ok (value, taken)) : ∀ d ∈ taken, Unmarked d := by
  have digits (cs : List Char) : ∀ d ∈ cs.takeWhile Char.isDigit, Unmarked d :=
    unmarked_takeWhile (by decide) cs
  have whole : ∀ d ∈ Artifact.wholeDigits cs, Unmarked d := by
    unfold Artifact.wholeDigits
    split
    · simp [Unmarked]
    · exact digits cs
  simp only [readNumber] at found
  split at found
  · next rest _ =>
      split at found
      · cases found
      · simp only [Except.ok.injEq, Prod.mk.injEq] at found
        rw [← found.2]
        intro d member
        rcases List.mem_append.1 member with before | after
        · exact whole d before
        · rcases List.mem_cons.1 after with rfl | place
          · exact ⟨by decide, by decide, by decide⟩
          · exact digits rest d place
  · simp only [Except.ok.injEq, Prod.mk.injEq] at found
    exact found.2 ▸ whole

/-- Nor is it in a symbol, behind its first character. -/
theorem unmarked_symbol {c : Char} {cs word : List Char} {symbol : Symbol}
    (found : readSymbol c cs = .ok (symbol, c :: word)) : ∀ d ∈ word, Unmarked d := by
  have double {d : Char} {s : Symbol} (pair : doubleSymbol? c d = some s) : Unmarked d := by
    unfold doubleSymbol? at pair
    split at pair <;> first | exact ⟨by decide, by decide, by decide⟩ | cases pair
  unfold readSymbol at found
  split at found
  · next result both =>
      cases found
      rcases Option.bind_eq_some_iff.1 both with ⟨d, -, pair⟩
      rcases Option.map_eq_some_iff.1 pair with ⟨s, spelled, same⟩
      cases same
      simpa using double spelled
  · split at found
    · cases found
      simp
    · cases found

/-- A token is a quoted text, or none of its characters behind the first is a mark of the search. -/
theorem quoted_or_unmarked {t : Token} {c : Char} {cs word : List Char}
    (found : Token.read (c :: cs) = .ok (t, c :: word)) :
    ((c = '\'' ∨ c = '"') ∧ ∃ body, quotedBody? c cs = some (body, word)) ∨
      (c ≠ '\'' ∧ c ≠ '"' ∧ ∀ d ∈ word, Unmarked d) := by
  -- The marks of the search are the quotes and the percent sign, and no name has one.
  have named := unmarked_takeWhile (p := isNamePart) (by decide)
  by_cases sigil : c = '$'
  · subst sigil
    refine .inr ⟨by decide, by decide, ?_⟩
    cases cs with
    | nil => simp [Token.read] at found
    | cons d ds =>
        cases start : isNameStart d with
        | false => simp [Token.read, start] at found
        | true =>
            simp only [Token.read, start, if_true, Except.ok.injEq, Prod.mk.injEq, List.cons.injEq,
              true_and] at found
            exact found.2 ▸ named _
  by_cases quote : c = '"' ∨ c = '\''
  · refine .inl ⟨quote.symm, ?_⟩
    cases closed : quotedBody? c cs with
    | none => simp [Token.read, sigil, quote, closed] at found
    | some result =>
        rcases result with ⟨body, within⟩
        simp only [Token.read, sigil, quote, closed, if_false, Bool.or_eq_true, decide_eq_true_eq,
          if_true, Except.ok.injEq, Prod.mk.injEq, List.cons.injEq, true_and] at found
        exact ⟨body, by rw [found.2]⟩
  refine .inr ⟨fun single => quote (.inr single), fun double => quote (.inl double), ?_⟩
  cases digit : c.isDigit with
  | true =>
      simp only [Token.read, sigil, quote, digit, if_false, Bool.or_eq_true, decide_eq_true_eq,
        if_true] at found
      rcases Artifact.eq_of_map_ok found with ⟨⟨value, digits⟩, number, same⟩
      cases same
      exact fun d member => unmarked_number number d (List.mem_cons_of_mem c member)
  | false =>
      cases start : isNameStart c with
      | true =>
          have part := Text.isNamePart_of_isNameStart start
          simp only [Token.read, sigil, quote, digit, start, if_false, Bool.or_eq_true,
            decide_eq_true_eq, if_true, Bool.false_eq_true, List.takeWhile_cons_of_pos part,
            Except.ok.injEq, Prod.mk.injEq, List.cons.injEq, true_and] at found
          exact found.2 ▸ named cs
      | false =>
          simp only [Token.read, sigil, quote, digit, start, if_false, Bool.or_eq_true,
            decide_eq_true_eq, Bool.false_eq_true] at found
          rcases Artifact.eq_of_map_ok found with ⟨⟨symbol, signs⟩, read, same⟩
          cases same
          exact unmarked_symbol read

/-! ## Islands are passed over -/

/-- An unmarked character of an island only counts for the line. -/
theorem Unmarked.openingLine?_cons {c : Char} (unmarked : Unmarked c) (cs : List Char) :
    openingLine? line .island false (c :: cs) =
      openingLine? (line + lineBreaks [c]) .island false cs := by
  rcases unmarked with ⟨notPercent, notSingle, notDouble⟩
  rw [openingLine?_within line (by decide) fun _ => Artifact.not_islandClose notPercent.symm cs]
  simp [Place.after, notSingle, notDouble]

/-- So does a whole word of them. -/
theorem openingLine?_unmarked {word : List Char} (unmarked : ∀ d ∈ word, Unmarked d)
    (rest : List Char) :
    openingLine? line .island false (word ++ rest) =
      openingLine? (line + lineBreaks word) .island false rest := by
  induction word generalizing line with
  | nil => rfl
  | cons c word ih =>
      rcases List.forall_mem_cons.1 unmarked with ⟨first, later⟩
      rw [List.cons_append, first.openingLine?_cons, ih _ later, lineBreaks_cons c word, Nat.add_assoc]

/-- The search leaves a quoted text where the lexer reads its closing quote. -/
theorem openingLine?_quoted {quote : Char} {cs body taken : List Char}
    (notBackslash : quote ≠ '\\') (closed : quotedBody? quote cs = some (body, taken))
    (rest : List Char) :
    openingLine? line (.quoted quote false) false (taken ++ rest) =
      openingLine? (line + lineBreaks taken) .island false rest := by
  have step (escaped : Bool) (c : Char) (cs : List Char) (line : Nat) :=
    @openingLine?_within line (.quoted quote escaped) c cs (by simp) (by simp)
  fun_induction quotedBody? quote cs generalizing line body taken with
  | case1 => cases closed
  | case2 =>
      cases closed
      rw [List.singleton_append, step]
      simp [Place.after, notBackslash]
  | case3 => cases closed
  | @case4 d ds notQuote ih =>
      rcases Option.map_eq_some_iff.1 closed with ⟨⟨inner, within⟩, found, same⟩
      cases same
      have escaping : Place.after (.quoted quote false) '\\' = .quoted quote true := rfl
      have passed : Place.after (.quoted quote true) d = .quoted quote false := rfl
      rw [List.cons_append, List.cons_append, step, escaping, step, passed, ih _ found,
        lineBreaks_cons '\\' (d :: within), lineBreaks_cons d within, Nat.add_assoc, Nat.add_assoc]
  | @case5 c cs notQuote plain ih =>
      rcases Option.map_eq_some_iff.1 closed with ⟨⟨inner, within⟩, found, same⟩
      cases same
      have stays : Place.after (.quoted quote false) c = .quoted quote false := by
        simp [Place.after, notQuote, plain]
      rw [List.cons_append, step, stays, ih _ found, lineBreaks_cons c within, Nat.add_assoc]

/-- The search passes over an island up to the closing marker that the lexer reads. -/
theorem openingLine?_interior {place : Nat} {cs : List Char} {lexemes : List Lexeme}
    (inside : Interior place cs lexemes) (rest : List Char) :
    openingLine? line .island false (cs ++ rest) =
      openingLine? (line + lineBreaks cs) .text false rest := by
  induction inside generalizing line with
  | close => exact openingLine?_leave line rest
  | @blank place c cs lexemes blank _ ih =>
      have unmarked : Unmarked c := unmarked_of_class blank (by decide)
      rw [List.cons_append, unmarked.openingLine?_cons, ih, lineBreaks_cons c cs, Nat.add_assoc]
  | @token place t c word cs lexemes solid plain found follow ih =>
      rcases follow.token_append plain found rest with ⟨open', -⟩
      have chars : lineBreaks (c :: (word ++ cs)) = lineBreaks [c] + lineBreaks word + lineBreaks cs := by
        rw [lineBreaks_cons, lineBreaks_append, Nat.add_assoc]
      have first := @openingLine?_within line .island c (word ++ (cs ++ rest)) (by decide)
        fun _ => open'
      rw [List.cons_append, List.append_assoc, first, chars, ← Nat.add_assoc, ← Nat.add_assoc, ← ih]
      rcases quoted_or_unmarked found with ⟨quote, body, closed⟩ | ⟨notSingle, notDouble, unmarked⟩
      · -- The quoted text is read with the island behind it and reads the same before anything else.
        rcases Artifact.quotedBody?_ends closed with ⟨more, split, stays⟩
        have opened : Place.after .island c = .quoted c false := by simp [Place.after, quote]
        have notBackslash : c ≠ '\\' := by rcases quote with rfl | rfl <;> decide
        rw [opened]
        exact openingLine?_quoted _ notBackslash (stays []) (cs ++ rest)
      · have here : Place.after .island c = .island := by simp [Place.after, notSingle, notDouble]
        rw [here]
        exact openingLine?_unmarked _ unmarked (cs ++ rest)

/-! ## Openings found -/

/-- At the place a literal text of the artifact has an opening. -/
def OpensAt (lexemes : List Lexeme) (place : Nat) : Prop :=
  ∃ lexeme ∈ lexemes, ∃ s before after, lexeme.token = .text s ∧
    s.toList = before ++ (interpolationOpen ++ after) ∧ place = lexeme.start + before.length

/-- At the place a literal text of the artifact has the first opening of all. -/
structure FirstOpening (lexemes : List Lexeme) (place : Nat) : Prop where
  opens : OpensAt lexemes place
  first : ∀ other, OpensAt lexemes other → place ≤ other

/-- A literal text has no opening and is passed over, or the search stops at its first one. -/
theorem openingLine?_literal {s rest : List Char} (noIsland : occurs islandOpen s = false)
    (bound : rest = [] ∨ ∃ next, rest = islandOpen ++ next) :
    (occurs interpolationOpen s = false ∧ openingLine? line .text false (s ++ rest) =
      openingLine? (line + lineBreaks s) .text false rest) ∨
    ∃ before after, s = before ++ (interpolationOpen ++ after) ∧
      (∀ before' after', s = before' ++ (interpolationOpen ++ after') →
        before.length ≤ before'.length) ∧
      openingLine? line .text false (s ++ rest) = some (line + lineBreaks before) := by
  induction s generalizing line with
  | nil => exact .inl ⟨rfl, rfl⟩
  | cons c s ih =>
      rw [occurs, Bool.or_eq_false_iff] at noIsland
      -- The marker of an island stands in no literal text, and none begins at its last character
      -- either.
      have outside : islandOpen.isPrefixOf (c :: (s ++ rest)) = false := by
        have never : occurs islandOpen (c :: s) = false := by rw [occurs, noIsland.1, noIsland.2]; rfl
        have whole := Artifact.literal_append never bound
        cases opens : islandOpen.isPrefixOf (c :: (s ++ rest)) with
        | false => rfl
        | true => simp [Artifact.literal, opens] at whole
      have here : interpolationOpen.isPrefixOf (c :: (s ++ rest)) =
          interpolationOpen.isPrefixOf (c :: s) := by
        rw [interpolationOpen, isPrefixOf_pair, isPrefixOf_pair]
        cases s with
        | cons d s => rfl
        | nil => rcases bound with rfl | ⟨next, rfl⟩ <;> simp [islandOpen]
      rw [List.cons_append, openingLine?_text line outside, here]
      cases opens : interpolationOpen.isPrefixOf (c :: s) with
      | true =>
          rcases List.isPrefixOf_iff_prefix.1 opens with ⟨after, split⟩
          exact .inr ⟨[], after, split.symm, fun _ _ _ => Nat.zero_le _, rfl⟩
      | false =>
          rw [if_neg Bool.false_ne_true]
          rcases ih (line + lineBreaks [c]) noIsland.2 with ⟨never, same⟩ |
            ⟨before, after, rfl, first, found⟩
          · refine .inl ⟨by rw [occurs, opens, never]; rfl, ?_⟩
            rw [same, lineBreaks_cons c s, Nat.add_assoc]
          · refine .inr ⟨c :: before, after, rfl, ?_, ?_⟩
            · intro before' after' split
              cases before' with
              | nil =>
                  have opening := List.isPrefixOf_iff_prefix.2 ⟨after', split.symm⟩
                  exact absurd (opens.symm.trans opening) Bool.false_ne_true
              | cons d before' =>
                  exact Nat.succ_le_succ (first before' after' (List.cons.inj split).2)
            · rw [found, lineBreaks_cons c before, Nat.add_assoc]

theorem not_opensAt_nil (other : Nat) : ¬ OpensAt [] other := by
  rintro ⟨lexeme, member, -⟩
  cases member

/-- A literal text has an opening where two braces stand in it. -/
theorem opensAt_text {s : List Char} {place stop other : Nat} {lexemes : List Lexeme} :
    OpensAt (⟨.text (String.ofList s), place, stop⟩ :: lexemes) other ↔
      (∃ before after, s = before ++ (interpolationOpen ++ after) ∧
        other = place + before.length) ∨ OpensAt lexemes other := by
  constructor
  · rintro ⟨lexeme, member, found, before, after, isText, split, rfl⟩
    rcases member with _ | ⟨_, later⟩
    · cases isText
      exact .inl ⟨before, after, by rw [← split, String.toList_ofList], rfl⟩
    · exact .inr ⟨lexeme, later, found, before, after, isText, split, rfl⟩
  · rintro (⟨before, after, split, rfl⟩ | ⟨lexeme, later, opens⟩)
    · exact ⟨_, .head _, _, before, after, rfl, by rw [String.toList_ofList, split], rfl⟩
    · exact ⟨lexeme, .tail _ later, opens⟩

/-- An island has no opening of its own. -/
theorem opensAt_interior {place other : Nat} {cs : List Char} {lexemes later : List Lexeme}
    (inside : Interior place cs lexemes) : OpensAt (lexemes ++ later) other ↔ OpensAt later other := by
  constructor
  · rintro ⟨lexeme, member, s, before, after, isText, opens⟩
    rcases List.mem_append.1 member with within | behind
    · exact absurd isText (inside.not_text lexeme within s)
    · exact ⟨lexeme, behind, s, before, after, isText, opens⟩
  · rintro ⟨lexeme, behind, opens⟩
    exact ⟨lexeme, List.mem_append_right _ behind, opens⟩

/-- What opens in some segments lies in none before them. -/
theorem le_of_opensAt {place other : Nat} {segments : List Segment} {lexemes : List Lexeme}
    (h : Divides place segments lexemes) (opens : OpensAt lexemes other) : place ≤ other := by
  induction h with
  | done => exact absurd opens (not_opensAt_nil other)
  | text _ _ _ _ ih =>
      rcases opensAt_text.1 opens with ⟨before, after, -, rfl⟩ | later
      · exact Nat.le_add_right ..
      · exact Nat.le_of_add_right_le (ih later)
  | island inside _ ih =>
      have behind := ih ((opensAt_interior inside).1 opens)
      exact Nat.le_of_add_right_le (Nat.le_of_add_right_le behind)

/-- The search finds the line of the first opening that a literal text has. -/
theorem openingLine?_divides {place : Nat} {segments : List Segment} {lexemes : List Lexeme}
    (h : Divides place segments lexemes) :
    (openingLine? line .text false (segmentChars segments) = none ∧
      ∀ other, ¬ OpensAt lexemes other) ∨
    ∃ n, FirstOpening lexemes (place + n) ∧
      openingLine? line .text false (segmentChars segments) =
        some (line + lineBreaks ((segmentChars segments).take n)) := by
  induction h generalizing line with
  | done => exact .inl ⟨rfl, not_opensAt_nil⟩
  | @text place s segments lexemes nonempty noIsland bound follow ih =>
      rw [Artifact.segmentChars_cons, Segment.chars]
      rcases openingLine?_literal line noIsland (follow.bound bound) with ⟨never, passed⟩ |
        ⟨before, after, rfl, first, found⟩
      · -- A text without an opening leaves the later ones where they are.
        have later {other : Nat} : OpensAt (⟨.text (String.ofList s), place, place + s.length⟩ ::
            lexemes) other ↔ OpensAt lexemes other := by
          rw [opensAt_text, or_iff_right]
          rintro ⟨before, after, split, -⟩
          have here := Text.occurs_iff.2 ⟨before, after, split⟩
          exact absurd (never.symm.trans here) Bool.false_ne_true
        rw [passed]
        rcases ih (line + lineBreaks s) with ⟨none, closed⟩ | ⟨n, ⟨opens, first⟩, found⟩
        · exact .inl ⟨none, fun other opens => closed other (later.1 opens)⟩
        · rw [Nat.add_assoc] at opens first
          refine .inr ⟨s.length + n, ⟨later.2 opens, fun other opens => ?_⟩, ?_⟩
          · exact first other (later.1 opens)
          · rw [found, List.take_length_add_append, lineBreaks_append, Nat.add_assoc]
      · refine .inr ⟨before.length, ⟨?_, ?_⟩, ?_⟩
        · exact opensAt_text.2 (.inl ⟨before, after, rfl, rfl⟩)
        · intro other opens
          rcases opensAt_text.1 opens with ⟨before', after', split, rfl⟩ | later
          · exact Nat.add_le_add_left (first before' after' split) place
          · have behind := le_of_opensAt follow later
            rw [List.length_append] at behind
            omega
        · rw [found, List.append_assoc, List.take_left]
  | @island place cs lexemes segments later inside follow ih =>
      -- The search comes out of an island at its end, having counted its lines.
      have passed : openingLine? line .text false (segmentChars (.island (islandOpen ++ cs) :: segments)) =
          openingLine? (line + lineBreaks cs) .text false (segmentChars segments) := by
        rw [Artifact.segmentChars_cons, Segment.chars, List.append_assoc, openingLine?_enter,
          openingLine?_interior line inside]
      have noBreak : lineBreaks islandOpen = 0 := by decide
      rw [passed]
      rcases ih (line + lineBreaks cs) with ⟨none, closed⟩ | ⟨n, ⟨opens, first⟩, found⟩
      · exact .inl ⟨none, fun other opens => closed other ((opensAt_interior inside).1 opens)⟩
      · have place' : place + 2 + cs.length + n = place + ((islandOpen ++ cs).length + n) := by
          rw [List.length_append, Nat.add_assoc place, Nat.add_assoc place]
          rfl
        rw [place'] at opens first
        refine .inr ⟨(islandOpen ++ cs).length + n,
          ⟨(opensAt_interior inside).2 opens, fun other opens => ?_⟩, ?_⟩
        · exact first other ((opensAt_interior inside).1 opens)
        · rw [found, Artifact.segmentChars_cons, Segment.chars, List.take_length_add_append,
            lineBreaks_append, lineBreaks_append, noBreak, Nat.zero_add, Nat.add_assoc]

/-! ## The search in an artifact that splits into tokens -/

section

variable {text : String} {lexemes : List Lexeme}

/-- The search finds nothing where no literal text has an opening, and else the line of the first. -/
theorem unterminatedLine?_cases (tokenized : Artifact.tokenize text = .ok lexemes) :
    (unterminatedLine? text = none ∧ ∀ place, ¬ OpensAt lexemes place) ∨
      ∃ place, FirstOpening lexemes place ∧
        unterminatedLine? text = some (Text.lineAfter (text.toList.take place)) := by
  rcases Artifact.divides_segments tokenized with ⟨divides, chars⟩
  have found := openingLine?_divides 1 divides
  rw [chars] at found
  rcases found with never | ⟨place, first, found⟩
  · exact .inl never
  · rw [Nat.zero_add] at first
    exact .inr ⟨place, first, found.trans (congrArg some (Nat.add_comm ..))⟩

/-- A literal text has an opening somewhere. -/
theorem exists_opensAt_iff : (∃ place, OpensAt lexemes place) ↔
    ∃ lexeme ∈ lexemes, ∃ s, lexeme.token = .text s ∧ occurs interpolationOpen s.toList = true := by
  constructor
  · rintro ⟨place, lexeme, member, s, before, after, isText, split, -⟩
    exact ⟨lexeme, member, s, isText, Text.occurs_iff.2 ⟨before, after, split⟩⟩
  · rintro ⟨lexeme, member, s, isText, here⟩
    rcases Text.occurs_iff.1 here with ⟨before, after, split⟩
    exact ⟨_, lexeme, member, s, before, after, isText, split, rfl⟩

end

end Directive
end TemplateEngine
