import TemplateEngine.Directive.Island
import TemplateEngine.Proofs.Artifact.Joining
import TemplateEngine.Proofs.Artifact.LoneTokens

/-!
# Sigils — what an inserted sigil means

An interpolation that begins with a bare name gets the sigil in front of it. With it or without, the
lexer reads the name as one token and the same tokens behind it. A name that is not called is the
variable of that name, so the program is the same.
-/

namespace TemplateEngine
namespace Artifact

open Text (isBlank isName isNameStart isNamePart)

/-! ## The tokens of an echo -/

/-- Behind the word `echo` the tokens are those of the characters behind it. -/
theorem scans_echo_iff {code : List Char} {tokens : List Token} :
    Scans .text ("<% echo ".toList ++ code) tokens ↔
      ∃ behind, tokens = .keyword .echoWord :: behind ∧ Scans .island code behind := by
  have blank : isBlank ' ' = true := by decide
  have found : Token.read ('e' :: (['c', 'h', 'o'] ++ ' ' :: code)) =
      .ok (.keyword .echoWord, ['e', 'c', 'h', 'o']) := by
    have breaks : Breaks (' ' :: code) := by
      rintro c ⟨⟩
      decide
    have name : isName ['e', 'c', 'h', 'o'] = true := by decide
    exact read_word name breaks
  have echo : Scans .island ('e' :: (['c', 'h', 'o'] ++ ' ' :: code)) tokens ↔ _ :=
    scans_token_iff (by decide) (not_islandClose (by decide) _) found
  have chars : "<% echo ".toList ++ code =
      islandOpen ++ ' ' :: 'e' :: (['c', 'h', 'o'] ++ ' ' :: code) := rfl
  rw [chars, scans_enter_iff, scans_blank_iff blank, echo]
  simp only [scans_blank_iff blank]

/-- A word is one token, up to the first character that is no part of a name. -/
theorem scans_word_iff {c : Char} (start : isNameStart c = true) {cs : List Char}
    {tokens : List Token} :
    Scans .island (c :: cs) tokens ↔
      ∃ behind, tokens = .ofWord ((c :: cs).takeWhile isNamePart) :: behind ∧
        Scans .island ((c :: cs).dropWhile isNamePart) behind := by
  have found := read_of_isNameStart start cs
  have notClose : '%' ≠ c := (Text.ne_of_class start (by decide)).symm
  have part := Text.isNamePart_of_isNameStart start
  have whole : cs = cs.takeWhile isNamePart ++ cs.dropWhile isNamePart :=
    List.takeWhile_append_dropWhile.symm
  rw [List.takeWhile_cons_of_pos part] at found ⊢
  rw [List.dropWhile_cons_of_pos part]
  generalize cs.takeWhile isNamePart = word at found whole ⊢
  generalize cs.dropWhile isNamePart = more at whole ⊢
  subst whole
  exact scans_token_iff (Text.not_isBlank_of_isNameStart start) (not_islandClose notClose _) found

/-- So is a word with a sigil in front of it. -/
theorem scans_sigil_iff {c : Char} (start : isNameStart c = true) {cs : List Char}
    {tokens : List Token} :
    Scans .island ('$' :: c :: cs) tokens ↔
      ∃ behind, tokens = .var (String.ofList ((c :: cs).takeWhile isNamePart)) :: behind ∧
        Scans .island ((c :: cs).dropWhile isNamePart) behind := by
  have found : Token.read ('$' :: c :: cs) =
      .ok (.var (String.ofList ((c :: cs).takeWhile isNamePart)),
        '$' :: (c :: cs).takeWhile isNamePart) := by
    simp [Token.read, start]
  have whole : c :: cs = (c :: cs).takeWhile isNamePart ++ (c :: cs).dropWhile isNamePart :=
    List.takeWhile_append_dropWhile.symm
  generalize (c :: cs).takeWhile isNamePart = word at found whole ⊢
  generalize (c :: cs).dropWhile isNamePart = more at whole ⊢
  rw [whole] at found ⊢
  exact scans_token_iff (by decide) (not_islandClose (by decide) _) found

/-- The opening parenthesis is read from its own character. -/
theorem eq_of_denotes_openParen {cs : List Char} (h : Denotes cs (.symbol .openParen)) : cs = ['('] := by
  generalize isParen : Token.symbol .openParen = t at h
  cases h with
  | symbol s =>
      cases isParen
      rfl
  | word =>
      cases found : Keyword.ofWord? (String.ofList cs) <;> simp [Token.ofWord, found] at isParen
  | _ => cases isParen

/-- Where the first token of an island is an opening parenthesis, that is its first character that is no
white space. -/
theorem head?_of_scans_openParen {cs : List Char} {tokens : List Token}
    (h : Scans .island cs (.symbol .openParen :: tokens)) :
    (cs.dropWhile isBlank).head? = some '(' := by
  generalize inIsland : Region.island = region at h
  generalize isParen : Token.symbol .openParen :: tokens = read at h
  induction h with
  | blank blank follow ih =>
      rw [List.dropWhile_cons_of_pos blank]
      exact ih inIsland isParen
  | token solid inside found follow ih =>
      cases isParen
      cases eq_of_denotes_openParen (denotes_of_read found)
      rfl
  | leave => cases isParen
  | _ => cases inIsland

/-! ## Bare names -/

/-- A word that is no keyword is a name. -/
theorem ofWord_of_no_keyword {word : List Char}
    (other : ∀ k : Keyword, word ≠ k.spelling.toList) :
    Token.ofWord word = .name (String.ofList word) := by
  have none : Keyword.ofWord? (String.ofList word) = none := by
    refine List.find?_eq_none.2 fun k _ same => other k ?_
    rw [eq_of_beq same, String.toList_ofList]
  rw [Token.ofWord, none]

/-- A name that is not called reads as the variable of that name. -/
theorem operandAt_bare (name : String) {ts : List Token}
    (notCalled : ts.head? ≠ some (.symbol .openParen)) :
    operandAt (.name name :: ts) = operandAt (.var name :: ts) := by
  simp only [operandAt_cons, operandAfter, argumentsAt, afterToken_of_head _ notCalled]
  rfl

/-- A bare name is echoed as the variable that its sigil makes of it, unless it is called: both are
refused, or both are read so. -/
theorem statementsAt_echo_bare (name : String) {ts : List Token}
    (notCalled : ts.head? ≠ some (.symbol .openParen)) (p : Program) :
    statementsAt (.keyword .echoWord :: .name name :: ts) = some (p, []) ↔
      statementsAt (.keyword .echoWord :: .var name :: ts) = some (p, []) := by
  have same : exprAt 1 (.name name :: ts) = exprAt 1 (.var name :: ts) := by
    rw [exprAt_eq, exprAt_eq, operandAt_bare name notCalled]
  have echo : statementAt (.keyword .echoWord :: .name name :: ts) =
      statementAt (.keyword .echoWord :: .var name :: ts) := by
    simp only [statementAt_cons, statementAfter, same]
  rw [statementsAt_eq, statementsAt_eq (_ :: .var name :: ts), echo]
  -- Where the echo cannot be read its tokens are left, whichever they are.
  cases statementAt (.keyword .echoWord :: .var name :: ts) with
  | none => simp
  | some read => rfl

end Artifact

namespace Directive

open Artifact
open Text (isBlank isNameStart isNamePart)

/-! ## Runs of characters up to one of another kind -/

theorem takeWhile_append_stop {p : Char → Bool} {stop : Char} (stops : p stop = false)
    (cs more : List Char) : (cs ++ stop :: more).takeWhile p = cs.takeWhile p := by
  induction cs with
  | nil => simp [stops]
  | cons c cs ih => cases h : p c <;> simp [h, ih]

theorem dropWhile_append_stop {p : Char → Bool} {stop : Char} (stops : p stop = false)
    (cs more : List Char) :
    (cs ++ stop :: more).dropWhile p = cs.dropWhile p ++ stop :: more := by
  induction cs with
  | nil => simp [stops]
  | cons c cs ih => cases h : p c <;> simp [h, ih]

/-! ## Echoes with and without the sigil -/

/-- The words that a statement begins with or that stand within one. They are no names. -/
def statementWords : List Keyword :=
  [.echoWord, .ifWord, .elseWord, .forWord, .inWord]

/-- The artifact that echoes an expression as it is written. -/
def echoing (expression : List Char) : String :=
  String.ofList ("<% echo ".toList ++ expression ++ " %>".toList)

theorem toList_echoing (e : List Char) :
    (echoing e).toList = "<% echo ".toList ++ (e ++ " %>".toList) :=
  String.toList_ofList.trans (List.append_assoc ..)

/-- What needs a sigil begins with a name that is no constant and is not called. -/
theorem needsSigil_iff {e : List Char} :
    needsSigil e = true ↔
      (∃ c cs, e = c :: cs ∧ isNameStart c = true) ∧
        (∀ k ∈ [Keyword.trueWord, .falseWord, .nullWord],
          e.takeWhile isNamePart ≠ k.spelling.toList) ∧
        ((e.dropWhile isNamePart).dropWhile isBlank).head? ≠ some '(' := by
  cases e with
  | nil => simp [needsSigil]
  | cons c cs => simp [needsSigil, Keyword.spelling, and_assoc]

/-- What an echo is read as, told by the first token of its expression and what is behind that. -/
theorem parse_echoing_iff {e rest : List Char} {t : Token} {p : Program}
    (scans : ∀ tokens, Scans .island (e ++ " %>".toList) tokens ↔
      ∃ behind, tokens = t :: behind ∧ Scans .island rest behind) :
    parse (echoing e) = .ok p ↔
      ∃ behind, Scans .island rest behind ∧
        statementsAt (.keyword .echoWord :: t :: behind) = some (p, []) := by
  have begins (behind : List Token) : unseparated (.keyword .echoWord :: t :: behind) =
      .keyword .echoWord :: t :: behind := rfl
  rw [parse_eq_ok_iff, toList_echoing]
  constructor
  · rintro ⟨tokens, scanned, read⟩
    rcases scans_echo_iff.1 scanned with ⟨within, rfl, inside⟩
    rcases (scans within).1 inside with ⟨behind, rfl, follow⟩
    rw [begins] at read
    exact ⟨behind, follow, read⟩
  · rintro ⟨behind, follow, read⟩
    rw [← begins] at read
    exact ⟨_, scans_echo_iff.2 ⟨_, rfl, (scans _).2 ⟨behind, rfl, follow⟩⟩, read⟩

/-- The sigil in front of a bare name does not change the program that an echo of the expression is read
as, nor whether it is read, whatever stands behind the name. -/
theorem parse_echoing_sigil {e : List Char} (bare : needsSigil e = true)
    (noWord : ∀ k ∈ statementWords, e.takeWhile isNamePart ≠ k.spelling.toList) (p : Program) :
    parse (echoing e) = .ok p ↔ parse (echoing ('$' :: e)) = .ok p := by
  rcases needsSigil_iff.1 bare with ⟨⟨c, cs, rfl, start⟩, noConstant, notCalled⟩
  have noKeyword (k : Keyword) : (c :: cs).takeWhile isNamePart ≠ k.spelling.toList := by
    cases k
    case trueWord => exact noConstant _ (by decide)
    case falseWord => exact noConstant _ (by decide)
    case nullWord => exact noConstant _ (by decide)
    all_goals exact noWord _ (by decide)
  have stops : isNamePart ' ' = false := by decide
  -- The name ends at the same place with the end of the island behind the expression.
  have name := takeWhile_append_stop stops (c :: cs) islandClose
  have rest := dropWhile_append_stop stops (c :: cs) islandClose
  have word (tokens : List Token) : Scans .island (c :: (cs ++ ' ' :: islandClose)) tokens ↔ _ :=
    scans_word_iff start
  have sigil (tokens : List Token) :
      Scans .island ('$' :: c :: (cs ++ ' ' :: islandClose)) tokens ↔ _ :=
    scans_sigil_iff start
  rw [List.cons_append] at name rest
  simp only [name, rest, ofWord_of_no_keyword noKeyword] at word sigil
  rw [parse_echoing_iff word, parse_echoing_iff sigil]
  refine exists_congr fun behind => and_congr_right fun follow => ?_
  refine statementsAt_echo_bare _ (fun head => ?_) p
  -- The first character behind the name that is no white space is of the expression, or ends the island.
  rcases List.head?_eq_some_iff.1 head with ⟨tokens, rfl⟩
  have paren := head?_of_scans_openParen follow
  rw [List.dropWhile_append] at paren
  split at paren
  · exact absurd paren (by decide)
  · next more =>
    refine notCalled ?_
    cases solid : ((c :: cs).dropWhile isNamePart).dropWhile isBlank with
    | nil => exact absurd (by rw [solid]; rfl) more
    | cons d ds =>
        rw [solid] at paren
        exact paren

/-- An expression that closes its island and opens another one, with a call behind the bare name. -/
def splitExpression : List Char :=
  "pages[0] %> of <% echo upper('(' + x)".toList

/-- What stands behind the closing marker is as it was, and the call is still one. -/
theorem parse_echoing_sigil_splitExpression :
    needsSigil splitExpression = true ∧
      (∀ k ∈ statementWords, splitExpression.takeWhile isNamePart ≠ k.spelling.toList) ∧
        ∀ p, parse (echoing splitExpression) = .ok p ↔
          parse (echoing ('$' :: splitExpression)) = .ok p :=
  ⟨by decide, by decide, parse_echoing_sigil (by decide) (by decide)⟩

end Directive
end TemplateEngine
