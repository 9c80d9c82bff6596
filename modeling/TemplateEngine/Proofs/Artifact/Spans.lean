import Mathlib.Data.List.Chain
import TemplateEngine.Proofs.Artifact.LoneTokens
import TemplateEngine.Proofs.Artifact.Segments

/-!
# Spans — the lexemes of an artifact and its places

Splitting an artifact into tokens loses nothing. A walk records where in the artifact each step of the
lexer takes place; what is said of the spans of lexemes, and of the places in none of them, is proved by
induction on the walk.
-/

namespace TemplateEngine
namespace Artifact

open Text (isBlank occurs)

/-! ## What stands where -/

def Lexeme.slice (artifact : List Char) (lexeme : Lexeme) : List Char :=
  (artifact.drop lexeme.start).take (lexeme.stop - lexeme.start)

def Token.isText : Token → Bool
  | .text _ => true
  | _ => false

/-- The opening marker of an island stands at a place, outside all lexemes. -/
def OpensAt (artifact : List Char) (lexemes : List Lexeme) (place : Nat) : Prop :=
  islandOpen <+: artifact.drop place ∧ ∀ l ∈ lexemes, l.stop ≤ place ∨ place + 2 ≤ l.start

/-- An island that has been opened before a place has not been closed up to there. -/
def WithinIsland (artifact : List Char) (lexemes : List Lexeme) (place : Nat) : Prop :=
  ∃ opening, OpensAt artifact lexemes opening ∧ opening + 2 ≤ place ∧
    ∀ l ∈ lexemes, opening ≤ l.start → l.start < place →
      l.token.isText = false ∧ l.slice artifact ≠ islandClose

def Splits (cs : List Char) (tokens : List Token) : Prop :=
  ∃ lexemes, tokenize (String.ofList cs) = .ok lexemes ∧ lexemes.map Lexeme.token = tokens

/-- In an island of its own, whatever white space is around it, a slice is read as the token. A closing
marker has an island of its own by itself. -/
def Alone (slice : List Char) (t : Token) : Prop :=
  ∀ before behind, (∀ c ∈ before, isBlank c = true) → (∀ c ∈ behind, isBlank c = true) →
    if slice = islandClose then Splits (islandOpen ++ (before ++ slice)) [t]
    else Splits (islandOpen ++ (before ++ (slice ++ (behind ++ islandClose)))) [t, .symbol .semicolon]

/-- Where the lexer is behind a part of an island. -/
def regionBehind (slice : List Char) : Region :=
  if slice = islandClose then .text else .island

/-- What stands before the first token of an island, and not before the others. -/
def Region.opening : Region → List Char
  | .text => islandOpen
  | .island => []

/-- The characters made of tokens with their slices, where each token of an island has white space before
it. -/
def weave : Region → (spacings : List (List Char)) → List (Token × List Char) → List Char
  | region, spacing :: spacings, (t, slice) :: parts =>
      if t.isText then slice ++ weave .text spacings parts
      else region.opening ++ (spacing ++ (slice ++ weave (regionBehind slice) spacings parts))
  | _, _, _ => []

/-- Nothing of an artifact is lost in its lexemes, and nothing is there twice. -/
structure Lossless (artifact : List Char) (lexemes : List Lexeme) : Prop where
  spans : ∀ l ∈ lexemes, l.start < l.stop ∧ l.stop ≤ artifact.length
  disjoint : lexemes.Pairwise fun l m => l.stop ≤ m.start
  text : ∀ l ∈ lexemes, ∀ s, l.token = .text s →
    s.toList = l.slice artifact ∧ occurs islandOpen s.toList = false ∧
      (l.stop = artifact.length ∨ islandOpen <+: artifact.drop l.stop)
  apart : lexemes.IsChain fun l m => ¬ (l.token.isText = true ∧ m.token.isText = true)
  alone : ∀ l ∈ lexemes, l.token.isText = false → Alone (l.slice artifact) l.token
  outside : ∀ i < artifact.length, (∀ l ∈ lexemes, i < l.start ∨ l.stop ≤ i) →
    (∃ opening, OpensAt artifact lexemes opening ∧ opening ≤ i ∧ i < opening + 2) ∨
      WithinIsland artifact lexemes i ∧ ∃ c, artifact[i]? = some c ∧ isBlank c = true
  woven : ∃ spacings : List (List Char), spacings.length = lexemes.length ∧
    (∀ spacing ∈ spacings, ∀ c ∈ spacing, isBlank c = true) ∧
    artifact = weave .text spacings (lexemes.map fun l => (l.token, l.slice artifact))

/-- Behind a part of a text stands the rest of the text. -/
theorem drop_behind {artifact s rest : List Char} {place : Nat}
    (here : artifact.drop place = s ++ rest) : artifact.drop (place + s.length) = rest := by
  rw [← List.drop_drop, here, List.drop_left]

theorem le_length {artifact s rest : List Char} {place : Nat} (nonempty : s ≠ [])
    (here : artifact.drop place = s ++ rest) : place + s.length ≤ artifact.length := by
  have lengths := congrArg List.length here
  have positive := List.length_pos_iff.2 nonempty
  rw [List.length_drop, List.length_append] at lengths
  omega

/-- The characters that stand at a place are the slice of a lexeme there. -/
theorem slice_eq {artifact s rest : List Char} {place : Nat} (t : Token)
    (here : artifact.drop place = s ++ rest) :
    Lexeme.slice artifact ⟨t, place, place + s.length⟩ = s := by
  rw [Lexeme.slice, here, Nat.add_sub_cancel_left, List.take_left]

/-- Lexemes from a place on do not change what is open there. -/
theorem WithinIsland.append {artifact : List Char} {lexemes later : List Lexeme} {place : Nat}
    (h : WithinIsland artifact lexemes place) (starts : ∀ l ∈ later, place ≤ l.start) :
    WithinIsland artifact (lexemes ++ later) place := by
  rcases h with ⟨opening, ⟨marker, apart⟩, before, clear⟩
  refine ⟨opening, ⟨marker, fun l member => ?_⟩, before, fun l member since upTo => ?_⟩
  · rcases List.mem_append.1 member with earlier | behind
    · exact apart l earlier
    · exact .inr (Nat.le_trans before (starts l behind))
  · rcases List.mem_append.1 member with earlier | behind
    · exact clear l earlier since upTo
    · exact absurd (starts l behind) (Nat.not_le.2 upTo)

/-- An island stays open where neither a text nor a closing marker begins. -/
theorem WithinIsland.mono {artifact : List Char} {lexemes : List Lexeme} {place place' : Nat}
    (h : WithinIsland artifact lexemes place) (le : place ≤ place')
    (clear : ∀ l ∈ lexemes, place ≤ l.start → l.start < place' →
      l.token.isText = false ∧ l.slice artifact ≠ islandClose) :
    WithinIsland artifact lexemes place' := by
  rcases h with ⟨opening, opens, before, earlier⟩
  refine ⟨opening, opens, Nat.le_trans before le, fun l member since upTo => ?_⟩
  by_cases here : l.start < place
  · exact earlier l member since here
  · exact clear l member (Nat.le_of_not_lt here) upTo

/-- A literal text is woven in as it is. -/
theorem weave_text {region : Region} {spacing : List Char} {spacings : List (List Char)} {s : String}
    {slice : List Char} {parts : List (Token × List Char)} :
    weave region (spacing :: spacings) ((.text s, slice) :: parts) =
      slice ++ weave .text spacings parts := rfl

/-- A token of an island is woven in with white space before it. -/
theorem weave_token {region : Region} {spacing : List Char} {spacings : List (List Char)} {t : Token}
    {slice : List Char} {parts : List (Token × List Char)} (notText : t.isText = false) :
    weave region (spacing :: spacings) ((t, slice) :: parts) =
      region.opening ++ (spacing ++ (slice ++ weave (regionBehind slice) spacings parts)) := by
  rw [weave, notText]
  rfl

/-! ## Slices in an island of their own -/

/-- Characters that scan to tokens split into their slices. -/
theorem splits_of_scans {cs : List Char} {tokens : List Token} (scans : Scans .text cs tokens) :
    Splits cs tokens := by
  rcases scans.lex_eq 0 with ⟨lexemes, lexed, same⟩
  refine ⟨lexemes, ?_, same⟩
  rw [tokenize, lexAll, String.toList_ofList, lexed]
  rfl

/-- The closing marker alone is the semicolon it is read as. -/
theorem alone_islandClose : Alone islandClose (.symbol .semicolon) := by
  intro before behind blankBefore _
  rw [if_pos rfl]
  exact splits_of_scans (.enter (.blanks blankBefore (.leave .done)))

/-- Characters that denote a token are read as it in an island of their own. -/
theorem Denotes.alone {cs : List Char} {t : Token} (h : Denotes cs t) (notClose : cs ≠ islandClose) :
    Alone cs t := by
  intro before behind blankBefore blankBehind
  rw [if_neg notClose]
  have lone := h.scans blankBehind Scans.done
  exact splits_of_scans (.enter (.blanks blankBefore lone))

/-! ## Walks -/

/-- What denotes a token of an island is no literal text. -/
theorem Denotes.isText {cs : List Char} {t : Token} (h : Denotes cs t) : t.isText = false := by
  cases t with
  | text s =>
      have breaks : Breaks [] := fun _ member => nomatch member
      have calm : Calm [] := fun _ member => nomatch member
      exact absurd (h.read breaks calm) read_ne_text
  | _ => rfl

/-- No token is denoted by the closing marker. -/
theorem Denotes.ne_islandClose {cs : List Char} {t : Token} (h : Denotes cs t) : cs ≠ islandClose := by
  rintro rfl
  rcases h.head with ⟨c, word, same, -, percent⟩
  cases same
  cases percent rfl

/-- From a place on, in text or within an island, the artifact is read as the lexemes. -/
inductive Walks (artifact : List Char) : Region → (place : Nat) → List Lexeme → Prop
  | done : Walks artifact .text artifact.length []
  | text {place s rest lexemes} (here : artifact.drop place = s ++ rest) (nonempty : s ≠ [])
      (noIsland : occurs islandOpen s = false) (bound : rest = [] ∨ ∃ next, rest = islandOpen ++ next)
      (follow : Walks artifact .text (place + s.length) lexemes) :
      Walks artifact .text place (⟨.text (String.ofList s), place, place + s.length⟩ :: lexemes)
  | enter {place rest lexemes} (here : artifact.drop place = islandOpen ++ rest)
      (follow : Walks artifact .island (place + islandOpen.length) lexemes) :
      Walks artifact .text place lexemes
  | blank {place c rest lexemes} (here : artifact.drop place = [c] ++ rest) (blank : isBlank c = true)
      (follow : Walks artifact .island (place + 1) lexemes) : Walks artifact .island place lexemes
  | token {place t word rest lexemes} (here : artifact.drop place = word ++ rest)
      (denotes : Denotes word t) (follow : Walks artifact .island (place + word.length) lexemes) :
      Walks artifact .island place (⟨t, place, place + word.length⟩ :: lexemes)
  | leave {place rest lexemes} (here : artifact.drop place = islandClose ++ rest)
      (follow : Walks artifact .text (place + islandClose.length) lexemes) :
      Walks artifact .island place
        (⟨.symbol .semicolon, place, place + islandClose.length⟩ :: lexemes)

/-- The walk over the lexemes of an island goes on behind it. -/
theorem Interior.walks {artifact cs rest : List Char} {place : Nat} {lexemes later : List Lexeme}
    (h : Interior place cs lexemes) (here : artifact.drop place = cs ++ rest)
    (follow : Walks artifact .text (place + cs.length) later) :
    Walks artifact .island place (lexemes ++ later) := by
  induction h with
  | close place => exact .leave here follow
  | @blank place c cs lexemes blank within ih =>
      rw [List.cons_append] at here
      have behind := drop_behind (s := [c]) here
      rw [List.length_cons, Nat.add_comm cs.length, ← Nat.add_assoc] at follow
      exact .blank here blank (ih behind follow)
  | @token place t c word cs lexemes solid plain found within ih =>
      have here' : artifact.drop place = (c :: word) ++ (cs ++ rest) := by
        rw [here, List.cons_append, List.cons_append, List.append_assoc]
      have length : place + (c :: (word ++ cs)).length = place + (word.length + 1) + cs.length := by
        rw [List.length_cons, List.length_append]
        omega
      rw [length] at follow
      exact .token here' (denotes_of_read found) (ih (drop_behind here') follow)

/-- The lexemes of an artifact are walked from its beginning on. -/
theorem Divides.walks {artifact : List Char} {place : Nat} {segments : List Segment}
    {lexemes : List Lexeme} (h : Divides place segments lexemes) (inside : place ≤ artifact.length)
    (here : artifact.drop place = segmentChars segments) : Walks artifact .text place lexemes := by
  induction h with
  | done place =>
      have last : place = artifact.length :=
        Nat.le_antisymm inside (List.drop_eq_nil_iff.1 here)
      rw [last]
      exact .done
  | @text place s segments lexemes nonempty noIsland bound follow ih =>
      have behind := drop_behind here
      exact .text here nonempty noIsland (follow.bound bound) (ih (le_length nonempty here) behind)
  | @island place cs lexemes segments later within follow ih =>
      rw [segmentChars_cons, Segment.chars, List.append_assoc] at here
      have behind := drop_behind here
      exact .enter here (within.walks behind (ih (le_length within.ne_nil behind) (drop_behind behind)))

/-- The lexer walks over the whole artifact. -/
theorem walks_of_tokenize {artifact : String} {lexemes : List Lexeme}
    (tokenized : tokenize artifact = .ok lexemes) : Walks artifact.toList .text 0 lexemes := by
  rcases divides_segments tokenized with ⟨divides, chars⟩
  exact divides.walks (Nat.zero_le _) chars.symm

namespace Walks

variable {artifact : List Char} {region : Region} {place : Nat} {lexemes : List Lexeme}

/-! ## Spans in order -/

/-- The spans are not empty, and they stand behind the place that the walk begins at. -/
theorem bounds (h : Walks artifact region place lexemes) :
    ∀ l ∈ lexemes, place ≤ l.start ∧ l.start < l.stop ∧ l.stop ≤ artifact.length := by
  have span {place n : Nat} {lexemes : List Lexeme} (t : Token) (positive : 0 < n)
      (fits : place + n ≤ artifact.length)
      (later : ∀ l ∈ lexemes, place + n ≤ l.start ∧ l.start < l.stop ∧ l.stop ≤ artifact.length) :
      ∀ l ∈ (⟨t, place, place + n⟩ : Lexeme) :: lexemes,
        place ≤ l.start ∧ l.start < l.stop ∧ l.stop ≤ artifact.length := by
    rintro l (_ | ⟨_, member⟩)
    · exact ⟨Nat.le_refl place, Nat.lt_add_of_pos_right positive, fits⟩
    · exact ⟨Nat.le_trans (Nat.le_add_right place n) (later l member).1, (later l member).2⟩
  induction h with
  | done => exact fun _ member => nomatch member
  | text here nonempty _ _ _ ih =>
      exact span _ (List.length_pos_iff.2 nonempty) (le_length nonempty here) ih
  | enter _ _ ih => exact fun l member => ⟨by have := (ih l member).1; omega, (ih l member).2⟩
  | blank _ _ _ ih => exact fun l member => ⟨by have := (ih l member).1; omega, (ih l member).2⟩
  | token here denotes _ ih =>
      rcases denotes.head with ⟨c, word, rfl, -⟩
      exact span _ (Nat.succ_pos _) (le_length (List.cons_ne_nil _ _) here) ih
  | leave here _ ih => exact span _ (by decide) (le_length (by decide) here) ih

/-- Each span ends before the next begins. -/
theorem disjoint (h : Walks artifact region place lexemes) :
    lexemes.Pairwise fun l m => l.stop ≤ m.start := by
  induction h with
  | done => exact .nil
  | text _ _ _ _ follow ih => exact .cons (fun m member => (follow.bounds m member).1) ih
  | enter _ _ ih => exact ih
  | blank _ _ _ ih => exact ih
  | token _ _ follow ih => exact .cons (fun m member => (follow.bounds m member).1) ih
  | leave _ follow ih => exact .cons (fun m member => (follow.bounds m member).1) ih

/-! ## The lexemes and their slices -/

/-- A literal text is its slice, in which no island opens, and it goes up to an island or to the end. -/
theorem text_slice (h : Walks artifact region place lexemes) :
    ∀ l ∈ lexemes, ∀ s, l.token = .text s →
      s.toList = l.slice artifact ∧ occurs islandOpen s.toList = false ∧
        (l.stop = artifact.length ∨ islandOpen <+: artifact.drop l.stop) := by
  induction h with
  | done => exact fun _ member => nomatch member
  | @text place s rest lexemes here nonempty noIsland bound _ ih =>
      rintro l (_ | ⟨_, member⟩) s' same
      · cases same
        refine ⟨by rw [slice_eq _ here, String.toList_ofList], by rwa [String.toList_ofList], ?_⟩
        have behind := drop_behind here
        rcases bound with rfl | ⟨next, rfl⟩
        · exact .inl (Nat.le_antisymm (le_length nonempty here) (List.drop_eq_nil_iff.1 behind))
        · exact .inr ⟨next, behind.symm⟩
      · exact ih l member s' same
  | enter _ _ ih => exact ih
  | blank _ _ _ ih => exact ih
  | @token place t word rest lexemes here denotes _ ih =>
      rintro l (_ | ⟨_, member⟩) s same
      · have notText := denotes.isText
        rw [show t = .text s from same] at notText
        cases notText
      · exact ih l member s same
  | leave _ _ ih =>
      rintro l (_ | ⟨_, member⟩) s same
      · cases same
      · exact ih l member s same

/-- Every other lexeme is a closing marker or has a slice that denotes its token. -/
theorem token_slice (h : Walks artifact region place lexemes) :
    ∀ l ∈ lexemes, l.token.isText = false →
      (l.slice artifact = islandClose ∧ l.token = .symbol .semicolon) ∨
        Denotes (l.slice artifact) l.token := by
  induction h with
  | done => exact fun _ member => nomatch member
  | text _ _ _ _ _ ih =>
      rintro l (_ | ⟨_, member⟩) notText
      · cases notText
      · exact ih l member notText
  | enter _ _ ih => exact ih
  | blank _ _ _ ih => exact ih
  | token here denotes _ ih =>
      rintro l (_ | ⟨_, member⟩) notText
      · exact .inr ((slice_eq _ here).symm ▸ denotes)
      · exact ih l member notText
  | leave here _ ih =>
      rintro l (_ | ⟨_, member⟩) notText
      · exact .inl ⟨slice_eq _ here, rfl⟩
      · exact ih l member notText

/-- An island has a first lexeme, which is no literal text. -/
theorem island_cons (h : Walks artifact .island place lexemes) :
    ∃ l ls, lexemes = l :: ls ∧ l.token.isText = false := by
  generalize within : Region.island = region at h
  induction h with
  | done => cases within
  | text => cases within
  | enter => cases within
  | blank _ _ _ ih => exact ih within
  | token _ denotes _ _ => exact ⟨_, _, rfl, denotes.isText⟩
  | leave => exact ⟨_, _, rfl, rfl⟩

/-- What begins with an opening marker begins with no literal text. -/
theorem head_of_opening (h : Walks artifact .text place lexemes)
    (bound : artifact.drop place = [] ∨ ∃ next, artifact.drop place = islandOpen ++ next) :
    ∀ l ∈ lexemes.head?, l.token.isText = false := by
  cases h with
  | done => exact fun _ member => nomatch member
  | @text _ s rest lexemes here nonempty noIsland opens follow =>
      -- The literal text in front would be all that stands before the marker, which is nothing.
      have whole : literal (artifact.drop place) = s := by rw [here, literal_append noIsland opens]
      refine absurd ?_ nonempty
      rcases bound with empty | ⟨next, opening⟩
      · rw [← whole, empty]
        rfl
      · rw [← whole, opening]
        rfl
  | enter here follow =>
      rcases follow.island_cons with ⟨l, ls, rfl, notText⟩
      rintro m ⟨⟩
      exact notText

/-- No two literal texts follow one another. -/
theorem apart (h : Walks artifact region place lexemes) :
    lexemes.IsChain fun l m => ¬ (l.token.isText = true ∧ m.token.isText = true) := by
  induction h with
  | done => exact .nil
  | text here _ _ bound follow ih =>
      have behind := follow.head_of_opening ((drop_behind here).symm ▸ bound)
      refine List.isChain_cons.2 ⟨fun m first both => ?_, ih⟩
      rw [behind m first] at both
      cases both.2
  | enter _ _ ih => exact ih
  | blank _ _ _ ih => exact ih
  | token _ denotes _ ih =>
      refine List.isChain_cons.2 ⟨fun m _ both => ?_, ih⟩
      rw [denotes.isText] at both
      cases both.1
  | leave _ _ ih => exact List.isChain_cons.2 ⟨fun m _ both => (nomatch both.1), ih⟩

/-! ## Places outside the spans -/

/-- A place in no span belongs to an opening marker, or it is white space within an island. -/
theorem outside (h : Walks artifact region place lexemes) {earlier : List Lexeme}
    (passed : ∀ l ∈ earlier, l.start < l.stop ∧ l.stop ≤ place)
    (within : region = .island → WithinIsland artifact earlier place) {i : Nat} (behind : place ≤ i)
    (inside : i < artifact.length) (uncovered : ∀ l ∈ earlier ++ lexemes, i < l.start ∨ l.stop ≤ i) :
    (∃ opening, OpensAt artifact (earlier ++ lexemes) opening ∧ opening ≤ i ∧ i < opening + 2) ∨
      WithinIsland artifact (earlier ++ lexemes) i ∧ ∃ c, artifact[i]? = some c ∧ isBlank c = true := by
  -- Behind a lexeme the walk goes on, with the lexeme among the earlier ones.
  have pass {place n : Nat} {earlier : List Lexeme} (t : Token) (positive : 0 < n)
      (passed : ∀ l ∈ earlier, l.start < l.stop ∧ l.stop ≤ place) :
      ∀ l ∈ earlier ++ [⟨t, place, place + n⟩], l.start < l.stop ∧ l.stop ≤ place + n := by
    intro l member
    rcases List.mem_append.1 member with before | here
    · exact ⟨(passed l before).1, Nat.le_add_right_of_le (passed l before).2⟩
    · cases List.mem_singleton.1 here
      exact ⟨Nat.lt_add_of_pos_right positive, Nat.le_refl _⟩
  induction h generalizing earlier with
  | done => omega
  | @text place s rest lexemes here nonempty _ _ follow ih =>
      have positive := List.length_pos_iff.2 nonempty
      have past := (uncovered _ (List.mem_append_right _ List.mem_cons_self)).resolve_left
        (Nat.not_lt.2 behind)
      have later := ih (pass (.text (String.ofList s)) positive passed) (fun same => nomatch same) past
      rw [List.append_assoc] at later
      exact later uncovered
  | @enter place rest lexemes here follow ih =>
      have opens : islandOpen <+: artifact.drop place := ⟨rest, here.symm⟩
      by_cases marker : i < place + 2
      · refine .inl ⟨place, ⟨opens, fun l member => ?_⟩, behind, marker⟩
        rcases List.mem_append.1 member with before | later
        · exact .inl (passed l before).2
        · exact .inr (follow.bounds l later).1
      · have island : WithinIsland artifact earlier (place + 2) := by
          refine ⟨place, ⟨opens, fun l member => .inl (passed l member).2⟩, Nat.le_refl _, ?_⟩
          intro l member since _
          have before := passed l member
          omega
        exact ih (fun l member => ⟨(passed l member).1, Nat.le_add_right_of_le (passed l member).2⟩)
          (fun _ => island) (Nat.le_of_not_lt marker) uncovered
  | @blank place c rest lexemes here blank follow ih =>
      rcases Nat.eq_or_lt_of_le behind with rfl | further
      · have char : artifact[place]? = some c := by
          rw [← Nat.add_zero place, ← List.getElem?_drop, here]
          rfl
        have starts : ∀ l ∈ lexemes, place ≤ l.start := fun l member =>
          Nat.le_of_succ_le (follow.bounds l member).1
        exact .inr ⟨(within rfl).append starts, c, char, blank⟩
      · have island : WithinIsland artifact earlier (place + 1) := by
          refine (within rfl).mono (Nat.le_succ place) fun l member since _ => ?_
          have before := passed l member
          omega
        exact ih (fun l member => ⟨(passed l member).1, Nat.le_succ_of_le (passed l member).2⟩)
          (fun _ => island) further uncovered
  | @token place t word rest lexemes here denotes follow ih =>
      have positive : 0 < word.length := by
        rcases denotes.head with ⟨c, cs, rfl, -⟩
        exact Nat.succ_pos _
      have past := (uncovered _ (List.mem_append_right _ List.mem_cons_self)).resolve_left
        (Nat.not_lt.2 behind)
      have island : WithinIsland artifact (earlier ++ [⟨t, place, place + word.length⟩])
          (place + word.length) := by
        have starts : ∀ l ∈ [(⟨t, place, place + word.length⟩ : Lexeme)], place ≤ l.start := by simp
        refine ((within rfl).append starts).mono (Nat.le_add_right _ _) fun l member since _ => ?_
        rcases List.mem_append.1 member with before | this
        · have earlier := passed l before
          omega
        · cases List.mem_singleton.1 this
          exact ⟨denotes.isText, (slice_eq t here).symm ▸ denotes.ne_islandClose⟩
      have later := ih (pass t positive passed) (fun _ => island) past
      rw [List.append_assoc] at later
      exact later uncovered
  | @leave place rest lexemes here follow ih =>
      have past := (uncovered _ (List.mem_append_right _ List.mem_cons_self)).resolve_left
        (Nat.not_lt.2 behind)
      have later := ih (pass (.symbol .semicolon) (by decide) passed) (fun same => nomatch same) past
      rw [List.append_assoc] at later
      exact later uncovered

/-! ## Putting an artifact together -/

/-- The artifact from a place on is woven from the lexemes' tokens with their slices and from white space. -/
theorem woven (h : Walks artifact region place lexemes) :
    ∃ spacings : List (List Char), spacings.length = lexemes.length ∧
      (∀ spacing ∈ spacings, ∀ c ∈ spacing, isBlank c = true) ∧
      artifact.drop place = weave region spacings (lexemes.map fun l => (l.token, l.slice artifact)) := by
  -- White space stands only before a token of an island; a text and a marker have none.
  have noSpace {spacings : List (List Char)}
      (blank : ∀ spacing ∈ spacings, ∀ c ∈ spacing, isBlank c = true) :
      ∀ spacing ∈ [] :: spacings, ∀ c ∈ spacing, isBlank c = true :=
    List.forall_mem_cons.2 ⟨List.forall_mem_nil _, blank⟩
  induction h with
  | done => exact ⟨[], rfl, List.forall_mem_nil _, by simp [weave]⟩
  | @text place s rest lexemes here _ _ _ _ ih =>
      rcases ih with ⟨spacings, count, blank, same⟩
      refine ⟨[] :: spacings, by simp [count], noSpace blank, ?_⟩
      rw [drop_behind here] at same
      rw [here, List.map_cons, slice_eq _ here, weave_text, same]
  | @enter place rest lexemes here follow ih =>
      -- Behind the marker there is a token, and white space before the marker counts to it.
      rcases follow.island_cons with ⟨l, ls, rfl, notText⟩
      rcases ih with ⟨spacings, count, blank, same⟩
      rcases List.exists_cons_of_length_eq_add_one count with ⟨spacing, spacings, rfl⟩
      refine ⟨spacing :: spacings, count, blank, ?_⟩
      rw [drop_behind here] at same
      rw [here, same, List.map_cons, weave_token notText, weave_token notText]
      rfl
  | @blank place c rest lexemes here blank follow ih =>
      rcases follow.island_cons with ⟨l, ls, rfl, notText⟩
      rcases ih with ⟨spacings, count, blanks, same⟩
      rcases List.exists_cons_of_length_eq_add_one count with ⟨spacing, spacings, rfl⟩
      rcases List.forall_mem_cons.1 blanks with ⟨first, others⟩
      refine ⟨(c :: spacing) :: spacings, count, List.forall_mem_cons.2
        ⟨List.forall_mem_cons.2 ⟨blank, first⟩, others⟩, ?_⟩
      have behind := drop_behind here
      rw [List.length_singleton] at behind
      rw [behind] at same
      rw [here, same, List.map_cons, weave_token notText, weave_token notText]
      rfl
  | @token place t word rest lexemes here denotes _ ih =>
      rcases ih with ⟨spacings, count, blank, same⟩
      refine ⟨[] :: spacings, by simp [count], noSpace blank, ?_⟩
      rw [drop_behind here] at same
      rw [here, List.map_cons, slice_eq _ here, weave_token denotes.isText, regionBehind,
        if_neg denotes.ne_islandClose, ← same]
      rfl
  | @leave place rest lexemes here _ ih =>
      rcases ih with ⟨spacings, count, blank, same⟩
      refine ⟨[] :: spacings, by simp [count], noSpace blank, ?_⟩
      rw [drop_behind here] at same
      rw [here, List.map_cons, slice_eq _ here, weave_token rfl, regionBehind, if_pos rfl, ← same]
      rfl

end Walks

/-- Splitting into tokens loses nothing. -/
theorem tokenize_lossless {artifact : String} {lexemes : List Lexeme}
    (tokenized : tokenize artifact = .ok lexemes) : Lossless artifact.toList lexemes := by
  have walks := walks_of_tokenize tokenized
  refine ⟨fun l member => (walks.bounds l member).2, walks.disjoint, walks.text_slice, walks.apart, ?_,
    fun i inside uncovered => ?_, walks.woven⟩
  · intro l member notText
    rcases walks.token_slice l member notText with ⟨close, semicolon⟩ | denotes
    · rw [close, semicolon]
      exact alone_islandClose
    · exact denotes.alone denotes.ne_islandClose
  · have nothing : ∀ l ∈ ([] : List Lexeme), l.start < l.stop ∧ l.stop ≤ 0 := fun _ member =>
      nomatch member
    have outside := walks.outside nothing (fun same => nomatch same) (Nat.zero_le i) inside
    rw [List.nil_append] at outside
    exact outside uncovered

/-- A quoted closing marker, a percent sign in front of a closing marker, and an island without tokens. -/
theorem tokenize_lossless_markers :
    tokenize "a%><% '%>'<%%>b<%%>" = .ok [⟨.text "a%>", 0, 3⟩, ⟨.quoted "%>", 6, 10⟩,
        ⟨.symbol .less, 10, 11⟩, ⟨.symbol .percent, 11, 12⟩, ⟨.symbol .semicolon, 12, 14⟩,
        ⟨.text "b", 14, 15⟩, ⟨.symbol .semicolon, 17, 19⟩] ∧
      Lossless "a%><% '%>'<%%>b<%%>".toList [⟨.text "a%>", 0, 3⟩, ⟨.quoted "%>", 6, 10⟩,
        ⟨.symbol .less, 10, 11⟩, ⟨.symbol .percent, 11, 12⟩, ⟨.symbol .semicolon, 12, 14⟩,
        ⟨.text "b", 14, 15⟩, ⟨.symbol .semicolon, 17, 19⟩] := by
  have tokenized : tokenize "a%><% '%>'<%%>b<%%>" = .ok [⟨.text "a%>", 0, 3⟩,
      ⟨.quoted "%>", 6, 10⟩, ⟨.symbol .less, 10, 11⟩, ⟨.symbol .percent, 11, 12⟩,
      ⟨.symbol .semicolon, 12, 14⟩, ⟨.text "b", 14, 15⟩, ⟨.symbol .semicolon, 17, 19⟩] := by
    decide +kernel
  exact ⟨tokenized, tokenize_lossless tokenized⟩

end Artifact
end TemplateEngine
