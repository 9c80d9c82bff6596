import TemplateEngine.Proofs.Artifact.Divisions

/-!
# Scans — the lexer as a relation

Characters scan to tokens, in text or within an island, by one rule for each thing that the lexer meets.
The relation says nothing of places and of characters that are read already, and it holds exactly where
the lexer succeeds.
-/

namespace TemplateEngine
namespace Artifact

open Text (isBlank)

/-- The characters of a region and what stands behind it scan to the tokens. -/
inductive Scans : Region → List Char → List Token → Prop
  | done : Scans .text [] []
  /-- Literal text up to the end. -/
  | last {s} (nonempty : s ≠ []) (noIsland : Text.occurs islandOpen s = false) :
      Scans .text s [.text (String.ofList s)]
  /-- Literal text up to an island. -/
  | text {s more tokens} (nonempty : s ≠ []) (noIsland : Text.occurs islandOpen s = false)
      (follow : Scans .island more tokens) :
      Scans .text (s ++ (islandOpen ++ more)) (.text (String.ofList s) :: tokens)
  | enter {more tokens} (follow : Scans .island more tokens) :
      Scans .text (islandOpen ++ more) tokens
  | blank {c more tokens} (blank : isBlank c = true) (follow : Scans .island more tokens) :
      Scans .island (c :: more) tokens
  | leave {more tokens} (follow : Scans .text more tokens) :
      Scans .island (islandClose ++ more) (.symbol .semicolon :: tokens)
  | token {t c word more tokens} (solid : isBlank c = false)
      (inside : islandClose.isPrefixOf (c :: (word ++ more)) = false)
      (found : Token.read (c :: (word ++ more)) = .ok (t, c :: word))
      (follow : Scans .island more tokens) : Scans .island (c :: (word ++ more)) (t :: tokens)

/-- The lexer reads what scans. -/
theorem Scans.lex_eq {region : Region} {cs : List Char} {tokens : List Token}
    (h : Scans region cs tokens) (place : Nat) :
    ∃ lexemes, lex region 0 place cs = .ok lexemes ∧ lexemes.map Lexeme.token = tokens := by
  -- The lexer goes by the same cases, with a place beside each.
  induction h generalizing place with
  | done => exact ⟨[], by simp [lex], rfl⟩
  | @last s nonempty noIsland =>
      have text := lex_literal nonempty noIsland (.inl rfl) place
      rw [List.append_nil] at text
      exact ⟨_, text, rfl⟩
  | @text s more tokens nonempty noIsland follow ih =>
      rcases ih (place + s.length + 2) with ⟨lexemes, lexed, rfl⟩
      have text := lex_literal nonempty noIsland (.inr ⟨more, rfl⟩) place
      rw [lex_enter, lexed] at text
      exact ⟨_, text, rfl⟩
  | enter follow ih =>
      rcases ih (place + 2) with ⟨lexemes, lexed, tokens⟩
      exact ⟨lexemes, (lex_enter _ place).trans lexed, tokens⟩
  | blank blank follow ih =>
      rcases ih (place + 1) with ⟨lexemes, lexed, tokens⟩
      refine ⟨lexemes, ?_, tokens⟩
      rw [lex, blank]
      exact lexed
  | leave follow ih =>
      rcases ih (place + 2) with ⟨lexemes, lexed, rfl⟩
      refine ⟨⟨.symbol .semicolon, place, place + 2⟩ :: lexemes, ?_, rfl⟩
      rw [lex_leave, lexed]
      rfl
  | @token t c word more tokens solid inside found follow ih =>
      rcases ih (place + (word.length + 1)) with ⟨lexemes, lexed, rfl⟩
      have read := lex_token solid inside found place
      rw [lexed] at read
      exact ⟨_, read, rfl⟩

/-- Characters scan to one list of tokens at most. -/
theorem Scans.unique {region : Region} {cs : List Char} {tokens tokens' : List Token}
    (h : Scans region cs tokens) (h' : Scans region cs tokens') : tokens = tokens' := by
  rcases h.lex_eq 0 with ⟨lexemes, lexed, rfl⟩
  rcases h'.lex_eq 0 with ⟨lexemes', lexed', rfl⟩
  cases lexed.symm.trans lexed'
  rfl

/-- An island has a closing marker at least. -/
theorem Scans.ne_nil {cs : List Char} {tokens : List Token} (h : Scans .island cs tokens) :
    cs ≠ [] := by
  cases h <;> simp [islandClose]

/-! ## What divides scans -/

/-- Behind an opening marker the island scans. -/
theorem Scans.island_of_text {more : List Char} {tokens : List Token}
    (h : Scans .text (islandOpen ++ more) tokens) : Scans .island more tokens := by
  generalize split : islandOpen ++ more = cs at h
  -- A literal text would have the marker in it.
  have not_text {s rest : List Char} (nonempty : s ≠ []) (same : islandOpen ++ more = s ++ rest)
      (noIsland : Text.occurs islandOpen s = false)
      (bound : rest = [] ∨ ∃ next, rest = islandOpen ++ next) : False := by
    have whole := literal_append noIsland bound
    rw [← same] at whole
    exact nonempty whole.symm
  cases h with
  | done => cases split
  | last nonempty noIsland =>
      exact (not_text nonempty (split.trans (List.append_nil _).symm) noIsland (.inl rfl)).elim
  | text nonempty noIsland follow =>
      exact (not_text nonempty split noIsland (.inr ⟨_, rfl⟩)).elim
  | enter follow =>
      cases split
      exact follow

/-- A literal text in front of an island or of nothing. -/
theorem Scans.literal {s rest : List Char} {tokens : List Token} (nonempty : s ≠ [])
    (noIsland : Text.occurs islandOpen s = false)
    (opens : rest = [] ∨ ∃ more, rest = islandOpen ++ more) (follow : Scans .text rest tokens) :
    Scans .text (s ++ rest) (.text (String.ofList s) :: tokens) := by
  rcases opens with rfl | ⟨more, rfl⟩
  · rcases follow.lex_eq 0 with ⟨lexemes, lexed, rfl⟩
    rw [lex] at lexed
    cases lexed
    rw [List.append_nil]
    exact .last nonempty noIsland
  · exact .text nonempty noIsland follow.island_of_text

/-- An island that is divided into lexemes scans to their tokens. -/
theorem Interior.scans {place : Nat} {cs rest : List Char} {lexemes : List Lexeme}
    {tokens : List Token} (h : Interior place cs lexemes) (follow : Scans .text rest tokens) :
    Scans .island (cs ++ rest) (lexemes.map Lexeme.token ++ tokens) := by
  induction h with
  | close => exact .leave follow
  | blank blank _ ih => exact .blank blank ih
  | @token place t c word cs lexemes solid inside found within ih =>
      rcases within.token_append inside found rest with ⟨inside', found'⟩
      rw [List.cons_append, List.append_assoc]
      exact .token solid inside' found' ih

/-- An artifact that is divided into segments scans to the tokens of their lexemes. -/
theorem Divides.scans {place : Nat} {segments : List Segment} {lexemes : List Lexeme}
    (h : Divides place segments lexemes) :
    Scans .text (segmentChars segments) (lexemes.map Lexeme.token) := by
  induction h with
  | done => exact .done
  | text nonempty noIsland bound follow ih =>
      exact .literal nonempty noIsland (follow.bound bound) ih
  | island inside _ ih =>
      rw [segmentChars_cons, Segment.chars, List.append_assoc, List.map_append]
      exact .enter (inside.scans ih)

/-- What the lexer reads from a literal text on scans. -/
theorem scans_of_lex_text {cs : List Char} {place : Nat} {lexemes : List Lexeme}
    (lexed : lex .text 0 place cs = .ok lexemes) :
    Scans .text cs (lexemes.map Lexeme.token) := by
  rcases exists_divides lexed with ⟨segments, divides, rfl⟩
  exact divides.scans

/-- What the lexer reads from within an island on scans. -/
theorem scans_of_lex_island {cs : List Char} {place : Nat} {lexemes : List Lexeme}
    (lexed : lex .island 0 place cs = .ok lexemes) :
    Scans .island cs (lexemes.map Lexeme.token) := by
  rcases exists_interior lexed with ⟨inside, rest, within, later, rfl, rfl, interior, follow⟩
  rw [List.map_append]
  exact interior.scans (scans_of_lex_text follow)

/-- Characters scan where the lexer reads them. -/
theorem scans_iff_lex {region : Region} {cs : List Char} {tokens : List Token} :
    Scans region cs tokens ↔
      ∀ place, ∃ lexemes, lex region 0 place cs = .ok lexemes ∧
        lexemes.map Lexeme.token = tokens := by
  refine ⟨fun h place => h.lex_eq place, fun reads => ?_⟩
  rcases reads 0 with ⟨lexemes, lexed, rfl⟩
  cases region with
  | text => exact scans_of_lex_text lexed
  | island => exact scans_of_lex_island lexed

/-- The tokens of an artifact are those that it scans to. -/
theorem tokenize_eq_iff_scans {artifact : String} {tokens : List Token} :
    (tokenize artifact).map (List.map Lexeme.token) = .ok tokens ↔
      Scans .text artifact.toList tokens := by
  unfold tokenize lexAll
  constructor
  · intro read
    cases lexed : lex .text 0 0 artifact.toList with
    | error stuck =>
        rw [lexed] at read
        cases read
    | ok lexemes =>
        rw [lexed] at read
        cases read
        exact scans_of_lex_text lexed
  · intro scans
    rcases scans.lex_eq 0 with ⟨lexemes, lexed, rfl⟩
    rw [lexed]
    rfl

/-! ## Scans of what is in front -/

theorem scans_enter_iff {more : List Char} {tokens : List Token} :
    Scans .text (islandOpen ++ more) tokens ↔ Scans .island more tokens :=
  ⟨Scans.island_of_text, .enter⟩

theorem scans_blank_iff {c : Char} (blank : isBlank c = true) {more : List Char}
    {tokens : List Token} : Scans .island (c :: more) tokens ↔ Scans .island more tokens := by
  refine ⟨fun h => ?_, .blank blank⟩
  rcases h.lex_eq 0 with ⟨lexemes, lexed, rfl⟩
  rw [lex_blank blank] at lexed
  exact scans_of_lex_island lexed

/-- Behind a token that the lexer takes, what is left scans to the other tokens. -/
theorem scans_token_iff {t : Token} {c : Char} {word more : List Char} {tokens : List Token}
    (solid : isBlank c = false) (inside : islandClose.isPrefixOf (c :: (word ++ more)) = false)
    (found : Token.read (c :: (word ++ more)) = .ok (t, c :: word)) :
    Scans .island (c :: (word ++ more)) tokens ↔
      ∃ behind, tokens = t :: behind ∧ Scans .island more behind := by
  constructor
  · intro h
    rcases h.lex_eq 0 with ⟨lexemes, lexed, rfl⟩
    rw [lex_token solid inside found] at lexed
    rcases eq_of_map_ok lexed with ⟨behind, follow, rfl⟩
    exact ⟨behind.map Lexeme.token, rfl, scans_of_lex_island follow⟩
  · rintro ⟨behind, rfl, follow⟩
    exact .token solid inside found follow

end Artifact
end TemplateEngine
