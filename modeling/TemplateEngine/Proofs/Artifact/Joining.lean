import TemplateEngine.Proofs.Artifact.Scans
import TemplateEngine.Proofs.Artifact.Seams

/-!
# Joined artifacts

Two artifacts side by side are read as one after the other. An island ends its last statement, so only
literal texts meet at the seam, and they become one; a seam that makes an opening marker of its own is
ruled out.
-/

namespace TemplateEngine
namespace Artifact

open Text (occurs)

/-! ## Tokens of joined texts -/

/-- A token in front of others. Literal texts next to each other are one. -/
def Token.meet : Token → List Token → List Token
  | .text s, .text s' :: ts => .text (s ++ s') :: ts
  | t, ts => t :: ts

/-- A separator stays one when literal texts meet. -/
theorem separated_meet {t : Token} (separates : t.Separates) (ts : List Token) :
    Separated (t.meet ts) := by
  unfold Token.meet
  split
  · exact ⟨_, _, rfl, trivial⟩
  · exact ⟨_, _, rfl, separates⟩

/-- In front of anything but literal text a token stays as it is. -/
theorem meet_of_not_text {t : Token} {ts : List Token} (notText : ∀ s, ts.head? ≠ some (.text s)) :
    t.meet ts = t :: ts := by
  unfold Token.meet
  split
  · next s' _ => exact absurd rfl (notText s')
  · rfl

/-- An opening marker across the seam would be of a `<` and a `%`. -/
theorem not_occurs_append {s s' : List Char} (never : occurs islandOpen s = false)
    (never' : occurs islandOpen s' = false)
    (seam : s.getLast? = some '<' → s'.head? ≠ some '%') : occurs islandOpen (s ++ s') = false := by
  induction s with
  | nil => exact never'
  | cons c cs ih =>
      rw [occurs, Bool.or_eq_false_iff] at never
      rw [List.cons_append, occurs, Bool.or_eq_false_iff]
      cases cs with
      | nil =>
          refine ⟨?_, never'⟩
          cases opens : islandOpen.isPrefixOf (c :: ([] ++ s')) with
          | false => rfl
          | true =>
              rcases List.isPrefixOf_iff_prefix.1 opens with ⟨more, split⟩
              simp only [islandOpen, List.cons_append, List.nil_append, List.cons.injEq] at split
              rcases split with ⟨rfl, rfl⟩
              exact absurd rfl (seam rfl)
      | cons d ds =>
          have within : islandOpen.isPrefixOf (c :: (d :: ds ++ s')) = false := by
            simpa [islandOpen, List.isPrefixOf] using never.1
          exact ⟨within, ih never.2 (by simpa using seam)⟩

/-- Within an island no literal text is the first token. -/
theorem Scans.head_ne_text {cs : List Char} {tokens : List Token} (h : Scans .island cs tokens)
    (s : String) : tokens.head? ≠ some (.text s) := by
  generalize inIsland : Region.island = region at h
  induction h with
  | done => cases inIsland
  | last => cases inIsland
  | text => cases inIsland
  | enter => cases inIsland
  | blank blank follow ih => exact ih rfl
  | leave follow ih => simp
  | token solid inside found follow ih =>
      intro head
      simp only [List.head?_cons, Option.some.injEq] at head
      exact read_ne_text (head ▸ found)

/-- What stands in front of a joined text scans as before, up to its last token, which ends a statement
and may meet a literal text. -/
theorem Scans.append {region : Region} {a b : List Char} {tokens behind : List Token}
    (h : Scans region a tokens) (h' : Scans .text b behind)
    (seam : a.getLast? = some '<' → b.head? ≠ some '%') :
    (region = .text ∧ a = [] ∧ tokens = []) ∨
      ∃ us t, tokens = us ++ [t] ∧ t.Separates ∧ Scans region (a ++ b) (us ++ t.meet behind) := by
  have suffix {before more : List Char}
      (seam : (before ++ more).getLast? = some '<' → b.head? ≠ some '%') :
      more.getLast? = some '<' → b.head? ≠ some '%' :=
    fun last => seam (by rw [List.getLast?_append, last]; rfl)
  induction h with
  | done => exact .inl ⟨rfl, rfl, rfl⟩
  | @last s nonempty noIsland =>
      refine .inr ⟨[], _, rfl, trivial, ?_⟩
      -- The literal text goes on into the second artifact, if that begins with one.
      cases h' with
      | done => exact .literal nonempty noIsland (.inl rfl) .done
      | last _ noIsland' =>
          have joined := Scans.last (by simp [nonempty]) (not_occurs_append noIsland noIsland' seam)
          rwa [String.ofList_append] at joined
      | @text s' more tokens nonempty' noIsland' follow =>
          have apart : s.getLast? = some '<' → s'.head? ≠ some '%' := by
            intro last head
            refine seam last ?_
            rw [List.head?_append, head]
            rfl
          have joined := Scans.text (by simp [nonempty]) (not_occurs_append noIsland noIsland' apart)
            follow
          rwa [String.ofList_append, List.append_assoc] at joined
      | enter follow =>
          rw [meet_of_not_text follow.head_ne_text]
          exact .text nonempty noIsland follow
  | @text s more tokens nonempty noIsland follow ih =>
      rw [← List.append_assoc] at seam
      rcases ih (suffix seam) with ⟨inText, -⟩ | ⟨us, t, rfl, separates, joined⟩
      · cases inText
      · refine .inr ⟨.text (String.ofList s) :: us, t, rfl, separates, ?_⟩
        simpa using Scans.text nonempty noIsland joined
  | enter follow ih =>
      rcases ih (suffix seam) with ⟨inText, -⟩ | ⟨us, t, rfl, separates, joined⟩
      · cases inText
      · refine .inr ⟨us, t, rfl, separates, ?_⟩
        simpa using Scans.enter joined
  | @blank c more tokens blank follow ih =>
      rw [← List.singleton_append] at seam
      rcases ih (suffix seam) with ⟨inText, -⟩ | ⟨us, t, rfl, separates, joined⟩
      · cases inText
      · exact .inr ⟨us, t, rfl, separates, .blank blank joined⟩
  | leave follow ih =>
      -- The first artifact may end with its island, whose closing marker is then the last token.
      rcases ih (suffix seam) with ⟨-, rfl, rfl⟩ | ⟨us, t, rfl, separates, joined⟩
      · exact .inr ⟨[], .symbol .semicolon, rfl, rfl, .leave h'⟩
      · refine .inr ⟨.symbol .semicolon :: us, t, rfl, separates, ?_⟩
        simpa using Scans.leave joined
  | @token t c word more tokens solid inside found follow ih =>
      rw [← List.cons_append] at seam
      rcases ih (suffix seam) with ⟨inText, -⟩ | ⟨us, u, rfl, separates, joined⟩
      · cases inText
      · refine .inr ⟨t :: us, u, rfl, separates, ?_⟩
        have left := follow.ne_nil
        have head : (more ++ b).head? = more.head? := by
          rcases List.exists_cons_of_ne_nil left with ⟨d, ds, rfl⟩
          rfl
        rcases token_of_head left head inside found with ⟨inside', found'⟩
        have read := Scans.token solid inside' found' joined
        rwa [← List.append_assoc] at read

/-! ## Programs of joined artifacts -/

/-- An artifact is read as a program where its characters scan to tokens that are read so to the end. -/
theorem parse_eq_ok_iff {artifact : String} {p : Program} :
    parse artifact = .ok p ↔
      ∃ tokens, Scans .text artifact.toList tokens ∧
        statementsAt (unseparated tokens) = some (p, []) := by
  constructor
  · intro read
    -- Reading goes through the two stages, and neither has failed.
    unfold parse tokenize lexAll at read
    cases lexed : lex .text 0 0 artifact.toList with
    | error stuck =>
        rw [lexed] at read
        cases read
    | ok lexemes =>
        rw [lexed] at read
        refine ⟨lexemes.map Lexeme.token, scans_of_lex_text lexed, program_eq_ok_iff.1 ?_⟩
        change (program (lexemes.map Lexeme.token)).mapError _ = .ok p at read
        cases found : program (lexemes.map Lexeme.token) with
        | error reach =>
            rw [found] at read
            cases read
        | ok q =>
            rw [found] at read
            cases read
            rfl
  · rintro ⟨tokens, scans, read⟩
    rcases scans.lex_eq 0 with ⟨lexemes, lexed, rfl⟩
    have tokenized : tokenize artifact = .ok lexemes := by
      unfold tokenize lexAll
      rw [lexed]
      rfl
    exact parse_of_program tokenized (program_eq_ok_iff.2 read)

/-- Where the tokens are known, the parser is what the grammar makes of them. -/
theorem Scans.parse_eq_ok_iff {artifact : String} {tokens : List Token} {p : Program}
    (scans : Scans .text artifact.toList tokens) :
    parse artifact = .ok p ↔ statementsAt (unseparated tokens) = some (p, []) := by
  rw [Artifact.parse_eq_ok_iff]
  constructor
  · rintro ⟨tokens', scans', read⟩
    rwa [scans.unique scans']
  · intro read
    exact ⟨tokens, scans, read⟩

/-- A program is two programs in a row, where the last literal text of the one and the first of the other
may be one text. -/
inductive Joins : Program → Program → Program → Prop
  | apart (p q : Program) : Joins p q (p ++ q)
  | merged (before : Program) (s s' : String) (after : Program) :
      Joins (before ++ [.text s]) (.text s' :: after) (before ++ .text (s ++ s') :: after)

/-- Literal text is a statement of its own. -/
theorem statementsAt_text (s : String) (ts : List Token) :
    statementsAt (.text s :: ts) =
      (statementsAt (unseparated ts)).map fun (body, rest) => (.text s :: body, rest) := by
  rw [statementsAt_eq, statementAt_cons]
  rfl

/-- The statements from a token on are its own and those behind it, or the two texts are one. -/
theorem statementsAt_meet {t : Token} {ts : List Token} {q : Program} (separates : t.Separates)
    (read : statementsAt (unseparated ts) = some (q, [])) :
    ∃ there, statementsAt (unseparated (t.meet ts)) = some (there, []) ∧
      ∀ before, Joins (before ++ t.own) q (before ++ there) := by
  cases t with
  | symbol s =>
      cases separates
      refine ⟨q, read, fun before => ?_⟩
      have joins := Joins.apart (before ++ []) q
      rwa [List.append_assoc, List.nil_append] at joins
  | text s =>
      have own : unseparated (.text s :: ts) = .text s :: ts := rfl
      by_cases isText : ∃ s' more, ts = .text s' :: more
      · rcases isText with ⟨s', more, rfl⟩
        have read' := (statementsAt_text s' more).symm.trans read
        rcases Option.map_eq_some_iff.1 read' with ⟨⟨after, rest⟩, follow, same⟩
        cases same
        refine ⟨.text (s ++ s') :: after, ?_, fun before => .merged before s s' after⟩
        exact (statementsAt_text (s ++ s') more).trans (by rw [follow]; rfl)
      · have notText (s' : String) : ts.head? ≠ some (.text s') := by
          intro head
          rcases List.head?_eq_some_iff.1 head with ⟨more, rfl⟩
          exact isText ⟨s', more, rfl⟩
        rw [meet_of_not_text notText, own, statementsAt_text, read]
        refine ⟨_, rfl, fun before => ?_⟩
        have joins := Joins.apart (before ++ [.text s]) q
        rwa [List.append_assoc] at joins
  | _ => cases separates

/-- Joined artifacts that can be read are read as the one program and then the other. -/
theorem parse_append {a b : String} {p q : Program} (readsA : parse a = .ok p)
    (readsB : parse b = .ok q) (seam : a.toList.getLast? = some '<' → b.toList.head? ≠ some '%') :
    ∃ r, parse (a ++ b) = .ok r ∧ Joins p q r := by
  rcases parse_eq_ok_iff.1 readsA with ⟨tokens, scans, here⟩
  rcases parse_eq_ok_iff.1 readsB with ⟨behind, scans', there⟩
  rcases scans.append scans' seam with ⟨-, empty, rfl⟩ | ⟨us, t, rfl, separates, joined⟩
  · have nothing : statementsAt (unseparated []) = some ([], []) :=
      statementsAt_of_stops statementAt_nil
    cases nothing.symm.trans here
    have same : (a ++ b).toList = b.toList := by rw [String.toList_append, empty, List.nil_append]
    refine ⟨q, parse_eq_ok_iff.2 ⟨behind, ?_, there⟩, .apart [] q⟩
    rwa [same]
  · rcases statementsAt_meet separates there with ⟨met, behind, joins⟩
    rcases statementsAt_append separates (separated_meet separates _) behind us here with
      ⟨before, rfl, read⟩
    rw [← String.toList_append] at joined
    exact ⟨before ++ met, parse_eq_ok_iff.2 ⟨_, joined, read⟩, joins before⟩

end Artifact
end TemplateEngine
