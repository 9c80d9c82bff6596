import TemplateEngine.Proofs.Artifact.EchoedTokens
import TemplateEngine.Proofs.Artifact.Joining
import TemplateEngine.Proofs.Artifact.Lexing
import TemplateEngine.Proofs.Artifact.Segments

/-!
# Echoed text

An artifact with an island in place of every literal text, which echoes the text. The island holds the
text between single quotes, and a quoted text is read back character by character, whatever it holds. So
the two artifacts can be read or not together.
-/

namespace TemplateEngine
namespace Artifact

open Text (isBlank)

/-- The island `<% echo '…' %>` of a text, in which a backslash and a single quote are escaped. -/
def echoing (s : String) : List Char :=
  islandOpen ++ ' ' :: ((Token.keyword .echoWord).spelling ++
    ' ' :: ((Token.quoted s).spelling ++ ' ' :: islandClose))

def Segment.echoed : Segment → List Char
  | .text cs => echoing (String.ofList cs)
  | .island cs => cs

/-- An artifact with all of its literal texts echoed. -/
def withTextsEchoed (artifact : String) (lexemes : List Lexeme) : String :=
  String.ofList ((segments artifact lexemes).flatMap Segment.echoed)

/-- A token in its spelling is scanned first, if the lexer reads it there. -/
theorem scans_spelling {t : Token} {c : Char} {word rest : List Char} {tokens : List Token}
    (spelled : t.spelling = c :: word) (solid : isBlank c = false) (notPercent : '%' ≠ c)
    (read : Token.read (t.spelling ++ rest) = .ok (t, t.spelling)) (follow : Scans .island rest tokens) :
    Scans .island (t.spelling ++ rest) (t :: tokens) := by
  rw [spelled, List.cons_append] at read ⊢
  exact .token solid (not_islandClose notPercent _) read follow

/-- The island that echoes a text is read as such, whatever stands behind it. -/
theorem scans_echoing (s : String) {rest : List Char} {tokens : List Token}
    (follow : Scans .text rest tokens) :
    Scans .text (echoing s ++ rest)
      (.keyword .echoWord :: .quoted s :: .symbol .semicolon :: tokens) := by
  have blank : isBlank ' ' = true := by decide
  have closed : Scans .island (' ' :: (islandClose ++ rest)) (.symbol .semicolon :: tokens) :=
    .blank blank (.leave follow)
  have quoted := scans_spelling rfl (by decide) (by decide) (read_quoted s _) closed
  have separated : Breaks (' ' :: ((Token.quoted s).spelling ++ ' ' :: (islandClose ++ rest))) := by
    rintro c ⟨⟩
    decide
  have read := read_word (isName_keyword .echoWord) separated
  rw [ofWord_keyword] at read
  have word := scans_spelling (t := .keyword .echoWord) rfl (by decide) (by decide) read
    (.blank blank quoted)
  have island := Scans.enter (.blank blank word)
  simpa only [echoing, List.append_assoc, List.cons_append] using island

/-- Every literal text is echoed where its segment was, and the islands are read as before. -/
theorem Divides.starts {place : Nat} {segments : List Segment} {lexemes : List Lexeme}
    (h : Divides place segments lexemes) :
    ∃ tokens, Scans .text (segments.flatMap Segment.echoed) tokens ∧
      Starts (lexemes.map Lexeme.token) tokens := by
  induction h with
  | done => exact ⟨[], .done, .done⟩
  | @text place s segments lexemes nonempty noIsland bound _ ih =>
      rcases ih with ⟨tokens, scans, starts⟩
      exact ⟨_, scans_echoing (String.ofList s) scans, .text _ starts⟩
  | @island place cs lexemes segments later inside _ ih =>
      rcases ih with ⟨tokens, scans, starts⟩
      rcases inside.tokens_eq with ⟨us, same⟩
      refine ⟨us ++ .symbol .semicolon :: tokens, ?_, ?_⟩
      · have island := Scans.enter (inside.scans scans)
        rw [same, List.append_assoc] at island
        rwa [List.flatMap_cons, Segment.echoed, List.append_assoc]
      · rw [List.map_append, same, List.append_assoc]
        exact .upTo us starts

/-- An artifact and the same with its literal texts echoed can both be read, as programs of which the
second echoes the first, or neither can be read. -/
theorem parse_withTextsEchoed {artifact : String} {lexemes : List Lexeme}
    (tokenized : tokenize artifact = .ok lexemes) :
    (∃ p q, parse artifact = .ok p ∧ parse (withTextsEchoed artifact lexemes) = .ok q ∧ Echoes p q) ∨
    ((∀ p, parse artifact ≠ .ok p) ∧ ∀ q, parse (withTextsEchoed artifact lexemes) ≠ .ok q) := by
  rcases divides_segments tokenized with ⟨divides, chars⟩
  rcases divides.starts with ⟨tokens, scans', starts⟩
  have scans := divides.scans
  rw [chars] at scans
  have echoed : Scans .text (withTextsEchoed artifact lexemes).toList tokens := by
    rw [withTextsEchoed, String.toList_ofList]
    exact scans'
  simpa only [ne_eq, scans.parse_eq_ok_iff, echoed.parse_eq_ok_iff] using programs_of_starts starts

end Artifact
end TemplateEngine
