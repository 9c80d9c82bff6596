import Mathlib.Data.List.Basic
import TemplateEngine.Proofs.Compilation.Reading
import TemplateEngine.Proofs.Directive.Openings
import TemplateEngine.Proofs.Files.Filing

/-!
# Strict compilation

Strict compilation is lenient compilation with a filter: what it accepts it compiles alike, and what it
refuses it refuses for an unknown block or for a directive that is not closed. Whether a directive is
not closed is a matter of the literal texts that the lexer finds in the artifact.
-/

namespace TemplateEngine
namespace Compilation

open Artifact (tokenize)
open Directive (FirstOpening interpolationOpen unterminatedLine?)

/-- The ways in which strict compilation refuses an artifact. -/
theorem refusal?_cases (source : String) (unknown : List String) (code : String) :
    refusal? source unknown code = none ∨
      (∃ name, refusal? source unknown code = some (.unknownBlock source name)) ∨
      ∃ line, refusal? source unknown code = some (.unterminatedDirective source line) := by
  cases unknown with
  | cons name names => exact .inr (.inl ⟨name, rfl⟩)
  | nil =>
      cases found : unterminatedLine? code with
      | none => exact .inl (by simp [refusal?, found])
      | some line => exact .inr (.inr ⟨line, by simp [refusal?, found]⟩)

/-- Lenient compilation refuses nothing. -/
theorem refused?_of_lenient {options : Options} (lenient : options.strict = false) (source : String)
    (text : List Char) : refused? options source text = none := by
  unfold refused?
  simp only [lenient, Bool.false_eq_true, if_false]

/-- Strict compilation refuses for one of two reasons. -/
theorem refused?_cases (options : Options) (source : String) (text : List Char) :
    refused? options source text = none ∨
      (∃ name, refused? options source text = some (.unknownBlock source name)) ∨
      ∃ line, refused? options source text = some (.unterminatedDirective source line) := by
  unfold refused?
  split
  · exact refusal?_cases ..
  · exact .inl rfl

section

variable (files : Files) (source : String) (limit : Nat)

def compileStrictly : Except CompileError Compiled :=
  compile files { strict := true, maxIncludeDepth := limit } source

def compileLeniently : Except CompileError Compiled :=
  compile files { strict := false, maxIncludeDepth := limit } source

/-- Compilation fails either way for the same reason, or lenient compilation succeeds, and strict
compilation does so alike or refuses the artifact. -/
theorem compile_strict_cases :
    (∃ e, compileStrictly files source limit = .error e ∧
      compileLeniently files source limit = .error e) ∨
    ∃ compiled, compileLeniently files source limit = .ok compiled ∧
      (compileStrictly files source limit = .ok compiled ∨
        (∃ name, compileStrictly files source limit = .error (.unknownBlock source name)) ∨
        ∃ line, compileStrictly files source limit =
          .error (.unterminatedDirective source line)) := by
  rcases ran : expand files limit source with ⟨outcome, visited⟩
  cases outcome with
  | error e => exact .inl ⟨e, compile_of_expand_error ran, compile_of_expand_error ran⟩
  | ok text =>
      refine .inr ⟨_, compile_of_accepted ran (refused?_of_lenient rfl source text), ?_⟩
      rcases refused?_cases { strict := true, maxIncludeDepth := limit } source text with
        accepted | ⟨name, refused⟩ | ⟨line, refused⟩
      · exact .inl (compile_of_accepted ran accepted)
      · exact .inr (.inl ⟨name, compile_of_refused ran refused⟩)
      · exact .inr (.inr ⟨line, compile_of_refused ran refused⟩)

/-- Strict compilation refuses what a template is expanded to for the first name that is reported, or
where none is for the first directive that is not closed, and for nothing else. -/
theorem compileStrictly_of_expand {text : List Char} {visited : List String}
    (ran : expand files limit source = (.ok text, visited)) :
    (∀ name, compileStrictly files source limit = .error (.unknownBlock source name) ↔
      (resolve (String.ofList text)).2.2.head? = some name) ∧
    (∀ line, compileStrictly files source limit = .error (.unterminatedDirective source line) ↔
      (resolve (String.ofList text)).2.2 = [] ∧
        unterminatedLine? (toIslands (resolve (String.ofList text)).1) = some line) ∧
    ((∃ compiled, compileStrictly files source limit = .ok compiled) ↔
      (resolve (String.ofList text)).2.2 = [] ∧
        unterminatedLine? (toIslands (resolve (String.ofList text)).1) = none) := by
  have reason : refused? { strict := true, maxIncludeDepth := limit } source text =
      refusal? source (resolve (String.ofList text)).2.2
        (toIslands (resolve (String.ofList text)).1) := rfl
  -- An unknown name comes first, and the search for an opening is not made.
  cases unknown : (resolve (String.ofList text)).2.2 with
  | cons name names =>
      rw [unknown] at reason
      have refused : compileStrictly files source limit = .error (.unknownBlock source name) :=
        compile_of_refused ran reason
      simp [refused]
  | nil =>
      cases found : unterminatedLine? (toIslands (resolve (String.ofList text)).1) with
      | some line =>
          rw [unknown, refusal?, found] at reason
          have refused : compileStrictly files source limit =
              .error (.unterminatedDirective source line) := compile_of_refused ran reason
          simp [refused]
      | none =>
          rw [unknown, refusal?, found] at reason
          have accepted := compile_of_accepted ran reason
          simp [compileStrictly, accepted]

/-- Strict compilation is a filter on lenient compilation: what it accepts is compiled alike, and beside
its two refusals it fails exactly where lenient compilation does and for the same reason. It finds a
directive that is not closed, in an artifact that splits into tokens, exactly if a literal text has an
opening, and names the line of the first. -/
theorem strict_filters_lenient :
    (∀ compiled, compileStrictly files source limit = .ok compiled →
      compileLeniently files source limit = .ok compiled) ∧
    (∀ compiled, compileLeniently files source limit = .ok compiled →
      compileStrictly files source limit = .ok compiled ∨
        (∃ name, compileStrictly files source limit = .error (.unknownBlock source name)) ∨
        ∃ line, compileStrictly files source limit = .error (.unterminatedDirective source line)) ∧
    (∀ e, (∀ path name, e ≠ .unknownBlock path name) →
      (∀ path line, e ≠ .unterminatedDirective path line) →
      (compileStrictly files source limit = .error e ↔
        compileLeniently files source limit = .error e)) ∧
    ∀ text lexemes, tokenize text = .ok lexemes →
      ((∃ line, unterminatedLine? text = some line) ↔
        ∃ lexeme ∈ lexemes, ∃ s, lexeme.token = .text s ∧
          Text.occurs interpolationOpen s.toList = true) ∧
      ∀ line, unterminatedLine? text = some line →
        ∃ place, FirstOpening lexemes place ∧
          line = Text.lineAfter (text.toList.take place) := by
  -- Both compilations expand alike, and beyond that the strict one can only refuse.
  have cases := compile_strict_cases files source limit
  refine ⟨?_, ?_, ?_, ?_⟩
  · intro compiled succeeded
    rcases cases with ⟨e, failed, -⟩ | ⟨compiled', lenient_eq, same | ⟨name, refused⟩ | ⟨line, refused⟩⟩
    · cases succeeded.symm.trans failed
    · cases succeeded.symm.trans same
      exact lenient_eq
    · cases succeeded.symm.trans refused
    · cases succeeded.symm.trans refused
  · intro compiled succeeded
    rcases cases with ⟨e, -, failed⟩ | ⟨compiled', lenient_eq, strict_eq⟩
    · cases succeeded.symm.trans failed
    · cases succeeded.symm.trans lenient_eq
      exact strict_eq
  · intro e notUnknown notUnterminated
    rcases cases with ⟨e', failed, failed'⟩ |
      ⟨compiled', lenient_eq, same | ⟨name, refused⟩ | ⟨line, refused⟩⟩
    · exact ⟨fun h => failed'.trans (failed.symm.trans h), fun h => failed.trans (failed'.symm.trans h)⟩
    · exact ⟨fun h => absurd (same.symm.trans h) (by simp),
        fun h => absurd (lenient_eq.symm.trans h) (by simp)⟩
    · refine ⟨fun h => ?_, fun h => absurd (lenient_eq.symm.trans h) (by simp)⟩
      cases refused.symm.trans h
      exact absurd rfl (notUnknown source name)
    · refine ⟨fun h => ?_, fun h => absurd (lenient_eq.symm.trans h) (by simp)⟩
      cases refused.symm.trans h
      exact absurd rfl (notUnterminated source line)
  · intro text lexemes tokenized
    rw [← Directive.exists_opensAt_iff]
    rcases Directive.unterminatedLine?_cases tokenized with ⟨none, never⟩ | ⟨place, first, found⟩
    · rw [none]
      exact ⟨⟨by simp, fun ⟨place, opens⟩ => absurd opens (never place)⟩, by simp⟩
    · rw [found]
      refine ⟨⟨fun _ => ⟨place, first.opens⟩, fun _ => ⟨_, rfl⟩⟩, ?_⟩
      rintro line ⟨⟩
      exact ⟨place, first, rfl⟩

end

/-- A template with one brace pair left open. -/
def openTemplate : Files where
  nodes := [(["t"], .file (.text "a\n\x7b\x7b b") 0 0o644)]

/-- Strict compilation may refuse it; in an artifact with another one in a quoted text the line found is
that of the one in a literal text. -/
theorem strict_filters_lenient_openTemplate :
    compileLeniently openTemplate "/t" 0 = .ok ⟨"/t", "a\n\x7b\x7b b", {}, ["/t"]⟩ ∧
      (compileStrictly openTemplate "/t" 0 = .ok ⟨"/t", "a\n\x7b\x7b b", {}, ["/t"]⟩ ∨
        (∃ name, compileStrictly openTemplate "/t" 0 = .error (.unknownBlock "/t" name)) ∨
        ∃ line, compileStrictly openTemplate "/t" 0 = .error (.unterminatedDirective "/t" line)) ∧
      ∃ lexemes, tokenize "<% echo '\x7b\x7b %>' %>\n\x7b \x7b\x7b b" = .ok lexemes ∧
        unterminatedLine? "<% echo '\x7b\x7b %>' %>\n\x7b \x7b\x7b b" = some 2 ∧
        ∃ place, FirstOpening lexemes place ∧
          2 = Text.lineAfter ("<% echo '\x7b\x7b %>' %>\n\x7b \x7b\x7b b".toList.take place) := by
  have read : openTemplate.read "/t" = .ok "a\n\x7b\x7b b" :=
    Files.read_atRoot (by decide : Path.IsSingle "t") (by decide) rfl
  have identity : openTemplate.identity "/t" = "/t" :=
    Files.identity_atRoot (by decide : Path.IsSingle "t") (by decide) rfl
  have pieces : Directive.includes "a\n\x7b\x7b b" = "a\n\x7b\x7b b".toList.map .plain := by
    decide +kernel
  have expands : Expands openTemplate (some 0) [] (.template "/t") []
      (.ok "a\n\x7b\x7b b".toList) ["/t"] := by
    refine .template (by simp) (by simp [Within]) read ?_
    rw [identity, pieces]
    exact expands_plain _
  have ran := expands_iff_expand.1 expands
  have resolved : resolve "a\n\x7b\x7b b" = ("a\n\x7b\x7b b", {}, []) := by decide +kernel
  have islands : toIslands "a\n\x7b\x7b b" = "a\n\x7b\x7b b" := by decide +kernel
  have lenient : compileLeniently openTemplate "/t" 0 =
      .ok ⟨"/t", "a\n\x7b\x7b b", {}, ["/t"]⟩ := by
    rw [compileLeniently, compile_of_accepted ran (refused?_of_lenient rfl _ _),
      String.ofList_toList, resolved, islands]
  let lexemes : List Artifact.Lexeme := [⟨.keyword .echoWord, 3, 7⟩, ⟨.quoted "\x7b\x7b %>", 8, 15⟩,
    ⟨.symbol .semicolon, 16, 18⟩, ⟨.text "\n\x7b \x7b\x7b b", 18, 25⟩]
  have tokenized : tokenize "<% echo '\x7b\x7b %>' %>\n\x7b \x7b\x7b b" = .ok lexemes := by
    decide +kernel
  have found : unterminatedLine? "<% echo '\x7b\x7b %>' %>\n\x7b \x7b\x7b b" = some 2 := by
    decide +kernel
  rcases strict_filters_lenient openTemplate "/t" 0 with ⟨-, accepted, -, lines⟩
  exact ⟨lenient, accepted _ lenient, lexemes, tokenized, found,
    (lines _ lexemes tokenized).2 2 found⟩

end Compilation
end TemplateEngine
