import TemplateEngine.Proofs.Compilation.PlainTexts
import TemplateEngine.Proofs.Compilation.Strictness
import TemplateEngine.Proofs.Directive.UnclosedText

/-!
# Lines that strict compilation reports

Strict compilation counts the lines of the artifact. The white space around the body of a directive does
not come into the artifact, so a line break there is not counted: the line reported for a directive that
is not closed is its line in the template exactly if no body before it has a line break around it.
-/

namespace TemplateEngine
namespace Compilation

open Directive (Enclosed Interpolated Spacing UnclosedTemplate lineBreaks)

/-- A template with a directive that is not closed is refused, on the line where the artifact has it. -/
theorem compileStrictly_unclosed {files : Files} {path : String} {template : UnclosedTemplate}
    (readable : files.read path = .ok template.text) (limit : Nat) :
    compileStrictly files path limit = .error (.unterminatedDirective path
      (1 + lineBreaks (template.before.flatMap Directive.CodePart.island))) := by
  have ran := expand_plain (template.skips Directive.readsWorded_inclusion) limit readable
  have resolved := resolve_plain (template.skips Directive.readsWorded_setBlock)
    (template.skips Directive.readsWorded_anyReference)
  have islands : toIslands template.text = _ := template.toIslands
  have found := template.openingLine?_islands 1
  apply compile_of_refused ran
  simp only [refused?, String.ofList_toList, resolved, islands, refusal?, if_true,
    Directive.unterminatedLine?, String.toList_ofList, found, Option.map_some]

/-- Strict compilation refuses a template with a directive that is not closed, whatever the directives
before it look like. The line it reports comes short of the line of that directive by the line breaks in
the white space around the bodies before it, so it is the right one exactly if there are none. -/
theorem strict_reports_line (files : Files) (path : String) (limit : Nat) (template : UnclosedTemplate)
    (readable : files.read path = .ok template.text) :
    ∃ line, compileStrictly files path limit = .error (.unterminatedDirective path line) ∧
      line + template.spacingBreaks = template.line ∧
      (line = template.line ↔ template.spacingBreaks = 0) := by
  have counted := template.line_islands
  refine ⟨_, compileStrictly_unclosed readable limit, counted, ?_⟩
  omega

def lineBreak : Spacing := ⟨['\n'], List.forall_mem_singleton.2 rfl⟩

/-- Code with a line break in it and one on either side. -/
def greetings : Enclosed where
  opening := lineBreak
  content :=
    { chars := "echo 'Hi \x7d';\necho \"it's\"".toList
      nonempty := by decide
      solidFirst := by rintro c ⟨⟩; rfl
      solidLast := by rintro c ⟨⟩; rfl
      noOpening := by decide
      noClosing := by decide }
  closing := lineBreak
  apart := by decide

/-- The code, and on the line below it an opening. -/
def greetingsPage : UnclosedTemplate where
  first := ⟨⟨"Page\n".toList, by decide, by decide⟩, by decide⟩
  parts := [(.code greetings (by decide +kernel) (Directive.balanced_of_foldl (by decide) (by decide)),
    ⟨⟨['\n'], by decide, by decide⟩, by decide⟩)]
  tail := " x".toList
  neverClosed := by decide

def greetingsFiles : Files where
  nodes := [(["page"], .file (.text greetingsPage.text) 0 0o644)]

/-- The opening is on the sixth line, and the fourth one is reported. -/
theorem strict_reports_line_greetings :
    greetingsFiles.read "/page" =
        .ok "Page\n\x7b\x7b@\necho 'Hi \x7d';\necho \"it's\"\n\x7d\x7d\n\x7b\x7b x" ∧
      greetingsPage.line = 6 ∧
      compileStrictly greetingsFiles "/page" 0 = .error (.unterminatedDirective "/page" 4) := by
  have text : greetingsPage.text =
      "Page\n\x7b\x7b@\necho 'Hi \x7d';\necho \"it's\"\n\x7d\x7d\n\x7b\x7b x" := by
    decide +kernel
  have readable : greetingsFiles.read "/page" = .ok greetingsPage.text :=
    Files.read_atRoot (by decide : Path.IsSingle "page") (by decide) rfl
  have line : greetingsPage.line = 6 := by decide +kernel
  have breaks : greetingsPage.spacingBreaks = 2 := by decide +kernel
  rcases strict_reports_line greetingsFiles "/page" 0 greetingsPage readable with
    ⟨reported, refused, counted, -⟩
  rw [breaks, line] at counted
  cases Nat.add_right_cancel counted
  exact ⟨text ▸ readable, line, refused⟩

/-- An interpolation with a line break before its name. -/
def spreadName : Interpolated where
  opening := lineBreak
  content :=
    { chars := ['x']
      nonempty := by decide
      solidFirst := by rintro c ⟨⟩; rfl
      solidLast := by rintro c ⟨⟩; rfl
      noOpening := by decide
      noClosing := by decide }
  closing := .one
  apart := by decide
  bare := by decide

/-- The interpolation, and on the line below it an opening. -/
def spreadPage : UnclosedTemplate where
  first := ⟨⟨"A: ".toList, by decide, by decide⟩, by decide⟩
  parts := [(.interpolation spreadName (by decide), ⟨⟨['\n'], by decide, by decide⟩, by decide⟩)]
  tail := " y".toList
  neverClosed := by decide

def spreadFiles : Files where
  nodes := [(["page"], .file (.text spreadPage.text) 0 0o644)]

/-- The opening is on the third line, and the second one is reported. -/
theorem strict_reports_line_above :
    spreadFiles.read "/page" = .ok "A: \x7b\x7b\nx \x7d\x7d\n\x7b\x7b y" ∧ spreadPage.line = 3 ∧
      compileStrictly spreadFiles "/page" 0 = .error (.unterminatedDirective "/page" 2) := by
  have text : spreadPage.text = "A: \x7b\x7b\nx \x7d\x7d\n\x7b\x7b y" := by decide +kernel
  have readable : spreadFiles.read "/page" = .ok spreadPage.text :=
    Files.read_atRoot (by decide : Path.IsSingle "page") (by decide) rfl
  have line : spreadPage.line = 3 := by decide +kernel
  have breaks : spreadPage.spacingBreaks = 1 := by decide +kernel
  have counted := spreadPage.line_islands
  have refused := compileStrictly_unclosed readable 0
  rw [breaks, line] at counted
  rw [Nat.add_right_cancel counted] at refused
  exact ⟨text ▸ readable, line, refused⟩

end Compilation
end TemplateEngine
