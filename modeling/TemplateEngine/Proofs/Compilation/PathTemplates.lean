import TemplateEngine.Proofs.Compilation.PlainTexts
import TemplateEngine.Proofs.Directive.PathArtifact
import TemplateEngine.Proofs.Execution.PathValues
import TemplateEngine.Proofs.Files.Filing

/-!
# Templates of data paths, end to end

A template in which no directive opens is its own expansion, and the passes over blocks and code leave
it alone. So compiling a template of paths gives the artifact of its program, and running that shows
the prose with the texts of the values between.
-/

namespace TemplateEngine
namespace Compilation

open Directive (PathStep DataPath Spacing Prose PathInterpolation PathTemplate directiveOpen)
open Text (after? Skips)

variable {files : Files} {text : String}

/-! ## Texts without directives -/

/-- A text without directives has no code to become an island. -/
theorem codeToIslands_plain (noDirective : Skips (after? directiveOpen) text.toList []) :
    Directive.codeToIslands text = text := by
  have skipped := noDirective.mono Directive.code_onlyAtDirectives
  rw [Directive.codeToIslands, Text.replaceSpans_of_skips skipped, String.ofList_toList]

/-- Where no directive opens, compiling is making islands of the interpolations. -/
theorem compile_plain (noDirective : Skips (after? directiveOpen) text.toList [])
    (closed : Directive.unterminatedLine? (Directive.interpolationsToIslands text) = none)
    (options : Options) {path : String} (readable : files.read path = .ok text) :
    compile files options path =
      .ok ⟨path, Directive.interpolationsToIslands text, {}, [files.identity path]⟩ := by
  have ran := expand_plain (noDirective.mono Directive.inclusion_onlyAtDirectives)
    options.maxIncludeDepth readable
  have resolved := resolve_plain (noDirective.mono Directive.setBlock_onlyAtDirectives)
    (noDirective.mono Directive.anyReference_onlyAtDirectives)
  have islands : toIslands text = Directive.interpolationsToIslands text := by
    rw [toIslands, codeToIslands_plain noDirective]
  have accepted : refused? options path text.toList = none := by
    simp [refused?, resolved, islands, refusal?, closed]
  rw [compile_of_accepted ran accepted, String.ofList_toList, resolved, islands]

/-! ## Templates of paths -/

/-- A template of paths compiles under any options, and with any data its artifact runs and shows the
prose with the texts of the values at the paths between. -/
theorem compile_execute_pathTemplate (files : Files) (options : Options) (path : String)
    (template : PathTemplate) (readable : files.read path = .ok template.text) :
    ∃ compiled, compile files options path = .ok compiled ∧
      ∀ context, Execution.execute compiled.code context = .ok (template.output context) := by
  have noDirective := Directive.template_opens_none template
  have closed := Directive.unterminatedLine?_template template
  refine ⟨_, compile_plain noDirective closed options readable, fun context => ?_⟩
  have parsed := Directive.parse_interpolationsToIslands template
  have ran := Execution.runProgram_template template context
  unfold Execution.execute Execution.Machine.run
  simp only [parsed]
  rw [ran]
  rfl

/-- A greeting, and an item whose path has keywords in it. -/
def greeting : PathTemplate where
  first := ⟨⟨"Hi ".toList, by decide, by decide⟩, by decide⟩
  parts :=
    [(⟨.one, ⟨"user", by decide, by decide, [.name "name" (by decide)]⟩, .one⟩,
        ⟨⟨": ".toList, by decide, by decide⟩, by decide⟩),
      (⟨.one, ⟨"in", by decide, by decide, [.name "if" (by decide), .position 1 (by decide)]⟩, .one⟩,
        ⟨⟨[], by decide, by decide⟩, by decide⟩)]

def greetingData : Execution.Context where
  vars :=
    [("in", .object [("if", .list [.null, .text "y"])]), ("user", .object [("name", .text "Ada")])]

def greetingFiles : Files where
  nodes := [(["page"], .file (.text greeting.text) 0 0o644)]

/-- A name and an item are shown, and their keywords do no harm. -/
theorem compile_execute_greeting :
    greetingFiles.read "/page" =
        .ok "Hi \x7b\x7b user.name \x7d\x7d: \x7b\x7b in.if.1 \x7d\x7d" ∧
      ∃ compiled, compile greetingFiles ⟨true, 0⟩ "/page" = .ok compiled ∧
        Execution.execute compiled.code greetingData = .ok "Hi Ada: y" := by
  have text : greeting.text = "Hi \x7b\x7b user.name \x7d\x7d: \x7b\x7b in.if.1 \x7d\x7d" := by
    decide +kernel
  have readable : greetingFiles.read "/page" = .ok greeting.text :=
    Files.read_atRoot (by decide : Path.IsSingle "page") (by decide) rfl
  have output : greeting.output greetingData = "Hi Ada: y" := by decide +kernel
  rcases compile_execute_pathTemplate greetingFiles ⟨true, 0⟩ "/page" greeting readable with
    ⟨compiled, compiles, runs⟩
  refine ⟨text ▸ readable, compiled, compiles, ?_⟩
  rw [runs greetingData, output]

end Compilation
end TemplateEngine
