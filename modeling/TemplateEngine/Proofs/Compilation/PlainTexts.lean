import TemplateEngine.Proofs.Compilation.Reading
import TemplateEngine.Proofs.Text.Scan

/-!
# Texts without includes and blocks

A template in which no include directive is read is its own expansion, and one in which no block is
declared or referred to goes through the passes over blocks as it is.
-/

namespace TemplateEngine
namespace Compilation

open Text (Skips)

variable {files : Files} {text : String}

/-- A template without includes is expanded to itself. -/
theorem expand_plain (noInclusion : Skips Directive.inclusion text.toList []) (limit : Nat)
    {path : String} (readable : files.read path = .ok text) :
    expand files limit path = (.ok text.toList, [files.identity path]) := by
  have pieces : Directive.includes text = text.toList.map .plain := Text.pieces_of_skips noInclusion
  have within : Within (some limit) [] := by
    intro d _
    exact Nat.zero_le d
  apply expands_iff_expand.1
  apply Expands.template List.not_mem_nil within readable
  rw [pieces]
  exact expands_plain text.toList

/-- A text without blocks is resolved to itself. -/
theorem resolve_plain (noDeclaration : Skips Directive.setBlock text.toList [])
    (noReference : Skips Directive.anyReference text.toList []) : resolve text = (text, {}, []) := by
  have extracted : Directive.extractBlocks text {} = (text, {}) := by
    rw [Directive.extractBlocks, Directive.declarations, Text.replaceSpans_of_skips noDeclaration,
      Text.captures_of_skips noDeclaration, String.ofList_toList]
    rfl
  have resolved : Directive.resolveBlocks text {} = (text, []) := by
    have left := Text.pieces_of_skips noReference
    unfold Directive.resolveBlocks
    simp only [List.foldl_nil, left, Text.replace_map_plain, String.ofList_toList]
    simp [Text.Piece.captures, List.filterMap_map]
  simp only [resolve, extracted, resolved]

end Compilation
end TemplateEngine
