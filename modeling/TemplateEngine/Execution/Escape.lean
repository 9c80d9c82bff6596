/-!
# HTML escaping

The five characters that have a meaning in HTML text and attributes are written as entities; all
others stay.
-/

namespace TemplateEngine
namespace Execution

def escapeChar (c : Char) : List Char :=
  match c with
  | '&' => ['&', 'a', 'm', 'p', ';']
  | '<' => ['&', 'l', 't', ';']
  | '>' => ['&', 'g', 't', ';']
  | '"' => ['&', 'q', 'u', 'o', 't', ';']
  | '\'' => ['&', '#', '3', '9', ';']
  | _ => [c]

def escapeHtml (s : String) : String :=
  String.ofList (s.toList.flatMap escapeChar)

end Execution
end TemplateEngine
