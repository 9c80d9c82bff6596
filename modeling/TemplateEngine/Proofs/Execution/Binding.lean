import TemplateEngine.Proofs.Artifact.ReadNames
import TemplateEngine.Proofs.Execution.Isolation

/-!
# Bound names

A context binds its entries under identifiers and no others. Identifiers are what the lexer reads behind a
sigil, and what programs mention; so nothing that is left out could have been looked up, and to bind it too
would make no difference.
-/

namespace TemplateEngine
namespace Execution

open Artifact (Lexeme Program parse programMentioned tokenize variableIsland)

/-- The context with those entries only that a template can mention. -/
def Context.mentionable (context : Context) : Context :=
  ⟨context.vars.filter fun var => Text.isName var.1.toList⟩

/-- A machine with all entries of a context in its global scope, under any names. -/
def Machine.holding (context : Context) : Machine :=
  { scopes := { globals := context.vars } }

/-! ## Entries that are left out -/

/-- Entries under other names are passed over. -/
theorem bindGlobals_filter (vars : List (String × Value)) (globals : Keyed Value) :
    Scopes.bindGlobals globals (vars.filter fun var => Text.isName var.1.toList) =
      Scopes.bindGlobals globals vars := by
  induction vars generalizing globals with
  | nil => rfl
  | cons var vars ih =>
      rcases var with ⟨name, value⟩
      rw [List.filter_cons, bindGlobals_cons]
      cases isName : Text.isName name.toList with
      | true =>
          rw [if_pos rfl, bindGlobals_cons, isName]
          exact ih _
      | false => exact ih globals

/-- A machine is made of the mentionable names of a context alone. -/
theorem ofContext_mentionable (context : Context) :
    Machine.ofContext context.mentionable = Machine.ofContext context := by
  unfold Machine.ofContext Scopes.bind
  rw [Context.mentionable, bindGlobals_filter]

/-- Identifiers have the values of the context, whether or not other names are bound besides. -/
theorem alike_holding (context : Context) :
    Machine.Alike Artifact.Identifier (Machine.holding context) (Machine.ofContext context) := by
  refine ⟨⟨.nil, fun name identifier => ?_⟩, rfl⟩
  have found := get?_bindGlobals identifier context.vars []
  exact found.symm

/-! ## Names that can be mentioned -/

/-- The names are what some artifact mentions. -/
theorem isName_iff_mentions {name : String} :
    Text.isName name.toList = true ↔ ∃ artifact, Mentions artifact name := by
  constructor
  · intro identifier
    have read := Artifact.parse_variableIsland identifier
    have mentioned : name ∈ programMentioned [.eval (.var name)] := List.mem_singleton.2 rfl
    exact ⟨variableIsland name, _, read, mentioned⟩
  · rintro ⟨artifact, program, read, member⟩
    exact Artifact.programWithin_of_parse read name member

/-- A name is an identifier exactly where the island of its variable has that one token, and exactly where
some artifact mentions it: all variables, targets of assignments and names of loops that are read are
identifiers. So an artifact gives the same for a context without its other entries, and the same again
where these are bound, too. -/
theorem binding_skips_unmentionable :
    (∀ name : String,
      (Text.isName name.toList = true ↔
        (tokenize (variableIsland name)).map (List.map Lexeme.token) =
          .ok [.var name, .symbol .semicolon]) ∧
      (Text.isName name.toList = true ↔ ∃ artifact, Mentions artifact name)) ∧
    (∀ (artifact : String) (program : Program), parse artifact = .ok program →
      ∀ name ∈ programMentioned program, Text.isName name.toList = true) ∧
    ∀ (context : Context) (artifact : String),
      execute artifact context.mentionable = execute artifact context ∧
        ((Machine.holding context).run artifact).1 = execute artifact context := by
  refine ⟨fun name => ⟨?_, isName_iff_mentions⟩, ?_, fun context artifact => ⟨?_, ?_⟩⟩
  · rw [Artifact.tokenize_eq_iff_scans, Artifact.scans_variableIsland_iff]
    rfl
  · exact fun artifact program read => Artifact.programWithin_of_parse read
  · rw [execute, ofContext_mentionable]
    rfl
  · have within (program : Program) (read : parse artifact = .ok program) :=
      Artifact.programWithin_of_parse read
    exact ((alike_holding context).run_of_mentioned within).1

/-- A name with a space in it is passed over; nothing that is read mentions it. -/
theorem binding_skips_unmentionable_space :
    let artifact := "<% for $x in $xs \x7b $last = $x \x7d echo $last %>"
    let context : Context := ⟨[("a b", .text "?"), ("xs", .list [.text "1", .text "2"])]⟩
    (tokenize (variableIsland "last")).map (List.map Lexeme.token) =
        .ok [.var "last", .symbol .semicolon] ∧
      (∀ artifact, ¬ Mentions artifact "a b") ∧
      (∃ program, parse artifact = .ok program ∧ "last" ∈ programMentioned program ∧
        Text.isName "last".toList = true) ∧
      context.mentionable = ⟨[("xs", .list [.text "1", .text "2"])]⟩ ∧
      execute artifact context.mentionable = execute artifact context ∧
      ((Machine.holding context).run artifact).1 = execute artifact context := by
  intro artifact context
  rcases binding_skips_unmentionable with ⟨named, read, bound⟩
  have identifier : Text.isName "last".toList = true := by decide
  have scanned : (tokenize artifact).toOption.map (List.map Lexeme.token) = some
      [.keyword .forWord, .var "x", .keyword .inWord, .var "xs", .symbol .openBrace, .var "last",
        .symbol .assign, .var "x", .symbol .closeBrace, .keyword .echoWord, .var "last",
        .symbol .semicolon] := by
    decide +kernel
  have parsed : parse artifact = .ok [.forEach none "x" (.var "xs") [.assign "last" (.var "x")],
      .echo [.var "last"]] :=
    Artifact.parse_of_tokens scanned (by cbv)
  have mentioned : "last" ∈ programMentioned [.forEach none "x" (.var "xs")
      [.assign "last" (.var "x")], .echo [.var "last"]] := by decide
  refine ⟨(named "last").1.1 identifier, fun artifact mentions => ?_,
    ⟨_, parsed, mentioned, read _ _ parsed _ mentioned⟩, by rfl, bound context artifact⟩
  have spaced := (named "a b").2.2 ⟨artifact, mentions⟩
  exact absurd spaced (by decide)

end Execution
end TemplateEngine
