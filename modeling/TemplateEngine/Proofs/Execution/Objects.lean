import Mathlib.Algebra.Group.Nat.Even
import TemplateEngine.Proofs.Execution.PathValues
import TemplateEngine.Proofs.Keyed

/-!
# Objects made of arguments

The function `object` takes pairs of a key and a value, and keys of any type count by their texts. What is
made of them is listed, measured, looked into and looped over as one map: from the texts of the keys, in
order, each to the value of the last pair with that text.
-/

namespace TemplateEngine
namespace Execution

open Artifact (Expr)

/-! ## Pairs of arguments -/

def arguments (pairs : List (Value × Value)) : List Value :=
  pairs.flatMap fun pair => [pair.1, pair.2]

/-- The value is that of the last pair whose key has the text. -/
def LastOf (text : String) (pairs : List (Value × Value)) (value : Value) : Prop :=
  ∃ before key after, pairs = before ++ (key, value) :: after ∧ key.toText = text ∧
    ∀ pair ∈ after, pair.1.toText ≠ text

def texted (pairs : List (Value × Value)) : List (String × Value) :=
  pairs.map fun pair => (pair.1.toText, pair.2)

theorem exists_arguments {args : List Value} (even : Even args.length) :
    ∃ pairs, args = arguments pairs := by
  induction args using Builtin.pairs?.induct with
  | case1 => exact ⟨[], rfl⟩
  | case2 v => simp at even
  | case3 key value rest ih =>
      rcases ih (by simpa [Nat.even_add_one] using even) with ⟨pairs, rfl⟩
      exact ⟨(key, value) :: pairs, rfl⟩

/-- The arguments of an object are read as its pairs. -/
theorem pairs?_arguments (pairs : List (Value × Value)) :
    Builtin.pairs? (arguments pairs) = some (texted pairs) := by
  induction pairs with
  | nil => rfl
  | cons pair pairs ih =>
      show (Builtin.pairs? (arguments pairs)).map _ = _
      rw [ih]
      rfl

/-- An object is made of them in order. -/
theorem call_object (pairs : List (Value × Value)) :
    call "object" (arguments pairs) = .ok (.object (Keyed.ofPairs (texted pairs))) := by
  show Builtin.objectOf (arguments pairs) = _
  rw [Builtin.objectOf, pairs?_arguments]

/-- The last pair of a key is the first one of the reversed pairs. -/
theorem lastOf_of_lookup {text : String} {pairs : List (Value × Value)} {value : Value}
    (found : (texted pairs).reverse.lookup text = some value) : LastOf text pairs value := by
  rw [texted, ← List.map_reverse] at found
  rcases List.lookup_eq_some_iff.1 found with ⟨behind, front, split, others⟩
  rcases List.map_eq_append_iff.1 split with ⟨after, last, reversed, rfl, rest⟩
  rcases List.map_eq_cons_iff.1 rest with ⟨pair, before, rfl, same, rfl⟩
  rcases Prod.mk.inj same with ⟨sameText, rfl⟩
  refine ⟨before.reverse, pair.1, after.reverse, ?_, sameText, fun other member => ?_⟩
  · rw [List.reverse_eq_iff.1 reversed]
    simp
  · have different := others _ (List.mem_map.2 ⟨other, List.mem_reverse.1 member, rfl⟩)
    exact fun equal => by simp [equal] at different

/-! ## One map -/

/-- An object shows a map: it is listed with the given keys, in this order, has as many parts, gives the
item of a key for a member and for an index, and is looped over key by key. -/
structure Shows (object : Value) (texts : List String) (item : String → Value) : Prop where
  keys : call "keys" [object] = .ok (.list (texts.map .text))
  len : call "len" [object] = .ok (.number (.ofNat texts.length))
  member : ∀ {scopes e}, eval scopes e = .ok object →
    ∀ text, eval scopes (.member e text) = .ok (item text)
  index : ∀ {scopes e position text}, eval scopes e = .ok object →
    eval scopes position = .ok (.text text) → eval scopes (.index e position) = .ok (item text)
  loop : ∀ {m source}, eval m.scopes source = .ok object → ∀ key value body,
    exec (.forEach key value source body) m =
      Execution.loop (enter key value) (execAll body) (texts.map fun text => (.text text, item text)) m

/-- Any object with its keys in order shows the map that its members are. -/
theorem shows_object {map : Keyed Value} (ordered : map.Ordered) :
    Shows (.object map) map.keys fun text => (Value.object map).member text where
  keys := rfl
  len := by
    rw [Keyed.keys, List.length_map]
    rfl
  member evaluated text := by
    rw [eval, evaluated]
    rfl
  index evaluated position := by
    rw [eval, evaluated, position]
    rfl
  loop {m source} evaluated key value body := by
    have items : ∀ text ∈ map.keys,
        Keyed.get? text map = some ((Value.object map).member text) := by
      intro text member
      rcases Option.isSome_iff_exists.1 (Keyed.mem_keys_iff.1 member) with ⟨v, found⟩
      rw [found, Value.member, found, Option.getD_some]
    have visited : entries (.object map) =
        .ok (map.keys.map fun text => (.text text, (Value.object map).member text)) := by
      show Except.ok (map.map _) = _
      conv_lhs => rw [ordered.eq_map_keys items]
      rw [List.map_map]
      rfl
    rw [exec, evaluated]
    simp only [visited]

/-! ## Written loops -/

/-- The body of a loop that writes its key and its value sees those of the entry, and leaves the scopes of
the machine as they were. -/
theorem execAll_written {key value : String} (distinct : key ≠ value) (entry : Value × Value)
    (m : Machine) :
    execAll [.echo [.var key, .var value]] (enter (some key) value entry m) =
      ⟨(enter (some key) value entry m).emit (entry.1.toText ++ entry.2.toText), none⟩ := by
  have scopes : (enter (some key) value entry m).scopes.toList =
      Keyed.insert value entry.2 (Keyed.insert key entry.1 []) :: m.scopes.toList := rfl
  have keySeen : (enter (some key) value entry m).scopes.get? key = some entry.1 := by
    rw [Scopes.get?, scopes]
    simp [Keyed.get?_insert_of_ne distinct, Keyed.get?_insert_self]
  have valueSeen : (enter (some key) value entry m).scopes.get? value = some entry.2 := by
    rw [Scopes.get?, scopes]
    simp [Keyed.get?_insert_self]
  simp [execAll, exec, echo, eval, keySeen, valueSeen]

/-- A loop that echoes key and value writes the entries one behind the other. -/
theorem loop_written {key value : String} (distinct : key ≠ value) (es : List (Value × Value))
    (m : Machine) :
    loop (enter (some key) value) (execAll [.echo [.var key, .var value]]) es m =
      ⟨m.emit (String.join (es.map fun entry => entry.1.toText ++ entry.2.toText)), none⟩ := by
  induction es generalizing m with
  | nil => simp [loop]
  | cons entry es ih =>
      have closed : ((enter (some key) value entry m).emit (entry.1.toText ++ entry.2.toText)).onScopes
          Scopes.pop = m.emit (entry.1.toText ++ entry.2.toText) := rfl
      rw [loop, execAll_written distinct]
      simp only [closed, ih, emit_emit, List.map_cons, String.join_cons]

/-- `object` succeeds on any even number of arguments. What it makes shows one map: the keys are the
distinct texts of those given, in increasing order, and a key has the value of the last pair with its
text; other texts have null. A loop that writes its keys and items writes them all, in this order. -/
theorem object_shows_pairs (args : List Value) (even : Even args.length) :
    ∃ pairs object texts item, args = arguments pairs ∧ call "object" args = .ok object ∧
      (texts.Pairwise (· < ·) ∧ ∀ text, text ∈ texts ↔ ∃ pair ∈ pairs, pair.1.toText = text) ∧
      ((∀ text ∈ texts, LastOf text pairs (item text)) ∧ ∀ text, text ∉ texts → item text = .null) ∧
      Shows object texts item ∧
      ∀ {m source key value}, eval m.scopes source = .ok object → key ≠ value →
        exec (.forEach (some key) value source [.echo [.var key, .var value]]) m =
          ⟨m.emit (String.join (texts.map fun text => text ++ (item text).toText)), none⟩ := by
  rcases exists_arguments even with ⟨pairs, rfl⟩
  -- The object is the map of the pairs; each part is said of the map.
  let map := Keyed.ofPairs (texted pairs)
  have ordered : map.Ordered := Keyed.ordered_ofPairs _
  have shows_map := shows_object ordered
  have found (text : String) : Keyed.get? text map = (texted pairs).reverse.lookup text :=
    Keyed.get?_ofPairs text _
  refine ⟨pairs, .object map, map.keys, _, rfl, call_object pairs, ⟨?increasing, ?keys⟩,
    ⟨?last, ?others⟩, shows_map, ?written⟩
  case increasing => exact List.pairwise_map.2 ordered
  case keys =>
    intro text
    rw [Keyed.mem_keys_ofPairs, texted, List.map_map, List.mem_map]
    rfl
  case last =>
    intro text member
    rcases Option.isSome_iff_exists.1 (Keyed.mem_keys_iff.1 member) with ⟨v, known⟩
    rw [Value.member, known, Option.getD_some]
    exact lastOf_of_lookup ((found text).symm.trans known)
  case others =>
    intro text absent
    rw [Keyed.mem_keys_iff, Option.not_isSome_iff_eq_none] at absent
    rw [Value.member, absent, Option.getD_none]
  case written =>
    intro m source key value evaluated distinct
    rw [shows_map.loop evaluated, loop_written distinct, List.map_map]
    rfl

/-- The boolean `true` and the text `true` are one key, whose first value is replaced; null is the empty
text. -/
theorem object_shows_pairs_mixed :
    let args : List Value :=
      [.boolean true, .text "first", .text "true", .text "last", .null, .list []]
    let object : Value := .object [("", .list []), ("true", .text "last")]
    let m : Machine := { scopes := { globals := [("o", object)] } }
    Even args.length ∧ call "object" args = .ok object ∧
      eval m.scopes (.var "o") = .ok object ∧ "k" ≠ "v" ∧
      ∃ pairs item, args = arguments pairs ∧ Shows object ["", "true"] item ∧
        ("true" ∈ ["", "true"] ∧ LastOf "true" pairs (.text "last") ∧ item "true" = .text "last") ∧
        ("false" ∉ ["", "true"] ∧ item "false" = .null) ∧
        exec (.forEach (some "k") "v" (.var "o") [.echo [.var "k", .var "v"]]) m =
          ⟨m.emit "truelast", none⟩ := by
  intro args object m
  have even : Even args.length := by decide
  have made : call "object" args = .ok object := by rfl
  have bound : eval m.scopes (.var "o") = .ok object := by rfl
  rcases object_shows_pairs args even with
    ⟨pairs, object', texts, item, paired, made', -, ⟨last, others⟩, shown, written⟩
  cases made.symm.trans made'
  have listed : call "keys" [object] = .ok (.list (["", "true"].map .text)) := by rfl
  have texts_eq : texts = ["", "true"] := by
    have same := listed.symm.trans shown.keys
    simp only [Except.ok.injEq, Value.list.injEq] at same
    exact (List.map_injective_iff.2 (fun _ _ => Value.text.inj) same).symm
  subst texts_eq
  have first : item "" = .list [] :=
    Except.ok.inj ((shown.member bound "").symm.trans (by rfl))
  have second : item "true" = .text "last" :=
    Except.ok.inj ((shown.member bound "true").symm.trans (by rfl))
  have output : String.join (["", "true"].map fun text => text ++ (item text).toText) = "truelast" := by
    rw [List.map_cons, List.map_cons, first, second]
    rfl
  refine ⟨even, made, bound, by decide, pairs, item, paired, shown, ⟨by decide, ?_, second⟩,
    ⟨by decide, others "false" (by decide)⟩, ?_⟩
  · exact second ▸ last "true" (by decide)
  · exact (written bound (by decide)).trans (by rw [output])

end Execution
end TemplateEngine
