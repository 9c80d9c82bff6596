import TemplateEngine.Entries

/-!
# Looking up entries

Where no key stands twice, a look-up finds exactly the entries, and setting an item keeps it so. A list of
keys without its repetitions takes in one key after another, each at its first mention.
-/

namespace TemplateEngine
namespace Entries

variable {κ α : Type} [BEq κ] [LawfulBEq κ]

/-- A look-up finds the keys that have an entry. -/
theorem lookup_isSome_iff {key : κ} {entries : List (κ × α)} :
    (entries.lookup key).isSome = true ↔ key ∈ entries.map Prod.fst := by
  simp only [List.lookup_isSome_iff, beq_iff_eq, List.mem_map, eq_comm (a := key)]

/-- Where no key stands twice a look-up finds every entry. -/
theorem lookup_eq_some_iff_mem {key : κ} {item : α} {entries : List (κ × α)}
    (distinct : (entries.map Prod.fst).Nodup) :
    entries.lookup key = some item ↔ (key, item) ∈ entries := by
  induction entries with
  | nil => simp
  | cons entry rest ih =>
      rcases entry with ⟨other, item'⟩
      rw [List.map_cons, List.nodup_cons] at distinct
      by_cases same : key = other
      · have absent : (key, item) ∉ rest := fun member =>
          distinct.1 (List.mem_map.2 ⟨(key, item), member, same⟩)
        simp [same, eq_comm (a := item), same ▸ absent]
      · simp [List.lookup_cons, beq_eq_false_iff_ne.2 same, same, ih distinct.2]

/-- Setting an item leaves every key in one place. -/
theorem nodup_set (key : κ) (item : α) {entries : List (κ × α)}
    (distinct : (entries.map Prod.fst).Nodup) : ((set key item entries).map Prod.fst).Nodup := by
  rw [keys_set]
  split
  · exact distinct
  · next fresh =>
      rw [lookup_isSome_iff] at fresh
      refine List.nodup_append.2 ⟨distinct, by simp, ?_⟩
      intro other member key' single same
      rw [List.mem_singleton.1 single] at same
      exact fresh (same ▸ member)

/-- One more mention adds a key that was not mentioned before. -/
theorem eraseDups_concat [DecidableEq κ] (keys : List κ) (key : κ) :
    (keys ++ [key]).eraseDups = if key ∈ keys then keys.eraseDups else keys.eraseDups ++ [key] := by
  rw [List.eraseDups_append]
  split
  · next known => simp [List.removeAll, known]
  · next fresh => simp [List.removeAll, fresh, List.eraseDups_cons]

end Entries
end TemplateEngine
