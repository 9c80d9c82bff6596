import Mathlib.Order.Basic
import Mathlib.Data.String.Basic
import TemplateEngine.Keyed
import TemplateEngine.Proofs.Entries

/-!
# Maps made of pairs

Inserting keeps the keys of a map in order. So whatever pairs a map is made of, and in whatever order they
come, its keys are those of the pairs, each once, and a key has the item of its last pair.
-/

namespace TemplateEngine
namespace Keyed

variable {α : Type} {map : Keyed α}

/-- An insertion adds its own key. -/
theorem mem_keys_insert {key other : String} {item : α} :
    other ∈ keys (insert key item map) ↔ other = key ∨ other ∈ keys map := by
  induction map with
  | nil => simp [insert, keys]
  | cons pair rest ih =>
      rcases pair with ⟨k, a⟩
      unfold keys at ih ⊢
      rw [insert]
      split
      · simp
      · split
        · next same => simp [same]
        · simp only [List.map_cons, List.mem_cons, ih]
          tauto

/-- A new key comes before the first one that is larger, and a known one keeps its place. -/
theorem Ordered.insert (ordered : map.Ordered) (key : String) (item : α) :
    Ordered (Keyed.insert key item map) := by
  induction map with
  | nil => exact List.pairwise_singleton _ _
  | cons pair rest ih =>
      rcases pair with ⟨k, a⟩
      have tail : Ordered rest := (List.pairwise_cons.1 ordered).2
      have above : ∀ entry ∈ rest, k < entry.1 := (List.pairwise_cons.1 ordered).1
      rw [Keyed.insert]
      split
      · next before =>
          refine List.pairwise_cons.2 ⟨fun entry member => ?_, ordered⟩
          rcases List.mem_cons.1 member with rfl | later
          · exact before
          · exact lt_trans before (above entry later)
      · next notBefore =>
          split
          · next same => exact List.pairwise_cons.2 ⟨same ▸ above, tail⟩
          · next other =>
              -- The entry goes further down, behind this one.
              have behind : k < key := lt_of_le_of_ne (not_lt.1 notBefore) other
              refine List.pairwise_cons.2 ⟨fun entry member => ?_, ih tail⟩
              have known : entry.1 ∈ keys (Keyed.insert key item rest) :=
                List.mem_map.2 ⟨entry, member, rfl⟩
              rcases mem_keys_insert.1 known with same | later
              · rwa [same]
              · rcases List.mem_map.1 later with ⟨entry', member', same⟩
                rw [← same]
                exact above entry' member'

/-- A map with the items of some more pairs inserted, one after another. -/
def insertAll (pairs : List (String × α)) (map : Keyed α) : Keyed α :=
  pairs.foldl (fun map pair => Keyed.insert pair.1 pair.2 map) map

theorem Ordered.insertAll (ordered : map.Ordered) (pairs : List (String × α)) :
    Ordered (Keyed.insertAll pairs map) := by
  induction pairs generalizing map with
  | nil => exact ordered
  | cons pair pairs ih => exact ih (ordered.insert pair.1 pair.2)

/-- A map of pairs is in order. -/
theorem ordered_ofPairs (pairs : List (String × α)) : Ordered (ofPairs pairs) :=
  Ordered.insertAll .nil pairs

theorem insert_of_all_lt {key : String} {map : Keyed α} (below : ∀ entry ∈ map, entry.1 < key)
    (item : α) : insert key item map = map ++ [(key, item)] := by
  induction map with
  | nil => rfl
  | cons entry rest ih =>
      obtain ⟨k, a⟩ := entry
      have lt : k < key := below (k, a) List.mem_cons_self
      have ne : k ≠ key := by
        rintro rfl
        exact String.lt_irrefl k lt
      rw [insert, if_neg (String.lt_asymm lt), if_neg ne,
        ih fun entry member => below entry (List.mem_cons_of_mem _ member), List.cons_append]

/-- The map of pairs in order is the list of the pairs. -/
theorem ofPairs_of_ordered {pairs : List (String × α)} (ordered : Ordered pairs) :
    ofPairs pairs = pairs := by
  suffices behind : ∀ (rest map : Keyed α), Ordered (map ++ rest) →
      rest.foldl (fun map pair => insert pair.1 pair.2 map) map = map ++ rest from
    behind pairs [] ordered
  intro rest
  induction rest with
  | nil => simp
  | cons pair rest ih =>
      intro map ordered
      have below : ∀ entry ∈ map, entry.1 < pair.1 := by
        intro entry member
        exact (List.pairwise_append.1 ordered).2.2 entry member pair List.mem_cons_self
      rw [List.foldl_cons, insert_of_all_lt below]
      have later := ih (map ++ [pair]) (by rwa [List.append_assoc])
      rwa [List.append_assoc] at later

/-- The last pair of a key counts. -/
theorem get?_insertAll (key : String) (pairs : List (String × α)) (map : Keyed α) :
    get? key (insertAll pairs map) = (pairs.reverse.lookup key).or (get? key map) := by
  induction pairs generalizing map with
  | nil => rfl
  | cons pair pairs ih =>
      rcases pair with ⟨k, a⟩
      have rest : get? key (insertAll ((k, a) :: pairs) map) = _ := ih (Keyed.insert k a map)
      rw [rest, List.reverse_cons, List.lookup_append, Option.or_assoc]
      congr 1
      by_cases same : key = k
      · simp [same, get?_insert_self]
      · simp [get?_insert_of_ne same, List.lookup_cons, beq_eq_false_iff_ne.2 same]

/-- A key has the item of its last pair. -/
theorem get?_ofPairs (key : String) (pairs : List (String × α)) :
    get? key (ofPairs pairs) = pairs.reverse.lookup key := by
  have inserted : get? key (ofPairs pairs) = _ := get?_insertAll key pairs []
  rw [inserted, get?_nil, Option.or_none]

/-- A map has exactly the keys that it gives an item for. -/
theorem mem_keys_iff {key : String} : key ∈ keys map ↔ (get? key map).isSome = true :=
  Entries.lookup_isSome_iff.symm

theorem mem_keys_ofPairs {key : String} {pairs : List (String × α)} :
    key ∈ keys (ofPairs pairs) ↔ key ∈ pairs.map Prod.fst := by
  rw [mem_keys_iff, get?_ofPairs, Entries.lookup_isSome_iff, List.map_reverse, List.mem_reverse]

/-- A map in order is the list of its keys with their items. -/
theorem Ordered.eq_map_keys (ordered : map.Ordered) {item : String → α}
    (items : ∀ key ∈ keys map, get? key map = some (item key)) :
    map = (keys map).map fun key => (key, item key) := by
  induction map with
  | nil => rfl
  | cons pair rest ih =>
      rcases pair with ⟨k, a⟩
      rcases List.pairwise_cons.1 ordered with ⟨above, tail⟩
      have first : a = item k := by simpa [get?_cons] using items k List.mem_cons_self
      have others : ∀ key ∈ keys rest, get? key rest = some (item key) := by
        intro key member
        rcases List.mem_map.1 member with ⟨entry, later, rfl⟩
        have different : k ≠ entry.1 := (above entry later).ne
        have found := items entry.1 (List.mem_cons_of_mem _ member)
        rwa [get?_cons, if_neg different] at found
      rw [keys, List.map_cons, List.map_cons, first]
      exact congrArg ((k, item k) :: ·) (ih tail others)

end Keyed
end TemplateEngine
