/-!
# Keyed lists

A finite map with text keys, kept as the list of its pairs in strictly increasing key order. Keys
are compared by code point. `insert` keeps the order, so a map has one list whatever the order its
pairs came in, and the list is what a loop over the map visits.
-/

namespace TemplateEngine

abbrev Keyed (α : Type) := List (String × α)

namespace Keyed

variable {α β : Type}

def get? (key : String) (map : Keyed α) : Option α :=
  map.lookup key

def insert (key : String) (item : α) : Keyed α → Keyed α
  | [] => [(key, item)]
  | (k, a) :: rest =>
      if key < k then (key, item) :: (k, a) :: rest
      else if k = key then (key, item) :: rest
      else (k, a) :: insert key item rest

/-- The map of a list of pairs; a later pair of a key takes the place of an earlier one. -/
def ofPairs (pairs : List (String × α)) : Keyed α :=
  pairs.foldl (fun map pair => insert pair.1 pair.2 map) []

def keys (map : Keyed α) : List String :=
  map.map Prod.fst

/-- The keys increase strictly. -/
def Ordered (map : Keyed α) : Prop :=
  map.Pairwise fun a b => a.1 < b.1

@[simp]
theorem get?_nil (key : String) : get? key ([] : Keyed α) = none := rfl

theorem get?_cons (key k : String) (a : α) (rest : Keyed α) :
    get? key ((k, a) :: rest) = if k = key then some a else get? key rest := by
  by_cases same : k = key
  · simp [get?, same]
  · simp [get?, same, List.lookup_cons, beq_eq_false_iff_ne.2 (Ne.symm same)]

theorem get?_insert_self (key : String) (item : α) (map : Keyed α) :
    get? key (insert key item map) = some item := by
  induction map with
  | nil => simp [insert, get?_cons]
  | cons pair rest ih =>
      obtain ⟨k, a⟩ := pair
      by_cases lt : key < k
      · simp [insert, lt, get?_cons]
      · by_cases eq : k = key
        · simp [insert, eq, get?_cons]
        · simp [insert, lt, eq, get?_cons, ih]

theorem get?_insert_of_ne {key other : String} (ne : other ≠ key) (item : α) (map : Keyed α) :
    get? other (insert key item map) = get? other map := by
  induction map with
  | nil => simp [insert, get?_cons, Ne.symm ne]
  | cons pair rest ih =>
      obtain ⟨k, a⟩ := pair
      by_cases lt : key < k
      · simp [insert, lt, get?_cons, Ne.symm ne]
      · by_cases eq : k = key
        · subst eq; simp [insert, get?_cons, Ne.symm ne]
        · simp [insert, lt, eq, get?_cons, ih]

end Keyed
end TemplateEngine
