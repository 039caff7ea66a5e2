/-!
Tables: values under keys, in the order in which the keys came in. Putting a value under
a key that is there replaces it in place; erasing moves the others together.
-/
namespace TabMarkup

structure Table (κ α : Type) where
  entries : List (κ × α) := []

namespace Table
variable {κ α : Type} [DecidableEq κ]

def put (k : κ) (v : α) : List (κ × α) → List (κ × α)
  | [] => [(k, v)]
  | e :: es => if e.1 = k then (k, v) :: es else e :: put k v es

def find (k : κ) : List (κ × α) → Option α
  | [] => none
  | e :: es => if e.1 = k then some e.2 else find k es

def keys (t : Table κ α) : List κ := t.entries.map Prod.fst
def get? (t : Table κ α) (k : κ) : Option α := find k t.entries
def contains (t : Table κ α) (k : κ) : Bool := (t.get? k).isSome
def insert (t : Table κ α) (k : κ) (v : α) : Table κ α := ⟨put k v t.entries⟩
def erase (t : Table κ α) (k : κ) : Table κ α := ⟨t.entries.filter (·.1 ≠ k)⟩

/-- Inserting changes one key. -/
theorem get?_insert (t : Table κ α) (k j : κ) (v : α) :
    (t.insert k v).get? j = if j = k then some v else t.get? j := by
  simp only [get?, insert]
  induction t.entries with
  | nil => by_cases h : j = k <;> simp [put, find, h, Ne.symm]
  | cons e es ih =>
    by_cases he : e.1 = k
    · by_cases h : j = k
      · simp [put, find, he, h]
      · simp [put, find, he, h, Ne.symm h]
    · by_cases hj : e.1 = j
      · have : j ≠ k := hj ▸ he
        simp [put, find, hj, this]
      · simp [put, find, he, hj, ih]

/-- Erasing changes one key. -/
theorem get?_erase (t : Table κ α) (k j : κ) :
    (t.erase k).get? j = if j = k then none else t.get? j := by
  simp only [get?, erase]
  induction t.entries with
  | nil => simp [find]
  | cons e es ih =>
    by_cases he : e.1 = k
    · by_cases h : j = k
      · simp_all
      · have : e.1 ≠ j := fun hj => h (hj ▸ he)
        simp_all [find]
    · by_cases hj : e.1 = j
      · have : j ≠ k := hj ▸ he
        simp [find, hj, this]
      · simp_all [find]

theorem mem_of_find {k : κ} {v : α} {es : List (κ × α)} (h : find k es = some v) : (k, v) ∈ es := by
  induction es with
  | nil => simp [find] at h
  | cons e es ih =>
    by_cases he : e.1 = k
    · obtain rfl : e.2 = v := by simpa [find, he] using h
      simp [← he]
    · exact List.mem_cons_of_mem _ (ih (by simpa [find, he] using h))

theorem mem_keys_of_get? {t : Table κ α} {k : κ} {v : α} (h : t.get? k = some v) : k ∈ t.keys :=
  List.mem_map_of_mem (mem_of_find h)

theorem contains_iff {t : Table κ α} {k : κ} : t.contains k = true ↔ k ∈ t.keys := by
  simp only [contains, get?, keys]
  induction t.entries with
  | nil => simp [find]
  | cons e es ih =>
    by_cases he : e.1 = k
    · simp [find, he]
    · simp [find, he, Ne.symm he, ih]

theorem find_of_mem {k : κ} {v : α} {es : List (κ × α)} (distinct : (es.map Prod.fst).Nodup)
    (h : (k, v) ∈ es) : find k es = some v := by
  induction es with
  | nil => cases h
  | cons e es ih =>
    obtain ⟨fresh, rest⟩ := List.nodup_cons.1 distinct
    rcases List.mem_cons.1 h with rfl | later
    · simp [find]
    · have other : e.1 ≠ k := fun same => fresh (same ▸ List.mem_map_of_mem later)
      rw [find, if_neg other, ih rest later]

/-- Where no key is there twice, the entries are what can be looked up. -/
theorem mem_entries_iff {t : Table κ α} (distinct : t.keys.Nodup) {k : κ} {v : α} :
    (k, v) ∈ t.entries ↔ t.get? k = some v :=
  ⟨find_of_mem distinct, mem_of_find⟩

theorem map_fst_put (k : κ) (v : α) (es : List (κ × α)) :
    (put k v es).map Prod.fst =
      if k ∈ es.map Prod.fst then es.map Prod.fst else es.map Prod.fst ++ [k] := by
  induction es with
  | nil => simp [put]
  | cons e es ih =>
    by_cases he : e.1 = k
    · simp [put, he]
    · have : ¬ k = e.1 := Ne.symm he
      by_cases hk : k ∈ es.map Prod.fst <;> simp_all [put]

/-- A key that is there keeps its place, a new one goes to the end. -/
theorem keys_insert (t : Table κ α) (k : κ) (v : α) :
    (t.insert k v).keys = if k ∈ t.keys then t.keys else t.keys ++ [k] :=
  map_fst_put k v t.entries

/-- The keys that are left keep their order. -/
theorem keys_erase (t : Table κ α) (k : κ) : (t.erase k).keys = t.keys.filter (· ≠ k) := by
  simp only [keys, erase, List.filter_map]
  rfl

end Table
end TabMarkup
