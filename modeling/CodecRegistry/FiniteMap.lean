/-! Maps that keep their entries in the order in which the keys first came, each key once. The view
is `get?`; what each operation does to it is said right after the operation. -/

namespace CodecRegistry

structure FiniteMap (κ α : Type) where
  entries : List (κ × α)
  distinct : (entries.map Prod.fst).Nodup

namespace FiniteMap

variable {κ α : Type}

theorem ext_entries {a b : FiniteMap κ α} (h : a.entries = b.entries) : a = b := by
  cases a; cases b; cases h; rfl

def empty : FiniteMap κ α := ⟨[], List.nodup_nil⟩

instance : EmptyCollection (FiniteMap κ α) := ⟨empty⟩

instance : Inhabited (FiniteMap κ α) := ⟨empty⟩

def size (map : FiniteMap κ α) : Nat := map.entries.length

def keys (map : FiniteMap κ α) : List κ := map.entries.map Prod.fst

def values (map : FiniteMap κ α) : List α := map.entries.map Prod.snd

variable [DecidableEq κ]

def find (key : κ) : List (κ × α) → Option α
  | [] => none
  | (other, value) :: rest => if other = key then some value else find key rest

/-- Puts a value in the place of the key's old one, or at the end. -/
def place (key : κ) (value : α) : List (κ × α) → List (κ × α)
  | [] => [(key, value)]
  | (other, old) :: rest =>
    if other = key then (key, value) :: rest else (other, old) :: place key value rest

def get? (map : FiniteMap κ α) (key : κ) : Option α := find key map.entries

def contains (map : FiniteMap κ α) (key : κ) : Bool := (map.get? key).isSome

theorem keys_place (key : κ) (value : α) (entries : List (κ × α)) :
    (place key value entries).map Prod.fst =
      if key ∈ entries.map Prod.fst then entries.map Prod.fst
      else entries.map Prod.fst ++ [key] := by
  induction entries with
  | nil => simp [place]
  | cons entry rest ih =>
    obtain ⟨other, old⟩ := entry
    by_cases same : other = key
    · simp [place, same]
    · simp only [place, same, if_false, List.map_cons, ih, List.mem_cons, Ne.symm same, false_or]
      split <;> simp

theorem nodup_place {key : κ} {value : α} {entries : List (κ × α)}
    (h : (entries.map Prod.fst).Nodup) : ((place key value entries).map Prod.fst).Nodup := by
  rw [keys_place]
  split
  · exact h
  · rename_i absent
    exact List.nodup_append.2
      ⟨h, by simp, fun a ha b hb => by
        rw [List.mem_singleton.1 hb]
        exact fun same => absent (same ▸ ha)⟩

def insert (map : FiniteMap κ α) (key : κ) (value : α) : FiniteMap κ α :=
  ⟨place key value map.entries, nodup_place map.distinct⟩

def erase (map : FiniteMap κ α) (key : κ) : FiniteMap κ α :=
  ⟨map.entries.filter fun entry => entry.1 ≠ key, map.distinct.sublist (List.filter_sublist.map _)⟩

/-- Puts an entry in front, unless its key is there. -/
def insertNew (map : FiniteMap κ α) (key : κ) (value : α) : FiniteMap κ α :=
  if absent : key ∈ map.entries.map Prod.fst then map
  else ⟨(key, value) :: map.entries, List.nodup_cons.2 ⟨absent, map.distinct⟩⟩

/-- The map of a list of entries; of two with one key the later counts. -/
def ofList (entries : List (κ × α)) : FiniteMap κ α :=
  entries.foldr (fun entry map => map.insertNew entry.1 entry.2) empty

@[simp] theorem get?_empty (key : κ) : (empty : FiniteMap κ α).get? key = none := rfl

theorem get?_insert (map : FiniteMap κ α) (key other : κ) (value : α) :
    (map.insert key value).get? other = if other = key then some value else map.get? other := by
  simp only [get?, insert]
  induction map.entries with
  | nil => by_cases same : key = other <;> simp [place, find, same, eq_comm]
  | cons entry rest ih =>
    obtain ⟨head, old⟩ := entry
    by_cases here : head = key
    · subst here
      by_cases same : head = other
      · simp [place, find, same]
      · simp [place, find, same, Ne.symm same]
    · by_cases there : head = other
      · subst there
        simp [place, find, here]
      · simp [place, find, here, there, ih]

theorem get?_erase (map : FiniteMap κ α) (key other : κ) :
    (map.erase key).get? other = if other = key then none else map.get? other := by
  simp only [get?, erase]
  induction map.entries with
  | nil => simp [find]
  | cons entry rest ih =>
    obtain ⟨head, old⟩ := entry
    by_cases here : head = key
    · subst here
      by_cases same : other = head
      · simpa [same] using ih
      · simpa [find, same, Ne.symm same] using ih
    · by_cases there : head = other
      · subst there
        simp [find, here]
      · simpa [find, here, there] using ih

theorem get?_eq_some_iff (map : FiniteMap κ α) {key : κ} {value : α} :
    map.get? key = some value ↔ (key, value) ∈ map.entries := by
  obtain ⟨entries, distinct⟩ := map
  simp only [get?]
  induction entries with
  | nil => simp [find]
  | cons entry rest ih =>
    obtain ⟨head, old⟩ := entry
    simp only [List.map_cons, List.nodup_cons] at distinct
    by_cases here : head = key
    · subst here
      have absent : (head, value) ∉ rest := fun mem =>
        distinct.1 (List.mem_map.2 ⟨(head, value), mem, rfl⟩)
      simp [find, absent, eq_comm]
    · simp [find, here, Ne.symm here, ih distinct.2]

theorem mem_values_iff (map : FiniteMap κ α) {value : α} :
    value ∈ map.values ↔ ∃ key, map.get? key = some value := by
  simp only [values, List.mem_map, Prod.exists, exists_eq_right, get?_eq_some_iff]

theorem get?_eq_none_iff (map : FiniteMap κ α) {key : κ} :
    map.get? key = none ↔ key ∉ map.entries.map Prod.fst := by
  simp only [get?]
  induction map.entries with
  | nil => simp [find]
  | cons entry rest ih =>
    obtain ⟨head, old⟩ := entry
    by_cases here : head = key
    · simp [find, here]
    · simp [find, here, Ne.symm here, ih]

theorem get?_insertNew (map : FiniteMap κ α) (key other : κ) (value : α) :
    (map.insertNew key value).get? other =
      (map.get? other).or (if other = key then some value else none) := by
  simp only [insertNew]
  split
  · rename_i present
    by_cases same : other = key
    · subst same
      have known : map.get? other ≠ none := fun h => map.get?_eq_none_iff.1 h present
      cases h : map.get? other <;> simp_all
    · simp [same]
  · rename_i absent
    by_cases same : other = key
    · subst same
      rw [map.get?_eq_none_iff.2 absent]
      simp [get?, find]
    · simp [get?, find, same, Ne.symm same]

/-- A list without repeated keys is its own map. -/
theorem ofList_entries (map : FiniteMap κ α) : ofList map.entries = map := by
  obtain ⟨entries, distinct⟩ := map
  apply ext_entries
  induction entries with
  | nil => rfl
  | cons entry rest ih =>
    obtain ⟨absent, later⟩ := List.nodup_cons.1 distinct
    have same : (ofList rest).entries = rest := ih later
    have split : ofList (entry :: rest) = (ofList rest).insertNew entry.1 entry.2 := rfl
    simp [split, insertNew, same, absent]

end FiniteMap

end CodecRegistry
