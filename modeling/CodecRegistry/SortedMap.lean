import CodecRegistry.FiniteMap
import CodecRegistry.Text.Utf8

/-! Maps from texts to octets whose entries stand in the order of their keys' octets, each key
once. Two such maps with the same contents are the same list. -/

namespace CodecRegistry

/-- Whether the octets of one key come before those of another. -/
def keyBefore (a b : String) : Prop := Utf8.encode a < Utf8.encode b

instance (a b : String) : Decidable (keyBefore a b) :=
  inferInstanceAs (Decidable (Utf8.encode a < Utf8.encode b))

namespace Utf8

theorem encode_injective {a b : String} (h : encode a = encode b) : a = b := by
  have octets : a.toByteArray = b.toByteArray := by
    apply ByteArray.ext
    exact Array.toList_inj.1 h
  exact String.toByteArray_inj.1 octets

end Utf8

theorem keyBefore_trans {a b c : String} (h : keyBefore a b) (h' : keyBefore b c) :
    keyBefore a c :=
  List.lt_trans h h'

theorem keyBefore_of_not {a b : String} (different : b ≠ a) (h : ¬ keyBefore a b) :
    keyBefore b a := by
  rcases List.le_iff_lt_or_eq.1 (List.not_lt.1 h) with less | same
  · exact less
  · exact absurd (Utf8.encode_injective same) different

/-- Puts an entry where its key belongs, unless the key is there. -/
def placeSorted (key : String) (value : Bytes) : List (String × Bytes) → List (String × Bytes)
  | [] => [(key, value)]
  | (other, old) :: rest =>
    if keyBefore key other then (key, value) :: (other, old) :: rest
    else if other = key then (other, old) :: rest
    else (other, old) :: placeSorted key value rest

theorem mem_placeSorted {key : String} {value : Bytes} {entries : List (String × Bytes)}
    {entry : String × Bytes} (h : entry ∈ placeSorted key value entries) :
    entry = (key, value) ∨ entry ∈ entries := by
  induction entries with
  | nil => simpa [placeSorted] using h
  | cons head rest ih =>
    obtain ⟨other, old⟩ := head
    simp only [placeSorted] at h
    split at h
    · exact List.mem_cons.1 h
    · split at h
      · exact .inr h
      · rcases List.mem_cons.1 h with here | there
        · exact .inr (here ▸ List.mem_cons_self ..)
        · exact (ih there).imp_right (List.mem_cons_of_mem _)

theorem pairwise_placeSorted {key : String} {value : Bytes} {entries : List (String × Bytes)}
    (h : entries.Pairwise fun a b => keyBefore a.1 b.1) :
    (placeSorted key value entries).Pairwise fun a b => keyBefore a.1 b.1 := by
  induction entries with
  | nil => simp [placeSorted]
  | cons head rest ih =>
    obtain ⟨other, old⟩ := head
    obtain ⟨first, later⟩ := List.pairwise_cons.1 h
    simp only [placeSorted]
    split
    · rename_i before
      refine List.pairwise_cons.2 ⟨fun entry mem => ?_, h⟩
      rcases List.mem_cons.1 mem with here | there
      · exact here ▸ before
      · exact keyBefore_trans before (first entry there)
    · rename_i notBefore
      split
      · exact h
      · rename_i different
        refine List.pairwise_cons.2 ⟨fun entry mem => ?_, ih later⟩
        rcases mem_placeSorted mem with here | there
        · exact here ▸ keyBefore_of_not different notBefore
        · exact first entry there

structure SortedMap where
  entries : List (String × Bytes)
  ascending : entries.Pairwise fun a b => keyBefore a.1 b.1

namespace SortedMap

theorem ext_entries {a b : SortedMap} (h : a.entries = b.entries) : a = b := by
  cases a; cases b; cases h; rfl

def empty : SortedMap := ⟨[], List.Pairwise.nil⟩

instance : Inhabited SortedMap := ⟨empty⟩

/-- Adds an entry, unless its key is there. -/
def insertNew (map : SortedMap) (key : String) (value : Bytes) : SortedMap :=
  ⟨placeSorted key value map.entries, pairwise_placeSorted map.ascending⟩

/-- The map of a list of entries; of two with one key the later counts. -/
def ofList (entries : List (String × Bytes)) : SortedMap :=
  entries.foldr (fun entry map => map.insertNew entry.1 entry.2) empty

def get? (map : SortedMap) (key : String) : Option Bytes := FiniteMap.find key map.entries

/-- An ascending list is its own map. -/
theorem ofList_entries (map : SortedMap) : ofList map.entries = map := by
  obtain ⟨entries, ascending⟩ := map
  apply ext_entries
  induction entries with
  | nil => rfl
  | cons entry rest ih =>
    obtain ⟨first, later⟩ := List.pairwise_cons.1 ascending
    have same : (ofList rest).entries = rest := ih later
    have split : ofList (entry :: rest) = (ofList rest).insertNew entry.1 entry.2 := rfl
    simp only [split, insertNew, same]
    cases rest with
    | nil => rfl
    | cons next rest => simp [placeSorted, first next]

end SortedMap

end CodecRegistry
