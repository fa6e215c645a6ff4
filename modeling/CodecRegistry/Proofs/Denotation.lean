import CodecRegistry.Proofs.Rounds
import CodecRegistry.Proofs.Travel
import CodecRegistry.Proofs.Unextended
import Mathlib.Data.List.Dedup

/-! What the payload of a map means. Its entries may stand in any order and repeat their keys, and
its numbers may be padded; it means the map that sends each key to the value of its last entry,
whichever kind of map it is. The ordered kind is a normal form: two ordered maps with the same
contents are the same list, so payloads that mean the same are written again as the same octets. -/

namespace CodecRegistry

namespace Codec.Maps

/-- What a key stands for in a list of entries: the value of its last one. -/
def meaning (entries : List (String × Bytes)) (key : String) : Option Bytes :=
  entries.reverse.lookup key

variable {entries : List (String × Bytes)}

theorem meaning_cons (entry : String × Bytes) (rest : List (String × Bytes)) (key : String) :
    meaning (entry :: rest) key =
      (meaning rest key).or (if key = entry.1 then some entry.2 else none) := by
  rw [meaning, List.reverse_cons, List.lookup_append, List.lookup_cons, meaning]
  by_cases same : key = entry.1
  · rw [if_pos same, beq_iff_eq.2 same]
  · rw [if_neg same, beq_eq_false_iff_ne.2 same, List.lookup_nil]

theorem meaning_eq_none_iff {key : String} :
    meaning entries key = none ↔ key ∉ entries.map Prod.fst := by
  rw [meaning, List.lookup_eq_none_iff, List.mem_map]
  simp only [List.mem_reverse, bne_iff_ne, not_exists, not_and]
  exact forall₂_congr fun entry _ => ne_comm

end Codec.Maps

open Codec Codec.Maps

/-! ## The map of a list of entries -/

theorem not_keyBefore_self (key : String) : ¬ keyBefore key key := List.lt_irrefl _

/-- A key before all the others is none of them. -/
theorem find_eq_none_of_before {key : String} {entries : List (String × Bytes)}
    (before : ∀ entry ∈ entries, keyBefore key entry.1) : FiniteMap.find key entries = none := by
  induction entries with
  | nil => rfl
  | cons entry rest ih =>
    obtain ⟨first, later⟩ := List.forall_mem_cons.1 before
    have different : entry.1 ≠ key := fun same => not_keyBefore_self key (same ▸ first)
    rw [FiniteMap.find, if_neg different]
    exact ih later

/-- A key that is there keeps its value; a new one comes with its own. -/
theorem find_placeSorted {key : String} {value : Bytes} {entries : List (String × Bytes)}
    (ascending : entries.Pairwise fun a b => keyBefore a.1 b.1) (other : String) :
    FiniteMap.find other (placeSorted key value entries) =
      (FiniteMap.find other entries).or (if other = key then some value else none) := by
  induction entries with
  | nil =>
    simp only [placeSorted, FiniteMap.find, Option.none_or, eq_comm]
  | cons head rest ih =>
    obtain ⟨first, later⟩ := List.pairwise_cons.1 ascending
    rw [placeSorted]
    split
    · rename_i before
      have absent : FiniteMap.find key (head :: rest) = none :=
        find_eq_none_of_before (List.forall_mem_cons.2
          ⟨before, fun entry mem => keyBefore_trans before (first entry mem)⟩)
      by_cases same : other = key
      · subst same
        rw [absent, FiniteMap.find, if_pos rfl, if_pos rfl, Option.none_or]
      · rw [FiniteMap.find, if_neg (Ne.symm same), if_neg same, Option.or_none]
    · split
      · rename_i here
        by_cases same : other = key
        · subst same
          rw [FiniteMap.find, if_pos here, Option.some_or]
        · rw [if_neg same, Option.or_none]
      · rw [FiniteMap.find, FiniteMap.find]
        split
        · rw [Option.some_or]
        · exact ih later

theorem FiniteMap.get?_ofList (entries : List (String × Bytes)) (key : String) :
    (FiniteMap.ofList entries).get? key = meaning entries key := by
  induction entries with
  | nil => rfl
  | cons entry rest ih =>
    have split : FiniteMap.ofList (entry :: rest) =
        (FiniteMap.ofList rest).insertNew entry.1 entry.2 := rfl
    rw [split, get?_insertNew, ih, meaning_cons]

namespace SortedMap

theorem get?_ofList (entries : List (String × Bytes)) (key : String) :
    (ofList entries).get? key = meaning entries key := by
  induction entries with
  | nil => rfl
  | cons entry rest ih =>
    have placed : (ofList (entry :: rest)).get? key =
        ((ofList rest).get? key).or (if key = entry.1 then some entry.2 else none) :=
      find_placeSorted (ofList rest).ascending key
    rw [placed, ih, meaning_cons]

theorem distinct (map : SortedMap) : (map.entries.map Prod.fst).Nodup := by
  rw [List.nodup_iff_pairwise_ne, List.pairwise_map]
  refine map.ascending.imp fun {a b} before same => ?_
  rw [same] at before
  exact not_keyBefore_self _ before

theorem get?_eq_some_iff (map : SortedMap) {key : String} {value : Bytes} :
    map.get? key = some value ↔ (key, value) ∈ map.entries :=
  FiniteMap.get?_eq_some_iff ⟨map.entries, map.distinct⟩

theorem get?_eq_none_iff (map : SortedMap) {key : String} :
    map.get? key = none ↔ key ∉ map.entries.map Prod.fst :=
  FiniteMap.get?_eq_none_iff ⟨map.entries, map.distinct⟩

/-- The order leaves a list no choice. -/
theorem ext_get? {a b : SortedMap} (same : ∀ key, a.get? key = b.get? key) : a = b := by
  have members (entry : String × Bytes) : entry ∈ a.entries ↔ entry ∈ b.entries := by
    obtain ⟨key, value⟩ := entry
    rw [← a.get?_eq_some_iff, ← b.get?_eq_some_iff, same]
  have listed : a.entries.Perm b.entries :=
    (List.perm_ext_iff_of_nodup (a.distinct.of_map _) (b.distinct.of_map _)).2 members
  refine ext_entries (listed.eq_of_pairwise ?_ a.ascending b.ascending)
  intro first second _ _ before after
  exact absurd (keyBefore_trans before after) (not_keyBefore_self _)

/-- There are as many entries as different keys. -/
theorem length_ofList (entries : List (String × Bytes)) :
    (ofList entries).entries.length = (entries.map Prod.fst).dedup.length := by
  have members (key : String) :
      key ∈ (ofList entries).entries.map Prod.fst ↔ key ∈ (entries.map Prod.fst).dedup := by
    rw [List.mem_dedup, ← not_iff_not, ← get?_eq_none_iff, get?_ofList, meaning_eq_none_iff]
  have listed := (List.perm_ext_iff_of_nodup (ofList entries).distinct
    (List.nodup_dedup (entries.map Prod.fst))).2 members
  rw [← listed.length_eq, List.length_map]

end SortedMap

/-! ## Payloads -/

namespace Codec.Maps

/-- Entries one after the other, behind any forms of their lengths. -/
inductive Listed : List (String × Bytes) → Bytes → Prop
  | nil : Listed [] []
  | cons {name : String} {data named filled body : Bytes} {rest : List (String × Bytes)}
      (key : Sized named (Utf8.encode name)) (value : Sized filled data)
      (others : Listed rest body) : Listed ((name, data) :: rest) (named ++ (filled ++ body))

/-- What stands behind the kind of a map: entries behind any form of their number. -/
inductive Counted (entries : List (String × Bytes)) : Bytes → Prop
  | intro {number body : Bytes} (count : Varint.Spells number entries.length)
      (listed : Listed entries body) : Counted entries (number ++ body)

variable {entries : List (String × Bytes)} {body listing : Bytes}

section Run

variable (frame : Bytes → Decoding Object) (frames : Nat) (flag : Bool)

open ReadProgram

theorem Listed.run_readEntries (listed : Listed entries body) (before : List (String × Bytes))
    (rest : Bytes) :
    (readEntries entries.length before).run frame frames flag (body ++ rest) =
      ⟨.ok (before.reverse ++ entries), rest, []⟩ := by
  induction listed generalizing before with
  | nil =>
    rw [List.append_nil]
    rfl
  | @cons name data named filled body later key value others ih =>
    have nameRead : ScalarKind.text.decode _ = _ := key.readText (filled ++ (body ++ rest))
    have dataRead : ScalarKind.bytes.decode _ = _ := value.readSized (body ++ rest)
    rw [List.length_cons, readEntries, List.append_assoc, List.append_assoc,
      run_decoded_bind _ _ _ nameRead, run_decoded_bind _ _ _ dataRead, ih, List.reverse_cons,
      List.append_assoc, List.singleton_append]

theorem Counted.run_read (counted : Counted entries listing) (kind : UInt8) (rest : Bytes) :
    read.run frame frames flag (kind :: (listing ++ rest)) = ⟨ofKind kind entries, rest, []⟩ := by
  obtain ⟨spells, listed⟩ := counted
  rw [List.append_assoc, run_read_counted spells, ← readEntries_eq_loop, listed.run_readEntries,
    Decoding.andThen_ok]
  rfl

end Run

end Codec.Maps

namespace Dispatch

variable {dispatch : Dispatch} {services : Services} {cancelled : Bool}
  {entries : List (String × Bytes)} {listing : Bytes}

theorem HoldsBuiltIn.decode_map (holds : dispatch.HoldsBuiltIn services)
    (counted : Counted entries listing) (kind : UInt8) (rest : Bytes) :
    dispatch.decode cancelled (Maps.id :: kind :: (listing ++ rest)) =
      ⟨ofKind kind entries, rest, []⟩ :=
  (holds.readFrame (Binding.maps_mem_builtIn services) 127 _).trans
    (counted.run_read _ _ _ kind rest)

theorem HoldsBuiltIn.encode_sorted (holds : dispatch.HoldsBuiltIn services)
    (contents : SortedMap) :
    dispatch.encode cancelled (.sortedMap contents) =
      ⟨.ok (), Maps.id :: Maps.payload sortedKind contents.entries, []⟩ := by
  have written : dispatch.emit cancelled (Maps.codec.write (.sortedMap contents)) =
      ⟨.ok (), Maps.payload sortedKind contents.entries, []⟩ := emit_payload _
  rw [holds.encode (Binding.maps_mem_builtIn services) (.tail _ (.head _)), encodeWith, written]
  rfl

/-- A payload of entries in any order and with any repetitions, its numbers padded or not, decodes
as either kind of map, and to the same contents: each key has the value of its last entry. The
ordered map is written with each key once, the keys ascending by their octets, behind the number of
different keys; and every other payload that means the same decodes to the same ordered map, so
the same octets are written for it. -/
theorem HoldsBuiltIn.maps_denote (holds : dispatch.HoldsBuiltIn services) (cancelled : Bool)
    (counted : Counted entries listing) :
    ∃ unordered sorted,
      (∀ rest, dispatch.decode cancelled (Maps.id :: unorderedKind :: (listing ++ rest)) =
        ⟨.ok (.unorderedMap unordered), rest, []⟩) ∧
      (∀ rest, dispatch.decode cancelled (Maps.id :: sortedKind :: (listing ++ rest)) =
        ⟨.ok (.sortedMap sorted), rest, []⟩) ∧
      (∀ key, unordered.get? key = meaning entries key ∧ sorted.get? key = meaning entries key) ∧
      (sorted.entries.Pairwise fun a b => Utf8.encode a.1 < Utf8.encode b.1) ∧
      (∀ key value, (key, value) ∈ sorted.entries ↔ meaning entries key = some value) ∧
      (entries.map Prod.fst).dedup.length < 2 ^ 64 ∧
      (∀ writing, dispatch.encode writing (.sortedMap sorted) = ⟨.ok (),
        Maps.id :: sortedKind ::
          (Varint.encode (UInt64.ofNat (entries.map Prod.fst).dedup.length) ++
            sorted.entries.flatMap writeEntry), []⟩) ∧
      ∀ others other, Counted others other →
        (∀ key, meaning others key = meaning entries key) →
        ∀ rest, dispatch.decode cancelled (Maps.id :: sortedKind :: (other ++ rest)) =
          ⟨.ok (.sortedMap sorted), rest, []⟩ := by
  refine ⟨.ofList entries, .ofList entries, holds.decode_map counted unorderedKind,
    holds.decode_map counted sortedKind, fun key => ⟨?_, ?_⟩, (SortedMap.ofList entries).ascending,
    fun key value => ?_, ?_, fun writing => ?_, ?_⟩
  · exact FiniteMap.get?_ofList entries key
  · exact SortedMap.get?_ofList entries key
  · rw [← SortedMap.get?_eq_some_iff, SortedMap.get?_ofList]
  · have fewer : (entries.map Prod.fst).dedup.length ≤ entries.length :=
      (List.dedup_sublist _).length_le.trans (List.length_map ..).le
    obtain ⟨spells, -⟩ := counted
    exact fewer.trans_lt spells.lt
  · rw [holds.encode_sorted, Maps.payload, SortedMap.length_ofList]
    rfl
  · intro others other otherCounted same rest
    have equal : SortedMap.ofList others = SortedMap.ofList entries :=
      SortedMap.ext_get? fun key => by rw [SortedMap.get?_ofList, SortedMap.get?_ofList, same]
    rw [holds.decode_map otherCounted, ← equal]
    rfl

/-- A key that comes twice, around another one, with padded numbers. -/
theorem HoldsBuiltIn.maps_denote_repeated :
    let dispatch := (Registry.empty.start .bare .standard).registry.dispatch
    let entries : List (String × Bytes) := [("b", [1]), ("a", [2]), ("b", [3])]
    let listing : Bytes := [0x83, 0, 1, 98, 1, 1, 0x81, 0, 97, 1, 2, 1, 98, 0x81, 0x80, 0, 3]
    Counted entries listing ∧
    ∃ unordered sorted,
      dispatch.decode true (2 :: 0 :: (listing ++ [])) = ⟨.ok (.unorderedMap unordered), [], []⟩ ∧
      dispatch.decode true (2 :: 1 :: (listing ++ [9])) = ⟨.ok (.sortedMap sorted), [9], []⟩ ∧
      unordered.get? "b" = some [3] ∧ sorted.get? "b" = some [3] ∧
      ("b", [1]) ∉ sorted.entries ∧
      dispatch.encode false (.sortedMap sorted) =
        ⟨.ok (), 2 :: 1 :: 2 :: sorted.entries.flatMap writeEntry, []⟩ := by
  intro dispatch entries listing
  have spells (value : UInt64) {number : Bytes}
      (read : Varint.decode .w64 number = ⟨.ok value, []⟩) : Varint.Spells number value.toNat :=
    ⟨value, rfl, Varint.decode_eq_iff.1 read⟩
  have last : Listed [("b", [3])] ([1, 98] ++ ([0x81, 0x80, 0, 3] ++ [])) :=
    .cons ⟨[1], spells 1 rfl, rfl⟩ ⟨[0x81, 0x80, 0], spells 1 rfl, rfl⟩ .nil
  have listed : Listed entries ([1, 98] ++ ([1, 1] ++ ([0x81, 0, 97] ++ ([1, 2] ++ _)))) :=
    .cons ⟨[1], spells 1 rfl, rfl⟩ ⟨[1], spells 1 rfl, rfl⟩ <|
      .cons ⟨[0x81, 0], spells 1 rfl, rfl⟩ ⟨[1], spells 1 rfl, rfl⟩ last
  have number : Varint.Spells [0x83, 0] entries.length := spells 3 rfl
  have counted : Counted entries listing := .intro number listed
  obtain ⟨unordered, sorted, decodes, decodesSorted, means, -, members, -, written, -⟩ :=
    HoldsBuiltIn.maps_denote Registry.holdsBuiltIn_standard true counted
  refine ⟨counted, unordered, sorted, decodes [], decodesSorted [9], (means "b").1,
    (means "b").2, ?_, ?_⟩
  · rw [members]
    decide
  · have two : Varint.encode (UInt64.ofNat (entries.map Prod.fst).dedup.length) = [2] := by
      decide +kernel
    have octets := written false
    rw [two] at octets
    exact octets

end Dispatch

end CodecRegistry
