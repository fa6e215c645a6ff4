import Mathlib.Data.List.Flatten
import Mathlib.Data.List.Perm.Subperm
import CodecRegistry.Proofs.Primitive
import CodecRegistry.Proofs.RoundTrip
import CodecRegistry.Proofs.Rounds
import CodecRegistry.Proofs.Unextended

/-! Reading makes a normal form. Readers accept padded numbers, repeated and unordered keys and any
hash; what they make of them is written in no more octets than were read, and reads as the same
object again. The induction is on the levels that are left, a codec at a time. -/

namespace CodecRegistry

open Codec ReadProgram

/-! ## Maps keep some of the entries that were read -/

theorem FiniteMap.entries_ofList_sublist {κ α : Type} [DecidableEq κ] (entries : List (κ × α)) :
    (ofList entries).entries.Sublist entries := by
  induction entries with
  | nil => exact List.Sublist.refl _
  | cons entry rest ih =>
    show ((ofList rest).insertNew entry.1 entry.2).entries.Sublist _
    unfold insertNew
    split
    · exact ih.cons _
    · exact ih.cons_cons _

theorem placeSorted_subperm (key : String) (value : Bytes) (entries : List (String × Bytes)) :
    (placeSorted key value entries).Subperm ((key, value) :: entries) := by
  induction entries with
  | nil => exact List.Subperm.refl _
  | cons entry rest ih =>
    unfold placeSorted
    split
    · exact List.Subperm.refl _
    · split
      · exact (List.sublist_cons_self _ _).subperm
      · exact ((List.subperm_cons entry).2 ih).trans (List.Perm.swap _ _ _).subperm

theorem SortedMap.entries_ofList_subperm (entries : List (String × Bytes)) :
    (ofList entries).entries.Subperm entries := by
  induction entries with
  | nil => exact List.Subperm.refl _
  | cons entry rest ih => exact (placeSorted_subperm ..).trans ((List.subperm_cons entry).2 ih)

namespace Codec

variable {frame : Bytes → Decoding Object} {frames : Nat} {flag : Bool} {input rest : Bytes}
  {value : Object}

/-- A primitive value that a program got can be written, in no more octets than it was got from. -/
theorem shortest_value {kind : ScalarKind} {value : kind.Carrier}
    (gives : ((ReadProgram.value kind).run frame frames flag input).Gives value rest) :
    kind.Fits value ∧ (kind.encode value).length + rest.length ≤ input.length :=
  kind.shortest ((gives_value_iff kind).1 gives)

namespace Maps

theorem length_payload_le (kind other : UInt8) {kept entries : List (String × Bytes)}
    (few : entries.length < 2 ^ 64) (some_of : kept.Subperm entries) :
    (payload kind kept).length ≤ (payload other entries).length := by
  have fewer := some_of.length_le
  have count : (Varint.encode (UInt64.ofNat kept.length)).length ≤
      (Varint.encode (UInt64.ofNat entries.length)).length := by
    apply Varint.length_encode_mono
    rw [toNat_count few, toNat_count (fewer.trans_lt few)]
    exact fewer
  have contents : (kept.flatMap writeEntry).length ≤ (entries.flatMap writeEntry).length := by
    obtain ⟨middle, same, sublist⟩ := some_of
    exact (same.flatMap_right writeEntry).length_eq ▸ (sublist.flatMap writeEntry).length_le
  simp only [payload, List.cons_append, List.length_cons, List.length_append]
  omega

theorem shortest_entry {entry : String × Bytes}
    (gives : (readEntry.run frame frames flag input).Gives entry rest) :
    EntryFits entry ∧ (writeEntry entry).length + rest.length ≤ input.length := by
  obtain ⟨name, middle, named, gives⟩ := gives_bind_iff.1 gives
  obtain ⟨data, left, filled, gives⟩ := gives_bind_iff.1 gives
  obtain ⟨rfl, rfl⟩ := gives_pure_iff.1 gives
  obtain ⟨nameFits, nameShort⟩ := shortest_value named
  obtain ⟨dataFits, dataShort⟩ := shortest_value filled
  refine ⟨⟨nameFits, dataFits⟩, ?_⟩
  simp only [writeEntry, List.length_append]
  omega

/-- A map of whatever kind, of entries that take no more octets than were read. -/
theorem gives_read (gives : (read.run frame frames flag input).Gives value rest) :
    ∃ kind entries, entries.length < 2 ^ 64 ∧ (∀ entry ∈ entries, EntryFits entry) ∧
      (payload kind entries).length + rest.length ≤ input.length ∧
      (value = .unorderedMap (.ofList entries) ∨ value = .sortedMap (.ofList entries)) := by
  obtain ⟨kind, behindKind, kinded, gives⟩ := gives_bind_iff.1 gives
  obtain ⟨count, behindCount, counted, gives⟩ := gives_bind_iff.1 gives
  obtain ⟨entries, behind, listed, gives⟩ := gives_bind_iff.1 gives
  rw [readEntries_eq_loop, gives_loop_nil_iff] at listed
  obtain ⟨length, rounds⟩ := listed
  obtain ⟨fits, short⟩ := rounds.shortest shortest_entry
  obtain ⟨-, kindShort⟩ := shortest_value kinded
  obtain ⟨-, countShort⟩ := shortest_value counted
  have few : entries.length < 2 ^ 64 := length ▸ count.toNat_lt
  have written : UInt64.ofNat entries.length = count := by
    rw [length, UInt64.ofNat_toNat]
  have octets : (payload kind entries).length + behind.length ≤ input.length := by
    simp only [payload, written, List.cons_append, List.length_cons, List.length_append]
    simp only [ScalarKind.encode, List.length_singleton] at kindShort countShort
    omega
  split at gives
  · obtain ⟨rfl, rfl⟩ := gives_pure_iff.1 gives
    exact ⟨kind, entries, few, fits, octets, .inl rfl⟩
  · split at gives
    · obtain ⟨rfl, rfl⟩ := gives_pure_iff.1 gives
      exact ⟨kind, entries, few, fits, octets, .inr rfl⟩
    · cases gives.1

end Maps

theorem Addresses.gives_read (gives : (read.run frame frames flag input).Gives value rest) :
    ∃ name, value = .address name ∧ ScalarKind.text.Fits name ∧
      (ScalarKind.text.encode name).length + rest.length ≤ input.length := by
  obtain ⟨name, behind, named, gives⟩ := gives_bind_iff.1 gives
  obtain ⟨rfl, rfl⟩ := gives_pure_iff.1 gives
  exact ⟨name, rfl, shortest_value named⟩

theorem Keys.gives_read (gives : (read.run frame frames flag input).Gives value rest) :
    ∃ data, value = .key data ∧ ScalarKind.bytes.Fits data ∧
      (ScalarKind.bytes.encode data).length + rest.length ≤ input.length := by
  obtain ⟨data, behind, filled, gives⟩ := gives_bind_iff.1 gives
  obtain ⟨rfl, rfl⟩ := gives_pure_iff.1 gives
  exact ⟨data, rfl, shortest_value filled⟩

theorem Packed.gives_read {marshaller : Marshaller}
    (gives : ((read marshaller).run frame frames flag input).Gives value rest) :
    ∃ raw hash, value = .packed ⟨raw, hash, marshaller⟩ ∧ ScalarKind.bytes.Fits raw ∧
      (ScalarKind.bytes.encode raw).length + (ScalarKind.int32.encode hash.toInt32).length +
        rest.length ≤ input.length := by
  obtain ⟨raw, behindRaw, filled, gives⟩ := gives_bind_iff.1 gives
  obtain ⟨hash, behind, hashed, gives⟩ := gives_bind_iff.1 gives
  obtain ⟨rfl, rfl⟩ := gives_pure_iff.1 gives
  obtain ⟨fits, rawShort⟩ := shortest_value filled
  obtain ⟨-, hashShort⟩ := shortest_value hashed
  refine ⟨raw, hash.toUInt32, rfl, fits, ?_⟩
  have same : hash.toUInt32.toInt32 = hash := rfl
  rw [same]
  omega

namespace Commands

theorem gives_read (gives : ((read .asGiven).run frame frames flag input).Gives value rest) :
    ∃ command, value = .command command ∧ command.parameters.length < 2 ^ 64 ∧
      (∀ parameter ∈ command.parameters, ScalarKind.bytes.Fits parameter) ∧
      (payload command).length + rest.length ≤ input.length := by
  obtain ⟨id, behindId, named, gives⟩ := gives_bind_iff.1 gives
  obtain ⟨count, behindCount, counted, gives⟩ := gives_bind_iff.1 gives
  obtain ⟨parameters, behind, listed, gives⟩ := gives_bind_iff.1 gives
  rw [readParameters_eq_loop, gives_loop_nil_iff] at listed
  obtain ⟨length, rounds⟩ := listed
  obtain ⟨fits, short⟩ := rounds.shortest shortest_value
  obtain ⟨command, left, made, gives⟩ := gives_bind_iff.1 gives
  obtain ⟨rfl, rfl⟩ := gives_pure_iff.1 made
  obtain ⟨rfl, rfl⟩ := gives_pure_iff.1 gives
  obtain ⟨-, idShort⟩ := shortest_value named
  obtain ⟨-, countShort⟩ := shortest_value counted
  have few : parameters.length < 2 ^ 64 := length ▸ count.toNat_lt
  have written : UInt64.ofNat parameters.length = count := by
    rw [length, UInt64.ofNat_toNat]
  refine ⟨⟨id, parameters⟩, rfl, few, fits, ?_⟩
  simp only [payload, written, List.cons_append, List.length_cons, List.length_append]
  simp only [ScalarKind.encode, List.length_singleton] at idShort countShort
  omega

end Commands

/-- A nested frame that must hold an address does, or nothing is read. -/
theorem Addresses.gives_readNested_iff {name : String} :
    (readNested.run frame frames flag input).Gives name rest ↔
      (frame input).Gives (.address name) rest := by
  simp [readNested_eq, gives_nameOf_iff]

theorem Keys.gives_readNested_iff {data : Bytes} :
    (readNested.run frame frames flag input).Gives data rest ↔
      (frame input).Gives (.key data) rest := by
  simp [readNested_eq, gives_dataOf_iff]

theorem Transactions.gives_read (gives : (read.run frame frames flag input).Gives value rest) :
    ∃ number inner, (ScalarKind.varint64.encode number).length + 1 + inner.length ≤ input.length ∧
      (value = .transaction number none true ∧ inner = rest ∨
        ∃ name, value = .transaction number (some name) true ∧
          (frame inner).Gives (.address name) rest) := by
  obtain ⟨number, behind, numbered, gives⟩ := gives_bind_iff.1 gives
  obtain ⟨owned, inner, marked, gives⟩ := gives_bind_iff.1 gives
  obtain ⟨-, numberShort⟩ := shortest_value numbered
  obtain ⟨-, markShort⟩ := shortest_value marked
  simp only [ScalarKind.encode, List.length_singleton] at markShort
  refine ⟨number, inner, by omega, ?_⟩
  cases owned with
  | false =>
    obtain ⟨rfl, rfl⟩ := gives_pure_iff.1 gives
    exact .inl ⟨rfl, rfl⟩
  | true =>
    obtain ⟨name, left, nested, gives⟩ := gives_bind_iff.1 gives
    obtain ⟨rfl, rfl⟩ := gives_pure_iff.1 gives
    exact .inr ⟨name, rfl, Addresses.gives_readNested_iff.1 nested⟩

theorem Successes.gives_read (gives : (read.run frame frames flag input).Gives value rest) :
    ∃ inner, 1 + inner.length ≤ input.length ∧
      (value = .emptySuccess ∧ inner = rest ∨
        ∃ carried, value = .success carried ∧ (frame inner).Gives carried rest) := by
  obtain ⟨carrying, inner, marked, gives⟩ := gives_bind_iff.1 gives
  obtain ⟨-, markShort⟩ := shortest_value marked
  simp only [ScalarKind.encode, List.length_singleton] at markShort
  refine ⟨inner, markShort, ?_⟩
  cases carrying with
  | false =>
    obtain ⟨rfl, rfl⟩ := gives_pure_iff.1 gives
    exact .inl ⟨rfl, rfl⟩
  | true =>
    obtain ⟨carried, left, nested, gives⟩ := gives_bind_iff.1 gives
    obtain ⟨rfl, rfl⟩ := gives_pure_iff.1 gives
    exact .inr ⟨carried, rfl, gives_nested_iff.1 nested⟩

theorem ImmortalEntries.gives_read (gives : (read.run frame frames flag input).Gives value rest) :
    ∃ key data behind, value = .immortalEntry key data ∧ (frame input).Gives (.key key) behind ∧
      ScalarKind.bytes.Fits data ∧
      (ScalarKind.bytes.encode data).length + rest.length ≤ behind.length := by
  obtain ⟨key, behind, nested, gives⟩ := gives_bind_iff.1 gives
  obtain ⟨data, left, filled, gives⟩ := gives_bind_iff.1 gives
  obtain ⟨rfl, rfl⟩ := gives_pure_iff.1 gives
  exact ⟨key, data, behind, rfl, Keys.gives_readNested_iff.1 nested, shortest_value filled⟩

theorem MortalEntries.gives_read (gives : (read.run frame frames flag input).Gives value rest) :
    ∃ entry behind, value = .mortalEntry entry ∧ (frame input).Gives (.key entry.key) behind ∧
      ScalarKind.bytes.Fits entry.value ∧
      (ScalarKind.bytes.encode entry.value).length +
        (ScalarKind.int64.encode entry.created).length +
        (ScalarKind.int64.encode entry.lifespan).length + rest.length ≤ behind.length := by
  obtain ⟨key, behind, nested, gives⟩ := gives_bind_iff.1 gives
  obtain ⟨data, behindData, filled, gives⟩ := gives_bind_iff.1 gives
  obtain ⟨created, behindCreated, begun, gives⟩ := gives_bind_iff.1 gives
  obtain ⟨lifespan, left, lasting, gives⟩ := gives_bind_iff.1 gives
  obtain ⟨rfl, rfl⟩ := gives_pure_iff.1 gives
  obtain ⟨fits, dataShort⟩ := shortest_value filled
  obtain ⟨-, createdShort⟩ := shortest_value begun
  obtain ⟨-, lifespanShort⟩ := shortest_value lasting
  refine ⟨⟨key, data, created, lifespan⟩, behind, rfl, Keys.gives_readNested_iff.1 nested, fits, ?_⟩
  dsimp only
  omega

end Codec

/-- An object in the form that reading gives it: another reading changes nothing about it, and its
frame is no deeper than the levels that there were and no longer than what was consumed. -/
structure Object.Normal (services : Services) (levels : Nat) (input rest : Bytes)
    (value : Object) : Prop where
  builtIn : value.BuiltIn
  received : value.received services = value
  shallow : value.span ≤ levels
  short : value.frame.length + rest.length ≤ input.length

namespace Object

variable {services : Services} {levels : Nat} {input rest : Bytes} {a b : Object}

theorem SameContents.received_eq (same : a.SameContents b) (received : a.received services = a) :
    b.received services = b := by
  induction same with
  | refl object => exact received
  | unorderedMap same => rfl
  | success inner ih => exact congrArg _ (ih (Object.success.inj received))

theorem SameContents.length_frame_eq (same : a.SameContents b) :
    a.frame.length = b.frame.length := by
  induction same with
  | refl object => rfl
  | unorderedMap same =>
    have listed := FiniteMap.entries_perm same
    simp only [frame, Maps.payload, List.length_cons, List.cons_append, List.length_append,
      listed.length_eq, (listed.flatMap_right Maps.writeEntry).length_eq]
  | success inner ih => simp only [frame, List.length_cons, List.length_append, ih]

theorem Normal.listed (normal : a.Normal services levels input rest) (same : a.SameContents b) :
    b.Normal services levels input rest where
  builtIn := same.builtIn normal.builtIn
  received := same.received_eq normal.received
  shallow := same.span_eq ▸ normal.shallow
  short := same.length_frame_eq ▸ normal.short

end Object

namespace Codec

variable {services : Services} {levels : Nat} {frame : Bytes → Decoding Object} {frames : Nat}
  {flag : Bool} {input payload rest : Bytes} {value : Object}

theorem Maps.normal (gives : (read.run frame frames flag payload).Gives value rest)
    (behind : payload.length < input.length) : value.Normal services (levels + 1) input rest := by
  obtain ⟨kind, entries, few, fits, short, rfl | rfl⟩ := gives_read gives
  · have kept := (FiniteMap.entries_ofList_sublist entries).subperm
    have shorter := length_payload_le unorderedKind kind few kept
    refine ⟨.unorderedMap (kept.length_le.trans_lt few) fun entry mem =>
      fits entry (kept.subset mem), rfl, Nat.le_add_left .., ?_⟩
    rw [Object.frame, List.length_cons]
    omega
  · have kept := SortedMap.entries_ofList_subperm entries
    have shorter := length_payload_le sortedKind kind few kept
    refine ⟨.sortedMap (kept.length_le.trans_lt few) fun entry mem =>
      fits entry (kept.subset mem), rfl, Nat.le_add_left .., ?_⟩
    rw [Object.frame, List.length_cons]
    omega

theorem Addresses.normal (gives : (read.run frame frames flag payload).Gives value rest)
    (behind : payload.length < input.length) : value.Normal services (levels + 1) input rest := by
  obtain ⟨name, rfl, fits, short⟩ := gives_read gives
  refine ⟨.address fits, rfl, Nat.le_add_left .., ?_⟩
  rw [Object.frame, List.length_cons]
  omega

theorem Transactions.normal
    (inner : ∀ {input value rest}, (frame input).Gives value rest →
      value.Normal services levels input rest)
    (gives : (read.run frame frames flag payload).Gives value rest)
    (behind : payload.length < input.length) : value.Normal services (levels + 1) input rest := by
  obtain ⟨number, left, short, ⟨rfl, rfl⟩ | ⟨name, rfl, nested⟩⟩ := gives_read gives
  · refine ⟨.transaction (by simp), rfl, Nat.le_add_left .., ?_⟩
    simp only [Object.frame, List.length_cons, List.length_append, ScalarKind.encode,
      List.length_nil] at short ⊢
    omega
  · obtain ⟨builtIn, -, shallow, nestedShort⟩ := inner nested
    cases builtIn with
    | address fits =>
      refine ⟨.transaction (by simpa using fits), rfl, Nat.succ_le_succ shallow, ?_⟩
      simp only [Object.frame, List.length_cons, List.length_append] at nestedShort ⊢
      simp only [ScalarKind.encode, List.length_cons, List.length_nil] at short nestedShort ⊢
      omega

theorem Packed.normal
    (gives : ((read services.marshaller).run frame frames flag payload).Gives value rest)
    (behind : payload.length < input.length) : value.Normal services (levels + 1) input rest := by
  obtain ⟨raw, hash, rfl, fits, short⟩ := gives_read gives
  refine ⟨.packed fits, rfl, Nat.le_add_left .., ?_⟩
  simp only [Object.frame, List.length_cons, List.length_append]
  omega

theorem Successes.normal
    (inner : ∀ {input value rest}, (frame input).Gives value rest →
      value.Normal services levels input rest)
    (gives : (read.run frame frames flag payload).Gives value rest)
    (behind : payload.length < input.length) : value.Normal services (levels + 1) input rest := by
  obtain ⟨left, short, ⟨rfl, rfl⟩ | ⟨carried, rfl, nested⟩⟩ := gives_read gives
  · refine ⟨.emptySuccess, rfl, Nat.le_add_left .., ?_⟩
    simp only [Object.frame, List.length_cons, ScalarKind.encode, List.length_nil]
    omega
  · obtain ⟨builtIn, received, shallow, nestedShort⟩ := inner nested
    refine ⟨.success builtIn, congrArg _ received, Nat.succ_le_succ shallow, ?_⟩
    simp only [Object.frame, List.length_cons, List.length_append, ScalarKind.encode,
      List.length_nil]
    omega

theorem Commands.normal (gives : ((read .asGiven).run frame frames flag payload).Gives value rest)
    (behind : payload.length < input.length) : value.Normal services (levels + 1) input rest := by
  obtain ⟨command, rfl, few, fits, short⟩ := gives_read gives
  refine ⟨.command few fits, rfl, Nat.le_add_left .., ?_⟩
  rw [Object.frame, List.length_cons]
  omega

theorem Keys.normal (gives : (read.run frame frames flag payload).Gives value rest)
    (behind : payload.length < input.length) : value.Normal services (levels + 1) input rest := by
  obtain ⟨data, rfl, fits, short⟩ := gives_read gives
  refine ⟨.key fits, rfl, Nat.le_add_left .., ?_⟩
  rw [Object.frame, List.length_cons]
  omega

theorem ImmortalEntries.normal
    (inner : ∀ {input value rest}, (frame input).Gives value rest →
      value.Normal services levels input rest)
    (gives : (read.run frame frames flag payload).Gives value rest)
    (behind : payload.length < input.length) : value.Normal services (levels + 1) input rest := by
  obtain ⟨key, data, left, rfl, nested, fits, short⟩ := gives_read gives
  obtain ⟨builtIn, -, shallow, nestedShort⟩ := inner nested
  cases builtIn with
  | key keyFits =>
    refine ⟨.immortalEntry keyFits fits, rfl, Nat.succ_le_succ shallow, ?_⟩
    simp only [Object.frame, List.length_cons, List.length_append] at nestedShort ⊢
    omega

theorem MortalEntries.normal
    (inner : ∀ {input value rest}, (frame input).Gives value rest →
      value.Normal services levels input rest)
    (gives : (read.run frame frames flag payload).Gives value rest)
    (behind : payload.length < input.length) : value.Normal services (levels + 1) input rest := by
  obtain ⟨entry, left, rfl, nested, fits, short⟩ := gives_read gives
  obtain ⟨builtIn, -, shallow, nestedShort⟩ := inner nested
  cases builtIn with
  | key keyFits =>
    refine ⟨.mortalEntry keyFits fits, rfl, Nat.succ_le_succ shallow, ?_⟩
    simp only [Object.frame, List.length_cons, List.length_append] at nestedShort ⊢
    omega

end Codec

namespace Dispatch

variable {dispatch : Dispatch} {services : Services} {cancelled : Bool} {levels : Nat}
  {input payload rest : Bytes} {value : Object}

theorem Opens.length_lt {reader : Binding} (opens : dispatch.Opens reader input payload) :
    payload.length < input.length := by
  obtain ⟨key, header, -⟩ := opens
  obtain ⟨id, behind, first, header⟩ := Reading.andThen_ok_iff.1 header
  obtain ⟨-, short⟩ := ScalarKind.byte.shortest first
  simp only [ScalarKind.encode, List.length_singleton] at short
  split at header
  · obtain ⟨foreign, left, second, header⟩ := Reading.andThen_ok_iff.1 header
    obtain ⟨-, foreignShort⟩ := ScalarKind.varint32.shortest second
    split at header
    · cases header
      omega
    · cases header
  · cases header
    omega

theorem OnlyBuiltIn.normal_readFrame (only : dispatch.OnlyBuiltIn services)
    (asGiven : services.commands = .asGiven)
    (gives : (dispatch.readFrame cancelled levels input).Gives value rest) :
    value.Normal services levels input rest := by
  induction levels generalizing input value rest with
  | zero => cases gives.1
  | succ levels ih =>
    obtain ⟨reader, payload, opens, gives⟩ := exists_opens_of_gives gives
    have header := opens.length_lt
    have builtIn := only.reader opens.choose_spec.2
    simp only [Binding.builtIn, List.mem_cons, List.not_mem_nil, or_false] at builtIn
    rcases builtIn with rfl | rfl | rfl | rfl | rfl | rfl | rfl | rfl | rfl | rfl | rfl
    · exact Maps.normal gives header
    · exact Addresses.normal gives header
    · exact Transactions.normal ih gives header
    · exact Packed.normal gives header
    · exact Successes.normal ih gives header
    · obtain ⟨rfl, rfl⟩ := gives_pure_iff.1 gives
      exact ⟨.failure, rfl, Nat.le_add_left .., by rw [Nat.add_comm]; exact header⟩
    · obtain ⟨rfl, rfl⟩ := gives_pure_iff.1 gives
      exact ⟨.ignored, rfl, Nat.le_add_left .., by rw [Nat.add_comm]; exact header⟩
    · rw [Commands.codec, asGiven] at gives
      exact Commands.normal gives header
    · exact ImmortalEntries.normal ih gives header
    · exact MortalEntries.normal ih gives header
    · exact Keys.normal gives header

/-- What decodes is written again, in whichever order its maps are listed: in no more octets than
were consumed, and so that the same object comes back. -/
theorem HoldsBuiltIn.decode_normalises (holds : dispatch.HoldsBuiltIn services)
    (only : dispatch.OnlyBuiltIn services) (asGiven : services.commands = .asGiven)
    (cancelled : Bool) (decoded : (dispatch.decode cancelled input).result = .ok value)
    (left : (dispatch.decode cancelled input).rest = rest) {listed : Object}
    (same : value.SameContents listed) (writing reading : Bool) :
    ∃ consumed octets, input = consumed ++ rest ∧
      dispatch.encode writing listed = ⟨.ok (), octets, []⟩ ∧ octets.length ≤ consumed.length ∧
      dispatch.decode reading (octets ++ rest) = ⟨.ok listed, rest, []⟩ := by
  have normal : listed.Normal services Frame.maxNesting input rest :=
    (only.normal_readFrame asGiven ⟨decoded, left⟩).listed same
  obtain ⟨consumed, split⟩ : rest <:+ input :=
    left ▸ dispatch.rest_readFrame_suffix cancelled Frame.maxNesting input
  have again := (holds.travels_frame asGiven reading normal.builtIn).read normal.shallow rest
  rw [normal.received] at again
  refine ⟨consumed, listed.frame, split.symm,
    (holds.travels_frame asGiven writing normal.builtIn).written, ?_, again⟩
  have short := normal.short
  rw [← split, List.length_append] at short
  omega

/-- A map whose count is padded and whose only key comes twice. -/
theorem HoldsBuiltIn.decode_normalises_padded :
    let dispatch := (Registry.empty.start .bare .standard).registry.dispatch
    let input : Bytes := [2, 0, 0x82, 0, 1, 97, 1, 1, 1, 97, 1, 2, 9]
    ∃ value consumed octets, (dispatch.decode true input).result = .ok value ∧
      input = consumed ++ [9] ∧ dispatch.encode false value = ⟨.ok (), octets, []⟩ ∧
      octets.length ≤ consumed.length ∧
      dispatch.decode true (octets ++ [9]) = ⟨.ok value, [9], []⟩ := by
  intro dispatch input
  obtain ⟨done, left⟩ : (dispatch.decode true input).result.isOk = true ∧
      (dispatch.decode true input).rest = [9] := by decide +kernel
  cases decoded : (dispatch.decode true input).result with
  | error error =>
    rw [decoded] at done
    cases done
  | ok value =>
    obtain ⟨consumed, octets, split, written, short, read⟩ :=
      HoldsBuiltIn.decode_normalises Registry.holdsBuiltIn_standard Registry.onlyBuiltIn_standard
        rfl true decoded left (.refl value) false true
    exact ⟨value, consumed, octets, rfl, split, written, short, read⟩

end Dispatch

end CodecRegistry
