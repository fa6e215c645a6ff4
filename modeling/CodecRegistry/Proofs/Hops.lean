import CodecRegistry.Proofs.Standalone

/-! Packed values on their way from node to node. On each hop a value is wrapped in responses,
written, and read on the other side; the copy that arrives is wrapped and sent on. A copy keeps the
bytes and the hash, and takes the marshaller of the registry that read it, so one hop decides what
arrives after any number of them. The frames inside the bytes are counted only when a copy is
unpacked, and then afresh. -/

namespace CodecRegistry

namespace Object

theorem responses_succ (depth : Nat) (value : Object) :
    responses (depth + 1) (some value) = success (responses depth (some value)) := by
  cases depth <;> rfl

theorem span_responses (depth : Nat) (value : Object) :
    (responses depth (some value)).span = depth + value.span := by
  induction depth with
  | zero => simp [responses]
  | succ depth ih =>
    rw [responses_succ, span, ih]
    omega

theorem BuiltIn.responses {value : Object} (builtIn : value.BuiltIn) (depth : Nat) :
    (Object.responses depth (some value)).BuiltIn := by
  induction depth with
  | zero => exact builtIn
  | succ depth ih =>
    rw [responses_succ]
    exact .success ih

theorem received_responses (services : Services) (depth : Nat) (value : Object) :
    (responses depth (some value)).received services =
      responses depth (some (value.received services)) := by
  induction depth with
  | zero => rfl
  | succ depth ih => rw [responses_succ, responses_succ, received, ih]

theorem unwrap_responses (depth : Nat) (value : PackedValue) :
    (responses depth (some (.packed value))).unwrap = (depth, some (.packed value)) := by
  induction depth with
  | zero => rfl
  | succ depth ih =>
    cases depth with
    | zero => rfl
    | succ depth =>
      rw [responses_succ] at ih ⊢
      rw [responses_succ, unwrap, ih]

/-- The packed value inside any number of responses. -/
def packedInside (object : Object) : Except CodingError PackedValue :=
  match object.unwrap.2 with
  | some inner => inner.asPacked
  | none => .error (.wrongType ObjectType.packed.name)

theorem packedInside_responses (depth : Nat) (value : PackedValue) :
    (responses depth (some (.packed value))).packedInside = .ok value := by
  rw [packedInside, unwrap_responses]
  rfl

end Object

/-- A hop: in how many responses the value is wrapped, the tokens of the callers on both sides, and
what stands behind the frame when it is read. -/
structure Hop where
  depth : Nat
  writing : Bool
  reading : Bool
  behind : Bytes

namespace Dispatch

/-- The copy of a packed value that arrives. -/
def hop (dispatch : Dispatch) (hop : Hop) (value : PackedValue) :
    Except CodingError PackedValue := do
  let frame := dispatch.encode hop.writing (.responses hop.depth (some (.packed value)))
  frame.result
  let object ← (dispatch.decode hop.reading (frame.written ++ hop.behind)).result
  object.packedInside

/-- The copies that arrive when each is sent on. -/
def copies (dispatch : Dispatch) : List Hop → PackedValue → Except CodingError (List PackedValue)
  | [], _ => .ok []
  | hop :: rest, value => do
    let copy ← dispatch.hop hop value
    let later ← dispatch.copies rest copy
    pure (copy :: later)

variable {dispatch : Dispatch} {services : Services} {value : PackedValue} {object : Object}

/-- A copy keeps the bytes and the hash, and is unpacked where it arrived. -/
theorem HoldsBuiltIn.hop_eq (holds : dispatch.HoldsBuiltIn services)
    (asGiven : services.commands = .asGiven) (fits : ScalarKind.bytes.Fits value.raw) {hop : Hop}
    (shallow : hop.depth < Frame.maxNesting) :
    dispatch.hop hop value = .ok { value with marshaller := services.marshaller } := by
  have builtIn := (Object.BuiltIn.packed fits).responses hop.depth
  have travels (cancelled : Bool) := holds.travels_frame asGiven cancelled builtIn
  have room : (Object.responses hop.depth (some (.packed value))).span ≤ Frame.maxNesting := by
    rw [Object.span_responses]
    exact shallow
  have arrives : (dispatch.decode hop.reading
      ((Object.responses hop.depth (some (.packed value))).frame ++ hop.behind)).result =
        .ok (.responses hop.depth (some (.packed { value with
          marshaller := services.marshaller }))) := by
    rw [decode, (travels hop.reading).read room, Object.received_responses]
    rfl
  unfold Dispatch.hop
  rw [(travels hop.writing).written]
  simp only [arrives]
  exact Object.packedInside_responses ..

/-- Every hop gives the same copy. -/
theorem HoldsBuiltIn.copies_eq (holds : dispatch.HoldsBuiltIn services)
    (asGiven : services.commands = .asGiven) (fits : ScalarKind.bytes.Fits value.raw)
    {hops : List Hop} (shallow : ∀ hop ∈ hops, hop.depth < Frame.maxNesting) :
    dispatch.copies hops value =
      .ok (List.replicate hops.length { value with marshaller := services.marshaller }) := by
  induction hops generalizing value with
  | nil => rfl
  | cons hop rest ih =>
    obtain ⟨here, later⟩ := List.forall_mem_cons.1 shallow
    have others : dispatch.copies rest { value with marshaller := services.marshaller } = _ :=
      ih fits later
    rw [copies, holds.hop_eq asGiven fits here]
    exact congrArg (Except.map _) others

/-- A built-in object that was packed with the marshaller of its registry goes any number of hops.
Every copy has its bytes and its hash, counts as equal, and gives the object back. Neither the
responses around the copies nor those around earlier ones use up the frames of the object. -/
theorem HoldsBuiltIn.copies_unpack (holds : dispatch.HoldsBuiltIn services)
    (asGiven : services.commands = .asGiven) {version : UInt16}
    (own : services.marshaller = .versioned version) (builtIn : object.BuiltIn)
    (shallow : object.span ≤ Frame.maxNesting)
    (fits : ScalarKind.bytes.Fits (Bytes.bigEndian 2 version.toNat ++ object.frame))
    (packing : Bool) (hops : List Hop) (wrapped : ∀ hop ∈ hops, hop.depth ≤ 127) :
    ∃ packed, PackedValue.ofObject object services.marshaller dispatch packing =
        (.ok packed, []) ∧
      ∃ copies, dispatch.copies hops packed = .ok copies ∧ copies.length = hops.length ∧
        ∀ copy ∈ copies, copy.raw = packed.raw ∧ copy.hash = packed.hash ∧
          copy.sameAs packed = true ∧
          ∀ unpacking, (copy.unpack dispatch unpacking).1 = .ok (object.received services) := by
  have travels (cancelled : Bool) := holds.travels_frame asGiven cancelled builtIn
  let packed := PackedValue.ofRaw (Bytes.bigEndian 2 version.toNat ++ object.frame)
    services.marshaller
  refine ⟨packed, ?_, List.replicate hops.length packed, ?_, List.length_replicate, ?_⟩
  · have buffer : services.marshaller.pack dispatch packing object =
        (.ok (Bytes.bigEndian 2 version.toNat ++ object.frame), []) := by
      rw [own, Marshaller.pack, (travels packing).written]
      rfl
    rw [PackedValue.ofObject, buffer]
    rfl
  · apply holds.copies_eq asGiven fits
    intro hop mem
    exact Nat.lt_succ_of_le (wrapped hop mem)
  · intro copy mem
    rw [(List.mem_replicate.1 mem).2]
    refine ⟨rfl, rfl, decide_eq_true rfl, fun unpacking => ?_⟩
    have whole : (dispatch.decode unpacking object.frame).Gives (object.received services) [] := by
      have read := (travels unpacking).read shallow []
      rw [List.append_nil] at read
      rw [decode, read]
      exact ⟨rfl, rfl⟩
    show (services.marshaller.unpack dispatch unpacking _).1 = _
    rw [own]
    exact Marshaller.unpack_whole whole

/-- An object as deep as a reader goes, on hops that wrap it as deep again. -/
theorem HoldsBuiltIn.copies_unpack_deep :
    let services : Services := ⟨.asGiven, .versioned 1⟩
    let dispatch := (Registry.empty.start services .standard).registry.dispatch
    let object := Object.responses 127 (some .failure)
    let hops : List Hop := [⟨127, false, true, [7]⟩, ⟨127, true, false, []⟩]
    object.span = 128 ∧
    ∃ packed, PackedValue.ofObject object (.versioned 1) dispatch true = (.ok packed, []) ∧
      ∃ copies, dispatch.copies hops packed = .ok copies ∧ copies.length = 2 ∧
        ∀ copy ∈ copies, copy.raw = packed.raw ∧ copy.hash = packed.hash ∧
          copy.sameAs packed = true ∧
          ∀ unpacking, (copy.unpack dispatch unpacking).1 = .ok object := by
  intro services dispatch object hops
  have holds : dispatch.HoldsBuiltIn services :=
    Registry.start_holdsBuiltIn (by decide +kernel) (fun _ mem => absurd mem List.not_mem_nil)
      fun _ mem => absurd mem List.not_mem_nil
  have span : object.span = 128 := Object.span_responses ..
  have builtIn : object.BuiltIn := Object.BuiltIn.failure.responses 127
  have same : object.received services = object := Object.received_responses ..
  have goes := HoldsBuiltIn.copies_unpack holds rfl rfl builtIn span.le (by decide +kernel) true
    hops (by decide)
  rw [same] at goes
  exact ⟨span, goes⟩

end Dispatch

end CodecRegistry
