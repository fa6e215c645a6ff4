import CodecRegistry.Proofs.Grammar
import CodecRegistry.Proofs.Lookup

/-! Reads as a machine carries them out. It takes octets off a buffer, shifts and narrows words and
counts levels, and each of these breaks down when it is asked for too much: the buffer is shorter,
the shift is as wide as the word or pushes a bit out of it, the word does not fit, the count leaves
its range. Reads look before they ask, so carried out in this way they come to what they come to
anyway, and so does a start, which builds codecs under internal ids that must leave the sentinel
alone. -/

namespace CodecRegistry

/-- What a machine cannot do. -/
inductive Breakdown where
  | underrun (wanted left : Nat)
  | farShift (amount : UInt64)
  | lostBits (word amount : UInt64)
  | wideWord (word : UInt64)
  | depthAbove (depth : UInt16)
  | depthBelow
  | sentinelId (id : UInt8)
  deriving DecidableEq, Repr

namespace Guarded

variable {α β : Type}

/-! ## What breaks down -/

/-- Takes so many octets off the front. -/
def octets (count : Nat) (input : Bytes) : Except Breakdown (Bytes × Bytes) :=
  if input.length < count then .error (.underrun count input.length)
  else .ok (input.take count, input.drop count)

def octet : Bytes → Except Breakdown (UInt8 × Bytes)
  | [] => .error (.underrun 1 0)
  | byte :: rest => .ok (byte, rest)

/-- Moves bits to their place, where each of them has to be found again. -/
def shiftLeft (word amount : UInt64) : Except Breakdown UInt64 :=
  if 64 ≤ amount then .error (.farShift amount)
  else if (word <<< amount) >>> amount = word then .ok (word <<< amount)
  else .error (.lostBits word amount)

/-- Cuts a mask down to its upper bits. -/
def shiftRight (mask amount : UInt64) : Except Breakdown UInt64 :=
  if 64 ≤ amount then .error (.farShift amount) else .ok (mask >>> amount)

def narrow (word : UInt64) : Except Breakdown UInt32 :=
  if word ≤ 0xFFFFFFFF then .ok word.toUInt32 else .error (.wideWord word)

/-- Counts a frame that is opened. -/
def deepen (depth : UInt16) : Except Breakdown UInt16 :=
  if depth < 128 then .ok (depth + 1) else .error (.depthAbove depth)

/-- Counts a frame that is closed. -/
def rise (depth : UInt16) : Except Breakdown UInt16 :=
  if 0 < depth then .ok (depth - 1) else .error .depthBelow

/-- Binds a codec to an internal id, which must not be the sentinel. -/
def bindInternal (id : UInt8) (codec : Codec) : Except Breakdown Binding :=
  if id < FrameKey.sentinel then .ok ⟨.internal id, codec⟩ else .error (.sentinelId id)

/-! ## Reads -/

/-- Goes on with what was read, or stops at the failure. -/
def andThen (reading : Except Breakdown (Reading α))
    (next : α → Bytes → Except Breakdown (Reading β)) : Except Breakdown (Reading β) := do
  match ← reading with
  | ⟨.ok value, rest⟩ => next value rest
  | ⟨.error error, rest⟩ => .ok ⟨.error error, rest⟩

def map (f : α → β) (reading : Except Breakdown (Reading α)) : Except Breakdown (Reading β) :=
  andThen reading fun value rest => .ok ⟨.ok (f value), rest⟩

/-- Looks whether there are `needed` octets, and takes `count` of them. Nothing but the caller sees
to it that these are the same. -/
def take (needed count : Nat) (input : Bytes) : Except Breakdown (Reading Bytes) :=
  if input.length < needed then .ok ⟨.error (.truncated needed input.length), input⟩
  else do
    let (front, rest) ← octets count input
    .ok ⟨.ok front, rest⟩

/-- Takes in one byte of a number. The bound for its group is the mask of ones, cut down first to
the width and then to the bits that are left above the place. -/
def step (width : Varint.Width) (soFar : Varint.Partial) (byte : UInt8) :
    Except Breakdown Varint.Step :=
  let group := (byte &&& Varint.groupMask).toUInt64
  if UInt64.ofNat width.bits ≤ soFar.shift then .ok .overflow
  else do
    let mask ← shiftRight 0xFFFFFFFFFFFFFFFF (64 - UInt64.ofNat width.bits)
    let bound ← shiftRight mask soFar.shift
    if bound < group then .ok .overflow
    else do
      let placed ← shiftLeft group soFar.shift
      let value := soFar.value ||| placed
      if byte &&& Varint.continuation = 0 then .ok (.finished value)
      else .ok (.more ⟨value, soFar.shift + 7⟩)

theorem length_of_octet {input rest : Bytes} {byte : UInt8}
    (taken : octet input = .ok (byte, rest)) : rest.length < input.length := by
  cases input with
  | nil => cases taken
  | cons head tail =>
    cases taken
    exact Nat.lt_succ_self _

/-- Looks whether there is another byte, and takes it in. -/
def varintFrom (width : Varint.Width) (soFar : Varint.Partial) (input : Bytes) :
    Except Breakdown (Reading UInt64) :=
  if input.isEmpty then .ok ⟨.error (.truncated 1 0), input⟩
  else
    match _ : octet input with
    | .error breakdown => .error breakdown
    | .ok (byte, rest) =>
      match step width soFar byte with
      | .error breakdown => .error breakdown
      | .ok .overflow => .ok ⟨.error (.varintOverflow width.bits), rest⟩
      | .ok (.finished value) => .ok ⟨.ok value, rest⟩
      | .ok (.more soFar) => varintFrom width soFar rest
termination_by input.length
decreasing_by exact length_of_octet ‹_›

def varint (width : Varint.Width) (input : Bytes) : Except Breakdown (Reading UInt64) :=
  varintFrom width ⟨0, 0⟩ input

/-- Looks whether there are `needed` octets, and takes a number of `width` octets. -/
def fixed (needed width : Nat) (input : Bytes) : Except Breakdown (Reading Nat) :=
  map Bytes.ofBigEndian (take needed width input)

def sized (input : Bytes) : Except Breakdown (Reading Bytes) :=
  andThen (varint .w64 input) fun count rest => take count.toNat count.toNat rest

/-- Reads a primitive value. -/
def read : (kind : ScalarKind) → Bytes → Except Breakdown (Reading kind.Carrier)
  | .byte, input => map UInt8.ofNat (fixed 1 1 input)
  | .bool, input => andThen (fixed 1 1 input) fun marker rest =>
    match marker with
    | 0 => .ok ⟨.ok false, rest⟩
    | 1 => .ok ⟨.ok true, rest⟩
    | _ => .ok ⟨.error (.malformed (.booleanMarker (UInt8.ofNat marker))), rest⟩
  | .word16, input => map UInt16.ofNat (fixed 2 2 input)
  | .int32, input => map (fun word => (UInt32.ofNat word).toInt32) (fixed 4 4 input)
  | .int64, input => map (fun word => (UInt64.ofNat word).toInt64) (fixed 8 8 input)
  | .varint32, input => andThen (varint .w32 input) fun word rest => do
    let number ← narrow word
    .ok ⟨.ok number, rest⟩
  | .varint64, input => varint .w64 input
  | .bytes, input => sized input
  | .text, input => andThen (sized input) fun octets rest =>
    match Utf8.decode octets with
    | .ok text => .ok ⟨.ok text, rest⟩
    | .error fault => .ok ⟨.error (.malformed (.text fault)), rest⟩

/-- Reads the key that a frame's header stands for. -/
def readKey (input : Bytes) : Except Breakdown (Reading FrameKey) :=
  andThen (read .byte input) fun id rest =>
    if id = FrameKey.sentinel then
      andThen (read .varint32 rest) fun id rest =>
        if id ≤ FrameKey.largestForeignId then .ok ⟨.ok (.foreign id), rest⟩
        else .ok ⟨.error (.malformed (.foreignId id)), rest⟩
    else .ok ⟨.ok (.internal id), rest⟩

/-! ## They come to the same -/

theorem andThen_eq {reading : Reading α} {next : α → Bytes → Except Breakdown (Reading β)}
    {plain : α → Bytes → Reading β}
    (same : ∀ value rest, reading = ⟨.ok value, rest⟩ → next value rest = .ok (plain value rest)) :
    andThen (.ok reading) next = .ok (reading.andThen plain) := by
  obtain ⟨result, rest⟩ := reading
  cases result with
  | ok value => exact same value rest rfl
  | error error => rfl

theorem map_eq (f : α → β) (reading : Reading α) : map f (.ok reading) = .ok (reading.map f) := by
  rw [Reading.map_eq_andThen]
  exact andThen_eq fun _ _ _ => rfl

/-- The count that was looked for is the one that is taken, or the octets may run out. -/
theorem take_eq {needed count : Nat} (agree : needed = count) (input : Bytes) :
    take needed count input = .ok (.take count input) := by
  subst agree
  unfold take Reading.take
  split
  · rename_i short
    rw [Bytes.split?_eq_none_iff.2 short]
  · rename_i enough
    simp only [octets, enough, if_false, Bytes.split?, List.length_take]
    rw [if_pos (Nat.min_eq_left (Nat.not_lt.1 enough))]
    rfl

example : take 1 2 [7] = .error (.underrun 2 1) := rfl

theorem shiftRight_eq (mask : UInt64) {amount : UInt64} (near : amount.toNat < 64) :
    shiftRight mask amount = .ok (mask >>> amount) := by
  rw [shiftRight, if_neg]
  rw [UInt64.le_iff_toNat_le]
  exact Nat.not_le.2 near

theorem shiftLeft_eq {word amount : UInt64} (near : amount.toNat < 64)
    (fits : word.toNat * 2 ^ amount.toNat < 2 ^ 64) :
    shiftLeft word amount = .ok (word <<< amount) := by
  have back : (word <<< amount) >>> amount = word := by
    rw [← UInt64.toNat_inj, UInt64.toNat_shiftRight, UInt64.toNat_shiftLeft, Nat.mod_eq_of_lt near,
      Nat.shiftLeft_eq, Nat.mod_eq_of_lt fits, Nat.shiftRight_eq_div_pow,
      Nat.mul_div_cancel _ (Nat.two_pow_pos _)]
  rw [shiftLeft, if_neg, if_pos back]
  rw [UInt64.le_iff_toNat_le]
  exact Nat.not_le.2 near

example : shiftLeft 3 63 = .error (.lostBits 3 63) := by decide

/-- The comparison before the shift is what keeps the bits of a group. -/
theorem step_eq (width : Varint.Width) (soFar : Varint.Partial) (byte : UInt8) :
    step width soFar byte = .ok (Varint.step width soFar byte) := by
  have cut : shiftRight 0xFFFFFFFFFFFFFFFF (64 - UInt64.ofNat width.bits) = .ok width.largest := by
    cases width <;> rfl
  unfold step Varint.step
  dsimp only
  split
  · rename_i full
    rw [if_pos (.inl full)]
  · rename_i partway
    have room : soFar.shift.toNat < width.bits := by
      rw [UInt64.le_iff_toNat_le, width.toNat_ofNat_bits] at partway
      exact Nat.not_le.1 partway
    have near := room.trans_le width.bits_le
    simp only [cut, shiftRight_eq _ near, bind, Except.bind]
    split
    · rename_i above
      rw [if_pos (.inr above)]
    · rename_i below
      have fits : (byte &&& Varint.groupMask).toUInt64.toNat * 2 ^ soFar.shift.toNat < 2 ^ 64 := by
        rw [Varint.exceeds_iff byte room, Nat.not_le, ← Varint.toNat_group] at below
        exact below.trans_le (Nat.pow_le_pow_right (by decide) width.bits_le)
      rw [shiftLeft_eq near fits, if_neg (not_or.2 ⟨partway, below⟩)]
      dsimp only
      split <;> rfl

theorem varintFrom_eq (width : Varint.Width) (soFar : Varint.Partial) (input : Bytes) :
    varintFrom width soFar input = .ok (Varint.decodeFrom width soFar input) := by
  induction input generalizing soFar with
  | nil =>
    rw [varintFrom]
    rfl
  | cons byte rest ih =>
    rw [varintFrom, Varint.decodeFrom]
    simp only [List.isEmpty_cons, octet, step_eq]
    cases Varint.step width soFar byte with
    | overflow => rfl
    | finished value => rfl
    | more next => exact ih next

theorem varint_eq (width : Varint.Width) (input : Bytes) :
    varint width input = .ok (Varint.decode width input) := varintFrom_eq width ⟨0, 0⟩ input

theorem fixed_eq {needed width : Nat} (agree : needed = width) (input : Bytes) :
    fixed needed width input = .ok (readFixed width input) := by
  rw [fixed, take_eq agree, map_eq]
  rfl

theorem sized_eq (input : Bytes) : sized input = .ok (readSized input) := by
  rw [sized, varint_eq]
  exact andThen_eq fun count rest _ => take_eq rfl rest

theorem narrow_eq {input rest : Bytes} {word : UInt64}
    (number : Varint.decode .w32 input = ⟨.ok word, rest⟩) : narrow word = .ok word.toUInt32 := by
  have small : word.toNat < 2 ^ 32 := by
    cases Varint.decode_eq_iff.1 number with
    | number goesOn ends few small sum => exact sum ▸ small
  rw [narrow, if_pos]
  rw [UInt64.le_iff_toNat_le]
  exact Nat.le_of_lt_succ small

theorem read_eq (kind : ScalarKind) (input : Bytes) :
    read kind input = .ok (kind.decode input) := by
  cases kind with
  | byte => rw [read, fixed_eq rfl, map_eq, ScalarKind.decode]
  | bool =>
    rw [read, fixed_eq rfl]
    refine andThen_eq fun marker rest _ => ?_
    rcases marker with _ | _ | marker <;> rfl
  | word16 => rw [read, fixed_eq rfl, map_eq, ScalarKind.decode]
  | int32 => rw [read, fixed_eq rfl, map_eq, ScalarKind.decode]
  | int64 => rw [read, fixed_eq rfl, map_eq, ScalarKind.decode]
  | varint32 =>
    rw [read, varint_eq, ScalarKind.decode, Reading.map_eq_andThen]
    refine andThen_eq fun word rest number => ?_
    rw [narrow_eq number]
    rfl
  | varint64 => exact varint_eq .w64 input
  | bytes => exact sized_eq input
  | text =>
    rw [read, sized_eq]
    refine andThen_eq fun octets rest _ => ?_
    cases Utf8.decode octets <;> rfl

theorem readKey_eq (input : Bytes) : readKey input = .ok (Frame.readKey input) := by
  rw [readKey, read_eq]
  refine andThen_eq fun id rest _ => ?_
  split
  · rw [read_eq]
    refine andThen_eq fun id rest _ => ?_
    split <;> rfl
  · rfl

/-! ## Starts -/

/-- Binds the codec of a declaration to its internal id. -/
def loadDeclaration (catalog : Catalog) (services : Services) (declaration : Declaration)
    (dispatch : Dispatch) : Except Breakdown Loading :=
  let codec := declaration.make services
  match Identifier.checkInternal codec.descriptor.id codec.implementation with
  | .error error => .ok ⟨.error error, dispatch, []⟩
  | .ok id =>
    match catalog.handledTypes codec with
    | .ok types => do
      let binding ← bindInternal id codec
      .ok (Dispatch.register binding types dispatch)
    | .error (.unresolvedType name typeName) =>
      if declaration.isOptional then
        .ok ⟨.ok (), dispatch, [.optionalSkipped declaration.name (.unresolvedType name typeName)]⟩
      else .ok ⟨.error (.unresolvedType name typeName), dispatch, []⟩
    | .error error => .ok ⟨.error error, dispatch, []⟩

/-- Fills in one item after the other. -/
def each (step : α → Dispatch → Except Breakdown Loading) :
    List α → Dispatch → Except Breakdown Loading
  | [], dispatch => .ok ⟨.ok (), dispatch, []⟩
  | item :: rest, dispatch => do
    let loading ← step item dispatch
    match loading.result with
    | .error _ => .ok loading
    | .ok () => do
      let later ← each step rest loading.dispatch
      .ok { later with log := loading.log ++ later.log }

def load (registry : Registry) (services : Services) (configuration : Configuration) :
    Except Breakdown Loading := do
  let declarations := Declaration.firstOfEachName [] (Declaration.builtIn ++ registry.declared)
  let loading ← each (loadDeclaration registry.catalog services) declarations .empty
  .ok (loading.andThen <|
    Loading.each (Registry.loadEntry registry.catalog services) configuration.entries.zipIdx)

def start (registry : Registry) (services : Services) (configuration : Configuration) :
    Except Breakdown (Outcome (Except SetupError Unit)) :=
  if registry.isRunning then .ok ⟨.error .alreadyStarted, registry, []⟩
  else do
    let loading ← load registry services configuration
    match loading.result with
    | .error error => .ok ⟨.error error, registry, loading.log⟩
    | .ok () =>
      .ok ⟨.ok (), { registry with dispatch := { loading.dispatch with isRunning := true } },
        loading.log ++ Registry.startEvents loading.dispatch configuration.clusterName⟩

theorem loadDeclaration_eq (catalog : Catalog) (services : Services) (declaration : Declaration)
    (dispatch : Dispatch) : loadDeclaration catalog services declaration dispatch =
      .ok (Registry.loadDeclaration catalog services declaration dispatch) := by
  unfold loadDeclaration Registry.loadDeclaration
  dsimp only
  cases accepted : Identifier.checkInternal (declaration.make services).descriptor.id
      (declaration.make services).implementation with
  | error error => rfl
  | ok id =>
    have below : id < FrameKey.sentinel := Identifier.checkInternal_valid accepted
    dsimp only
    cases catalog.handledTypes (declaration.make services) with
    | ok types =>
      rw [bindInternal, if_pos below]
      rfl
    | error error =>
      cases error with
      | unresolvedType name typeName =>
        dsimp only
        split <;> rfl
      | _ => rfl

theorem each_eq {step : α → Dispatch → Except Breakdown Loading} {plain : α → Dispatch → Loading}
    (same : ∀ item dispatch, step item dispatch = .ok (plain item dispatch)) (items : List α)
    (dispatch : Dispatch) : each step items dispatch = .ok (Loading.each plain items dispatch) := by
  induction items generalizing dispatch with
  | nil => rfl
  | cons item rest ih =>
    simp only [each, Loading.each, Loading.andThen, same, bind, Except.bind]
    cases (plain item dispatch).result with
    | error error => rfl
    | ok _ => simp only [ih]

theorem load_eq (registry : Registry) (services : Services) (configuration : Configuration) :
    load registry services configuration = .ok (registry.load services configuration) := by
  rw [load, each_eq (loadDeclaration_eq registry.catalog services)]
  rfl

theorem start_eq (registry : Registry) (services : Services) (configuration : Configuration) :
    start registry services configuration = .ok (registry.start services configuration) := by
  unfold start Registry.start
  cases registry.isRunning with
  | true => rfl
  | false =>
    simp only [load_eq, bind, Except.bind]
    generalize registry.load services configuration = loading
    cases loading.result <;> rfl

end Guarded

end CodecRegistry
