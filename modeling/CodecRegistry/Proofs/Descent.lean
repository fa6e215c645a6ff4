import CodecRegistry.Proofs.Guarded

/-! Reading as a descent. The machine that reads a frame keeps, for every frame that is open, how
the code around it goes on, and beside them a counter that it raises when it opens a frame and
lowers when it closes one, whatever became of the frame. Programs see only the counter. It is right
about the frames whatever the programs do, a failed frame after which a program reads on included,
and so the machine comes to what reading level by level comes to, without breaking down. -/

namespace CodecRegistry

/-- How the code around a frame goes on once the frame is read. -/
abbrev Resumption := Except CodingError Object → ReadProgram Object

/-- The binding that reads the frame behind a header. -/
def Dispatch.readerOf (dispatch : Dispatch) (cancelled : Bool) :
    Reading FrameKey → Decoding Binding
  | ⟨.error error, rest⟩ => ⟨.error error, rest, []⟩
  | ⟨.ok key, rest⟩ =>
    match dispatch.readers.get? key with
    | none => ⟨.error (dispatch.readerMiss cancelled key), rest, dispatch.readerMissEvents key⟩
    | some reader => ⟨.ok reader, rest, []⟩

/-- A machine between two reads: what the code in the innermost frame is still to do, and the open
frames from the innermost one outwards. -/
structure Descent where
  program : ReadProgram Object
  frames : List Resumption
  depth : UInt16
  rest : Bytes
  log : List Event

namespace Descent

/-- Nothing is read, and the caller's program is in no frame. -/
def start (program : ReadProgram Object) (input : Bytes) : Descent := ⟨program, [], 0, input, []⟩

/-- Opens a frame and looks for its reader. A frame that has none fails as if its reader did. -/
def enter (dispatch : Dispatch) (cancelled : Bool) (next : Resumption) (state : Descent) :
    Except Breakdown Descent :=
  if 128 ≤ state.depth then
    .ok { state with program := next (.error (.nestingTooDeep Frame.maxNesting)) }
  else do
    let depth ← Guarded.deepen state.depth
    let header ← Guarded.readKey state.rest
    let found := dispatch.readerOf cancelled header
    .ok ⟨ReadProgram.ofExcept found.result >>= fun reader => reader.codec.read,
      next :: state.frames, depth, found.rest, state.log ++ found.log⟩

/-- Closes the innermost frame and hands over what it came to. -/
def leave (result : Except CodingError Object) (state : Descent) : Except Breakdown Descent :=
  match state.frames with
  | [] => .ok state
  | resume :: outer => do
    let depth ← Guarded.rise state.depth
    .ok { state with program := resume result, frames := outer, depth }

def step (dispatch : Dispatch) (cancelled : Bool) (state : Descent) : Except Breakdown Descent :=
  match state.program with
  | .done value => leave (.ok value) state
  | .fail error => leave (.error error) state
  | .scalar kind next => do
    let reading ← Guarded.read kind state.rest
    .ok { state with program := next reading.result, rest := reading.rest }
  | .object next => enter dispatch cancelled next state
  | .depth next => .ok { state with program := next state.depth.toNat }
  | .remaining next => .ok { state with program := next state.rest.length }
  | .cancelled next => .ok { state with program := next cancelled }

/-- Takes so many steps. -/
def run (dispatch : Dispatch) (cancelled : Bool) : Nat → Descent → Except Breakdown Descent
  | 0, state => .ok state
  | count + 1, state => do
    let later ← step dispatch cancelled state
    run dispatch cancelled count later

/-- The machine after a read, with the code that asked for it gone on. -/
def resumed (state : Descent) (next : Resumption) (decoding : Decoding Object) : Descent :=
  { state with
    program := next decoding.result
    rest := decoding.rest
    log := state.log ++ decoding.log }

/-- The counter is right, and within its range. -/
structure Sound (state : Descent) : Prop where
  counted : state.depth.toNat = state.frames.length
  bounded : state.frames.length ≤ Frame.maxNesting

variable {dispatch : Dispatch} {cancelled : Bool} {frames outer inner : List Resumption}
  {next : Resumption} {depth : UInt16} {rest : Bytes} {log : List Event} {state : Descent}

/-! ## One step -/

theorem toNat_deeper (low : depth < 128) : (depth + 1).toNat = depth.toNat + 1 := by
  rw [UInt16.toNat_add]
  exact Nat.mod_eq_of_lt (Nat.lt_of_le_of_lt (UInt16.lt_iff_toNat_lt.1 low) (by decide))

theorem toNat_higher (nested : 0 < depth) : (depth - 1).toNat = depth.toNat - 1 :=
  UInt16.toNat_sub_of_le depth 1 (UInt16.le_iff_toNat_le.2 (UInt16.lt_iff_toNat_lt.1 nested))

theorem step_scalar (kind : ScalarKind)
    (next : Except CodingError kind.Carrier → ReadProgram Object) :
    step dispatch cancelled ⟨.scalar kind next, frames, depth, rest, log⟩ =
      .ok ⟨next (kind.decode rest).result, frames, depth, (kind.decode rest).rest, log⟩ := by
  simp only [step, Guarded.read_eq]
  rfl

theorem step_refused (full : 128 ≤ depth) :
    step dispatch cancelled ⟨.object next, frames, depth, rest, log⟩ =
      .ok ⟨next (.error (.nestingTooDeep Frame.maxNesting)), frames, depth, rest, log⟩ :=
  if_pos full

theorem step_open (low : depth < 128) :
    let found := dispatch.readerOf cancelled (Frame.readKey rest)
    step dispatch cancelled ⟨.object next, frames, depth, rest, log⟩ =
      .ok ⟨ReadProgram.ofExcept found.result >>= fun reader => reader.codec.read,
        next :: frames, depth + 1, found.rest, log ++ found.log⟩ := by
  have deepen : Guarded.deepen depth = .ok (depth + 1) := if_pos low
  simp only [step, enter, if_neg (UInt16.not_le.2 low), deepen, Guarded.readKey_eq]
  rfl

theorem step_close (nested : 0 < depth) (result : Except CodingError Object) :
    step dispatch cancelled ⟨.ofExcept result, next :: frames, depth, rest, log⟩ =
      .ok ⟨next result, frames, depth - 1, rest, log⟩ := by
  have rise : Guarded.rise depth = .ok (depth - 1) := if_pos nested
  cases result with
  | ok value =>
    simp only [ReadProgram.ofExcept, step, leave, rise]
    rfl
  | error error =>
    simp only [ReadProgram.ofExcept, step, leave, rise]
    rfl

theorem step_ended (result : Except CodingError Object) :
    step dispatch cancelled ⟨.ofExcept result, [], depth, rest, log⟩ =
      .ok ⟨.ofExcept result, [], depth, rest, log⟩ := by
  cases result <;> rfl

/-! ## The counter is right -/

theorem sound_start (program : ReadProgram Object) (input : Bytes) :
    (start program input).Sound where
  counted := rfl
  bounded := Nat.zero_le _

theorem Sound.low_iff (sound : state.Sound) : state.depth < 128 ↔ state.frames.length < 128 := by
  rw [UInt16.lt_iff_toNat_lt, sound.counted]
  rfl

theorem Sound.nested (sound : state.Sound) (inFrame : state.frames ≠ []) : 0 < state.depth := by
  rw [UInt16.lt_iff_toNat_lt, sound.counted]
  exact List.length_pos_iff.2 inFrame

theorem Sound.opened (sound : Sound ⟨.object next, frames, depth, rest, log⟩) (low : depth < 128)
    {program : ReadProgram Object} {payload : Bytes} {later : List Event} :
    Sound ⟨program, next :: frames, depth + 1, payload, later⟩ where
  counted := (toNat_deeper low).trans (congrArg Nat.succ sound.counted)
  bounded := sound.low_iff.1 low

theorem Sound.closed {program : ReadProgram Object}
    (sound : Sound ⟨program, next :: frames, depth, rest, log⟩) {later : ReadProgram Object} :
    Sound ⟨later, frames, depth - 1, rest, log⟩ where
  counted :=
    (toNat_higher (sound.nested (List.cons_ne_nil _ _))).trans (congrArg Nat.pred sound.counted)
  bounded := Nat.le_of_succ_le sound.bounded

/-- A step does not break down, and leaves the counter right. -/
theorem Sound.step (sound : state.Sound) :
    ∃ later, step dispatch cancelled state = .ok later ∧ later.Sound := by
  obtain ⟨program, frames, depth, rest, log⟩ := state
  have ends (result : Except CodingError Object)
      (sound : Sound ⟨.ofExcept result, frames, depth, rest, log⟩) :
      ∃ later, Descent.step dispatch cancelled ⟨.ofExcept result, frames, depth, rest, log⟩ =
        .ok later ∧ later.Sound := by
    cases frames with
    | nil => exact ⟨_, step_ended result, sound⟩
    | cons next frames =>
      have nested := sound.nested (List.cons_ne_nil _ _)
      exact ⟨_, step_close nested result, sound.closed⟩
  cases program with
  | done value => exact ends (.ok value) sound
  | fail error => exact ends (.error error) sound
  | scalar kind next => exact ⟨_, step_scalar kind next, sound.counted, sound.bounded⟩
  | object next =>
    rcases UInt16.lt_or_le depth 128 with low | full
    · exact ⟨_, step_open low, sound.opened low⟩
    · exact ⟨_, step_refused full, sound.counted, sound.bounded⟩
  | depth next => exact ⟨_, rfl, sound.counted, sound.bounded⟩
  | remaining next => exact ⟨_, rfl, sound.counted, sound.bounded⟩
  | cancelled next => exact ⟨_, rfl, sound.counted, sound.bounded⟩

theorem run_succ {later : Descent} (steps : step dispatch cancelled state = .ok later)
    (count : Nat) :
    run dispatch cancelled (count + 1) state = run dispatch cancelled count later := by
  rw [run, steps]
  rfl

theorem Sound.run (sound : state.Sound) (count : Nat) :
    ∃ later, run dispatch cancelled count state = .ok later ∧ later.Sound := by
  induction count generalizing state with
  | zero => exact ⟨state, rfl, sound⟩
  | succ count ih =>
    obtain ⟨later, steps, sound⟩ := sound.step
    rw [run_succ steps]
    exact ih sound

theorem run_last (count : Nat) (state : Descent) : run dispatch cancelled (count + 1) state =
    run dispatch cancelled count state >>= step dispatch cancelled := by
  induction count generalizing state with
  | zero =>
    show step dispatch cancelled state >>= Except.ok = step dispatch cancelled state
    cases step dispatch cancelled state <;> rfl
  | succ count ih =>
    show step dispatch cancelled state >>= run dispatch cancelled (count + 1) =
      step dispatch cancelled state >>= run dispatch cancelled count >>= step dispatch cancelled
    cases step dispatch cancelled state with
    | error breakdown => rfl
    | ok later => exact ih later

/-! ## Frames are read -/

/-- A run during which the outer frames stay open, from one state to another. -/
inductive Inside (dispatch : Dispatch) (cancelled : Bool) (outer : List Resumption) :
    Descent → Descent → Prop
  | here {state : Descent} (around : outer <:+ state.frames) :
      Inside dispatch cancelled outer state state
  | more {state middle last : Descent} (around : outer <:+ state.frames)
      (steps : step dispatch cancelled state = .ok middle)
      (later : Inside dispatch cancelled outer middle last) :
      Inside dispatch cancelled outer state last

/-- A read of a frame, from when it is asked for to when its result is there. It is refused at
once, or it opens a frame that stays open as long. -/
inductive Call (dispatch : Dispatch) (cancelled : Bool) (next : Resumption) :
    Descent → Descent → Prop
  | refused {state last : Descent} (steps : step dispatch cancelled state = .ok last) :
      Call dispatch cancelled next state last
  | framed {state first middle last : Descent} (opens : step dispatch cancelled state = .ok first)
      (inside : Inside dispatch cancelled (next :: state.frames) first middle)
      (closes : step dispatch cancelled middle = .ok last) : Call dispatch cancelled next state last

section Runs

variable {a b c : Descent}

theorem Inside.trans (first : Inside dispatch cancelled outer a b)
    (second : Inside dispatch cancelled outer b c) : Inside dispatch cancelled outer a c := by
  induction first with
  | here => exact second
  | more around steps later ih => exact .more around steps (ih second)

theorem Inside.widen (inside : Inside dispatch cancelled inner a b) (around : outer <:+ inner) :
    Inside dispatch cancelled outer a b := by
  induction inside with
  | here deeper => exact .here (around.trans deeper)
  | more deeper steps later ih => exact .more (around.trans deeper) steps ih

theorem Inside.snoc (inside : Inside dispatch cancelled outer a b)
    (steps : step dispatch cancelled b = .ok c) (around : outer <:+ c.frames) :
    Inside dispatch cancelled outer a c := by
  induction inside with
  | here before => exact .more before steps (.here around)
  | more before first later ih => exact .more before first (ih steps)

theorem Call.inside (call : Call dispatch cancelled next a b) (same : b.frames = a.frames) :
    Inside dispatch cancelled a.frames a b := by
  have around : a.frames <:+ b.frames := same ▸ List.suffix_rfl
  cases call with
  | refused steps => exact .more List.suffix_rfl steps (.here around)
  | framed opens inside closes =>
    have wider := inside.widen (List.suffix_cons next a.frames)
    exact .more List.suffix_rfl opens (wider.snoc closes around)

theorem Inside.run (inside : Inside dispatch cancelled outer a b) :
    ∃ count, run dispatch cancelled count a = .ok b ∧
      ∀ between ≤ count, ∃ state, run dispatch cancelled between a = .ok state ∧
        outer <:+ state.frames := by
  induction inside with
  | here around =>
    refine ⟨0, rfl, fun between few => ⟨_, ?_, around⟩⟩
    rw [Nat.le_zero.1 few]
    rfl
  | more around steps later ih =>
    obtain ⟨count, ends, all⟩ := ih
    refine ⟨count + 1, (run_succ steps count).trans ends, fun between few => ?_⟩
    cases between with
    | zero => exact ⟨_, rfl, around⟩
    | succ between =>
      rw [run_succ steps]
      exact all between (Nat.le_of_succ_le_succ few)

/-- While a frame is read, it and the frames around it are open. -/
theorem Call.run (call : Call dispatch cancelled next a b) :
    ∃ count, run dispatch cancelled (count + 1) a = .ok b ∧
      ∀ between < count, ∃ state, run dispatch cancelled (between + 1) a = .ok state ∧
        (next :: a.frames) <:+ state.frames := by
  cases call with
  | refused steps => exact ⟨0, run_succ steps 0, fun _ none => absurd none (Nat.not_lt_zero _)⟩
  | framed opens inside closes =>
    obtain ⟨count, ends, all⟩ := inside.run
    refine ⟨count + 1, ?_, fun between few => ?_⟩
    · rw [run_succ opens, run_last, ends]
      exact closes
    · rw [run_succ opens]
      exact all between (Nat.le_of_lt_succ few)

end Runs

/-- When the read of every frame is a call, the machine comes to what carrying the program out
comes to, and closes none of the frames around it. -/
theorem inside_of_calls {frame : Bytes → Decoding Object} (counted : depth.toNat = frames.length)
    (calls : ∀ next rest log, Call dispatch cancelled next ⟨.object next, frames, depth, rest, log⟩
      (resumed ⟨.object next, frames, depth, rest, log⟩ next (frame rest)))
    (program : ReadProgram Object) (rest : Bytes) (log : List Event) :
    Inside dispatch cancelled frames ⟨program, frames, depth, rest, log⟩
      (resumed ⟨program, frames, depth, rest, log⟩ .ofExcept
        (program.run frame frames.length cancelled rest)) := by
  induction program generalizing rest log with
  | done value =>
    simp only [resumed, ReadProgram.run, ReadProgram.ofExcept, List.append_nil]
    exact .here List.suffix_rfl
  | fail error =>
    simp only [resumed, ReadProgram.run, ReadProgram.ofExcept, List.append_nil]
    exact .here List.suffix_rfl
  | scalar kind next ih => exact .more List.suffix_rfl (step_scalar kind next) (ih _ _ _)
  | object next ih =>
    have later := ih (frame rest).result (frame rest).rest (log ++ (frame rest).log)
    simp only [resumed, List.append_assoc] at later
    exact ((calls next rest log).inside rfl).trans later
  | depth next ih =>
    refine .more List.suffix_rfl rfl ?_
    rw [counted]
    exact ih _ _ _
  | remaining next ih => exact .more List.suffix_rfl rfl (ih _ _ _)
  | cancelled next ih => exact .more List.suffix_rfl rfl (ih _ _ _)

theorem readFrame_succ (levels : Nat) (input : Bytes) :
    dispatch.readFrame cancelled (levels + 1) input =
      (dispatch.readerOf cancelled (Frame.readKey input)).andThen fun reader payload =>
        reader.codec.read.run (dispatch.readFrame cancelled levels) (Frame.maxNesting - levels)
          cancelled payload := by
  rw [Dispatch.readFrame]
  cases Frame.readKey input with
  | mk result rest =>
    cases result with
    | error error => rfl
    | ok key =>
      simp only [Dispatch.readerOf]
      cases dispatch.readers.get? key <;> rfl

/-- A frame without a reader comes to the same as one whose program fails at once. -/
theorem andThen_read (found : Decoding Binding) (frame : Bytes → Decoding Object) (around : Nat) :
    let decoding := (ReadProgram.ofExcept found.result >>= fun reader => reader.codec.read).run
      frame around cancelled found.rest
    (found.andThen fun reader payload => reader.codec.read.run frame around cancelled payload) =
      ⟨decoding.result, decoding.rest, found.log ++ decoding.log⟩ := by
  obtain ⟨result, payload, report⟩ := found
  cases result with
  | ok reader => rfl
  | error error =>
    show Decoding.mk _ _ report = ⟨_, _, report ++ []⟩
    rw [List.append_nil]
    rfl

/-- The read of a frame comes to what reading with the levels that are left comes to. -/
theorem Sound.call {levels : Nat} (sound : Sound ⟨.object next, frames, depth, rest, log⟩)
    (room : frames.length + levels = Frame.maxNesting) :
    Call dispatch cancelled next ⟨.object next, frames, depth, rest, log⟩
      (resumed ⟨.object next, frames, depth, rest, log⟩ next
        (dispatch.readFrame cancelled levels rest)) := by
  -- on the levels that are left: a frame that is opened takes one of them
  induction levels generalizing next frames depth rest log with
  | zero =>
    have full : 128 ≤ depth := UInt16.not_lt.1 fun low => (sound.low_iff.1 low).ne room
    refine .refused ((step_refused full).trans ?_)
    simp only [resumed, Dispatch.readFrame, List.append_nil]
  | succ levels ih =>
    have below : (next :: frames).length + levels = Frame.maxNesting := by
      rw [List.length_cons, Nat.add_right_comm]
      exact room
    have low : depth < 128 := sound.low_iff.2 (Nat.le_of_add_right_le below.le)
    have counted := (toNat_deeper low).trans (congrArg Nat.succ sound.counted)
    have calls (inner : Resumption) (rest : Bytes) (log : List Event) :
        Call dispatch cancelled inner ⟨.object inner, next :: frames, depth + 1, rest, log⟩
          (resumed ⟨.object inner, next :: frames, depth + 1, rest, log⟩ inner
            (dispatch.readFrame cancelled levels rest)) := ih (sound.opened low) below
    have inside (found : Decoding Binding) := inside_of_calls counted calls
      (ReadProgram.ofExcept found.result >>= fun reader => reader.codec.read) found.rest
      (log ++ found.log)
    have around : Frame.maxNesting - levels = (next :: frames).length :=
      Nat.sub_eq_of_eq_add below.symm
    rw [readFrame_succ, andThen_read, around]
    refine .framed (step_open low) (inside _) ?_
    have nested : 0 < depth + 1 := by
      rw [UInt16.lt_iff_toNat_lt, counted]
      exact Nat.succ_pos _
    simp only [resumed, step_close nested, UInt16.add_sub_cancel, List.append_assoc]

/-- A frame is handed to a reader of the registry, or it fails; and it does not fail for its
depth. -/
theorem readerOf_cases (dispatch : Dispatch) (cancelled : Bool) (input : Bytes) :
    (∃ key reader, dispatch.readers.get? key = some reader ∧
      (dispatch.readerOf cancelled (Frame.readKey input)).result = .ok reader) ∨
    ∃ error, (dispatch.readerOf cancelled (Frame.readKey input)).result = .error error ∧
      ∀ limit, error ≠ .nestingTooDeep limit := by
  rcases Frame.header_or_not input with ⟨key, payload, header⟩ | ⟨error, rest, absent⟩
  · rw [header.readKey]
    cases found : dispatch.readers.get? key with
    | some reader =>
      refine .inl ⟨key, reader, found, ?_⟩
      simp only [Dispatch.readerOf, found]
    | none =>
      refine .inr ⟨dispatch.readerMiss cancelled key, ?_, fun limit => ?_⟩
      · simp only [Dispatch.readerOf, found]
      · rw [Dispatch.readerMiss]
        cases dispatch.isRunning <;> cases cancelled <;> simp
  · rw [absent.readKey]
    refine .inr ⟨error, rfl, fun limit same => ?_⟩
    subst same
    cases absent

/-- The counter is exact, whatever the codecs of the registry and the caller do with their streams.
At any moment it is the number of open frames, at most 128, which a program in a frame gets to see.
Asked for a frame when 128 are open, the machine refuses at once and consumes nothing, and only
then: otherwise it opens the frame, whose header fails for other reasons if it does. In between the
frame stays open, and after it the counter is what it was before, whatever the frame came to. -/
theorem counts_open_frames (dispatch : Dispatch) (cancelled : Bool) (program : ReadProgram Object)
    (input : Bytes) (count : Nat) :
    ∃ state, run dispatch cancelled count (start program input) = .ok state ∧
      state.depth.toNat = state.frames.length ∧
      (state.frames ≠ [] → 1 ≤ state.depth.toNat ∧ state.depth.toNat ≤ 128) ∧
      (∀ next, state.program = .depth next →
        step dispatch cancelled state = .ok { state with program := next state.frames.length }) ∧
      ∀ next, state.program = .object next →
        (step dispatch cancelled state =
            .ok { state with program := next (.error (.nestingTooDeep 128)) } ↔
          state.frames.length = 128) ∧
        (state.frames.length < 128 → ∃ opened, step dispatch cancelled state = .ok opened ∧
          opened.frames = next :: state.frames ∧
          ((∃ key reader, dispatch.readers.get? key = some reader ∧
              opened.program = reader.codec.read) ∨
            ∃ error, opened.program = .fail error ∧ ∀ limit, error ≠ .nestingTooDeep limit)) ∧
        ∃ later,
          run dispatch cancelled (later + 1) state = .ok (state.resumed next
            (dispatch.readFrame cancelled (128 - state.frames.length) state.rest)) ∧
          ∀ between < later, ∃ inside, run dispatch cancelled (between + 1) state = .ok inside ∧
            (next :: state.frames) <:+ inside.frames := by
  obtain ⟨state, runs, sound⟩ := (sound_start program input).run count
  refine ⟨state, runs, sound.counted, fun inFrame => ?_, ?_, ?_⟩
  · rw [sound.counted]
    exact ⟨List.length_pos_iff.2 inFrame, sound.bounded⟩
  · intro next asks
    rw [← sound.counted, step, asks]
  · intro next asks
    obtain ⟨_, frames, depth, rest, log⟩ := state
    cases asks
    have opens (fewer : frames.length < 128) :
        step dispatch cancelled ⟨.object next, frames, depth, rest, log⟩ = _ :=
      step_open (sound.low_iff.2 fewer)
    refine ⟨⟨fun refuses => ?_, fun full => ?_⟩, fun fewer => ⟨_, opens fewer, rfl, ?_⟩, ?_⟩
    · rcases Nat.lt_or_eq_of_le sound.bounded with fewer | full
      · -- an opened frame stands before the others, and a refusal leaves them as they are
        have same := Except.ok.inj (refuses.symm.trans (opens fewer))
        exact absurd (congrArg Descent.frames same).symm (List.cons_ne_self next frames)
      · exact full
    · exact step_refused (UInt16.not_lt.1 fun low => (sound.low_iff.1 low).ne full)
    · rcases readerOf_cases dispatch cancelled rest with
        ⟨key, reader, found, handed⟩ | ⟨error, failed, other⟩
      · refine .inl ⟨key, reader, found, ?_⟩
        rw [handed]
        rfl
      · refine .inr ⟨error, ?_, other⟩
        rw [failed]
        rfl
    · exact (sound.call (Nat.add_sub_of_le sound.bounded)).run

/-- Nothing that is read breaks a node down, whatever its registry has become. Reads look for their
octets before they take them, the version in front of a buffer among them. A group of a number is
shifted by less than a word and none of its bits gets lost; only the mask that bounds it is cut, as
it has to be. A number of 32 bits is found narrow. Whatever programs of reads are carried out, on
from a failed frame too, the counter stays within 0 and 128, and the machine ends with what they
come to and every frame closed. And a start binds no codec of its own to the sentinel. -/
theorem nothing_breaks_down (registry : Registry) (cancelled : Bool) :
    (∀ kind input, Guarded.read kind input = .ok (kind.decode input)) ∧
    (∀ program input count, ∃ state,
      run registry.dispatch cancelled count (start program input) = .ok state ∧
        state.depth ≤ 128) ∧
    (∀ program input, ∃ count, run registry.dispatch cancelled count (start program input) =
      .ok ((start program input).resumed .ofExcept
        (registry.dispatch.carryOut cancelled program input))) ∧
    ∀ services configuration, Guarded.start registry services configuration =
      .ok (registry.start services configuration) := by
  refine ⟨Guarded.read_eq, fun program input count => ?_, fun program input => ?_,
    Guarded.start_eq registry⟩
  · obtain ⟨state, runs, sound⟩ := (sound_start program input).run count
    refine ⟨state, runs, ?_⟩
    rw [UInt16.le_iff_toNat_le, sound.counted]
    exact sound.bounded
  · have calls (next : Resumption) (rest : Bytes) (log : List Event) :
        Call registry.dispatch cancelled next ⟨.object next, [], 0, rest, log⟩
          (resumed ⟨.object next, [], 0, rest, log⟩ next
            (registry.dispatch.readFrame cancelled Frame.maxNesting rest)) :=
      Sound.call ⟨rfl, Nat.zero_le _⟩ rfl
    obtain ⟨count, ends, -⟩ := (inside_of_calls rfl calls program input []).run
    exact ⟨count, ends⟩

end Descent

end CodecRegistry
