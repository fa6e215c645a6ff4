import CodecRegistry.Dispatch

/-! A frame is a header, which names a binding, and the payload that its codec wrote. Writing
descends into the nested objects of a payload; reading descends at most `Frame.maxNesting` levels,
whatever the bytes demand. -/

namespace CodecRegistry

namespace Frame

/-- How many frames may be open at once while reading. -/
def maxNesting : Nat := 128

/-- Reads the key that a frame's header stands for. -/
def readKey (input : Bytes) : Reading FrameKey :=
  (ScalarKind.byte.decode input).andThen fun id rest =>
    if id = FrameKey.sentinel then
      (ScalarKind.varint32.decode rest).andThen fun id rest =>
        if id ≤ FrameKey.largestForeignId then ⟨.ok (.foreign id), rest⟩
        else ⟨.error (.malformed (.foreignId id)), rest⟩
    else ⟨.ok (.internal id), rest⟩

end Frame

namespace Dispatch

/-- Why an object of a type without a writer cannot be written. -/
def writerMiss (type : ObjectType) (cancelled : Bool) : CodingError :=
  if cancelled then .shuttingDown (.object type) else .noCodec type

/-- The binding that writes a type. A miss is an error only for a caller that was cancelled. -/
def writer? (dispatch : Dispatch) (cancelled : Bool) (type : ObjectType) :
    Except CodingError (Option Binding) × List Event :=
  match dispatch.writers.get? type with
  | some binding => (.ok (some binding), [])
  | none =>
    (if cancelled then .error (writerMiss type cancelled) else .ok none, [.noWriter type])

/-- Why a frame whose key has no reader cannot be read. On a running registry the peer is at fault;
on a stopped one it depends on the caller. -/
def readerMiss (dispatch : Dispatch) (cancelled : Bool) (key : FrameKey) : CodingError :=
  if dispatch.isRunning then .unknownFrame key
  else if cancelled then .shuttingDown (.frame key)
  else .notRunning key

/-- What a missing reader reports. -/
def readerMissEvents (dispatch : Dispatch) (key : FrameKey) : List Event :=
  if dispatch.isRunning then [.unknownReader key dispatch.readerNames] else []

/-- Writes an object as a frame. -/
def encode (dispatch : Dispatch) (cancelled : Bool) (object : Object) : Encoding :=
  match dispatch.writers.get? object.type with
  | none => ⟨.error (writerMiss object.type cancelled), [], [.noWriter object.type]⟩
  | some binding =>
    let payload := (binding.codec.write object).run
      (fun value _ => dispatch.encode cancelled value) cancelled
    ⟨payload.result, binding.id.header ++ payload.written, payload.log⟩
termination_by object.span

/-- Reads a frame when `levels` more may be opened. A frame beyond that consumes nothing. -/
def readFrame (dispatch : Dispatch) (cancelled : Bool) : Nat → Bytes → Decoding Object
  | 0, input => ⟨.error (.nestingTooDeep Frame.maxNesting), input, []⟩
  | levels + 1, input =>
    match Frame.readKey input with
    | ⟨.error error, rest⟩ => ⟨.error error, rest, []⟩
    | ⟨.ok key, rest⟩ =>
      match dispatch.readers.get? key with
      | none =>
        ⟨.error (dispatch.readerMiss cancelled key), rest, dispatch.readerMissEvents key⟩
      | some binding =>
        binding.codec.read.run (dispatch.readFrame cancelled levels)
          (Frame.maxNesting - levels) cancelled rest

/-- Carries out a program of reads with no frame open around it. -/
def carryOut {α : Type} (dispatch : Dispatch) (cancelled : Bool) (program : ReadProgram α)
    (input : Bytes) : Decoding α :=
  program.run (dispatch.readFrame cancelled Frame.maxNesting) 0 cancelled input

/-- Reads the frame at the front of `input`. -/
def decode (dispatch : Dispatch) (cancelled : Bool) (input : Bytes) : Decoding Object :=
  dispatch.readFrame cancelled Frame.maxNesting input

/-- Reads one frame after the other, also after one that failed. -/
def decodeEach (dispatch : Dispatch) (cancelled : Bool) : Nat → Bytes → List (Decoding Object)
  | 0, _ => []
  | count + 1, input =>
    let decoding := dispatch.decode cancelled input
    decoding :: dispatch.decodeEach cancelled count decoding.rest

/-- Carries out a program of writes with no header in front. -/
def emit {bound : Nat} (dispatch : Dispatch) (cancelled : Bool) (program : WriteProgram bound) :
    Encoding :=
  program.run (fun value _ => dispatch.encode cancelled value) cancelled

/-- Writes an object with a given binding, which need not be in the tables. -/
def encodeWith (dispatch : Dispatch) (cancelled : Bool) (binding : Binding) (object : Object) :
    Encoding :=
  let payload := dispatch.emit cancelled (binding.codec.write object)
  { payload with written := binding.id.header ++ payload.written }

end Dispatch

end CodecRegistry
