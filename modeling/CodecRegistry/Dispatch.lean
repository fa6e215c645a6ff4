import CodecRegistry.Binding

/-! The two tables of a running registry: which binding writes a type, and which binding reads a
frame. They are filled one type at a time; a key that another codec holds stops the filling, while a
type goes to whoever claims it last. -/

namespace CodecRegistry

structure Dispatch where
  isRunning : Bool
  writers : FiniteMap ObjectType Binding
  readers : FiniteMap FrameKey Binding

/-- How far the filling of the tables came. What was filled and reported before a failure stays
visible. -/
structure Loading where
  result : Except SetupError Unit
  dispatch : Dispatch
  log : List Event

namespace Loading

/-- Goes on filling, unless a failure came before. -/
def andThen (loading : Loading) (next : Dispatch → Loading) : Loading :=
  match loading.result with
  | .error _ => loading
  | .ok () =>
    let later := next loading.dispatch
    { later with log := loading.log ++ later.log }

/-- Fills in one item after the other. -/
def each {α : Type} (step : α → Dispatch → Loading) : List α → Dispatch → Loading
  | [], dispatch => ⟨.ok (), dispatch, []⟩
  | item :: rest, dispatch => (step item dispatch).andThen (each step rest)

end Loading

namespace Dispatch

def empty : Dispatch := ⟨false, ∅, ∅⟩

/-- The binding that keeps another one from its key. -/
def rival? (dispatch : Dispatch) (binding : Binding) : Option Binding :=
  (dispatch.readers.get? binding.key).filter fun existing => !existing.sameAs binding

/-- Binds one type, whatever stood there before. -/
def bind (dispatch : Dispatch) (type : ObjectType) (binding : Binding) : Dispatch :=
  { dispatch with
    writers := dispatch.writers.insert type binding
    readers := dispatch.readers.insert binding.key binding }

/-- What binding one type reports. -/
def bindEvents (dispatch : Dispatch) (type : ObjectType) (binding : Binding) : List Event :=
  let registered := [Event.registered type binding.implementation binding.key]
  match dispatch.writers.get? type with
  | none => registered
  | some previous =>
    if previous.sameAs binding then registered
    else .writerReplaced type previous.implementation binding.implementation :: registered

/-- Binds a codec to each of its types, unless another one holds its key. -/
def register (binding : Binding) : List ObjectType → Dispatch → Loading :=
  Loading.each fun type dispatch =>
    match dispatch.rival? binding with
    | some existing =>
      ⟨.error (.duplicateId binding.id.number type binding.implementation
        existing.implementation binding.key), dispatch, []⟩
    | none => ⟨.ok (), dispatch.bind type binding, dispatch.bindEvents type binding⟩

/-- Takes a type out. Its reader goes too, unless another type is still written by the same
binding. The flag says whether the type was there. -/
def unregister (dispatch : Dispatch) (type : ObjectType) : Bool × Dispatch :=
  match dispatch.writers.get? type with
  | none => (false, dispatch)
  | some binding =>
    let writers := dispatch.writers.erase type
    let isHeld := writers.values.any fun other => other.sameAs binding
    let isItsOwn := (dispatch.readers.get? binding.key).any fun reader => reader.sameAs binding
    let readers :=
      if !isHeld && isItsOwn then dispatch.readers.erase binding.key else dispatch.readers
    (true, { dispatch with writers, readers })

def canWrite (dispatch : Dispatch) (type : ObjectType) : Bool := dispatch.writers.contains type

/-- The id under which a type is written. -/
def idOf? (dispatch : Dispatch) (type : ObjectType) : Option UInt32 :=
  (dispatch.writers.get? type).map fun binding => binding.id.number

/-- Who reads which frames. -/
def readerNames (dispatch : Dispatch) : List (FrameKey × String) :=
  dispatch.readers.entries.map fun (key, binding) => (key, binding.implementation)

/-- Who writes, once for every type. -/
def writerNames (dispatch : Dispatch) : List String :=
  dispatch.writers.values.map Binding.implementation

def debugText (dispatch : Dispatch) : String :=
  Quoted.named "ExternalizerTable"
    [("started", Quoted.flag dispatch.isRunning),
      ("readers", toString dispatch.readers.size), ("writers", toString dispatch.writers.size)]

end Dispatch

end CodecRegistry
