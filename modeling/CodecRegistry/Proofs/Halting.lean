import CodecRegistry.Proofs.Descent
import CodecRegistry.Proofs.Normal
import CodecRegistry.Proofs.Rounds

/-! Reading ends soon. A built-in codec does nothing but read, one thing after the other, up to the
first read that fails. So each step of the machine that reads a frame either consumes an octet, or
opens or closes a frame, or puts an end to a program, and what it can still do is bounded by the
octets that are left, whatever counts and lengths stand among them. -/

namespace CodecRegistry

open Codec

namespace ReadProgram

variable {α β : Type}

/-- A program of nothing but reads, which ends with the first one that fails. -/
def Plain : ReadProgram α → Prop
  | done _ => True
  | fail _ => True
  | scalar _ next => (∀ value, (next (.ok value)).Plain) ∧ ∀ error, next (.error error) = fail error
  | object next => (∀ value, (next (.ok value)).Plain) ∧ ∀ error, next (.error error) = fail error
  | depth _ => False
  | remaining _ => False
  | cancelled _ => False

theorem Plain.bind {program : ReadProgram α} {f : α → ReadProgram β} (first : program.Plain)
    (later : ∀ value, (f value).Plain) : (program >>= f).Plain := by
  show (program.bind f).Plain
  induction program with
  | done value => exact later value
  | fail error => trivial
  | scalar kind next ih =>
    obtain ⟨goesOn, stops⟩ := first
    exact ⟨fun value => ih _ (goesOn value), fun error => congrArg (·.bind f) (stops error)⟩
  | object next ih =>
    obtain ⟨goesOn, stops⟩ := first
    exact ⟨fun value => ih _ (goesOn value), fun error => congrArg (·.bind f) (stops error)⟩
  | depth next => exact first.elim
  | remaining next => exact first.elim
  | cancelled next => exact first.elim

/-- Code behind a read that goes on plainly with what was read, and ends if nothing was. -/
def PlainBehind {γ : Type} (next : Except CodingError γ → ReadProgram Object) : Prop :=
  (∀ value, (next (.ok value)).Plain) ∧ ∀ error, next (.error error) = .fail error

theorem PlainBehind.plain {γ : Type} {next : Except CodingError γ → ReadProgram Object}
    (behind : PlainBehind next) (result : Except CodingError γ) : (next result).Plain := by
  cases result with
  | ok value => exact behind.1 value
  | error error =>
    rw [behind.2]
    trivial

end ReadProgram

namespace Descent

variable {dispatch : Dispatch} {cancelled : Bool} {services : Services} {state : Descent}
  {frames : List Resumption} {next : Resumption} {depth : UInt16} {rest : Bytes}
  {log : List Event}

/-- Nothing but plain code is to be carried out. -/
structure Plain (state : Descent) : Prop where
  program : state.program.Plain
  frames : ∀ next ∈ state.frames, ReadProgram.PlainBehind next

/-- Every frame is closed and the caller's program has come to its end. -/
def Ended (state : Descent) : Prop :=
  state.frames = [] ∧ ∃ result, state.program = .ofExcept result

section Steps

variable (around : ∀ resume ∈ frames, ReadProgram.PlainBehind resume)

include around

end Steps

theorem Ended.step (ended : state.Ended) : step dispatch cancelled state = .ok state := by
  obtain ⟨program, frames, depth, rest, log⟩ := state
  obtain ⟨none, result, ends⟩ := ended
  cases none
  cases ends
  exact step_ended result

/-- However long a machine is run on, its end stays. -/
theorem Ended.run_later {first : Nat} {last : Descent} (ended : last.Ended)
    (runs : Descent.run dispatch cancelled first state = .ok last) (more : Nat) :
    Descent.run dispatch cancelled (first + more) state = .ok last := by
  induction more with
  | zero => exact runs
  | succ more ih =>
    rw [← Nat.add_assoc, run_last, ih]
    exact ended.step

theorem Ended.run (ended : state.Ended) (count : Nat) :
    Descent.run dispatch cancelled count state = .ok state := by
  rw [← Nat.zero_add count]
  exact ended.run_later rfl count

theorem Ended.unique {first second : Nat} {a b : Descent} (endedA : a.Ended) (endedB : b.Ended)
    (runsA : Descent.run dispatch cancelled first state = .ok a)
    (runsB : Descent.run dispatch cancelled second state = .ok b) : a = b := by
  rcases Nat.le_total first second with before | after
  · obtain ⟨more, rfl⟩ := Nat.exists_eq_add_of_le before
    exact Except.ok.inj ((endedA.run_later runsA more).symm.trans runsB)
  · obtain ⟨more, rfl⟩ := Nat.exists_eq_add_of_le after
    exact Except.ok.inj (runsA.symm.trans (endedB.run_later runsB more))

end Descent

/-! ## What was read -/

mutual

/-- How many entries and parameters the collections of an object hold, those of the objects inside
it included. -/
def Object.items : Object → Nat
  | .unorderedMap contents => contents.entries.length
  | .sortedMap contents => contents.entries.length
  | .command command => command.parameters.length
  | .success value => value.items
  | .record _ fields => Field.itemsAll fields
  | _ => 0

def Field.items : Field → Nat
  | .object value => value.items
  | .recovered value => value.items
  | _ => 0

def Field.itemsAll : List Field → Nat
  | [] => 0
  | field :: rest => field.items + Field.itemsAll rest

end

namespace Codec

variable {frame : Bytes → Decoding Object} {frames : Nat} {flag : Bool} {input rest : Bytes}
  {object : Object}

open ReadProgram

end Codec

namespace Dispatch

variable {dispatch : Dispatch} {services : Services} {cancelled : Bool} {levels : Nat}
  {input rest : Bytes} {object : Object}

end Dispatch

end CodecRegistry
