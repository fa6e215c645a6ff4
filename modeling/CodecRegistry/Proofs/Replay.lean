import CodecRegistry.Proofs.History

/-! Histories of a registry, with what came of every call. A start that failed has left the registry
as it was, so the same history without it comes to the same. A stop leaves nothing but the catalog,
so after one only the names that were registered before still count. -/

namespace CodecRegistry

namespace Registry

/-- What can be asked of a registry without changing it: to write or read an object, or to say
something about itself. -/
inductive Query where
  | encode (cancelled : Bool) (object : Object)
  | decode (cancelled : Bool) (input : Bytes)
  | writer (cancelled : Bool) (type : ObjectType)
  | isRunning
  | canWrite (type : ObjectType)
  | idOf (type : ObjectType)
  | readerCount
  | writerCount
  | debugText

inductive Call where
  | change (operation : Operation)
  | ask (query : Query)

/-- What a caller gets. Octets that a failed call wrote, or left, are part of it. -/
inductive Answer where
  | declared (result : Except SetupError Bool)
  | noted
  | started (result : Except SetupError Unit)
  | stopped
  | unregistered (removed : Bool)
  | encoded (result : Except CodingError Unit) (written : Bytes)
  | decoded (result : Except CodingError Object) (rest : Bytes)
  | writer (result : Except CodingError (Option Binding))
  | flag (holds : Bool)
  | idOf (number : Option UInt32)
  | count (number : Nat)
  | text (text : String)

/-- Performs an operation and answers it. -/
def change (registry : Registry) : Operation → Outcome Answer
  | .declare declaration =>
    let (answer, registry) := registry.declare declaration
    ⟨.declared answer, registry, []⟩
  | .registerType name type => ⟨.noted, registry.registerType name type, []⟩
  | .registerClass className make => ⟨.noted, registry.registerClass className make, []⟩
  | .start services configuration =>
    let outcome := registry.start services configuration
    ⟨.started outcome.answer, outcome.registry, outcome.log⟩
  | .stop =>
    let outcome := registry.stop
    ⟨.stopped, outcome.registry, outcome.log⟩
  | .unregister type =>
    let outcome := registry.unregister type
    ⟨.unregistered outcome.answer, outcome.registry, outcome.log⟩

def ask (registry : Registry) : Query → Answer × List Event
  | .encode cancelled object =>
    let encoding := registry.dispatch.encode cancelled object
    (.encoded encoding.result encoding.written, encoding.log)
  | .decode cancelled input =>
    let decoding := registry.dispatch.decode cancelled input
    (.decoded decoding.result decoding.rest, decoding.log)
  | .writer cancelled type =>
    let (result, log) := registry.dispatch.writer? cancelled type
    (.writer result, log)
  | .isRunning => (.flag registry.isRunning, [])
  | .canWrite type => (.flag (registry.dispatch.canWrite type), [])
  | .idOf type => (.idOf (registry.dispatch.idOf? type), [])
  | .readerCount => (.count registry.dispatch.readers.size, [])
  | .writerCount => (.count registry.dispatch.writers.size, [])
  | .debugText => (.text registry.dispatch.debugText, [])

def serve (registry : Registry) : Call → Outcome Answer
  | .change operation => registry.change operation
  | .ask query =>
    let (answer, log) := registry.ask query
    ⟨answer, registry, log⟩

/-- A call with what came of it. -/
structure Entry where
  call : Call
  answer : Answer
  log : List Event

/-- Calls one after the other, each with what came of it. -/
def transcript (registry : Registry) : List Call → List Entry
  | [] => []
  | call :: later =>
    let outcome := registry.serve call
    ⟨call, outcome.answer, outcome.log⟩ :: outcome.registry.transcript later

/-- The registry when the calls have been answered. -/
def following (registry : Registry) (calls : List Call) : Registry :=
  calls.foldl (fun registry call => (registry.serve call).registry) registry

def Entry.isFailedStart (entry : Entry) : Bool :=
  match entry.answer with
  | .started (.error _) => true
  | _ => false

/-- Whether a call gives a name to a type or to a class of codecs. -/
def Call.names : Call → Bool
  | .change (.registerType ..) => true
  | .change (.registerClass ..) => true
  | _ => false

variable {registry : Registry}

theorem length_transcript (registry : Registry) (calls : List Call) :
    (registry.transcript calls).length = calls.length := by
  induction calls generalizing registry with
  | nil => rfl
  | cons call later ih => exact congrArg Nat.succ (ih _)

theorem transcript_append (registry : Registry) (before later : List Call) :
    registry.transcript (before ++ later) =
      registry.transcript before ++ (registry.following before).transcript later := by
  induction before generalizing registry with
  | nil => rfl
  | cons call before ih => exact congrArg _ (ih _)

theorem following_append (registry : Registry) (before later : List Call) :
    registry.following (before ++ later) = (registry.following before).following later :=
  List.foldl_append

/-- What comes of later calls depends on the registry that they find. -/
theorem drop_transcript (registry : Registry) (before later : List Call) :
    (registry.transcript (before ++ later)).drop before.length =
      (registry.following before).transcript later := by
  rw [transcript_append, List.drop_left' (length_transcript registry before)]

/-- The last answer is the one on the registry that the calls before it leave. -/
theorem getLast?_transcript (registry : Registry) (before : List Call) (call : Call) :
    (registry.transcript (before ++ [call])).getLast?.map Entry.answer =
      some ((registry.following before).serve call).answer := by
  rw [transcript_append, transcript, transcript, List.getLast?_concat]
  rfl

/-! ## Starts that failed -/

/-- A start that failed is the only call whose answer says so, and it changed nothing. -/
theorem registry_of_failedStart {call : Call} {log : List Event}
    (failed : Entry.isFailedStart ⟨call, (registry.serve call).answer, log⟩ = true) :
    (registry.serve call).registry = registry := by
  cases call with
  | ask query => rfl
  | change operation =>
    cases operation with
    | start services configuration =>
      rcases start_cases registry services configuration with ⟨error, -, same⟩ | ⟨-, -, started, -⟩
      · exact same
      · simp only [serve, change, Entry.isFailedStart, started] at failed
        cases failed
    | _ => cases failed

/-- The two runs go side by side: where one of them has a failed start the other one waits. -/
theorem transcript_without_failedStarts (registry : Registry) (calls : List Call) :
    registry.transcript (((registry.transcript calls).filter
      fun entry => !entry.isFailedStart).map Entry.call) =
      (registry.transcript calls).filter fun entry => !entry.isFailedStart := by
  induction calls generalizing registry with
  | nil => rfl
  | cons call later ih =>
    rw [transcript, List.filter_cons]
    split
    · rw [List.map_cons, transcript]
      exact congrArg _ (ih _)
    · rename_i failed
      rw [Bool.not_eq_true', Bool.not_eq_false] at failed
      rw [registry_of_failedStart failed]
      exact ih registry

/-! ## Stops -/

theorem catalog_serve {call : Call} (plain : call.names = false) :
    (registry.serve call).registry.catalog = registry.catalog := by
  cases call with
  | ask query => rfl
  | change operation =>
    cases operation with
    | declare declaration =>
      simp only [serve, change, declare]
      split
      · rfl
      · split <;> rfl
    | registerType name type => cases plain
    | registerClass className make => cases plain
    | start services configuration =>
      simp only [serve, change]
      rcases start_cases registry services configuration with ⟨-, -, after⟩ | ⟨-, -, -, after⟩
      · rw [after]
      · rw [after]
    | stop => rfl
    | unregister type => rfl

/-- Giving a name changes the catalog alone, and in the same way whatever else there is. -/
theorem serve_names {call : Call} (naming : call.names = true) :
    ∃ extend : Catalog → Catalog, ∀ registry : Registry,
      (registry.serve call).registry = { registry with catalog := extend registry.catalog } := by
  cases call with
  | ask query => cases naming
  | change operation =>
    cases operation with
    | registerType name type => exact ⟨fun catalog => catalog.registerType name type, fun _ => rfl⟩
    | registerClass className make =>
      exact ⟨fun catalog => catalog.registerClass className make, fun _ => rfl⟩
    | _ => cases naming

/-- Replaying the calls that give names builds up the same catalog, and nothing else. -/
theorem following_names (calls : List Call) (named : Registry)
    (same : named.catalog = registry.catalog) :
    named.following (calls.filter Call.names) =
      { named with catalog := (registry.following calls).catalog } := by
  induction calls generalizing registry named with
  | nil =>
    show named = { named with catalog := registry.catalog }
    rw [← same]
  | cons call later ih =>
    rw [List.filter_cons]
    split
    · rename_i naming
      obtain ⟨extend, served⟩ := serve_names naming
      have agree : (named.serve call).registry.catalog =
          (registry.serve call).registry.catalog := by
        rw [served, served, same]
      have step := ih (named.serve call).registry agree
      rw [served named] at step
      show (named.serve call).registry.following _ = _
      rw [served named]
      exact step
    · rename_i plain
      exact ih named (same.trans (catalog_serve (Bool.eq_false_iff.2 plain)).symm)

theorem following_stop (registry : Registry) (before : List Call) :
    registry.following (before ++ [.change .stop]) =
      ⟨[], (registry.following before).catalog, .empty⟩ := by
  rw [following_append]
  rfl

/-- Histories can be shortened. Without the starts that failed a history comes to what it came to
with them, call by call. What comes of the calls after a stop is what would come of them on a new
registry to which only the names registered before were given. So a failed start keeps the
declarations for another try, and a stop forgets them but keeps the catalog. -/
theorem histories_shorten :
    (∀ (registry : Registry) (calls : List Call),
      let kept := (registry.transcript calls).filter fun entry => !entry.isFailedStart
      registry.transcript (kept.map Entry.call) = kept) ∧
    (∀ before later : List Call,
      let naming := before.filter Call.names
      (empty.transcript (before ++ .change .stop :: later)).drop (before.length + 1) =
        (empty.transcript (naming ++ later)).drop naming.length) ∧
    (∀ (registry : Registry) (services : Services) (configuration : Configuration),
      (∃ error, (registry.start services configuration).answer = .error error) →
        (registry.start services configuration).registry.declared = registry.declared) ∧
    ∀ registry : Registry, registry.stop.registry.declared = [] ∧
      registry.stop.registry.catalog = registry.catalog := by
  refine ⟨transcript_without_failedStarts, fun before later => ?_, ?_, fun _ => ⟨rfl, rfl⟩⟩
  · have stopped := drop_transcript empty (before ++ [.change .stop]) later
    rw [List.append_assoc, List.length_append, following_stop] at stopped
    dsimp only
    rw [drop_transcript, following_names before empty rfl]
    exact stopped
  · rintro registry services configuration ⟨error, failed⟩
    rcases start_cases registry services configuration with ⟨-, -, same⟩ | ⟨-, -, started, -⟩
    · rw [same]
    · cases failed.symm.trans started

/-- A codec of an application, for a type with one object. -/
def greeting : Codec :=
  ⟨"greeting", ⟨some 130, [.exact (.application "A")]⟩, fun _ => .done, pure (.record "A" [])⟩

/-- A start that fails on its entry, and then one that takes up what was declared before it; and,
after a stop, one that finds a class by the name that was given to it before. -/
theorem histories_shorten_retry :
    let broken : Configuration := { Configuration.standard with entries := [⟨none, none, none⟩] }
    let named : Configuration :=
      { Configuration.standard with entries := [⟨none, some "greeting", some 300⟩] }
    let declares : Call := .change (.declare (.ofCodec greeting))
    let names : Call := .change (.registerClass "greeting" fun _ => greeting)
    let fails : Call := .change (.start .bare broken)
    let starts : Call := .change (.start .bare .standard)
    let startsNamed : Call := .change (.start .bare named)
    let writes : Call := .ask (.encode false (.record "A" []))
    (empty.transcript [declares, fails, starts, writes]).map Entry.isFailedStart =
      [false, true, false, false] ∧
    empty.transcript [declares, starts, writes] =
      (empty.transcript [declares, fails, starts, writes]).eraseIdx 1 ∧
    (empty.transcript [declares, starts, writes]).getLast?.map Entry.answer =
      some (.encoded (.ok ()) [130]) ∧
    (empty.transcript [names, declares, starts, .change .stop, startsNamed, writes]).drop 4 =
      (empty.transcript [names, startsNamed, writes]).drop 1 ∧
    (empty.transcript [names, startsNamed, writes]).getLast?.map Entry.answer =
      some (.encoded (.ok ()) [255, 0xAC, 0x02]) := by
  intro broken named declares names fails starts startsNamed writes
  obtain ⟨shortens, stops, -, -⟩ := histories_shorten
  have flags : (empty.transcript [declares, fails, starts, writes]).map Entry.isFailedStart =
      [false, true, false, false] := by decide +kernel
  have first : ((empty.following [declares, starts]).dispatch.encode false
      (.record "A" [])).result = .ok () ∧ ((empty.following [declares, starts]).dispatch.encode
        false (.record "A" [])).written = [130] := by decide +kernel
  have second : ((empty.following [names, startsNamed]).dispatch.encode false
      (.record "A" [])).result = .ok () ∧ ((empty.following [names, startsNamed]).dispatch.encode
        false (.record "A" [])).written = [255, 0xAC, 0x02] := by decide +kernel
  have kept : (empty.transcript [declares, fails, starts, writes]).filter
      (fun entry => !entry.isFailedStart) =
        (empty.transcript [declares, fails, starts, writes]).eraseIdx 1 := by
    simp only [transcript, List.map_cons, List.map_nil, List.cons.injEq, and_true] at flags
    obtain ⟨one, two, three, four⟩ := flags
    simp only [transcript, List.filter_cons, one, two, three, four]
    rfl
  have shorter := shortens empty [declares, fails, starts, writes]
  rw [kept] at shorter
  have stopped := stops [names, declares, starts] [startsNamed, writes]
  have naming : [names, declares, starts].filter Call.names = [names] := rfl
  simp only [naming, List.cons_append, List.nil_append, List.length_cons, List.length_nil]
    at stopped
  refine ⟨flags, shorter, ?_, stopped, ?_⟩
  · rw [show [declares, starts, writes] = [declares, starts] ++ [writes] from rfl,
      getLast?_transcript]
    exact congrArg some (congrArg₂ Answer.encoded first.1 first.2)
  · rw [show [names, startsNamed, writes] = [names, startsNamed] ++ [writes] from rfl,
      getLast?_transcript]
    exact congrArg some (congrArg₂ Answer.encoded second.1 second.2)

end Registry

end CodecRegistry
