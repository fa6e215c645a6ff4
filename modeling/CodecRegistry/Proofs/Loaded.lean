import CodecRegistry.Proofs.History

/-! What the tables of a running registry hold. Nothing stands in them but what a start loaded, and
taking types out only takes away from it. -/

namespace CodecRegistry

namespace Dispatch

variable {dispatch : Dispatch} {loads : Binding → ObjectType → Prop} {binding : Binding}

/-- Tables that hold nothing but what was loaded. -/
structure LoadedFrom (dispatch : Dispatch) (loads : Binding → ObjectType → Prop) : Prop where
  writer : ∀ {type writer}, dispatch.writers.get? type = some writer → loads writer type
  reader : ∀ {key reader}, dispatch.readers.get? key = some reader → ∃ type, loads reader type

theorem loadedFrom_empty : empty.LoadedFrom loads where
  writer := by
    intro type writer found
    cases found
  reader := by
    intro key reader found
    cases found

theorem LoadedFrom.bind (loaded : dispatch.LoadedFrom loads) {type : ObjectType}
    (load : loads binding type) : (dispatch.bind type binding).LoadedFrom loads where
  writer := by
    intro other writer found
    rw [writer_bind] at found
    split at found
    · rename_i same
      cases found
      exact same ▸ load
    · exact loaded.writer found
  reader := by
    intro key reader found
    rw [reader_bind] at found
    split at found
    · cases found
      exact ⟨type, load⟩
    · exact loaded.reader found

theorem LoadedFrom.started (loaded : dispatch.LoadedFrom loads) :
    { dispatch with isRunning := true }.LoadedFrom loads :=
  ⟨loaded.writer, loaded.reader⟩

theorem LoadedFrom.unregister (loaded : dispatch.LoadedFrom loads) (type : ObjectType) :
    (dispatch.unregister type).2.LoadedFrom loads where
  writer := by
    intro other writer known
    cases found : dispatch.writers.get? type with
    | none =>
      rw [unregister_of_none found] at known
      exact loaded.writer known
    | some binding =>
      rw [unregister_of_writer found] at known
      exact loaded.writer (writer_erase.1 known).2
  reader := fun known => loaded.reader (reader_of_unregister known)

end Dispatch

namespace Registry

variable {registry : Registry} {services : Services} {configuration : Configuration}

theorem load_loadedFrom (registry : Registry) (services : Services)
    (configuration : Configuration) :
    (registry.load services configuration).dispatch.LoadedFrom
      (registry.Loads services configuration) := by
  apply load_keeps (P := fun dispatch =>
    dispatch.LoadedFrom (registry.Loads services configuration)) Dispatch.loadedFrom_empty
  intro binding type loads dispatch free loaded
  exact loaded.bind loads

/-- What a start loaded is all that the tables hold, for as long as the registry keeps running. -/
theorem loadedFrom_of_running
    (started : (registry.start services configuration).answer = .ok ()) (more : List Operation)
    (running : ∀ front, front <+: more →
      (front.foldl perform (registry.start services configuration).registry).isRunning = true) :
    let dispatch := (more.foldl perform (registry.start services configuration).registry).dispatch
    dispatch.Consistent ∧ dispatch.LoadedFrom (registry.Loads services configuration) := by
  refine running_keeps (P := fun now => now.dispatch.Consistent ∧
    now.dispatch.LoadedFrom (registry.Loads services configuration)) ?_ more running ?_
  · intro now operation runs still holds
    rcases perform_dispatch operation runs still with same | ⟨type, -, gone⟩
    · rw [same]
      exact holds
    · rw [gone]
      exact ⟨holds.1.unregister type, holds.2.unregister type⟩
  · obtain ⟨-, -, after⟩ := of_start_ok started
    rw [after]
    exact ⟨(load_consistent ..).started, (load_loadedFrom ..).started⟩

/-- Whoever reads a frame has stood at its key since the start. -/
theorem reader_of_running (more : List Operation)
    (running : ∀ front, front <+: more → (front.foldl perform registry).isRunning = true)
    {key : FrameKey} {reader : Binding}
    (found : (more.foldl perform registry).dispatch.readers.get? key = some reader) :
    registry.dispatch.readers.get? key = some reader := by
  refine running_keeps (P := fun now => ∀ key reader,
    now.dispatch.readers.get? key = some reader →
      registry.dispatch.readers.get? key = some reader) ?_ more running (fun _ _ here => here) _ _
    found
  intro now operation runs still holds key reader found
  rcases perform_dispatch operation runs still with same | ⟨type, -, gone⟩
  · exact holds key reader (same ▸ found)
  · rw [gone] at found
    exact holds key reader (Dispatch.reader_of_unregister found)

end Registry

end CodecRegistry
