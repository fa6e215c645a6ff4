import CodecRegistry.Registry

/-! Filling the tables of a registry, one item after the other. What every step keeps, the whole
filling keeps, whether it comes to its end or stops at a failure; what one step brings about and the
later ones keep, holds at the end. -/

namespace CodecRegistry

namespace Loading

variable {α β : Type} {P : Dispatch → Prop}

theorem andThen_ok_iff (loading : Loading) (next : Dispatch → Loading) :
    (loading.andThen next).result = .ok () ↔
      loading.result = .ok () ∧ (next loading.dispatch).result = .ok () := by
  unfold andThen
  split <;> simp_all

theorem dispatch_andThen {loading : Loading} (done : loading.result = .ok ())
    (next : Dispatch → Loading) :
    (loading.andThen next).dispatch = (next loading.dispatch).dispatch := by
  simp only [andThen, done]

theorem andThen_keeps {loading : Loading} {next : Dispatch → Loading} (first : P loading.dispatch)
    (later : P (next loading.dispatch).dispatch) : P (loading.andThen next).dispatch := by
  unfold andThen
  split
  · exact first
  · exact later

theorem each_keeps {step : α → Dispatch → Loading} {items : List α} {dispatch : Dispatch}
    (keeps : ∀ item ∈ items, ∀ dispatch, P dispatch → P (step item dispatch).dispatch)
    (start : P dispatch) : P (each step items dispatch).dispatch := by
  induction items generalizing dispatch with
  | nil => exact start
  | cons item rest ih =>
    have first := keeps item (by simp) dispatch start
    exact andThen_keeps first
      (ih (fun item mem => keeps item (List.mem_cons_of_mem _ mem)) first)

/-- Only the steps count, not the items that they stand for. -/
theorem each_congr {step : α → Dispatch → Loading} {other : β → Dispatch → Loading}
    {items : List α} {others : List β} (same : items.map step = others.map other) :
    each step items = each other others := by
  induction items generalizing others with
  | nil =>
    obtain rfl := List.map_eq_nil_iff.1 same.symm
    rfl
  | cons item rest ih =>
    obtain ⟨head, tail, rfl, first, later⟩ := List.map_eq_cons_iff.1 same.symm
    funext dispatch
    simp only [each, first, ih later.symm]

theorem andThen_assoc (loading : Loading) (next later : Dispatch → Loading) :
    (loading.andThen next).andThen later =
      loading.andThen fun dispatch => (next dispatch).andThen later := by
  obtain ⟨result, dispatch, log⟩ := loading
  cases result with
  | error error => rfl
  | ok _ =>
    simp only [andThen]
    generalize next dispatch = middle
    obtain ⟨result, dispatch, log⟩ := middle
    cases result with
    | error error => rfl
    | ok _ => simp only [List.append_assoc]

theorem each_append (step : α → Dispatch → Loading) (front back : List α) (dispatch : Dispatch) :
    each step (front ++ back) dispatch = (each step front dispatch).andThen (each step back) := by
  induction front generalizing dispatch with
  | nil => simp [each, andThen]
  | cons item rest ih =>
    simp only [List.cons_append, each, andThen_assoc]
    congr 1
    exact funext ih

/-- An item's step brings `Q` about, and the steps of the items behind it keep it. -/
theorem each_establishes {Q : α → Dispatch → Prop} {step : α → Dispatch → Loading} {items : List α}
    {dispatch : Dispatch}
    (establishes : ∀ item ∈ items, ∀ dispatch, (step item dispatch).result = .ok () →
      Q item (step item dispatch).dispatch)
    (keeps : items.Pairwise fun a b => ∀ dispatch, Q a dispatch → Q a (step b dispatch).dispatch)
    (done : (each step items dispatch).result = .ok ()) :
    ∀ item ∈ items, Q item (each step items dispatch).dispatch := by
  induction items generalizing dispatch with
  | nil => exact fun item mem => absurd mem List.not_mem_nil
  | cons item rest ih =>
    obtain ⟨kept, keeps⟩ := List.pairwise_cons.1 keeps
    obtain ⟨first, later⟩ := (andThen_ok_iff ..).1 done
    rw [each, dispatch_andThen first]
    intro other mem
    rcases List.mem_cons.1 mem with rfl | mem
    · exact each_keeps kept (establishes other (by simp) dispatch first)
    · exact ih (fun item mem => establishes item (List.mem_cons_of_mem _ mem)) keeps later other mem

end Loading

namespace Dispatch

variable {dispatch : Dispatch} {binding : Binding} {types : List ObjectType}

theorem writer_bind (dispatch : Dispatch) (binding : Binding) (type other : ObjectType) :
    (dispatch.bind type binding).writers.get? other =
      if other = type then some binding else dispatch.writers.get? other :=
  FiniteMap.get?_insert ..

theorem reader_bind (dispatch : Dispatch) (binding : Binding) (type : ObjectType)
    (key : FrameKey) :
    (dispatch.bind type binding).readers.get? key =
      if key = binding.key then some binding else dispatch.readers.get? key :=
  FiniteMap.get?_insert ..

/-- Only another implementation keeps a binding from its key. -/
theorem rival?_eq_none_iff :
    dispatch.rival? binding = none ↔
      ∀ existing, dispatch.readers.get? binding.key = some existing →
        existing.sameAs binding = true := by
  simp [rival?, Option.filter_eq_none_iff]

theorem register_keeps {P : Dispatch → Prop}
    (keeps : ∀ type ∈ types, ∀ dispatch : Dispatch, dispatch.rival? binding = none → P dispatch →
      P (dispatch.bind type binding))
    (start : P dispatch) : P (register binding types dispatch).dispatch := by
  refine Loading.each_keeps (fun type mem dispatch holds => ?_) start
  split
  · exact holds
  · rename_i free
    exact keeps type mem dispatch free holds

/-- Registering that came to its end has bound every type, and taken the key. -/
theorem register_binds (done : (register binding types dispatch).result = .ok ()) :
    ∀ type ∈ types,
      (register binding types dispatch).dispatch.writers.get? type = some binding ∧
        (register binding types dispatch).dispatch.readers.get? binding.key = some binding := by
  refine Loading.each_establishes
    (Q := fun type dispatch => dispatch.writers.get? type = some binding ∧
      dispatch.readers.get? binding.key = some binding) ?_ ?_ done
  · intro type mem dispatch ok
    split
    · rename_i existing rival
      simp [rival] at ok
    · simp [writer_bind, reader_bind]
  · refine List.pairwise_of_forall fun type other dispatch bound => ?_
    split
    · exact bound
    · rw [writer_bind, reader_bind, if_pos rfl]
      split
      · exact ⟨rfl, rfl⟩
      · exact ⟨bound.1, rfl⟩

end Dispatch

end CodecRegistry
