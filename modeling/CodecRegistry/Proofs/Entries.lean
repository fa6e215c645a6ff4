import Mathlib.Data.List.Perm.Basic
import CodecRegistry.Proofs.Assembly

/-! What a configuration brings to a start, next to what the registry brings itself. Each entry of
it contributes the codec that it gives, under the id that it comes to; where it stands plays no part
in that. So what a start loads falls into the registry's own part, which no configuration changes,
and one contribution for each entry. -/

namespace CodecRegistry

namespace Contribution

variable {contributions others front back : List Contribution} {picks : Contribution → Bool}

theorem last?_append (front back : List Contribution) (picks : Contribution → Bool) :
    last? (front ++ back) picks = (last? back picks).or (last? front picks) := by
  simp only [last?, List.filter_append, List.getLast?_append, Option.map_or]

theorem last?_eq_none_iff :
    last? contributions picks = none ↔
      ∀ contribution ∈ contributions, ¬ picks contribution = true := by
  simp [last?]

/-- Who comes last matters only as far as those who are picked differ. -/
theorem last?_map_perm {α : Type} {f : Binding → α} (same : contributions.Perm others)
    (alike : ∀ a ∈ contributions, ∀ b ∈ contributions, picks a = true → picks b = true →
      f a.binding = f b.binding) :
    (last? contributions picks).map f = (last? others picks).map f := by
  cases found : last? contributions picks with
  | none =>
    have nobody : last? others picks = none := by
      rw [last?_eq_none_iff] at found ⊢
      intro contribution mem
      exact found contribution (same.mem_iff.2 mem)
    rw [nobody]
  | some binding =>
    obtain ⟨a, memA, pickedA, rfl⟩ := mem_of_last? found
    obtain ⟨other, foundOther⟩ := exists_last? (same.mem_iff.1 memA) pickedA
    obtain ⟨b, memB, pickedB, rfl⟩ := mem_of_last? foundOther
    rw [foundOther, Option.map_some, Option.map_some,
      alike a memA b (same.mem_iff.2 memB) pickedA pickedB]

theorem last?_perm (same : contributions.Perm others)
    (alike : ∀ a ∈ contributions, ∀ b ∈ contributions, picks a = true → picks b = true →
      a.binding = b.binding) : last? contributions picks = last? others picks := by
  simpa using last?_map_perm (f := id) same alike

theorem Agree.perm (agree : Agree contributions) (same : contributions.Perm others) :
    Agree others :=
  agree.mono same.symm.subset

end Contribution

namespace Registry

open Contribution

variable {registry : Registry} {services : Services} {configuration : Configuration}
  {entry : ConfigurationEntry} {entries : List ConfigurationEntry} {contribution : Contribution}
  {contributions given : List Contribution} {position : Nat}

/-- What an entry contributes, wherever it stands. -/
def Enters (registry : Registry) (services : Services) (entry : ConfigurationEntry)
    (contribution : Contribution) : Prop :=
  registry.Contributes services (.configured entry 0) contribution

theorem contributes_configured_iff :
    registry.Contributes services (.configured entry position) contribution ↔
      registry.Enters services entry contribution := by
  constructor
  · intro contributes
    cases contributes with
    | configured codec number inRange handles => exact .configured codec number inRange handles
  · intro enters
    cases enters with
    | configured codec number inRange handles => exact .configured codec number inRange handles

theorem enters_iff (position : Nat) :
    registry.Enters services entry contribution ↔
      entryBinding registry.catalog services position entry =
        .ok (contribution.binding, contribution.types) := by
  constructor
  · intro enters
    cases enters with
    | @configured _ _ codec id types codecGiven number inRange handles =>
      simp only [entryBinding, entryCodec_ok_iff.2 codecGiven, Bind.bind, Except.bind,
        Identifier.resolveForeign_ok_iff.2 ⟨number, inRange⟩, handles.handledTypes]
      rfl
  · intro accepted
    obtain ⟨⟨wireId, codec⟩, types⟩ := contribution
    obtain ⟨id, rfl, resolved, found, known⟩ := entryBinding_ok accepted
    obtain ⟨number, inRange⟩ := Identifier.resolveForeign_ok_iff.1 resolved
    exact .configured (entryCodec_ok_iff.1 found) number inRange
      (Catalog.handles_of_handledTypes known)

theorem Enters.unique {a b : Contribution} (first : registry.Enters services entry a)
    (second : registry.Enters services entry b) : a = b := by
  have same := ((enters_iff 0).1 first).symm.trans ((enters_iff 0).1 second)
  cases a
  cases b
  cases same
  rfl

theorem Enters.valid (enters : registry.Enters services entry contribution) :
    contribution.binding.id.Valid :=
  Contributes.valid enters

theorem Enters.isForeign (enters : registry.Enters services entry contribution) :
    contribution.binding.id.isForeign = true := by
  cases enters with
  | configured => rfl

theorem Enters.exists_handled (enters : registry.Enters services entry contribution) :
    ∃ type, type ∈ contribution.types :=
  List.exists_mem_of_ne_nil _ (Contributes.types_ne_nil enters)

theorem Enters.configures (enters : registry.Enters services entry contribution)
    (listed : entry ∈ configuration.entries) {type : ObjectType}
    (handled : type ∈ contribution.types) :
    registry.Configures services configuration contribution.binding type := by
  obtain ⟨position, inBounds, rfl⟩ := List.mem_iff_getElem.1 listed
  refine ⟨(configuration.entries[position], position), ?_, contribution.types, ?_, handled⟩
  · exact List.mem_zipIdx_iff_getElem?.2 (List.getElem?_eq_getElem inBounds)
  · exact (enters_iff position).1 enters

/-! ## The parts of a load list -/

theorem yields_append_iff {front back : List LoadItem} :
    registry.Yields services (front ++ back) contributions ↔
      ∃ first later, contributions = first ++ later ∧ registry.Yields services front first ∧
        registry.Yields services back later := by
  constructor
  · intro yields
    induction front generalizing contributions with
    | nil => exact ⟨[], contributions, rfl, .nil, yields⟩
    | cons item rest ih =>
      cases yields with
      | contributes here others =>
        obtain ⟨first, later, rfl, yieldsFirst, yieldsLater⟩ := ih others
        exact ⟨_ :: first, later, rfl, .contributes here yieldsFirst, yieldsLater⟩
      | leavesOut here others =>
        obtain ⟨first, later, rfl, yieldsFirst, yieldsLater⟩ := ih others
        exact ⟨first, later, rfl, .leavesOut here yieldsFirst, yieldsLater⟩
  · rintro ⟨first, later, rfl, yieldsFirst, yieldsLater⟩
    induction yieldsFirst with
    | nil => exact yieldsLater
    | contributes here _ ih => exact .contributes here ih
    | leavesOut here _ ih => exact .leavesOut here ih

/-- No entry is left out. -/
theorem yields_entries_iff {offset : Nat} :
    registry.Yields services ((entries.zipIdx offset).map fun item => .configured item.1 item.2)
        contributions ↔
      List.Forall₂ (registry.Enters services) entries contributions := by
  induction entries generalizing offset contributions with
  | nil =>
    constructor
    · rintro ⟨⟩
      exact .nil
    · rintro ⟨⟩
      exact .nil
  | cons entry rest ih =>
    rw [List.zipIdx_cons, List.map_cons]
    constructor
    · intro yields
      cases yields with
      | contributes here others => exact .cons (contributes_configured_iff.1 here) (ih.1 others)
      | leavesOut here others => cases here
    · intro paired
      cases paired with
      | cons here others => exact .contributes (contributes_configured_iff.2 here) (ih.2 others)

/-- What the registry brings to a start itself. -/
def ownItems (registry : Registry) : List LoadItem :=
  (Declaration.builtIn ++ registry.added).map .declared

theorem yields_loadList_iff :
    registry.Yields services (registry.loadList configuration) contributions ↔
      ∃ own given, contributions = own ++ given ∧
        registry.Yields services registry.ownItems own ∧
        List.Forall₂ (registry.Enters services) configuration.entries given := by
  simp only [loadList, yields_append_iff, yields_entries_iff, ownItems]

/-- What the registry brings itself has internal ids. -/
theorem isForeign_own {own : List Contribution}
    (yields : registry.Yields services registry.ownItems own) :
    ∀ contribution ∈ own, contribution.binding.id.isForeign = false := by
  rw [ownItems] at yields
  generalize Declaration.builtIn ++ registry.added = declarations at yields
  induction declarations generalizing own with
  | nil =>
    cases yields
    simp
  | cons declaration rest ih =>
    cases yields with
    | contributes here others =>
      refine List.forall_mem_cons.2 ⟨?_, ih others⟩
      cases here with
      | declared => rfl
    | leavesOut here others => exact ih others

theorem exists_entry (paired : List.Forall₂ (registry.Enters services) entries given)
    (mem : contribution ∈ given) :
    ∃ entry ∈ entries, registry.Enters services entry contribution := by
  induction paired with
  | nil => cases mem
  | cons here _ ih =>
    rcases List.mem_cons.1 mem with rfl | mem
    · exact ⟨_, List.mem_cons_self, here⟩
    · obtain ⟨entry, listed, enters⟩ := ih mem
      exact ⟨entry, List.mem_cons_of_mem _ listed, enters⟩

theorem exists_contribution (paired : List.Forall₂ (registry.Enters services) entries given)
    (listed : entry ∈ entries) :
    ∃ contribution ∈ given, registry.Enters services entry contribution := by
  induction paired with
  | nil => cases listed
  | cons here _ ih =>
    rcases List.mem_cons.1 listed with rfl | listed
    · exact ⟨_, List.mem_cons_self, here⟩
    · obtain ⟨contribution, mem, enters⟩ := ih listed
      exact ⟨contribution, List.mem_cons_of_mem _ mem, enters⟩

theorem configures_given
    (paired : List.Forall₂ (registry.Enters services) configuration.entries given)
    (mem : contribution ∈ given) {type : ObjectType} (handled : type ∈ contribution.types) :
    registry.Configures services configuration contribution.binding type := by
  obtain ⟨entry, listed, enters⟩ := exists_entry paired mem
  exact enters.configures listed handled

/-! ## A start that succeeds -/

theorem exists_yields (started : (registry.start services configuration).answer = .ok ()) :
    ∃ contributions, registry.Yields services (registry.loadList configuration) contributions ∧
      Agree contributions := by
  have loaded := (of_start_ok started).2.1
  rw [load_eq_each] at loaded
  exact (each_ok_iff _).1 loaded

theorem start_ok_of_yields (stopped : registry.isRunning = false)
    (yields : registry.Yields services (registry.loadList configuration) contributions)
    (agree : Agree contributions) : (registry.start services configuration).answer = .ok () := by
  refine (start_ok_iff ..).2 ⟨stopped, ?_⟩
  rw [load_eq_each]
  exact (each_ok_iff _).2 ⟨contributions, yields, agree⟩

theorem Yields.reflects_start
    (yields : registry.Yields services (registry.loadList configuration) contributions)
    (started : (registry.start services configuration).answer = .ok ()) :
    (registry.start services configuration).registry.isRunning = true ∧
      (registry.start services configuration).registry.dispatch.Reflects contributions := by
  obtain ⟨-, done, after⟩ := of_start_ok started
  rw [load_eq_each] at done
  have reflects := (yields.each_reflects Dispatch.reflects_empty done).started
  rw [← load_eq_each, List.nil_append] at reflects
  rw [after]
  exact ⟨rfl, reflects⟩

end Registry

end CodecRegistry
