import Mathlib.Data.List.Forall2
import Mathlib.Data.List.Nodup
import CodecRegistry.Proofs.Travel

/-! Objects written one after the other read back one after the other. The order in which an
unordered map lists its entries decides the octets but not what comes out. -/

namespace CodecRegistry

namespace FiniteMap

variable {κ α : Type} [DecidableEq κ]

/-- Maps that look the same list the same entries. -/
theorem entries_perm {a b : FiniteMap κ α} (same : ∀ key, a.get? key = b.get? key) :
    a.entries.Perm b.entries := by
  refine (List.perm_ext_iff_of_nodup (a.distinct |> List.Nodup.of_map Prod.fst)
    (b.distinct |> List.Nodup.of_map Prod.fst)).2 fun entry => ?_
  rw [← a.get?_eq_some_iff, ← b.get?_eq_some_iff, same]

end FiniteMap

namespace Object

variable {a b : Object}

theorem SameContents.span_eq (same : a.SameContents b) : a.span = b.span := by
  induction same with
  | refl object => rfl
  | unorderedMap same => rfl
  | success inner ih => simp only [span, ih]

theorem SameContents.builtIn (same : a.SameContents b) (builtIn : a.BuiltIn) : b.BuiltIn := by
  induction same with
  | refl object => exact builtIn
  | unorderedMap same =>
    cases builtIn with
    | unorderedMap count fits =>
      have listed := FiniteMap.entries_perm same
      exact .unorderedMap (listed.length_eq ▸ count) fun entry mem =>
        fits entry (listed.mem_iff.2 mem)
  | success inner ih =>
    cases builtIn with
    | success builtIn => exact .success (ih builtIn)

theorem SameContents.received (services : Services) (same : a.SameContents b) :
    (a.received services).SameContents (b.received services) := by
  induction same with
  | refl object => exact .refl _
  | unorderedMap same => exact .unorderedMap same
  | success inner ih => exact .success ih

/-- What does not depend on the order of entries holds of objects in any listing. -/
theorem forall_of_sameContents {p : Object → Prop} (keeps : ∀ a b, SameContents a b → p a → p b)
    {values listed : List Object} (same : List.Forall₂ SameContents values listed)
    (holds : ∀ value ∈ values, p value) : ∀ value ∈ listed, p value := by
  induction same with
  | nil => exact holds
  | cons head _ ih =>
    rw [List.forall_mem_cons] at holds ⊢
    exact ⟨keeps _ _ head holds.1, ih holds.2⟩

end Object

namespace Dispatch

/-- Writes one object after the other into one buffer, up to the first failure. -/
def encodeEach (dispatch : Dispatch) (cancelled : Bool) : List Object → Encoding
  | [] => ⟨.ok (), [], []⟩
  | object :: rest =>
    let first := dispatch.encode cancelled object
    match first.result with
    | .error error => ⟨.error error, first.written, first.log⟩
    | .ok () =>
      let later := dispatch.encodeEach cancelled rest
      ⟨later.result, first.written ++ later.written, first.log ++ later.log⟩

/-- What is left when `count` frames were read one after the other. -/
def leftAfter (dispatch : Dispatch) (cancelled : Bool) : Nat → Bytes → Bytes
  | 0, input => input
  | count + 1, input =>
    dispatch.leftAfter cancelled count (dispatch.decode cancelled input).rest

variable {dispatch : Dispatch} {services : Services}

theorem HoldsBuiltIn.encodeEach_ok (holds : dispatch.HoldsBuiltIn services)
    (asGiven : services.commands = .asGiven) (cancelled : Bool) {objects : List Object}
    (builtIn : ∀ object ∈ objects, object.BuiltIn) :
    (dispatch.encodeEach cancelled objects).result = .ok () := by
  induction objects with
  | nil => rfl
  | cons object rest ih =>
    obtain ⟨octets, travels⟩ := holds.travels asGiven cancelled (builtIn object (by simp))
    simp only [encodeEach, travels.written]
    exact ih fun object mem => builtIn object (List.mem_cons_of_mem _ mem)

theorem HoldsBuiltIn.decodeEach_encodeEach (holds : dispatch.HoldsBuiltIn services)
    (asGiven : services.commands = .asGiven) (cancelled : Bool) {objects : List Object}
    (builtIn : ∀ object ∈ objects, object.BuiltIn)
    (shallow : ∀ object ∈ objects, object.span ≤ Frame.maxNesting) (trailing : Bytes) :
    (dispatch.decodeEach cancelled objects.length
        ((dispatch.encodeEach cancelled objects).written ++ trailing)).map Decoding.result =
      objects.map (fun object => .ok (object.received services)) ∧
    dispatch.leftAfter cancelled objects.length
        ((dispatch.encodeEach cancelled objects).written ++ trailing) = trailing := by
  induction objects with
  | nil => exact ⟨rfl, rfl⟩
  | cons object rest ih =>
    obtain ⟨octets, travels⟩ := holds.travels asGiven cancelled (builtIn object (by simp))
    have first (rest : Bytes) : dispatch.decode cancelled (octets ++ rest) =
        ⟨.ok (object.received services), rest, []⟩ := travels.read (shallow object (by simp)) rest
    have later := ih (fun object mem => builtIn object (List.mem_cons_of_mem _ mem))
      fun object mem => shallow object (List.mem_cons_of_mem _ mem)
    simp only [encodeEach, travels.written, List.length_cons, decodeEach, leftAfter,
      List.append_assoc, first, List.map_cons]
    exact ⟨congrArg _ later.1, later.2⟩

/-- Objects of built-in types make the round trip, in whichever order their maps are listed. A
transaction comes back as one from another node; an object with too many nested frames is written
all the same, and its frame is refused. -/
theorem HoldsBuiltIn.round_trip (holds : dispatch.HoldsBuiltIn services)
    (asGiven : services.commands = .asGiven) (cancelled : Bool) {values listed : List Object}
    (builtIn : ∀ value ∈ values, value.BuiltIn)
    (same : List.Forall₂ Object.SameContents values listed) (trailing : Bytes) :
    (dispatch.encodeEach cancelled listed).result = .ok () ∧
    ((∀ value ∈ values, value.span ≤ Frame.maxNesting) →
      ∃ decoded, (dispatch.decodeEach cancelled values.length
            ((dispatch.encodeEach cancelled listed).written ++ trailing)).map Decoding.result =
          decoded.map .ok ∧
        List.Forall₂ Object.SameContents (values.map (Object.received services)) decoded ∧
        dispatch.leftAfter cancelled values.length
          ((dispatch.encodeEach cancelled listed).written ++ trailing) = trailing) ∧
    ∀ value ∈ listed, Frame.maxNesting < value.span →
      (dispatch.encode cancelled value).result = .ok () ∧
      (dispatch.decode cancelled ((dispatch.encode cancelled value).written ++ trailing)).result =
        .error (.nestingTooDeep Frame.maxNesting) := by
  have listedBuiltIn : ∀ value ∈ listed, value.BuiltIn := by
    apply Object.forall_of_sameContents _ same builtIn
    intro a b same
    exact same.builtIn
  refine ⟨holds.encodeEach_ok asGiven cancelled listedBuiltIn, ?_, ?_⟩
  · intro shallow
    have listedShallow : ∀ value ∈ listed, value.span ≤ Frame.maxNesting := by
      apply Object.forall_of_sameContents _ same shallow
      intro a b same enough
      rw [← same.span_eq]
      exact enough
    obtain ⟨results, left⟩ :=
      holds.decodeEach_encodeEach asGiven cancelled listedBuiltIn listedShallow trailing
    rw [same.length_eq]
    refine ⟨listed.map (Object.received services), ?_, ?_, left⟩
    · rw [results, List.map_map]
      rfl
    · rw [List.forall₂_map_left_iff, List.forall₂_map_right_iff]
      exact same.imp fun _ _ same => same.received services
  · intro value mem deep
    obtain ⟨octets, travels⟩ := holds.travels asGiven cancelled (listedBuiltIn value mem)
    rw [travels.written]
    exact ⟨rfl, travels.tooDeep deep trailing⟩

theorem HoldsBuiltIn.round_trip_started :
    let dispatch := (Registry.empty.start .bare .standard).registry.dispatch
    let map : Object := .unorderedMap (.ofList [("a", [1]), ("b", [2])])
    let other : Object := .unorderedMap (.ofList [("b", [2]), ("a", [1])])
    let buffer := dispatch.encodeEach true [other, .success (.transaction 7 (some "n") false)]
    buffer.result = .ok () ∧
    ∃ decoded, (dispatch.decodeEach true 2 (buffer.written ++ [9])).map Decoding.result =
        decoded.map .ok ∧
      List.Forall₂ Object.SameContents [map, .success (.transaction 7 (some "n") true)] decoded ∧
      dispatch.leftAfter true 2 (buffer.written ++ [9]) = [9] := by
  intro dispatch map other buffer
  have holds : dispatch.HoldsBuiltIn .bare :=
    Registry.start_holdsBuiltIn (by decide +kernel) (fun _ mem => absurd mem List.not_mem_nil)
      fun _ mem => absurd mem List.not_mem_nil
  have builtIn : ∀ value ∈ [map, .success (.transaction 7 (some "n") false)], value.BuiltIn := by
    rw [List.forall_mem_cons, List.forall_mem_singleton]
    exact ⟨.unorderedMap (by decide +kernel) (by decide +kernel),
      .success (.transaction (by decide +kernel))⟩
  have same : List.Forall₂ Object.SameContents
      [map, .success (.transaction 7 (some "n") false)]
      [other, .success (.transaction 7 (some "n") false)] := by
    refine .cons (.unorderedMap fun key => ?_) (.cons (.refl _) .nil)
    simp only [FiniteMap.ofList, List.foldr, FiniteMap.get?_insertNew, FiniteMap.get?_empty]
    by_cases first : key = "a" <;> by_cases second : key = "b" <;> simp_all
  obtain ⟨written, read, -⟩ := HoldsBuiltIn.round_trip holds rfl true builtIn same [9]
  exact ⟨written, read (by decide +kernel)⟩

end Dispatch

end CodecRegistry
