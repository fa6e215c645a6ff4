import CodecRegistry.Proofs.Loaded
import CodecRegistry.Proofs.Locality

/-! Frames in a longer input. Where every codec reads one thing after the other, a frame is read the
same whatever follows it, a refusal stays the same refusal, and an input that ends inside a frame
says so. So a stream can be cut anywhere: no frame is the front of another. -/

namespace CodecRegistry

theorem Binding.sequential_builtIn (services : Services) :
    ∀ binding ∈ builtIn services, binding.codec.read.Sequential :=
  inherits_builtIn ReadProgram.inherited_sequential services

namespace Dispatch

variable {dispatch : Dispatch}

/-- Frames nest, but each level reads one thing after the other, so the whole does. -/
theorem local_readFrame
    (sequential : ∀ {key reader}, dispatch.readers.get? key = some reader →
      reader.codec.read.Sequential) (cancelled : Bool) (levels : Nat) :
    Decoding.Local (dispatch.readFrame cancelled levels) := by
  induction levels with
  | zero => exact fun input more => .inr rfl
  | succ levels ih =>
    intro input more
    simp only [readFrame]
    rcases Reading.inherited_local.readKey input more with ⟨needed, remaining, failed, less⟩ | same
    · left
      generalize Frame.readKey input = reading at failed
      obtain ⟨result, rest⟩ := reading
      subst failed
      exact ⟨needed, remaining, rfl, less⟩
    · rw [same]
      generalize Frame.readKey input = reading
      obtain ⟨result, rest⟩ := reading
      cases result with
      | error error => exact .inr rfl
      | ok key =>
        dsimp only
        split
        · exact .inr rfl
        · rename_i reader found
          exact (sequential found).local_run ih _ cancelled rest more

/-- Octets that are one frame and nothing else. -/
def IsFrame (dispatch : Dispatch) (cancelled : Bool) (octets : Bytes) : Prop :=
  ∃ value, (dispatch.decode cancelled octets).result = .ok value ∧
    (dispatch.decode cancelled octets).rest = []

end Dispatch

namespace Registry

variable {registry : Registry} {services : Services} {configuration : Configuration}

theorem sequential_of_running
    (started : (registry.start services configuration).answer = .ok ()) (more : List Operation)
    (running : ∀ front, front <+: more →
      (front.foldl perform (registry.start services configuration).registry).isRunning = true)
    (declared : ∀ declaration ∈ registry.declared, (declaration.make services).read.Sequential)
    (configured : ∀ binding type, registry.Configures services configuration binding type →
      binding.codec.read.Sequential)
    {key : FrameKey} {reader : Binding}
    (found : (more.foldl perform
      (registry.start services configuration).registry).dispatch.readers.get? key = some reader) :
    reader.codec.read.Sequential := by
  obtain ⟨type, loads⟩ := (loadedFrom_of_running started more running).2.reader found
  exact loads.read_of (Codec.sequential_builtIn services) declared configured

/-- Frames on a running registry whose codecs read one thing after the other. What was read is read
the same whatever stands behind it; so is what was refused, unless the input broke off; and an
input that is one frame breaks off anywhere before its end. So no frame is the front of another. -/
theorem decode_extends
    (started : (registry.start services configuration).answer = .ok ()) (more : List Operation)
    (running : ∀ front, front <+: more →
      (front.foldl perform (registry.start services configuration).registry).isRunning = true)
    (declared : ∀ declaration ∈ registry.declared, (declaration.make services).read.Sequential)
    (configured : ∀ binding type, registry.Configures services configuration binding type →
      binding.codec.read.Sequential)
    (cancelled : Bool) :
    let dispatch := (more.foldl perform (registry.start services configuration).registry).dispatch
    (∀ input value rest behind, (dispatch.decode cancelled input).result = .ok value →
      (dispatch.decode cancelled input).rest = rest →
        (dispatch.decode cancelled (input ++ behind)).result = .ok value ∧
        (dispatch.decode cancelled (input ++ behind)).rest = rest ++ behind) ∧
    (∀ input error behind, (dispatch.decode cancelled input).result = .error error →
      (∀ needed remaining, error ≠ .truncated needed remaining) →
        (dispatch.decode cancelled (input ++ behind)).result = .error error) ∧
    (∀ frame front, dispatch.IsFrame cancelled frame → front <+: frame → front ≠ frame →
      ∃ needed remaining,
        (dispatch.decode cancelled front).result = .error (.truncated needed remaining) ∧
        remaining < needed) ∧
    ∀ frame other, dispatch.IsFrame cancelled frame → dispatch.IsFrame cancelled other →
      frame <+: other → frame = other := by
  intro dispatch
  have reads : Decoding.Local (dispatch.decode cancelled) :=
    Dispatch.local_readFrame (sequential_of_running started more running declared configured)
      cancelled Frame.maxNesting
  refine ⟨?_, ?_, ?_, ?_⟩
  · intro input value rest behind done left
    rw [reads.of_ok done behind]
    exact ⟨done, congrArg (· ++ behind) left⟩
  · intro input error behind failed whole
    exact reads.of_error failed whole behind
  · rintro frame front ⟨value, done, nothing⟩ before shorter
    exact reads.brokeOff_front done nothing before shorter
  · rintro frame other ⟨value, done, -⟩ ⟨whole, allDone, nothing⟩ before
    by_contra shorter
    obtain ⟨needed, remaining, failed, -⟩ :=
      reads.brokeOff_front allDone nothing before shorter
    rw [done] at failed
    cases failed

/-- Records of a text and an object. -/
def caption : Codec.RecordLayout :=
  ⟨"plug", ⟨none, [.exact (.application "A")]⟩, ["A"], [.scalar .text, .object], none⟩

def captions : Configuration :=
  { Configuration.standard with entries := [⟨some caption.codec, none, some 300⟩] }

/-- A record with a response that carries a key, three frames deep. -/
theorem decode_extends_nested :
    let dispatch := (empty.start .bare captions).registry.dispatch
    let frame : Bytes := [255, 0xAC, 0x02, 1, 104, 13, 1, 40, 1, 9]
    dispatch.IsFrame false frame ∧
    (∀ behind, ∃ value, (dispatch.decode false (frame ++ behind)).result = .ok value ∧
      (dispatch.decode false (frame ++ behind)).rest = behind) ∧
    ∀ front, front <+: frame → front ≠ frame → ∃ needed remaining,
      (dispatch.decode false front).result = .error (.truncated needed remaining) ∧
      remaining < needed := by
  intro dispatch frame
  obtain ⟨started, runs, done, nothing⟩ : (empty.start .bare captions).answer = .ok () ∧
      (empty.start .bare captions).registry.isRunning = true ∧
      (dispatch.decode false frame).result.isOk = true ∧
      (dispatch.decode false frame).rest = [] := by decide +kernel
  obtain ⟨value, done⟩ : ∃ value, (dispatch.decode false frame).result = .ok value := by
    cases result : (dispatch.decode false frame).result with
    | ok value => exact ⟨value, rfl⟩
    | error error =>
      rw [result] at done
      cases done
  have running : ∀ front, front <+: ([] : List Operation) →
      (front.foldl perform (empty.start .bare captions).registry).isRunning = true := by
    intro front before
    rw [List.prefix_nil.1 before]
    exact runs
  have sequential : ∀ binding type, empty.Configures .bare captions binding type →
      binding.codec.read.Sequential := by
    rintro binding type ⟨item, listed, types, accepted, -⟩
    obtain ⟨id, -, -, found, -⟩ := entryBinding_ok accepted
    have only := List.mem_singleton.1 (List.fst_mem_of_mem_zipIdx listed)
    rw [only] at found
    rw [← Except.ok.inj found]
    exact Codec.RecordLayout.sequential_read caption (by decide)
  obtain ⟨reads, -, breaks, -⟩ := decode_extends started [] running
    (fun _ mem => absurd mem List.not_mem_nil) sequential false
  have whole : dispatch.IsFrame false frame := ⟨value, done, nothing⟩
  exact ⟨whole, fun behind => ⟨value, reads frame value [] behind done nothing⟩,
    fun front => breaks frame front whole⟩

end Registry

end CodecRegistry
