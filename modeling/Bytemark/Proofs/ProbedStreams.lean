/-
Module: Bytemark.Proofs.ProbedStreams
Purpose: Looking for a signature loses no content, however a stream delivers its
  octets and whatever was put back before.
Trusted boundary: none
Main exports: Signature.Longest, Script.calm, Resolver.outcome_calm, Pushback.Reached,
  Pushback.Delivers, resolve_keeps_content
-/
import Bytemark.Proofs.FileReading

namespace Bytemark

/-!
A stream in use is the source that it was made of, with reads and octets that
were put back in between.  Nobody ever gets more than a window put back, so the
window that a resolver has looked at finds room again, unless a signature was
taken off it, and then there is even more room.
-/

/-! ### The longest signature -/

namespace Signature

/-- The signature begins the octets, and no longer one does. -/
structure Longest (signature : Signature) (octets : Octets) : Prop where
  known : signature ∈ table
  begins : signature.octets <+: octets
  longest : ∀ other ∈ table, other.octets <+: octets →
    other.octets.length ≤ signature.octets.length

theorem sorted_table :
    table.Pairwise fun first second => second.octets.length ≤ first.octets.length := by decide

theorem eq_of_octets : ∀ first ∈ table, ∀ second ∈ table,
    first.octets = second.octets → first = second := by decide

/-- The first signature of the table that fits is the longest. -/
theorem longest_of_detect {octets : Octets} {signature : Signature}
    (found : detect octets = some signature) : signature.Longest octets := by
  obtain ⟨known, begins⟩ := prefix_of_detect found
  refine ⟨known, begins, ?_⟩
  intro other member fits
  obtain ⟨-, before, behind, whole, earlier⟩ := List.find?_eq_some_iff_append.mp found
  have sorted := sorted_table
  rw [whole] at member sorted
  rcases List.mem_append.mp member with front | back
  · have apart := earlier other front
    rw [(marks_iff other octets).mpr fits] at apart
    cases apart
  · rcases List.mem_cons.mp back with rfl | back
    · exact Nat.le_refl _
    · exact List.rel_of_pairwise_cons (List.pairwise_append.mp sorted).2.1 back

/-- There is no more than one longest signature. -/
theorem Longest.unique {octets : Octets} {first second : Signature}
    (one : first.Longest octets) (other : second.Longest octets) : first = second := by
  have length : first.octets.length = second.octets.length :=
    Nat.le_antisymm (other.longest first one.known one.begins)
      (one.longest second other.known other.begins)
  apply eq_of_octets first one.known second other.known
  rw [List.prefix_iff_eq_take.mp one.begins, List.prefix_iff_eq_take.mp other.begins, length]

theorem detect_of_longest {octets : Octets} {signature : Signature}
    (longest : signature.Longest octets) : detect octets = some signature := by
  cases found : detect octets with
  | none =>
      have unmarked := List.find?_eq_none.mp found signature longest.known
      exact absurd ((marks_iff signature octets).mpr longest.begins) unmarked
  | some other => rw [(longest_of_detect found).unique longest]

theorem detect_of_unmarked {octets : Octets}
    (unmarked : ∀ signature ∈ table, ¬ signature.octets <+: octets) : detect octets = none := by
  apply List.find?_eq_none.mpr
  intro signature member marked
  exact unmarked signature member ((marks_iff signature octets).mp marked)

end Signature

/-! ### Interruptions -/

namespace Script

variable {α : Type}

/-- The script without its interruptions. -/
def calm : Script α → Script α
  | [] => []
  | .ok element :: rest => .ok element :: calm rest
  | .error .interrupted :: rest => calm rest
  | .error cause :: rest => .error cause :: calm rest

theorem calm_error {cause : IoError} (lasting : cause ≠ .interrupted) (rest : Script α) :
    calm (.error cause :: rest) = .error cause :: calm rest := by
  cases cause <;> first | rfl | exact absurd rfl lasting

theorem calm_ofList_append (elements : List α) (rest : Script α) :
    calm (ofList elements ++ rest) = ofList elements ++ calm rest := by
  induction elements with
  | nil => rfl
  | cons element elements inductionHypothesis => exact congrArg _ inductionHypothesis

/-- Interruptions have no influence on what is gathered. -/
theorem gather_calm (size : Nat) (script : Script α) :
    gather size (calm script) =
      ((gather size script).1, (gather size script).2.1, calm (gather size script).2.2) := by
  induction script generalizing size with
  | nil =>
      rw [calm, gather_nil]
      rfl
  | cons event rest inductionHypothesis =>
      cases size with
      | zero => rw [gather, gather]
      | succ size =>
          cases event with
          | ok element =>
              rw [calm, gather, inductionHypothesis]
              rfl
          | error cause =>
              by_cases interrupted : cause = .interrupted
              · subst interrupted
                exact inductionHypothesis (size + 1)
              · have positive : 0 < size + 1 := Nat.succ_pos size
                rw [calm_error interrupted, gather_error positive interrupted,
                  gather_error positive interrupted]

end Script

/-- Interruptions have no influence on what a stream is resolved to. -/
theorem Resolver.outcome_calm (resolver : Resolver) (script : Script UInt8) :
    resolver.outcome script.calm =
      ((resolver.outcome script).1, (resolver.outcome script).2.calm) := by
  unfold outcome
  rw [Script.gather_calm]
  cases Script.gather Signature.windowSize script with
  | mk window ended =>
      rcases ended with ⟨failure, rest⟩
      cases failure with
      | none =>
          dsimp only
          rw [Script.calm_ofList_append]
      | some cause =>
          dsimp only
          rw [Script.calm_ofList_append]

/-! ### Streams in use -/

theorem Source.lasting_solid : Source.Lasting Source.Solid := by
  rintro ⟨steps⟩ size solid
  unfold read
  split
  · exact solid
  · cases steps with
    | nil => exact solid
    | cons step rest =>
        cases step with
        | failure cause => exact solid.tail
        | data portion => exact solid_putRest solid.tail _

namespace Pushback

/-- What becomes of a stream by reads, and by octets that are put back. -/
inductive Reached : Pushback → Prop where
  | start {source : Source} (solid : source.Solid) : Reached (ofSource source)
  | unread {stream after : Pushback} {octets : Octets} (reached : Reached stream)
      (putBack : stream.unread octets = (.ok (), after)) : Reached after
  | read {stream : Pushback} (reached : Reached stream) (size : Nat) :
      Reached (stream.read size).2

/-- The source of a stream in use has no empty portion. -/
theorem Reached.solid {stream : Pushback} (reached : stream.Reached) : stream.source.Solid := by
  induction reached with
  | start solid => exact solid
  | @unread stream after octets reached putBack inductionHypothesis =>
      have same := stream.source_unread octets
      rw [putBack] at same
      exact same ▸ inductionHypothesis
  | @read stream reached size inductionHypothesis =>
      exact lasting_read Source.lasting_solid inductionHypothesis size

/-! ### Reading on -/

/-- What reads into buffers of these sizes deliver, their failures in between. -/
def readEach (stream : Pushback) : List Nat → Script UInt8 × Pushback
  | [] => ([], stream)
  | size :: sizes =>
      match stream.read size with
      | (.ok octets, after) =>
          let (events, last) := after.readEach sizes
          (Script.ofList octets ++ events, last)
      | (.error cause, after) =>
          let (events, last) := after.readEach sizes
          (.error cause :: events, last)

/-- Whatever the sizes of the buffers, reading on delivers these octets and
failures in this order, and has delivered all of them after as many reads. -/
def Delivers (stream : Pushback) (script : Script UInt8) : Prop :=
  ∀ sizes : List Nat, (∀ size ∈ sizes, 0 < size) →
    (stream.readEach sizes).1 <+: script ∧
      (script.length ≤ sizes.length → (stream.readEach sizes).1 = script)

/-- Whatever reading on delivers is the front of the script. -/
theorem script_eq_readEach (stream : Pushback) (sizes : List Nat) :
    stream.script = (stream.readEach sizes).1 ++ (stream.readEach sizes).2.script := by
  induction sizes generalizing stream with
  | nil => rfl
  | cons size sizes inductionHypothesis =>
      rw [readEach]
      cases reading : stream.read size with
      | mk result after =>
          cases result with
          | ok octets =>
              rw [script_eq_of_read reading, inductionHypothesis after, ← List.append_assoc]
          | error cause =>
              rw [script_eq_of_read_error reading, inductionHypothesis after]
              rfl

/-- Each read takes something off the script, as long as there is something. -/
theorem length_readEach_ge {stream : Pushback} (solid : stream.source.Solid) {sizes : List Nat}
    (positive : ∀ size ∈ sizes, 0 < size) :
    (stream.readEach sizes).2.script = [] ∨
      sizes.length ≤ (stream.readEach sizes).1.length := by
  induction sizes generalizing stream with
  | nil => exact .inr (Nat.le_refl _)
  | cons size sizes inductionHypothesis =>
      obtain ⟨first, others⟩ := List.forall_mem_cons.mp positive
      have whole := stream.script_eq_readEach (size :: sizes)
      rw [readEach] at whole ⊢
      cases reading : stream.read size with
      | mk result after =>
          rw [reading] at whole
          cases result with
          | ok octets =>
              obtain ⟨-, afterSolid, nothing⟩ := script_of_read solid first reading
              cases octets with
              | nil =>
                  rw [nothing rfl] at whole
                  exact .inl (List.append_eq_nil_iff.mp whole.symm).2
              | cons octet octets =>
                  apply (inductionHypothesis afterSolid others).imp_right
                  intro enough
                  simp only [List.length_append, Script.length_ofList, List.length_cons]
                  omega
          | error cause =>
              obtain ⟨-, afterSolid⟩ := script_of_read_error solid reading
              exact (inductionHypothesis afterSolid others).imp_right Nat.succ_le_succ

theorem delivers_script {stream : Pushback} (solid : stream.source.Solid) :
    stream.Delivers stream.script := by
  intro sizes positive
  have whole := stream.script_eq_readEach sizes
  constructor
  · exact ⟨_, whole.symm⟩
  · intro enough
    have nothing : (stream.readEach sizes).2.script = [] := by
      rcases length_readEach_ge solid positive with none | enough'
      · exact none
      · rw [whole, List.length_append] at enough
        apply List.length_eq_zero_iff.mp
        omega
    rw [nothing, List.append_nil] at whole
    exact whole.symm

end Pushback

/-! ### Resolving -/

namespace Resolver

variable {window : Octets} {rest script : Script UInt8}

theorem outcome_of_longest (resolver : Resolver) {signature : Signature}
    (gathered : Script.gather Signature.windowSize script = (window, none, rest))
    (longest : signature.Longest window) :
    (resolver.outcome script).1.1 = .ok ⟨signature.encoding, some signature⟩ ∧
      (resolver.outcome script).2 =
        Script.ofList (window.drop signature.octets.length) ++ rest := by
  have resolution : Resolution.ofOctets window resolver.defaultEncoding =
      ⟨signature.encoding, some signature⟩ := by
    rw [Resolution.ofOctets, Signature.detect_of_longest longest]
  rw [outcome, gathered]
  dsimp only
  rw [resolution]
  exact ⟨rfl, rfl⟩

theorem outcome_of_unmarked (resolver : Resolver)
    (gathered : Script.gather Signature.windowSize script = (window, none, rest))
    (unmarked : ∀ signature ∈ Signature.table, ¬ signature.octets <+: window) :
    (resolver.outcome script).1.1 = .ok ⟨resolver.defaultEncoding, none⟩ ∧
      (resolver.outcome script).2 = Script.ofList window ++ rest := by
  have resolution : Resolution.ofOctets window resolver.defaultEncoding =
      ⟨resolver.defaultEncoding, none⟩ := by
    rw [Resolution.ofOctets, Signature.detect_of_unmarked unmarked]
  rw [outcome, gathered]
  dsimp only
  rw [resolution]
  exact ⟨rfl, rfl⟩

/-- A stream in use is resolved by its script, and what is left is read on. -/
theorem resolve_of_reached (resolver : Resolver) {stream : Pushback} (reached : stream.Reached) :
    ((resolver.resolve stream).result, (resolver.resolve stream).log) =
        (resolver.outcome stream.script).1 ∧
      (resolver.resolve stream).stream.Delivers (resolver.outcome stream.script).2 := by
  obtain ⟨answer, left, solid'⟩ :=
    resolver.resolve_eq_outcome reached.solid stream.length_pending_le
  exact ⟨answer, left ▸ Pushback.delivers_script solid'⟩

end Resolver

/-- The window is the front of what a stream in use delivers, up to a failure, with
interruptions passed over.  Behind a window that no failure stopped, the stream is
resolved by the longest signature that begins the window, and reading on delivers
everything behind the signature; a failure is answered as the policy has it, and
reading on delivers everything.  Interruptions have no influence on this, and the
stream never lacks room for what is put back. -/
theorem resolve_keeps_content (resolver : Resolver) {stream : Pushback} (reached : stream.Reached)
    {window : Octets} {failure : Option IoError} {rest : Script UInt8}
    (gathered : Script.gather Signature.windowSize stream.script = (window, failure, rest)) :
    let resolved := resolver.resolve stream
    (failure = none →
      (∀ signature : Signature, signature.Longest window →
        resolved.result = .ok ⟨signature.encoding, some signature⟩ ∧
          resolved.stream.Delivers
            (Script.ofList (window.drop signature.octets.length) ++ rest)) ∧
      ((∀ signature ∈ Signature.table, ¬ signature.octets <+: window) →
        resolved.result = .ok ⟨resolver.defaultEncoding, none⟩ ∧
          resolved.stream.Delivers (Script.ofList window ++ rest))) ∧
    (∀ cause, failure = some cause →
      (resolver.policy = .fail → resolved.result = .error cause) ∧
      (resolver.policy = .useDefault →
        resolved.result = .ok ⟨resolver.defaultEncoding, none⟩) ∧
      resolved.stream.Delivers (Script.ofList window ++ rest)) ∧
    ∀ other : Pushback, other.Reached → other.script.calm = stream.script.calm →
      (resolver.resolve other).result = resolved.result ∧
        (resolver.resolve other).log = resolved.log ∧
        ∃ left left', resolved.stream.Delivers left ∧
          (resolver.resolve other).stream.Delivers left' ∧ left'.calm = left.calm := by
  intro resolved
  obtain ⟨answer, reads⟩ := resolver.resolve_of_reached reached
  have result : resolved.result = (resolver.outcome stream.script).1.1 := congrArg Prod.fst answer
  refine ⟨?_, ?_, ?_⟩
  · rintro rfl
    constructor
    · intro signature longest
      obtain ⟨encoding, left⟩ := resolver.outcome_of_longest gathered longest
      exact ⟨result.trans encoding, left ▸ reads⟩
    · intro unmarked
      obtain ⟨encoding, left⟩ := resolver.outcome_of_unmarked gathered unmarked
      exact ⟨result.trans encoding, left ▸ reads⟩
  · rintro cause rfl
    have stopped : resolver.outcome stream.script =
        (resolver.afterFailure cause, Script.ofList window ++ rest) := by
      rw [Resolver.outcome, gathered]
    rw [stopped] at result reads
    refine ⟨?_, ?_, reads⟩
    · intro policy
      rw [result, Resolver.afterFailure, policy]
    · intro policy
      rw [result, Resolver.afterFailure, policy]
  · intro other reached' same
    obtain ⟨answer', reads'⟩ := resolver.resolve_of_reached reached'
    have agree : resolver.outcome other.script.calm = resolver.outcome stream.script.calm :=
      congrArg resolver.outcome same
    rw [resolver.outcome_calm, resolver.outcome_calm, Prod.mk.injEq, ← answer, ← answer',
      Prod.mk.injEq] at agree
    exact ⟨agree.1.1, agree.1.2, _, _, reads, reads', agree.2⟩

/-- A signature that is put together from octets that were put back and from
interrupted reads, and one that a failure cuts off. -/
theorem resolve_keeps_content_torn :
    let source : Source := ⟨[.failure .interrupted, .data [0xBF], .failure .interrupted,
      .data [0x61, 0x62], .failure .deviceLost, .data [0x63]]⟩
    let stream := ((Pushback.ofSource source).unread [0xEF, 0xBB]).2
    let broken := Pushback.ofSource ⟨[.data [0xEF], .failure .interrupted, .data [0xBB],
      .failure .deviceLost, .data [0xBF]]⟩
    let latin : Resolver := { defaultEncoding := .latin1, policy := .useDefault }
    (stream.Reached ∧ (Resolver.resolve {} stream).result =
        .ok ⟨.utf8, some ⟨.utf8, [0xEF, 0xBB, 0xBF]⟩⟩ ∧
      (Resolver.resolve {} stream).stream.Delivers
        [.ok 0x61, .ok 0x62, .error .deviceLost, .ok 0x63]) ∧
    broken.Reached ∧ (Resolver.resolve {} broken).result = .error .deviceLost ∧
      (latin.resolve broken).result = .ok ⟨.latin1, none⟩ ∧
      (latin.resolve broken).stream.Delivers [.ok 0xEF, .ok 0xBB, .ok 0xBF] := by
  intro source stream broken latin
  have solid : ∀ step ∈ source.steps, step ≠ .data [] := by decide
  have putBack : (Pushback.ofSource source).unread [0xEF, 0xBB] = (.ok (), stream) := rfl
  have reached : stream.Reached := .unread (.start solid) putBack
  have gathered : Script.gather Signature.windowSize stream.script =
      ([0xEF, 0xBB, 0xBF, 0x61], none, [.ok 0x62, .error .deviceLost, .ok 0x63]) := rfl
  have longest : (⟨.utf8, [0xEF, 0xBB, 0xBF]⟩ : Signature).Longest [0xEF, 0xBB, 0xBF, 0x61] :=
    ⟨by decide, by decide, by decide⟩
  have solidBroken : ∀ step ∈ broken.source.steps, step ≠ .data [] := by decide
  have reachedBroken : broken.Reached := .start solidBroken
  have cut : Script.gather Signature.windowSize broken.script =
      ([0xEF, 0xBB], some .deviceLost, [.ok 0xBF]) := rfl
  obtain ⟨marked, -, -⟩ := resolve_keeps_content {} reached gathered
  obtain ⟨-, refused, -⟩ := resolve_keeps_content {} reachedBroken cut
  obtain ⟨-, passed, -⟩ := resolve_keeps_content latin reachedBroken cut
  obtain ⟨default, reads⟩ := (passed _ rfl).2
  exact ⟨⟨reached, (marked rfl).1 _ longest⟩, reachedBroken, (refused _ rfl).1 rfl,
    default rfl, reads⟩

end Bytemark
