/-
Module: Bytemark.Proofs.Probing
Purpose: Looking for a signature takes the signature off a stream and nothing else.
Trusted boundary: none
Main exports: Script.gather, Resolver.probe_eq_gather, Signature.detect_take,
  Resolver.outcome, Resolver.resolve_eq_outcome, Resolver.resolve_of_quiet
-/
import Mathlib.Data.List.Find
import Bytemark.Resolver
import Bytemark.Proofs.StreamScript

namespace Bytemark

namespace Script

variable {α : Type}

/-- The first elements of a script, as many as asked for, what stopped the
gathering early, and what is left.  Interruptions are passed over. -/
def gather : Nat → Script α → List α × Option IoError × Script α
  | 0, script => ([], none, script)
  | _ + 1, [] => ([], none, [])
  | size + 1, .ok element :: rest =>
      (element :: (gather size rest).1, (gather size rest).2)
  | size + 1, .error .interrupted :: rest => gather (size + 1) rest
  | _ + 1, .error cause :: rest => ([], some cause, rest)

theorem error_notMem_ofList (cause : IoError) (elements : List α) :
    Except.error cause ∉ ofList elements := by
  intro member
  obtain ⟨element, -, impossible⟩ := List.mem_map.mp member
  cases impossible

theorem gather_nil (size : Nat) : gather size ([] : Script α) = ([], none, []) := by
  cases size <;> rfl

theorem gather_error {size : Nat} {cause : IoError} (positive : 0 < size)
    (lasting : cause ≠ .interrupted) (rest : Script α) :
    gather size (.error cause :: rest) = ([], some cause, rest) := by
  cases size with
  | zero => omega
  | succ size => cases cause <;> first | rfl | exact absurd rfl lasting

theorem gather_interrupted {size : Nat} (positive : 0 < size) (rest : Script α) :
    gather size (.error .interrupted :: rest) = gather size rest := by
  cases size with
  | zero => omega
  | succ size => rfl

/-- What is at the front is gathered first. -/
theorem gather_ofList_append {elements : List α} {size : Nat} (fits : elements.length ≤ size)
    (rest : Script α) :
    gather size (ofList elements ++ rest) =
      (elements ++ (gather (size - elements.length) rest).1,
        (gather (size - elements.length) rest).2) := by
  induction elements generalizing size with
  | nil => rfl
  | cons element elements inductionHypothesis =>
      cases size with
      | zero => cases fits
      | succ size =>
          have smaller : elements.length ≤ size := by simpa using fits
          simp [gather, inductionHypothesis smaller]

/-- Without lasting failures the front of the elements is gathered. -/
theorem gather_of_quiet {script : Script α} (quiet : script.Quiet) (size : Nat) :
    (gather size script).1 = script.elements.take size ∧ (gather size script).2.1 = none ∧
      (gather size script).2.2.elements = script.elements.drop size ∧
      (gather size script).2.2.Quiet := by
  induction script generalizing size with
  | nil =>
      rw [gather_nil]
      exact ⟨List.take_nil.symm, rfl, List.drop_nil.symm, quiet⟩
  | cons event rest inductionHypothesis =>
      cases size with
      | zero => exact ⟨rfl, rfl, rfl, quiet⟩
      | succ size =>
          cases event with
          | ok element =>
              obtain ⟨front, failure, behind, still⟩ := inductionHypothesis quiet.tail size
              exact ⟨congrArg (element :: ·) front, failure, behind, still⟩
          | error cause =>
              have interrupted := quiet cause List.mem_cons_self
              subst interrupted
              exact inductionHypothesis quiet.tail (size + 1)

end Script

namespace Pushback

/-- The octets that a read takes from those put back make room for as many. -/
theorem length_pending_of_read {stream after : Pushback} {size : Nat} {octets : Octets}
    (delivered : stream.read size = (.ok octets, after)) :
    after.pending = [] ∨ after.pending.length + octets.length = stream.pending.length := by
  rcases stream.read_cases size with
    ⟨result, left, -, -, through, none⟩ | ⟨left, -, front, behind, -⟩
  · cases delivered.symm.trans through
    exact .inl none
  · cases delivered.symm.trans front
    refine .inr ?_
    rw [behind, List.length_drop, List.length_take]
    omega

theorem length_pending_of_read_error {stream after : Pushback} {size : Nat} {cause : IoError}
    (failed : stream.read size = (.error cause, after)) : after.pending = stream.pending := by
  rcases stream.read_cases size with
    ⟨result, left, none, -, through, none'⟩ | ⟨left, -, front, -, -⟩
  · cases failed.symm.trans through
    rw [none, none']
  · cases failed.symm.trans front

/-- Octets that fit are put back in front of the script. -/
theorem unread_of_fits {stream : Pushback} {octets : Octets}
    (fits : stream.pending.length + octets.length ≤ Signature.windowSize) :
    ∃ after, stream.unread octets = (.ok (), after) ∧
      after.script = Script.ofList octets ++ stream.script ∧ after.source = stream.source := by
  rcases stream.unread_cases octets with ⟨full, -⟩ | ⟨after, -, putBack, front, source⟩
  · omega
  · refine ⟨after, putBack, ?_, source⟩
    rw [script, script, front, source, ← List.append_assoc, Script.ofList_append]

end Pushback

namespace Resolver

/-- The window is gathered from the front of the stream. -/
theorem probe_eq_gather {stream : Pushback} {window : Octets}
    (solid : stream.source.Solid)
    (room : stream.pending.length + window.length ≤ Signature.windowSize) :
    (probe stream window).window =
        window ++ (Script.gather (Signature.windowSize - window.length) stream.script).1 ∧
      (probe stream window).failure =
        (Script.gather (Signature.windowSize - window.length) stream.script).2.1 ∧
      (probe stream window).stream.script =
        (Script.gather (Signature.windowSize - window.length) stream.script).2.2 ∧
      (probe stream window).stream.source.Solid ∧
      (probe stream window).stream.pending.length + (probe stream window).window.length ≤
        Signature.windowSize := by
  fun_induction probe stream window with
  | case1 stream window short after reading =>
      obtain ⟨front, afterSolid, empty⟩ := Pushback.script_of_read solid (by omega) reading
      have nothing : after.script = [] := by
        rw [empty rfl] at front
        exact front.symm
      rw [empty rfl, Script.gather_nil]
      refine ⟨(List.append_nil _).symm, rfl, nothing, afterSolid, ?_⟩
      rcases Pushback.length_pending_of_read reading with none | same
      · simp only [none, List.length_nil]
        omega
      · simp only [List.length_nil] at same
        dsimp only
        omega
  | case2 stream window short octet octets after reading lighter inductionHypothesis =>
      obtain ⟨front, afterSolid, -⟩ := Pushback.script_of_read solid (by omega) reading
      have fits := Pushback.length_le_of_read reading
      have left : after.pending.length + (window ++ octet :: octets).length ≤
          Signature.windowSize := by
        rw [List.length_append]
        rcases Pushback.length_pending_of_read reading with none | same
        · simp only [none, List.length_nil]
          omega
        · omega
      obtain ⟨front', failure, behind, solid', room'⟩ := inductionHypothesis afterSolid left
      have size : Signature.windowSize - (window ++ octet :: octets).length =
          Signature.windowSize - window.length - (octet :: octets).length := by
        rw [List.length_append]
        omega
      rw [size] at front' failure behind
      rw [front, Script.gather_ofList_append fits]
      refine ⟨?_, failure, behind, solid', room'⟩
      rw [front', List.append_assoc]
  | case3 stream window short after reading lighter inductionHypothesis =>
      obtain ⟨front, afterSolid⟩ := Pushback.script_of_read_error solid reading
      rw [front, Script.gather_interrupted (by omega)]
      apply inductionHypothesis afterSolid
      rw [Pushback.length_pending_of_read_error reading]
      exact room
  | case4 stream window short cause after lasting reading =>
      obtain ⟨front, afterSolid⟩ := Pushback.script_of_read_error solid reading
      rw [front, Script.gather_error (by omega) lasting]
      refine ⟨(List.append_nil _).symm, rfl, rfl, afterSolid, ?_⟩
      rw [Pushback.length_pending_of_read_error reading]
      exact room
  | case5 stream window full =>
      have zero : Signature.windowSize - window.length = 0 := by omega
      rw [zero, Script.gather]
      exact ⟨(List.append_nil _).symm, rfl, rfl, solid, room⟩

end Resolver

namespace Signature

theorem marks_iff (signature : Signature) (octets : Octets) :
    signature.marks octets = true ↔ signature.octets <+: octets := List.isPrefixOf_iff_prefix

/-- Only the octets within the window decide about a signature. -/
theorem marks_take {signature : Signature} (member : signature ∈ table) (octets : Octets) :
    signature.marks (octets.take windowSize) = signature.marks octets := by
  have fits := length_le_windowSize signature member
  rw [Bool.eq_iff_iff, marks_iff, marks_iff]
  constructor
  · intro marked
    exact marked.trans (List.take_prefix windowSize octets)
  · intro marked
    rw [List.prefix_take_iff]
    exact ⟨marked, fits⟩

theorem detect_take (octets : Octets) : detect (octets.take windowSize) = detect octets := by
  unfold detect
  apply List.find?_congr
  intro signature member
  exact marks_take member octets

/-- A signature that is found is one of those known, and begins the octets. -/
theorem prefix_of_detect {octets : Octets} {signature : Signature}
    (found : detect octets = some signature) :
    signature ∈ table ∧ signature.octets <+: octets := by
  unfold detect at found
  have marked := List.find?_some found
  exact ⟨List.mem_of_find?_eq_some found, (marks_iff _ _).mp marked⟩

end Signature

namespace Resolution

theorem ofOctets_take (octets : Octets) (default : Encoding) :
    ofOctets (octets.take Signature.windowSize) default = ofOctets octets default := by
  unfold ofOctets
  rw [Signature.detect_take]

/-- A signature lies within the octets that it was found in. -/
theorem signatureLength_le (octets : Octets) (default : Encoding) :
    (ofOctets octets default).signatureLength ≤ octets.length := by
  unfold ofOctets
  cases found : Signature.detect octets with
  | none => exact Nat.zero_le _
  | some signature => exact (Signature.prefix_of_detect found).2.length_le

end Resolution

namespace Resolver

/-- What the script of a stream says about its resolution: the answer, the
messages, and the script that is left.  Whatever was looked at is put back, a
signature apart. -/
def outcome (resolver : Resolver) (script : Script UInt8) :
    (Except IoError Resolution × List Log.Entry) × Script UInt8 :=
  match Script.gather Signature.windowSize script with
  | (window, none, rest) =>
      let resolution := Resolution.ofOctets window resolver.defaultEncoding
      ((.ok resolution,
          resolver.logger.record .debug (resolvedMessage resolution window.length)),
        Script.ofList (window.drop resolution.signatureLength) ++ rest)
  | (window, some cause, rest) => (resolver.afterFailure cause, Script.ofList window ++ rest)

/-- A stream is resolved by its script, and whatever was looked at finds room to
be put back. -/
theorem resolve_eq_outcome (resolver : Resolver) {stream : Pushback}
    (solid : stream.source.Solid) (room : stream.pending.length ≤ Signature.windowSize) :
    ((resolver.resolve stream).result, (resolver.resolve stream).log) =
        (resolver.outcome stream.script).1 ∧
      (resolver.resolve stream).stream.script = (resolver.outcome stream.script).2 ∧
      (resolver.resolve stream).stream.source.Solid := by
  have probing : stream.pending.length + ([] : Octets).length ≤ Signature.windowSize := room
  obtain ⟨front, stopped, behind, solid', room'⟩ := probe_eq_gather solid probing
  rw [List.length_nil, Nat.sub_zero, List.nil_append] at front
  rw [List.length_nil, Nat.sub_zero] at stopped behind
  unfold resolve outcome
  cases probed : probe stream [] with
  | mk window failure after =>
      cases gathered : Script.gather Signature.windowSize stream.script with
      | mk octets ended =>
          rcases ended with ⟨cut, rest⟩
          rw [probed, gathered] at front stopped behind
          rw [probed] at solid' room'
          dsimp only at front stopped behind solid' room'
          subst front stopped behind
          cases failure with
          | none =>
              dsimp only
              have fits : after.pending.length +
                  (window.drop (Resolution.ofOctets window
                    resolver.defaultEncoding).signatureLength).length ≤ Signature.windowSize := by
                rw [List.length_drop]
                omega
              obtain ⟨final, putBack, script, source⟩ := Pushback.unread_of_fits fits
              rw [putBack]
              exact ⟨rfl, script, source ▸ solid'⟩
          | some cause =>
              obtain ⟨final, putBack, script, source⟩ := Pushback.unread_of_fits room'
              dsimp only
              rw [putBack]
              exact ⟨rfl, script, source ▸ solid'⟩

/-- A stream without lasting failures is resolved by its first octets, and
stands on its first octet of content afterwards. -/
theorem resolve_of_quiet (resolver : Resolver) {stream : Pushback}
    (solid : stream.source.Solid) (quiet : stream.script.Quiet)
    (room : stream.pending.length ≤ Signature.windowSize) :
    (resolver.resolve stream).result =
        .ok (Resolution.ofOctets stream.script.elements resolver.defaultEncoding) ∧
      (resolver.resolve stream).stream.script.elements =
        stream.script.elements.drop
          (Resolution.ofOctets stream.script.elements
            resolver.defaultEncoding).signatureLength ∧
      (resolver.resolve stream).stream.source.Solid ∧
      (resolver.resolve stream).stream.script.Quiet := by
  obtain ⟨answer, left, solid'⟩ := resolve_eq_outcome resolver solid room
  obtain ⟨taken, calm, dropped, quiet'⟩ := Script.gather_of_quiet quiet Signature.windowSize
  have inside := Resolution.signatureLength_le
    (stream.script.elements.take Signature.windowSize) resolver.defaultEncoding
  rw [Resolution.ofOctets_take] at inside
  unfold outcome at answer left
  cases gathered : Script.gather Signature.windowSize stream.script with
  | mk window ended =>
      rcases ended with ⟨failure, rest⟩
      rw [gathered] at taken calm dropped quiet' answer left
      dsimp only at taken calm dropped quiet'
      subst taken calm
      dsimp only at answer left
      rw [Resolution.ofOctets_take] at answer left
      refine ⟨congrArg Prod.fst answer, ?_, solid', ?_⟩
      · rw [left, Script.elements_append, Script.elements_ofList, dropped,
          ← List.drop_append_of_le_length inside, List.take_append_drop]
      · intro cause member
        rw [left, List.mem_append] at member
        rcases member with member | member
        · exact absurd member (Script.error_notMem_ofList _ _)
        · exact quiet' cause member

end Resolver

end Bytemark
