/-
Module: Bytemark.Proofs.StreamedLines
Purpose: Reading a stream line by line is cutting its decoded text in one go.
Trusted boundary: none
Main exports: Source.Flows, streamed_lines_eq_cut
-/
import Bytemark.Proofs.LineAnswers
import Bytemark.Proofs.SessionRun

namespace Bytemark

open Lines

/-!
Octets come in portions whose sizes nobody can choose, characters and line
terminators may be torn apart by them, and reads may be interrupted in between.
The answers of the reader are those of decoding the octets in one go and
cutting the text; the same holds of a session over a file.
-/

/-- A step of a stream that is not at its end and does not fail for good. -/
def Step.Flows : Step → Prop
  | .data octets => octets ≠ []
  | .failure cause => cause = .interrupted

instance : DecidablePred Step.Flows
  | .data octets => inferInstanceAs (Decidable (octets ≠ []))
  | .failure cause => inferInstanceAs (Decidable (cause = .interrupted))

/-- Portions of any size with interruptions between them, and then the end. -/
def Source.Flows (source : Source) : Prop := ∀ step ∈ source.steps, step.Flows

instance (source : Source) : Decidable source.Flows :=
  inferInstanceAs (Decidable (∀ step ∈ source.steps, step.Flows))

namespace Source

theorem solid_of_flows {source : Source} (flows : source.Flows) : source.Solid := by
  intro step member empty
  have flowing := flows step member
  rw [empty] at flowing
  exact flowing rfl

theorem quiet_of_flows {source : Source} (flows : source.Flows) : source.script.Quiet := by
  intro cause member
  obtain ⟨step, inside, delivered⟩ := List.mem_flatMap.mp member
  cases step with
  | data octets => exact absurd delivered (Script.error_notMem_ofList _ _)
  | failure other =>
      have same : cause = other := Except.error.inj (List.mem_singleton.mp delivered)
      rw [same]
      exact flows _ inside

end Source

/-- For every stream that flows, the resolver finds the encoding that the octets
begin with, the reader behind it answers the lines of the text that decoding in
one go gives, one after the other, and afterwards that there is none; and for
every file, a session answers the same lines and the same text. -/
theorem streamed_lines_eq_cut {source : Source} (flows : source.Flows) (resolver : Resolver)
    {session : Session} {files : FileSystem} {location : Location} {id : FileId}
    (found : files.find session.path = .ok (location, .file id)) :
    let resolved := resolver.resolve (Pushback.ofSource source)
    let resolution := Resolution.ofOctets source.octets resolver.defaultEncoding
    let reader := LineReader.new (TextStream.new resolved.stream resolution.encoding)
    resolved.result = .ok resolution ∧
      (∀ count, (reader.afterLines count).readLine.1 =
        .ok (ofText (resolution.text source.octets))[count]?) ∧
      Session.readLines.run session files =
        (.ok (ofText (session.resolver.text (files.content id))), session.released, files) ∧
      Session.readAll.run session files =
        (.ok (session.resolver.text (files.content id)), session.released, files) := by
  intro resolved resolution reader
  have solid : (Pushback.ofSource source).source.Solid := Source.solid_of_flows flows
  have quiet : (Pushback.ofSource source).script.Quiet := Source.quiet_of_flows flows
  obtain ⟨result, elements, solid', quiet'⟩ :=
    Resolver.resolve_of_quiet resolver solid quiet (Nat.zero_le _)
  rw [Pushback.script_ofSource, Source.elements_script] at result elements
  have holds : reader.Holds (resolution.text source.octets).toList := by
    have fresh := LineReader.holds_new solid' quiet' resolution.encoding
    rw [elements] at fresh
    exact fresh
  refine ⟨result, ?_, Session.run_readLines_of_file found, Session.run_readAll_of_file found⟩
  intro count
  have cutting : split (unskipped reader.skipsLf (resolution.text source.octets).toList) =
      split (resolution.text source.octets).toList := by
    rw [show reader.skipsLf = false from rfl, unskipped_false]
  rw [LineReader.readLine_afterLines holds cutting count, ofText, ← map_split, List.map_map,
    List.getElem?_map]
  rfl

/-- A signature, a character and a terminator that are torn apart. -/
def Source.torn : Source :=
  ⟨[.data [0xFF], .failure .interrupted, .data [0xFE, 0x61], .data [0x00, 0x0D, 0x00],
    .failure .interrupted, .failure .interrupted, .data [0x0A, 0x00, 0x62, 0x00]]⟩

theorem streamed_lines_eq_cut_torn :
    Source.torn.Flows ∧
      (FileSystem.holding "a" [0xFE, 0xFF, 0x00, 0x61, 0x00, 0x0D]).find "a" =
        .ok (.ofNames ["a"], .file 0) ∧
      ((LineReader.new (TextStream.new
          (Resolver.resolve {} (Pushback.ofSource Source.torn)).stream
          (.utf16 .little))).afterLines 1).readLine.1 = .ok (some "b") ∧
      Session.readLines.run (Session.new "a" default .silent)
          (FileSystem.holding "a" [0xFE, 0xFF, 0x00, 0x61, 0x00, 0x0D]) =
        (.ok ["a"], Session.new "a" default .silent,
          FileSystem.holding "a" [0xFE, 0xFF, 0x00, 0x61, 0x00, 0x0D]) := by
  have flows : Source.torn.Flows := by decide
  have found : (FileSystem.holding "a" [0xFE, 0xFF, 0x00, 0x61, 0x00, 0x0D]).find
      (Session.new "a" default .silent).path = .ok (.ofNames ["a"], .file 0) := rfl
  obtain ⟨-, lines, session, -⟩ := streamed_lines_eq_cut flows {} found
  refine ⟨flows, found, (lines 1).trans ?_, session.trans ?_⟩
  · decide +kernel
  · decide +kernel

end Bytemark
