/-
Module: Bytemark.Proofs.TextUsage
Purpose: Whoever uses a text stream gets its text once, and each failure once.
Trusted boundary: none
Main exports: Script.failures, Decoder.elements_script, Decoder.failures_script, TextStream.Call,
  TextStream.answer, TextStream.answers_refitted, Usage, Usage.Reached, Usage.Faithful,
  text_is_handed_out_once
-/
import Bytemark.Proofs.FailedReads
import Bytemark.Proofs.PutBackStreams

namespace Bytemark

open Codec

/-!
What was used of a text stream and what its script still holds are together the text
of the stream, and what it reported and what its script still holds are together its
failures.  Every call keeps both, wherever it cuts the text, so they say everything
about a stream in use.  Behind the end nothing but the window is left to look at.
-/

/-! ### What a script holds -/

namespace Script

variable {α : Type}

/-- The failures of a script that show. -/
def failures : Script α → List IoError
  | [] => []
  | .ok _ :: rest => failures rest
  | .error .interrupted :: rest => failures rest
  | .error cause :: rest => cause :: failures rest

theorem failures_error {cause : IoError} (lasting : cause ≠ .interrupted) (rest : Script α) :
    failures (.error cause :: rest) = cause :: failures rest := by
  cases cause <;> first | rfl | exact absurd rfl lasting

theorem failures_ofList_append (elements : List α) (rest : Script α) :
    failures (ofList elements ++ rest) = failures rest := by
  induction elements with
  | nil => rfl
  | cons element elements inductionHypothesis => exact inductionHypothesis

theorem elements_ofList_append (elements' : List α) (rest : Script α) :
    elements (ofList elements' ++ rest) = elements' ++ elements rest := by
  rw [elements_append, elements_ofList]

theorem elements_utf8 (script : Script Char) :
    script.utf8.elements = Utf8.encodeText script.elements := by
  induction script with
  | nil => rfl
  | cons event rest inductionHypothesis =>
      cases event with
      | ok c =>
          rw [utf8, elements_ofList_append, inductionHypothesis]
          rfl
      | error cause => exact inductionHypothesis

theorem failures_utf8 (script : Script Char) : script.utf8.failures = script.failures := by
  induction script with
  | nil => rfl
  | cons event rest inductionHypothesis =>
      cases event with
      | ok c =>
          rw [utf8, failures_ofList_append]
          exact inductionHypothesis
      | error cause =>
          by_cases lasting : cause = .interrupted
          · subst lasting
            exact inductionHypothesis
          · rw [utf8, failures_error lasting, failures_error lasting, inductionHypothesis]

end Script

namespace Source

theorem failures_cons_failure {cause : IoError} (lasting : cause ≠ .interrupted)
    (rest : List Step) : failures ⟨.failure cause :: rest⟩ = cause :: failures ⟨rest⟩ := by
  cases cause <;> first | rfl | exact absurd rfl lasting

theorem failures_script (source : Source) : source.script.failures = source.failures := by
  obtain ⟨steps⟩ := source
  induction steps with
  | nil => rfl
  | cons step rest inductionHypothesis =>
      rw [script_cons]
      cases step with
      | data octets =>
          rw [Step.script, Script.failures_ofList_append]
          exact inductionHypothesis
      | failure cause =>
          by_cases lasting : cause = .interrupted
          · subst lasting
            exact inductionHypothesis
          · rw [Step.script, List.singleton_append, Script.failures_error lasting,
              failures_cons_failure lasting, inductionHypothesis]

/-- An interrupted read does not show. -/
theorem interrupted_notMem_failures (source : Source) :
    IoError.interrupted ∉ source.failures := by
  obtain ⟨steps⟩ := source
  induction steps with
  | nil => exact List.not_mem_nil
  | cons step rest inductionHypothesis =>
      cases step with
      | data octets => exact inductionHypothesis
      | failure cause =>
          by_cases lasting : cause = .interrupted
          · subst lasting
            exact inductionHypothesis
          · rw [failures_cons_failure lasting, List.mem_cons, not_or]
            exact ⟨Ne.symm lasting, inductionHypothesis⟩

end Source

namespace Decoder

/-- Failures cost a decoder no character, wherever they fall. -/
theorem elements_script (decoder : Decoder) (script : Script UInt8) :
    (decoder.script script).elements = (decoder.decode script.elements true).1 := by
  induction script generalizing decoder with
  | nil => exact Script.elements_ofList _
  | cons event rest inductionHypothesis =>
      cases event with
      | ok octet =>
          rw [Decoder.script, shown, Script.elements_ofList_append, inductionHypothesis,
            Script.elements, decode_finished, decode_finished, feed_cons]
          simp only [List.map_append, List.append_assoc]
      | error cause =>
          by_cases lasting : cause = .interrupted
          · subst lasting
            exact inductionHypothesis decoder
          · rw [script_error lasting]
            exact inductionHypothesis decoder

/-- A decoder adds no failures, and takes none away. -/
theorem failures_script (decoder : Decoder) (script : Script UInt8) :
    (decoder.script script).failures = script.failures := by
  induction script generalizing decoder with
  | nil =>
      have none := Script.failures_ofList_append (decoder.finish.1.map Piece.toChar) []
      rwa [List.append_nil] at none
  | cons event rest inductionHypothesis =>
      cases event with
      | ok octet =>
          rw [Decoder.script, shown, Script.failures_ofList_append]
          exact inductionHypothesis _
      | error cause =>
          by_cases lasting : cause = .interrupted
          · subst lasting
            exact inductionHypothesis decoder
          · rw [script_error lasting, Script.failures_error lasting,
              Script.failures_error lasting, inductionHypothesis]

end Decoder

theorem Pushback.elements_script (stream : Pushback) :
    stream.script.elements = stream.pending ++ stream.source.octets := by
  rw [script, Script.elements_ofList_append, Source.elements_script]

theorem Pushback.failures_script (stream : Pushback) :
    stream.script.failures = stream.source.failures := by
  rw [script, Script.failures_ofList_append, Source.failures_script]

/-! ### Calls on a text stream -/

namespace TextStream

/-- A call on a text stream. -/
inductive Call where
  | fill
  | read (size : Nat)
  | consume (amount : Nat)
deriving Repr, DecidableEq

/-- What a call answers, and what it leaves.  Marking text as used shows none, and is the
one call that can panic. -/
def answer (text : TextStream) : Call → Except Panic (Except IoError Octets) × TextStream
  | .fill => (.ok text.fill.1, text.fill.2)
  | .read size => (.ok (text.read size).1, (text.read size).2)
  | .consume amount =>
      match text.consume amount with
      | .ok after => (.ok (.ok []), after)
      | .error panic => (.error panic, text)

/-- No more is marked as used than is ready. -/
def Call.Within (text : TextStream) : Call → Prop
  | .consume amount => amount ≤ text.ready.length
  | _ => True

/-- The text that a call uses, given what it answered. -/
def Call.used (text : TextStream) (answered : Octets) : Call → Octets
  | .fill => []
  | .read _ => answered
  | .consume amount => text.ready.take amount

/-! ### Filling -/

/-- An interrupted read does not show. -/
theorem lasting_of_fill {text after : TextStream} {cause : IoError}
    (failed : text.fill = (.error cause, after)) : cause ≠ .interrupted := by
  fun_induction fill text with
  | case1 text waiting => cases failed
  | case2 text waiting inner reading => cases failed
  | case3 text waiting octet octets inner reading lighter inductionHypothesis =>
      exact inductionHypothesis failed
  | case4 text waiting inner reading lighter inductionHypothesis =>
      exact inductionHypothesis failed
  | case5 text waiting cause inner lasting reading =>
      cases failed
      exact lasting

/-- What a read answers is the front of what is ready then. -/
theorem take_ready_of_fill {text after : TextStream} {ready : Octets}
    (filled : text.fill = (.ok ready, after)) (size : Nat) :
    after.ready.take (ready.take size).length = ready.take size := by
  rw [← ready_of_fill filled, List.length_take, ← List.take_eq_take_min]

/-- Nothing is ready only when the end was seen. -/
theorem atEnd_of_fill_nil {text after : TextStream} (filled : text.fill = (.ok [], after)) :
    after.atEnd = true := by
  fun_induction fill text with
  | case1 text waiting =>
      simp only [Prod.mk.injEq, Except.ok.injEq] at filled
      obtain ⟨none, rfl⟩ := filled
      cases waits : text.isWaiting with
      | true => exact absurd none ((Window.isWaiting_iff _).mp waits)
      | false => simpa [waits] using waiting
  | case2 text waiting inner reading =>
      simp only [Prod.mk.injEq] at filled
      exact filled.2 ▸ rfl
  | case3 text waiting octet octets inner reading lighter inductionHypothesis =>
      exact inductionHypothesis filled
  | case4 text waiting inner reading lighter inductionHypothesis =>
      exact inductionHypothesis filled
  | case5 text waiting cause inner lasting reading => cases filled

/-- At the end that a stream remembers, there is nothing left to read. -/
def Ended (text : TextStream) : Prop := text.atEnd = true → text.inner.script = []

theorem ended_of_fresh {text : TextStream} (fresh : text.atEnd = false) : text.Ended := by
  intro atEnd
  cases fresh.symm.trans atEnd

theorem ended_fill {text : TextStream} (solid : text.Solid) (ended : text.Ended) :
    text.fill.2.Ended := by
  fun_induction fill text with
  | case1 text waiting => exact ended
  | case2 text waiting inner reading =>
      -- Only this read sets the flag, and a solid source delivers nothing only at its end.
      intro _
      obtain ⟨front, -, nothing⟩ := Pushback.script_of_read solid (by decide) reading
      exact front.symm.trans (nothing rfl)
  | case3 text waiting octet octets inner reading lighter inductionHypothesis =>
      simp only [Bool.or_eq_true, not_or, Bool.not_eq_true] at waiting
      obtain ⟨-, innerSolid, -⟩ := Pushback.script_of_read solid (by decide) reading
      exact inductionHypothesis innerSolid (ended_of_fresh waiting.2)
  | case4 text waiting inner reading lighter inductionHypothesis =>
      simp only [Bool.or_eq_true, not_or, Bool.not_eq_true] at waiting
      obtain ⟨-, innerSolid⟩ := Pushback.script_of_read_error solid reading
      exact inductionHypothesis innerSolid (ended_of_fresh waiting.2)
  | case5 text waiting cause inner lasting reading =>
      simp only [Bool.or_eq_true, not_or, Bool.not_eq_true] at waiting
      exact ended_of_fresh waiting.2

/-- The failures that will show are those of the source. -/
theorem failures_script {text : TextStream} (ended : text.Ended) :
    text.script.failures = text.inner.source.failures := by
  rw [script, Script.failures_ofList_append, ← text.inner.failures_script]
  cases atEnd : text.atEnd with
  | true =>
      rw [if_pos rfl, ended atEnd]
  | false =>
      rw [if_neg Bool.false_ne_true, Script.failures_utf8, Decoder.failures_script]

/-- What is used up is the front of the script. -/
theorem script_eq_advance (text : TextStream) (amount : Nat) :
    text.script = Script.ofList (text.ready.take amount) ++ (text.advance amount).script := by
  rw [script, script, ready_advance, ← List.append_assoc, ← Script.ofList_append,
    List.take_append_drop]
  rfl

/-! ### Behind the end -/

/-- The same stream over another one, and with another decoder. -/
def refitted (text : TextStream) (inner : Pushback) (decoder : Decoder) : TextStream :=
  { text with inner, decoder }

theorem fill_of_atEnd {text : TextStream} (atEnd : text.atEnd = true) :
    text.fill = (.ok text.ready, text) := by
  rw [fill, if_pos (by rw [atEnd, Bool.or_true])]

/-- Behind the end a call leaves the stream and the decoder alone. -/
theorem answer_refitted {text : TextStream} (atEnd : text.atEnd = true) (inner : Pushback)
    (decoder : Decoder) (call : Call) :
    (text.refitted inner decoder).answer call =
      ((text.answer call).1, (text.answer call).2.refitted inner decoder) := by
  have atEnd' : (text.refitted inner decoder).atEnd = true := atEnd
  cases call with
  | fill =>
      rw [answer, answer, fill_of_atEnd atEnd, fill_of_atEnd atEnd']
      rfl
  | read size =>
      rw [answer, answer, read, read, fill_of_atEnd atEnd, fill_of_atEnd atEnd']
      rfl
  | consume amount =>
      -- Only the window decides whether the sum is too large, and it is the same one.
      have same : (text.refitted inner decoder).window = text.window := rfl
      rw [answer, answer, consume, consume, same]
      cases text.window.use amount with
      | ok window => rfl
      | error panic => rfl

theorem atEnd_answer {text : TextStream} (call : Call) (atEnd : text.atEnd = true) :
    (text.answer call).2.atEnd = true := by
  cases call with
  | fill =>
      rw [answer, fill_of_atEnd atEnd]
      exact atEnd
  | read size =>
      rw [answer, read, fill_of_atEnd atEnd]
      exact atEnd
  | consume amount =>
      rw [answer]
      rcases text.consume_cases amount with ⟨-, moved⟩ | ⟨-, panics⟩
      · rw [moved]
        exact atEnd
      · rw [panics]
        exact atEnd

theorem answers_refitted {text : TextStream} (atEnd : text.atEnd = true) (inner : Pushback)
    (decoder : Decoder) (calls : List Call) :
    answersOf answer (text.refitted inner decoder) calls =
      ((answersOf answer text calls).1, (answersOf answer text calls).2.refitted inner decoder) :=
  answersOf_alike (fun text : TextStream => text.refitted inner decoder)
    (fun text => text.atEnd = true)
    (fun _ call atEnd => atEnd_answer call atEnd)
    (fun _ call atEnd => answer_refitted atEnd inner decoder call) atEnd calls

end TextStream

/-! ### Streams in use -/

/-- A text stream, what was used of its text, and the failures that it reported. -/
structure Usage where
  text : TextStream
  used : Octets := []
  reported : List IoError := []
deriving Repr, DecidableEq

namespace Usage

/-- What becomes of a stream in use by a call. -/
def after (usage : Usage) (call : TextStream.Call) : Usage :=
  match usage.text.answer call with
  | (.ok (.ok answered), text) =>
      { usage with text, used := usage.used ++ call.used usage.text answered }
  | (.ok (.error cause), text) => { usage with text, reported := usage.reported ++ [cause] }
  | (.error _, text) => { usage with text }

/-- What becomes of a new stream by calls. -/
inductive Reached (inner : Pushback) (encoding : Encoding) : Usage → Prop where
  | start : Reached inner encoding { text := .new inner encoding }
  | call {usage : Usage} {call : TextStream.Call} (reached : Reached inner encoding usage)
      (within : call.Within usage.text) : Reached inner encoding (usage.after call)

/-- What was used and reported, and what the script still holds, are `whole` and
`failures`. -/
structure Faithful (whole : Octets) (failures : List IoError) (usage : Usage) : Prop where
  solid : usage.text.Solid
  ended : usage.text.Ended
  octets : usage.used ++ usage.text.script.elements = whole
  failures : usage.reported ++ usage.text.script.failures = failures

variable {whole : Octets} {failures : List IoError} {text next : TextStream} {used : Octets}
  {reported : List IoError}

theorem faithful_new {inner : Pushback} (solid : inner.source.Solid) (encoding : Encoding) :
    Faithful (Utf8.encodeText (encoding.decode (inner.pending ++ inner.source.octets)).toList)
      inner.source.failures { text := .new inner encoding } := by
  have ended : (TextStream.new inner encoding).Ended := TextStream.ended_of_fresh rfl
  refine ⟨solid, ended, ?_, TextStream.failures_script ended⟩
  rw [List.nil_append, TextStream.script_new, Script.elements_utf8, Decoder.elements_script,
    Pushback.elements_script, Encoding.decode, String.toList_ofList]

/-- Filling shows text, and takes none. -/
theorem Faithful.fill {ready : Octets} (faithful : Faithful whole failures ⟨text, used, reported⟩)
    (filled : text.fill = (.ok ready, next)) :
    Faithful whole failures ⟨next, used, reported⟩ := by
  obtain ⟨solid, same, -⟩ := TextStream.script_fill faithful.solid filled
  have ended := TextStream.ended_fill faithful.solid faithful.ended
  rw [filled] at ended
  exact ⟨solid, ended, same ▸ faithful.octets, same ▸ faithful.failures⟩

/-- A failure that is reported is one less, and costs no text. -/
theorem Faithful.fail {cause : IoError} (faithful : Faithful whole failures ⟨text, used, reported⟩)
    (failed : text.fill = (.error cause, next)) :
    Faithful whole failures ⟨next, used, reported ++ [cause]⟩ := by
  obtain ⟨solid, script⟩ := TextStream.script_fill_error faithful.solid failed
  have ended := TextStream.ended_fill faithful.solid faithful.ended
  have octets := faithful.octets
  have reports := faithful.failures
  rw [failed] at ended
  rw [script] at octets reports
  rw [Script.failures_error (TextStream.lasting_of_fill failed)] at reports
  exact ⟨solid, ended, octets, (List.append_assoc _ _ _).trans reports⟩

/-- What is marked as used is taken off the script. -/
theorem Faithful.advance (faithful : Faithful whole failures ⟨text, used, reported⟩)
    (amount : Nat) :
    Faithful whole failures ⟨text.advance amount, used ++ text.ready.take amount, reported⟩ := by
  have script := text.script_eq_advance amount
  have octets := faithful.octets
  have reports := faithful.failures
  rw [script, Script.elements_ofList_append] at octets
  rw [script, Script.failures_ofList_append] at reports
  exact ⟨faithful.solid, faithful.ended, (List.append_assoc _ _ _).trans octets, reports⟩

/-- A call keeps what was used and reported together with what is still to come. -/
theorem Faithful.after {usage : Usage} {call : TextStream.Call}
    (faithful : Faithful whole failures usage) :
    Faithful whole failures (usage.after call) := by
  rw [Usage.after]
  cases call with
  | fill =>
      rw [TextStream.answer]
      cases filled : usage.text.fill with
      | mk result next =>
          cases result with
          | ok ready =>
              change Faithful whole failures ⟨next, usage.used ++ [], usage.reported⟩
              rw [List.append_nil]
              exact faithful.fill filled
          | error cause => exact faithful.fail filled
  | read size =>
      rw [TextStream.answer, TextStream.read]
      cases filled : usage.text.fill with
      | mk result next =>
          cases result with
          | ok ready =>
              -- A read is a fill that marks what it answers as used.
              have taken := (faithful.fill filled).advance (ready.take size).length
              rw [TextStream.take_ready_of_fill filled] at taken
              exact taken
          | error cause => exact faithful.fail filled
  | consume amount =>
      rw [TextStream.answer]
      rcases usage.text.consume_cases amount with ⟨-, moved⟩ | ⟨-, panics⟩
      · rw [moved]
        exact faithful.advance amount
      · rw [panics]
        exact faithful

theorem Reached.faithful {inner : Pushback} (solid : inner.source.Solid) {encoding : Encoding}
    {usage : Usage} (reached : usage.Reached inner encoding) :
    Faithful (Utf8.encodeText (encoding.decode (inner.pending ++ inner.source.octets)).toList)
      inner.source.failures usage := by
  induction reached with
  | start => exact faithful_new solid encoding
  | call reached _ inductionHypothesis => exact inductionHypothesis.after

end Usage

/-- However a text stream is filled, read and marked as used, what was used and what is
ready are the beginning of the text of all its octets, and what was reported are its
first failures, each once and never an interrupted read.  Nothing is ready only when all
of the text was used, every failure was reported and the end was seen; and behind the end
the calls answer without the stream and the decoder, and leave both alone. -/
theorem text_is_handed_out_once {encoding : Encoding} {inner : Pushback}
    (solid : inner.source.Solid) {usage : Usage} (reached : usage.Reached inner encoding) :
    let whole := Utf8.encodeText
      (encoding.decode (inner.pending ++ inner.source.octets)).toList
    let text := usage.text
    usage.used ++ text.ready <+: whole ∧
      usage.reported ++ text.inner.source.failures = inner.source.failures ∧
      IoError.interrupted ∉ usage.reported ∧
      (∀ after, text.fill = (.ok [], after) →
        usage.used = whole ∧ usage.reported = inner.source.failures ∧
          after.atEnd = true ∧ after.inner.script = []) ∧
      (text.atEnd = true → ∀ calls,
        let outcome := answersOf TextStream.answer text calls
        outcome.2.inner = text.inner ∧ outcome.2.decoder = text.decoder ∧
          ∀ other decoder, answersOf TextStream.answer (text.refitted other decoder) calls =
            (outcome.1, outcome.2.refitted other decoder)) := by
  intro whole text
  obtain ⟨sound, ended, octets, failures⟩ := reached.faithful solid
  have reports := failures
  rw [TextStream.failures_script ended] at reports
  refine ⟨?_, reports, ?_, ?_, ?_⟩
  · rw [TextStream.script, Script.elements_ofList_append, ← List.append_assoc] at octets
    exact ⟨_, octets⟩
  · intro member
    apply inner.source.interrupted_notMem_failures
    rw [← reports]
    exact List.mem_append_left _ member
  · intro after filled
    obtain ⟨-, same, nothing⟩ := TextStream.script_fill sound filled
    have atEnd := TextStream.atEnd_of_fill_nil filled
    have drained := TextStream.ended_fill sound ended
    rw [filled] at drained
    rw [nothing rfl] at octets failures
    exact ⟨(List.append_nil _).symm.trans octets, (List.append_nil _).symm.trans failures,
      atEnd, drained atEnd⟩
  · intro atEnd calls outcome
    have alone := TextStream.answers_refitted atEnd text.inner text.decoder calls
    have same : outcome.2 = outcome.2.refitted text.inner text.decoder := congrArg Prod.snd alone
    exact ⟨(congrArg TextStream.inner same :), (congrArg TextStream.decoder same :),
      fun other decoder => TextStream.answers_refitted atEnd other decoder calls⟩

/-- A character that failures and calls cut apart, a failure in front of the end, and a
character that the end cuts. -/
theorem text_is_handed_out_once_torn :
    let source : Source := ⟨[.data [0xE2, 0x82], .failure .interrupted, .failure .deviceLost,
      .data [0xAC, 0x61], .failure .storageFull, .data [0xC3]]⟩
    let inner := Pushback.ofSource source
    let cut := (Usage.after { text := .new inner .utf8 } .fill).after (.read 2)
    let usage := ((cut.after (.consume 1)).after (.read 5)).after .fill |>.after (.read 5)
    source.Solid ∧ usage.Reached inner .utf8 ∧ usage.text.atEnd = true ∧
      cut.used = [0xE2, 0x82] ∧ cut.text.ready = [0xAC, 0x61] ∧ cut.reported = [.deviceLost] ∧
      usage.used = Utf8.encodeText (Encoding.utf8.decode source.octets).toList ∧
      usage.reported = [.deviceLost, .storageFull] ∧
      (answersOf TextStream.answer (usage.text.refitted (.ofSource source) (.new .latin1))
        [.fill, .read 3]).1 = [.ok (.ok []), .ok (.ok [])] := by
  intro source inner cut usage
  have solid : inner.source.Solid := by
    unfold Source.Solid
    decide
  have within : 1 ≤ cut.text.ready.length := by decide +kernel
  have reached : usage.Reached inner .utf8 :=
    .call (.call (.call (.call (.call (.call .start trivial) trivial) within) trivial)
      trivial) trivial
  have atEnd : usage.text.atEnd = true := by decide +kernel
  have ready : usage.text.ready = [] := by decide +kernel
  obtain ⟨-, -, -, empty, behind⟩ := text_is_handed_out_once solid reached
  have filled : usage.text.fill = (.ok [], usage.text) :=
    (TextStream.fill_of_atEnd atEnd).trans (by rw [ready])
  obtain ⟨used, reported, -, -⟩ := empty usage.text filled
  obtain ⟨-, -, alone⟩ := behind atEnd [.fill, .read 3]
  refine ⟨solid, reached, atEnd, by decide +kernel, by decide +kernel, by decide +kernel, used,
    reported, ?_⟩
  rw [alone]
  decide +kernel

end Bytemark
