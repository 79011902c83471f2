/-
Module: Bytemark.Proofs.FailedReads
Purpose: What a failing stream costs a reader of lines: at most the line that it is in.
Trusted boundary: none
Main exports: Stretches, Source.stretches, Source.failures, Stretches.decode,
  Stretches.answers, Decoder.script_source, failed_reads_cost_a_line
-/
import Bytemark.Proofs.LineAnswers
import Bytemark.Proofs.PortionedDecoding

namespace Bytemark

open Codec Lines

/-!
A failure that shows cuts a stream into stretches.  Three layers hold something
when it shows: the decoder keeps the octets of a character that it cut, the line
reader keeps that the last line ended with CR, and the line that was collected is
lost.  So the answers can be told from the texts of the stretches alone.
-/

/-- What a stream delivers before its first failure, and behind each of them. -/
structure Stretches (α : Type) where
  first : List α
  more : List (IoError × List α)
deriving DecidableEq

namespace Stretches

variable {α : Type}

/-- The elements of all stretches. -/
def joined (stretches : Stretches α) : List α :=
  stretches.first ++ stretches.more.flatMap Prod.snd

/-- The script of stretches with the failures between them. -/
def script (stretches : Stretches α) : Script α :=
  Script.ofList stretches.first ++
    stretches.more.flatMap fun stretch => .error stretch.1 :: Script.ofList stretch.2

/-- Elements in front of the first stretch. -/
def before (elements : List α) (stretches : Stretches α) : Stretches α :=
  { stretches with first := elements ++ stretches.first }

/-- A failure in front of the first stretch. -/
def behind (cause : IoError) (stretches : Stretches α) : Stretches α :=
  ⟨[], (cause, stretches.first) :: stretches.more⟩

theorem script_before (elements : List α) (stretches : Stretches α) :
    (stretches.before elements).script = Script.ofList elements ++ stretches.script := by
  rw [script, before, Script.ofList_append, List.append_assoc]
  rfl

end Stretches

namespace Source

/-- The stretches of a source.  An interrupted read is repeated and ends none. -/
def stretchesFrom : List Step → Stretches UInt8
  | [] => ⟨[], []⟩
  | .data octets :: rest => (stretchesFrom rest).before octets
  | .failure .interrupted :: rest => stretchesFrom rest
  | .failure cause :: rest => (stretchesFrom rest).behind cause

def stretches (source : Source) : Stretches UInt8 := stretchesFrom source.steps

/-- The failures that show. -/
def failures (source : Source) : List IoError :=
  source.steps.filterMap fun
    | .data _ => none
    | .failure .interrupted => none
    | .failure cause => some cause

end Source

namespace Stretches

/-- The texts of stretches: a decoder goes through all of them, and learns of the
end behind the last one. -/
def decodeFrom (decoder : Decoder) (octets : Octets) :
    List (IoError × Octets) → Stretches Char
  | [] => ⟨(decoder.decode octets true).1, []⟩
  | (cause, next) :: rest =>
      let (text, after) := decoder.decode octets false
      let behind := decodeFrom after next rest
      ⟨text, (cause, behind.first) :: behind.more⟩

def decode (encoding : Encoding) (stretches : Stretches UInt8) : Stretches Char :=
  decodeFrom (Decoder.new encoding) stretches.first stretches.more

section

variable {α : Type} [DecidableEq α] [LineAlphabet α]

/-- What a reader of lines answers, `read` being the text of the stretches before:
the complete lines of a stretch and the failure behind it, and in the end every line
that is left.  An LF that completes the terminator of an earlier stretch is skipped. -/
def answersFrom (read text : List α) : List (IoError × List α) → List (Except IoError (List α))
  | [] => (cut (unskipped (awaitsLf read) text)).map .ok
  | (cause, next) :: rest =>
      (completeLines (unskipped (awaitsLf read) text)).map .ok ++
        .error cause :: answersFrom (read ++ text) next rest

def answers (stretches : Stretches α) : List (Except IoError (List α)) :=
  answersFrom [] stretches.first stretches.more

end

/-! ### The texts of a source -/

/-- Octets that come first are decoded first. -/
theorem decodeFrom_append (decoder : Decoder) (octets first : Octets)
    (more : List (IoError × Octets)) :
    decodeFrom decoder (octets ++ first) more =
      (decodeFrom (decoder.feed octets).2 first more).before
        ((decoder.feed octets).1.map Piece.toChar) := by
  cases more with
  | nil =>
      rw [decodeFrom, decodeFrom, Decoder.decode_finished, Decoder.decode_finished,
        Decoder.feed_append]
      simp [before]
  | cons stretch rest =>
      rw [decodeFrom, decodeFrom, Decoder.decode_unfinished, Decoder.decode_unfinished,
        Decoder.feed_append]
      simp [before]

theorem script_cons {α : Type} (first : List α) (cause : IoError) (next : List α)
    (rest : List (IoError × List α)) :
    (⟨first, (cause, next) :: rest⟩ : Stretches α).script =
      Script.ofList first ++ .error cause :: (⟨next, rest⟩ : Stretches α).script := rfl

end Stretches

theorem Source.stretchesFrom_failure {cause : IoError} (lasting : cause ≠ .interrupted)
    (rest : List Step) :
    stretchesFrom (.failure cause :: rest) = (stretchesFrom rest).behind cause := by
  cases cause <;> first | rfl | exact absurd rfl lasting

/-- What a decoder makes of a source are the texts of its stretches. -/
theorem Decoder.script_source (decoder : Decoder) (steps : List Step) :
    decoder.script (Source.script ⟨steps⟩) =
      (Stretches.decodeFrom decoder (Source.stretchesFrom steps).first
        (Source.stretchesFrom steps).more).script := by
  induction steps generalizing decoder with
  | nil =>
      rw [Source.stretchesFrom, Stretches.decodeFrom, decode_finished, feed_nil]
      exact (List.append_nil _).symm
  | cons step rest inductionHypothesis =>
      cases step with
      | data octets =>
          rw [Source.script_cons, Step.script, script_ofList_append, inductionHypothesis,
            Source.stretchesFrom, Stretches.before, Stretches.decodeFrom_append,
            Stretches.script_before]
          rfl
      | failure cause =>
          by_cases lasting : cause = .interrupted
          · subst lasting
            exact inductionHypothesis decoder
          · rw [Source.stretchesFrom_failure lasting, Source.script_cons, Step.script,
              List.singleton_append, script_error lasting, inductionHypothesis]
            rw [Stretches.behind, Stretches.decodeFrom, decode_unfinished, feed_nil]
            rfl

/-! ### Answers by stretches -/

/-- The failure that an answer is. -/
def failure? {α : Type} : Except IoError α → Option IoError
  | .ok _ => none
  | .error cause => some cause

namespace Stretches

/-- Line after line, a script is answered by its stretches. -/
theorem told_script {α : Type} [DecidableEq α] [LineAlphabet α] (read text : List α)
    (more : List (IoError × List α)) :
    told (awaitsLf read) [] (⟨text, more⟩ : Stretches α).script = answersFrom read text more := by
  induction more generalizing read text with
  | nil =>
      rw [script, List.flatMap_nil, List.append_nil]
      exact told_ofList (awaitsLf read) text
  | cons stretch rest inductionHypothesis =>
      rcases stretch with ⟨cause, next⟩
      rw [script_cons, told_stretch, inductionHypothesis, answersFrom]

theorem failures_answersFrom {α : Type} [DecidableEq α] [LineAlphabet α] (read text : List α)
    (more : List (IoError × List α)) :
    (answersFrom read text more).filterMap failure? = more.map Prod.fst := by
  have lines (found : List (List α)) : (found.map Except.ok).filterMap failure? = [] := by
    rw [List.filterMap_map]
    exact List.filterMap_eq_nil_iff.mpr fun _ _ => rfl
  induction more generalizing read text with
  | nil => exact lines _
  | cons stretch rest inductionHypothesis =>
      rcases stretch with ⟨cause, next⟩
      rw [answersFrom, List.filterMap_append, lines, List.nil_append]
      exact congrArg (cause :: ·) (inductionHypothesis (read ++ text) next)

theorem failures_decodeFrom (decoder : Decoder) (octets : Octets)
    (more : List (IoError × Octets)) :
    (decodeFrom decoder octets more).more.map Prod.fst = more.map Prod.fst := by
  induction more generalizing decoder octets with
  | nil => rfl
  | cons stretch rest inductionHypothesis =>
      rcases stretch with ⟨cause, next⟩
      exact congrArg (cause :: ·) (inductionHypothesis (decoder.decode octets false).2 next)

/-- No failure costs a character. -/
theorem joined_decodeFrom (decoder : Decoder) (octets : Octets)
    (more : List (IoError × Octets)) :
    (decodeFrom decoder octets more).joined =
      (decoder.decode (⟨octets, more⟩ : Stretches UInt8).joined true).1 := by
  induction more generalizing decoder octets with
  | nil =>
      rw [joined, joined, decodeFrom, List.flatMap_nil, List.flatMap_nil, List.append_nil,
        List.append_nil]
  | cons stretch rest inductionHypothesis =>
      rcases stretch with ⟨cause, next⟩
      have behind := inductionHypothesis (decoder.feed octets).2 next
      rw [Decoder.decode_finished] at behind ⊢
      change (decoder.decode octets false).1 ++
        (decodeFrom (decoder.decode octets false).2 next rest).joined = _
      have whole : (⟨octets, (cause, next) :: rest⟩ : Stretches UInt8).joined =
          octets ++ (⟨next, rest⟩ : Stretches UInt8).joined := rfl
      rw [Decoder.decode_unfinished, behind, whole, Decoder.feed_append]
      simp only [List.map_append, List.append_assoc]

end Stretches

namespace Source

theorem failures_stretchesFrom (steps : List Step) :
    (stretchesFrom steps).more.map Prod.fst = failures ⟨steps⟩ := by
  induction steps with
  | nil => rfl
  | cons step rest inductionHypothesis =>
      cases step with
      | data octets => exact inductionHypothesis
      | failure cause =>
          by_cases lasting : cause = .interrupted
          · subst lasting
            exact inductionHypothesis
          · rw [stretchesFrom_failure lasting, Stretches.behind, List.map_cons,
              inductionHypothesis]
            cases cause <;> first | rfl | exact absurd rfl lasting

theorem joined_stretchesFrom (steps : List Step) :
    (stretchesFrom steps).joined = octets ⟨steps⟩ := by
  induction steps with
  | nil => rfl
  | cons step rest inductionHypothesis =>
      cases step with
      | data octets =>
          rw [stretchesFrom, Stretches.joined, Stretches.before, List.append_assoc]
          exact congrArg (octets ++ ·) inductionHypothesis
      | failure cause =>
          by_cases lasting : cause = .interrupted
          · subst lasting
            exact inductionHypothesis
          · rw [stretchesFrom_failure lasting]
            exact inductionHypothesis

end Source

/-- A reader of lines over a decoded stream that fails, and is asked again after every
failure, answers by the stretches between the failures: the complete lines of the text
that the stretch completes, then the failure, and in the end every line that is left.
Nothing but the line in front of a failure is lost: each failure is answered once, in
its place, and an interrupted read never; the texts of the stretches are the text of
the octets without the failures; and an LF is no line of its own if the text before it
ended with CR, however many failures stand between the two. -/
theorem failed_reads_cost_a_line (encoding : Encoding) {source : Source}
    (solid : source.Solid) :
    let texts := source.stretches.decode encoding
    let reader := LineReader.new (TextStream.new (Pushback.ofSource source) encoding)
    (∀ count, (reader.afterLines count).readLine.1 =
      LineReader.answerAt texts.answers count) ∧
    texts.answers.filterMap failure? = source.failures ∧
    texts.joined = (encoding.decode source.octets).toList := by
  intro texts reader
  have script : Scripted.script reader.inner = texts.script.utf8 := by
    change (TextStream.new (Pushback.ofSource source) encoding).script = _
    rw [TextStream.script_new, Pushback.script_ofSource]
    exact congrArg Script.utf8 ((Decoder.new encoding).script_source source.steps)
  refine ⟨?_, ?_, ?_⟩
  · intro count
    have sound : Scripted.Sound reader.inner := solid
    rw [LineReader.readLine_afterLines_of_script sound script count]
    exact congrArg (LineReader.answerAt · count)
      (Stretches.told_script [] texts.first texts.more)
  · rw [Stretches.answers, Stretches.failures_answersFrom]
    exact (Stretches.failures_decodeFrom _ _ _).trans (Source.failures_stretchesFrom source.steps)
  · have joined := Stretches.joined_decodeFrom (Decoder.new encoding)
      (Source.stretchesFrom source.steps).first (Source.stretchesFrom source.steps).more
    refine joined.trans ?_
    rw [Encoding.decode, String.toList_ofList]
    exact congrArg (fun octets => ((Decoder.new encoding).decode octets true).1)
      (Source.joined_stretchesFrom source.steps)

/-- A failure within CR LF, and another one within a character. -/
theorem failed_reads_cost_a_line_torn :
    let source : Source := ⟨[.data [0x61, 0x0D], .failure .deviceLost, .failure .interrupted,
      .data [0x0A, 0x62, 0xC3], .failure .deviceLost, .data [0xA4, 0x0A, 0x63]]⟩
    let reader := LineReader.new (TextStream.new (Pushback.ofSource source) .utf8)
    source.Solid ∧
      source.stretches.decode .utf8 =
        ⟨['a', '\r'], [(.deviceLost, ['\n', 'b']), (.deviceLost, ['ä', '\n', 'c'])]⟩ ∧
      (List.range 6).map (fun count => (reader.afterLines count).readLine.1) =
        [.ok (some "a"), .error .deviceLost, .error .deviceLost, .ok (some "ä"),
          .ok (some "c"), .ok none] := by
  intro source reader
  have solid : source.Solid := by
    unfold Source.Solid
    decide
  have texts : source.stretches.decode .utf8 =
      ⟨['a', '\r'], [(.deviceLost, ['\n', 'b']), (.deviceLost, ['ä', '\n', 'c'])]⟩ := by
    decide +kernel
  obtain ⟨answers, -, -⟩ := failed_reads_cost_a_line .utf8 solid
  refine ⟨solid, texts, ?_⟩
  simp only [reader, answers, texts]
  rfl

end Bytemark
