/-
Module: Bytemark.Proofs.StreamScript
Purpose: Describe each layer of reading by the script of what it will still deliver.
Trusted boundary: none
Main exports: Script, Source.script, Pushback.script, Decoder.script, TextStream.script,
  Scripted, Decoder.script_of_quiet, BlockReader.script
-/
import Bytemark.Codec.Length
import Bytemark.Stream.TextStream

namespace Bytemark

open Codec

/-!
The layers of reading keep what they hold over in fields of their own: octets
that were put back, octets of an unfinished character, text that was decoded
and not yet used.  None of this can be told from outside.  What can be told is
the run of octets and failures that is still to come, and that run is the
script of the layer.  A read takes the front of the script away, whatever the
sizes of blocks and portions; so the layers are compared by their scripts alone.
-/

/-- What is still to come, element by element, with the failures in between. -/
abbrev Script (α : Type) := List (Except IoError α)

namespace Script

variable {α : Type}

/-- A script without failures. -/
def ofList (elements : List α) : Script α := elements.map Except.ok

/-- The elements of a script, failures aside. -/
def elements : Script α → List α
  | [] => []
  | .ok element :: rest => element :: elements rest
  | .error _ :: rest => elements rest

/-- The only failures are interruptions. -/
def Quiet (script : Script α) : Prop :=
  ∀ cause, Except.error cause ∈ script → cause = .interrupted

@[simp] theorem ofList_nil : ofList ([] : List α) = [] := rfl

@[simp] theorem ofList_cons (element : α) (rest : List α) :
    ofList (element :: rest) = .ok element :: ofList rest := rfl

@[simp] theorem ofList_append (first second : List α) :
    ofList (first ++ second) = ofList first ++ ofList second := List.map_append

@[simp] theorem length_ofList (elements : List α) :
    (ofList elements).length = elements.length := List.length_map _

theorem drop_ofList_append {elements : List α} {amount : Nat} (rest : Script α)
    (within : amount ≤ elements.length) :
    (ofList elements ++ rest).drop amount = ofList (elements.drop amount) ++ rest := by
  rw [List.drop_append_of_le_length (by simpa using within)]
  simp [ofList, List.map_drop]

@[simp] theorem elements_append (first second : Script α) :
    elements (first ++ second) = elements first ++ elements second := by
  induction first with
  | nil => rfl
  | cons event rest inductionHypothesis =>
      cases event with
      | ok element => simp [elements, inductionHypothesis]
      | error cause => simpa [elements] using inductionHypothesis

@[simp] theorem elements_ofList (list : List α) : elements (ofList list) = list := by
  induction list with
  | nil => rfl
  | cons element rest inductionHypothesis => simp [elements, inductionHypothesis]

theorem Quiet.tail {event : Except IoError α} {rest : Script α}
    (quiet : Quiet (event :: rest)) : Quiet rest :=
  fun cause member => quiet cause (List.mem_cons_of_mem _ member)

/-- The UTF-8 form of a script of characters. -/
def utf8 : Script Char → Script UInt8
  | [] => []
  | .ok c :: rest => ofList (Utf8.encode c) ++ utf8 rest
  | .error cause :: rest => .error cause :: utf8 rest

@[simp] theorem utf8_append (first second : Script Char) :
    utf8 (first ++ second) = utf8 first ++ utf8 second := by
  induction first with
  | nil => rfl
  | cons event rest inductionHypothesis =>
      cases event <;> simp [utf8, inductionHypothesis]

theorem utf8_ofList (text : List Char) : utf8 (ofList text) = ofList (Utf8.encodeText text) := by
  induction text with
  | nil => rfl
  | cons c rest inductionHypothesis =>
      have whole : Utf8.encodeText (c :: rest) = Utf8.encode c ++ Utf8.encodeText rest := rfl
      rw [ofList_cons, utf8, inductionHypothesis, whole, ofList_append]

end Script

/-! ### Sources and streams with something put back -/

/-- What a step of a source delivers. -/
def Step.script : Step → Script UInt8
  | .data octets => .ofList octets
  | .failure cause => [.error cause]

namespace Source

/-- What a source delivers. -/
def script (source : Source) : Script UInt8 := source.steps.flatMap Step.script

/-- No portion is empty, so a read that delivers nothing is the end. -/
def Solid (source : Source) : Prop := ∀ step ∈ source.steps, step ≠ .data []

theorem script_cons (step : Step) (rest : List Step) :
    script ⟨step :: rest⟩ = step.script ++ script ⟨rest⟩ := rfl

theorem elements_script (source : Source) : source.script.elements = source.octets := by
  rcases source with ⟨steps⟩
  induction steps with
  | nil => rfl
  | cons step rest inductionHypothesis =>
      rw [script_cons, Script.elements_append, inductionHypothesis]
      cases step with
      | data octets => simp [Step.script, Source.octets]
      | failure cause => rfl

theorem Solid.tail {step : Step} {rest : List Step} (solid : Solid ⟨step :: rest⟩) :
    Solid ⟨rest⟩ :=
  fun other member => solid other (List.mem_cons_of_mem _ member)

theorem solid_putRest {rest : List Step} (solid : Solid ⟨rest⟩) (left : Octets) :
    (putRest rest left).Solid := by
  cases left with
  | nil => exact solid
  | cons octet octets =>
      intro step member
      rcases List.mem_cons.mp member with rfl | member
      · simp
      · exact solid step member

theorem script_putRest (rest : List Step) (left : Octets) :
    (putRest rest left).script = Script.ofList left ++ script ⟨rest⟩ := by
  cases left <;> rfl

/-- Whatever a read delivers is the front of the script. -/
theorem script_eq_of_read {source after : Source} {size : Nat} {octets : Octets}
    (delivered : source.read size = (.ok octets, after)) :
    source.script = Script.ofList octets ++ after.script := by
  rcases source with ⟨steps⟩
  unfold read at delivered
  split at delivered
  · cases delivered
    rfl
  · cases steps with
    | nil =>
        cases delivered
        rfl
    | cons step rest =>
        cases step with
        | failure cause => cases delivered
        | data portion =>
            cases delivered
            rw [script_putRest, script_cons, ← List.append_assoc, ← Script.ofList_append,
              List.take_append_drop]
            rfl

/-- A read that fails takes the failure off the script. -/
theorem script_eq_of_read_error {source after : Source} {size : Nat} {cause : IoError}
    (failed : source.read size = (.error cause, after)) :
    source.script = .error cause :: after.script := by
  rcases source with ⟨steps⟩
  unfold read at failed
  split at failed
  · cases failed
  · cases steps with
    | nil => cases failed
    | cons step rest =>
        cases step with
        | data portion => cases failed
        | failure reason =>
            cases failed
            rfl

/-- A read into a buffer delivers nothing only at the end of the script. -/
theorem script_of_read {source after : Source} {size : Nat} {octets : Octets}
    (solid : source.Solid) (positive : 0 < size)
    (delivered : source.read size = (.ok octets, after)) :
    source.script = Script.ofList octets ++ after.script ∧ after.Solid ∧
      (octets = [] → source.script = []) := by
  refine ⟨script_eq_of_read delivered, ?_⟩
  rcases source with ⟨steps⟩
  unfold read at delivered
  rw [if_neg (by omega)] at delivered
  cases steps with
  | nil =>
      cases delivered
      exact ⟨solid, fun _ => rfl⟩
  | cons step rest =>
      cases step with
      | failure cause => cases delivered
      | data portion =>
          cases delivered
          refine ⟨solid_putRest solid.tail _, ?_⟩
          intro none
          have nonempty : portion ≠ [] := by
            intro empty
            exact solid _ List.mem_cons_self (congrArg Step.data empty)
          rcases List.take_eq_nil_iff.mp none with zero | empty
          · omega
          · exact absurd empty nonempty

theorem script_of_read_error {source after : Source} {size : Nat} {cause : IoError}
    (solid : source.Solid) (failed : source.read size = (.error cause, after)) :
    source.script = .error cause :: after.script ∧ after.Solid := by
  refine ⟨script_eq_of_read_error failed, ?_⟩
  rcases source with ⟨steps⟩
  unfold read at failed
  split at failed
  · cases failed
  · cases steps with
    | nil => cases failed
    | cons step rest =>
        cases step with
        | data portion => cases failed
        | failure reason =>
            cases failed
            exact solid.tail

end Source

namespace Pushback

/-- What a stream delivers: the octets that were put back, and then its source. -/
def script (stream : Pushback) : Script UInt8 :=
  Script.ofList stream.pending ++ stream.source.script

@[simp] theorem script_ofSource (source : Source) :
    (ofSource source).script = source.script := rfl

/-- Whatever a read delivers is the front of the script. -/
theorem script_eq_of_read {stream after : Pushback} {size : Nat} {octets : Octets}
    (delivered : stream.read size = (.ok octets, after)) :
    stream.script = Script.ofList octets ++ after.script := by
  rcases stream.read_cases size with
    ⟨result, left, none, reading, through, none'⟩ | ⟨left, -, front, behind, source⟩
  · cases delivered.symm.trans through
    rw [script, none, script, none']
    exact Source.script_eq_of_read reading
  · cases delivered.symm.trans front
    rw [script, script, behind, source, ← List.append_assoc, ← Script.ofList_append,
      List.take_append_drop]

/-- A read that fails takes the failure off the script. -/
theorem script_eq_of_read_error {stream after : Pushback} {size : Nat} {cause : IoError}
    (failed : stream.read size = (.error cause, after)) :
    stream.script = .error cause :: after.script := by
  rcases stream.read_cases size with
    ⟨result, left, none, reading, through, none'⟩ | ⟨left, -, front, -, -⟩
  · cases failed.symm.trans through
    rw [script, none, script, none']
    exact Source.script_eq_of_read_error reading
  · cases failed.symm.trans front

/-- A read into a buffer delivers nothing only at the end of the script. -/
theorem script_of_read {stream after : Pushback} {size : Nat} {octets : Octets}
    (solid : stream.source.Solid) (positive : 0 < size)
    (delivered : stream.read size = (.ok octets, after)) :
    stream.script = Script.ofList octets ++ after.script ∧ after.source.Solid ∧
      (octets = [] → stream.script = []) := by
  refine ⟨script_eq_of_read delivered, ?_⟩
  rcases stream.read_cases size with
    ⟨result, left, none, reading, through, -⟩ | ⟨left, some, front, -, source⟩
  · cases delivered.symm.trans through
    obtain ⟨-, still, ended⟩ := Source.script_of_read solid positive reading
    rw [script, none]
    exact ⟨still, ended⟩
  · cases delivered.symm.trans front
    refine ⟨source ▸ solid, ?_⟩
    intro nothing
    rcases List.take_eq_nil_iff.mp nothing with zero | empty
    · omega
    · exact absurd empty some

theorem script_of_read_error {stream after : Pushback} {size : Nat} {cause : IoError}
    (solid : stream.source.Solid) (failed : stream.read size = (.error cause, after)) :
    stream.script = .error cause :: after.script ∧ after.source.Solid := by
  refine ⟨script_eq_of_read_error failed, ?_⟩
  rcases stream.read_cases size with ⟨result, left, -, reading, through, -⟩ | ⟨left, -, front, -, -⟩
  · cases failed.symm.trans through
    exact (Source.script_of_read_error solid reading).2
  · cases failed.symm.trans front

end Pushback

/-! ### Decoders -/

namespace Decoder

/-- The characters of pieces, as a script. -/
def shown (pieces : List Piece) : Script Char := Script.ofList (pieces.map Piece.toChar)

/-- The text that a script of octets completes.  Interrupted reads are repeated
and do not show; other failures stand between the characters that were complete
before them and those that became complete after them. -/
def script (decoder : Decoder) : Script UInt8 → Script Char
  | [] => shown decoder.finish.1
  | .ok octet :: rest =>
      let reading := decoder.encoding.step decoder.carry octet
      shown reading.pieces ++ ({ decoder with carry := reading.carry } : Decoder).script rest
  | .error .interrupted :: rest => decoder.script rest
  | .error cause :: rest => .error cause :: decoder.script rest

@[simp] theorem shown_append (first second : List Piece) :
    shown (first ++ second) = shown first ++ shown second := by
  simp [shown]

theorem utf8_shown (pieces : List Piece) :
    (shown pieces).utf8 = Script.ofList (utf8Text pieces) := by
  unfold shown utf8Text
  rw [Script.utf8_ofList, Utf8.encodeText, List.flatMap_map]

/-- Octets in front of a script are fed first. -/
theorem script_ofList_append (decoder : Decoder) (octets : Octets) (rest : Script UInt8) :
    decoder.script (Script.ofList octets ++ rest) =
      shown (decoder.feed octets).1 ++ (decoder.feed octets).2.script rest := by
  induction octets generalizing decoder with
  | nil => rfl
  | cons octet octets inductionHypothesis =>
      simp only [Script.ofList_cons, List.cons_append, script, inductionHypothesis, feed_cons,
        shown_append, List.append_assoc]

theorem script_error {decoder : Decoder} {cause : IoError} (lasting : cause ≠ .interrupted)
    (rest : Script UInt8) :
    decoder.script (.error cause :: rest) = .error cause :: decoder.script rest := by
  cases cause <;> first | rfl | exact absurd rfl lasting

/-- Interruptions aside, a script is decoded like its octets in one piece. -/
theorem script_of_quiet {script : Script UInt8} (quiet : script.Quiet) (decoder : Decoder) :
    decoder.script script =
      Script.ofList (decoder.decode script.elements true).1 := by
  suffices same : decoder.script script = decoder.script (Script.ofList script.elements) by
    have fed := script_ofList_append decoder script.elements []
    rw [List.append_nil] at fed
    rw [same, fed, Decoder.script, ← shown_append]
    rfl
  induction script generalizing decoder with
  | nil => rfl
  | cons event rest inductionHypothesis =>
      cases event with
      | ok octet =>
          simp only [Script.elements, Script.ofList_cons, Decoder.script,
            inductionHypothesis quiet.tail]
      | error cause =>
          have interrupted := quiet cause List.mem_cons_self
          subst interrupted
          exact inductionHypothesis quiet.tail decoder

end Decoder

/-! ### Readers with a buffer -/

/-- Buffered readers whose future is a script.  The laws say that filling the
buffer only shows what comes next, and that using some of it takes just that
away. -/
class Scripted (β : Type) [Buffered β] where
  /-- The states that the laws are about. -/
  Sound : β → Prop
  /-- What the reader will still hand out. -/
  script : β → Script UInt8
  sound_fill : ∀ {reader : β}, Sound reader → Sound (Buffered.fill reader).2
  sound_consume : ∀ {reader : β} (amount : Nat), Sound reader →
    Sound (Buffered.consume reader amount)
  script_fill : ∀ {reader after : β} {ready : Octets}, Sound reader →
    Buffered.fill reader = (.ok ready, after) →
      ∃ rest, script reader = Script.ofList ready ++ rest ∧ script after = script reader ∧
        (ready = [] → rest = []) ∧
        ∀ amount ≤ ready.length,
          script (Buffered.consume after amount) = Script.ofList (ready.drop amount) ++ rest
  script_fail : ∀ {reader after : β} {cause : IoError}, Sound reader →
    Buffered.fill reader = (.error cause, after) → script reader = .error cause :: script after

namespace TextStream

/-- What a text stream hands out: the text that is ready, and then whatever its
stream completes. -/
def script (text : TextStream) : Script UInt8 :=
  Script.ofList text.ready ++
    if text.atEnd then [] else (text.decoder.script text.inner.script).utf8

theorem script_new (inner : Pushback) (encoding : Encoding) :
    (new inner encoding).script = ((Decoder.new encoding).script inner.script).utf8 := rfl

/-- The streams whose source has no empty portion. -/
def Solid (text : TextStream) : Prop := text.inner.source.Solid

theorem ready_of_used {text : TextStream} (used : text.isWaiting = false) : text.ready = [] := by
  cases held : text.ready with
  | nil => rfl
  | cons octet octets =>
      have nonempty : text.window.ready ≠ [] := by
        intro empty
        rw [ready, empty] at held
        cases held
      rw [isWaiting, (Window.isWaiting_iff _).mpr nonempty] at used
      cases used

/-- A stream without ready text and before its end is what its stream completes. -/
theorem script_of_used {text : TextStream} (used : text.isWaiting = false)
    (fresh : text.atEnd = false) :
    text.script = (text.decoder.script text.inner.script).utf8 := by
  simp [script, ready_of_used used, fresh]

theorem script_refilled {text : TextStream} {inner : Pushback} {block : Octets}
    (bounded : block.length ≤ blockSize) (used : text.isWaiting = false)
    (fresh : text.atEnd = false)
    (front : text.inner.script = Script.ofList block ++ inner.script) :
    (text.refilled inner block bounded).script = text.script := by
  rw [script_of_used used fresh, front, Decoder.script_ofList_append, Script.utf8_append,
    Decoder.utf8_shown]
  simp only [script, refilled, fresh]
  rfl

theorem script_ended {text : TextStream} {inner : Pushback} (used : text.isWaiting = false)
    (fresh : text.atEnd = false) (nothing : text.inner.script = []) :
    (text.ended inner).script = text.script := by
  rw [script_of_used used fresh, nothing, Decoder.script, Decoder.utf8_shown]
  simp only [script, ended, if_true, List.append_nil]
  rfl

theorem script_emptied {text : TextStream} {inner : Pushback} (fresh : text.atEnd = false) :
    (text.emptied inner).script = (text.decoder.script inner.script).utf8 := by
  simp [script, emptied, ready, fresh]

/-- Filling shows the front of the script, and nothing only at its end. -/
theorem script_fill {text after : TextStream} {ready : Octets} (solid : text.Solid)
    (filled : text.fill = (.ok ready, after)) :
    after.Solid ∧ after.script = text.script ∧ (ready = [] → text.script = []) := by
  fun_induction fill text with
  | case1 text waiting =>
      cases filled
      refine ⟨solid, rfl, ?_⟩
      intro empty
      have ended : after.atEnd = true := by
        cases waits : after.isWaiting with
        | false => simpa [waits] using waiting
        | true => exact absurd empty ((Window.isWaiting_iff _).mp waits)
      simp [script, empty, ended]
  | case2 text waiting inner reading =>
      cases filled
      simp only [Bool.or_eq_true, not_or, Bool.not_eq_true] at waiting
      obtain ⟨front, innerSolid, nothing⟩ :=
        Pushback.script_of_read solid (by decide) reading
      have same : (text.ended inner).script = text.script :=
        script_ended waiting.1 waiting.2 (nothing rfl)
      refine ⟨innerSolid, same, ?_⟩
      intro empty
      rw [← same, script, empty]
      rfl
  | case3 text waiting octet octets inner reading lighter inductionHypothesis =>
      simp only [Bool.or_eq_true, not_or, Bool.not_eq_true] at waiting
      obtain ⟨front, innerSolid, -⟩ := Pushback.script_of_read solid (by decide) reading
      have same := script_refilled (Pushback.length_le_of_read reading) waiting.1 waiting.2 front
      rw [← same]
      exact inductionHypothesis innerSolid filled
  | case4 text waiting inner reading lighter inductionHypothesis =>
      simp only [Bool.or_eq_true, not_or, Bool.not_eq_true] at waiting
      obtain ⟨front, innerSolid⟩ := Pushback.script_of_read_error solid reading
      have same : (text.emptied inner).script = text.script := by
        rw [script_emptied waiting.2, script_of_used waiting.1 waiting.2, front, Decoder.script]
      rw [← same]
      exact inductionHypothesis innerSolid filled
  | case5 text waiting cause inner reading => cases filled

/-- A failure that shows is taken off the script and costs nothing else. -/
theorem script_fill_error {text after : TextStream} {cause : IoError} (solid : text.Solid)
    (failed : text.fill = (.error cause, after)) :
    after.Solid ∧ text.script = .error cause :: after.script := by
  fun_induction fill text with
  | case1 text waiting => cases failed
  | case2 text waiting inner reading => cases failed
  | case3 text waiting octet octets inner reading lighter inductionHypothesis =>
      simp only [Bool.or_eq_true, not_or, Bool.not_eq_true] at waiting
      obtain ⟨front, innerSolid, -⟩ := Pushback.script_of_read solid (by decide) reading
      have same := script_refilled (Pushback.length_le_of_read reading) waiting.1 waiting.2 front
      rw [← same]
      exact inductionHypothesis innerSolid failed
  | case4 text waiting inner reading lighter inductionHypothesis =>
      simp only [Bool.or_eq_true, not_or, Bool.not_eq_true] at waiting
      obtain ⟨front, innerSolid⟩ := Pushback.script_of_read_error solid reading
      have same : (text.emptied inner).script = text.script := by
        rw [script_emptied waiting.2, script_of_used waiting.1 waiting.2, front, Decoder.script]
      rw [← same]
      exact inductionHypothesis innerSolid failed
  | case5 text waiting cause inner lasting reading =>
      cases failed
      simp only [Bool.or_eq_true, not_or, Bool.not_eq_true] at waiting
      obtain ⟨front, innerSolid⟩ := Pushback.script_of_read_error solid reading
      refine ⟨innerSolid, ?_⟩
      rw [script_emptied waiting.2, script_of_used waiting.1 waiting.2, front,
        Decoder.script_error lasting]
      rfl

theorem solid_fill {text : TextStream} (solid : text.Solid) : text.fill.2.Solid := by
  cases filled : text.fill with
  | mk result after =>
      cases result with
      | ok ready => exact (script_fill solid filled).1
      | error cause => exact (script_fill_error solid filled).1

/-- Using ready text takes it off the script. -/
theorem script_advance {text : TextStream} {amount : Nat} (within : amount ≤ text.ready.length) :
    (text.advance amount).script = text.script.drop amount := by
  unfold script
  rw [ready_advance, Script.drop_ofList_append _ within]
  rfl

instance : Scripted TextStream where
  Sound := Solid
  script := script
  sound_fill := solid_fill
  sound_consume := fun _ solid => solid
  script_fill := by
    intro text after ready solid filled
    obtain ⟨-, same, nothing⟩ := script_fill solid filled
    have shown := ready_of_fill filled
    refine ⟨_, same.symm.trans (congrArg (fun front => Script.ofList front ++ _) shown.symm),
      same, ?_, ?_⟩
    · intro empty
      have ended := nothing empty
      rw [← same, script] at ended
      exact (List.append_eq_nil_iff.mp ended).2
    · intro amount within
      rw [shown] at within ⊢
      exact (script_advance within).trans (Script.drop_ofList_append _ within)
  script_fail := fun solid failed => (script_fill_error solid failed).2

end TextStream

namespace BlockReader

/-- What a block reader hands out: the octets that are ready, and then its source. -/
def script (reader : BlockReader) : Script UInt8 :=
  Script.ofList reader.ready ++ reader.source.script

/-- The readers that have room for an octet, over a source without an empty portion. -/
structure Solid (reader : BlockReader) : Prop where
  room : 0 < reader.capacity
  source : reader.source.Solid

/-- Filling shows the front of the script, and nothing only at its end. -/
theorem script_fill {reader after : BlockReader} {ready : Octets} (solid : reader.Solid)
    (filled : reader.fill = (.ok ready, after)) :
    after.Solid ∧ after.ready = ready ∧ after.script = reader.script ∧
      (ready = [] → after.source.script = []) := by
  unfold fill at filled
  split at filled
  · rename_i used
    rw [List.isEmpty_iff] at used
    cases reading : reader.source.read reader.capacity with
    | mk result source =>
        simp only [reading] at filled
        cases result with
        | error cause => cases filled
        | ok octets =>
            cases filled
            obtain ⟨front, left, nothing⟩ := Source.script_of_read solid.source solid.room reading
            refine ⟨⟨solid.room, left⟩, rfl, ?_, ?_⟩
            · rw [script, script, used, front]
              rfl
            · rintro rfl
              exact front.symm.trans (nothing rfl)
  · rename_i waiting
    cases filled
    exact ⟨solid, rfl, rfl, fun empty => absurd (List.isEmpty_iff.mpr empty) waiting⟩

/-- A failure is taken off the script and costs nothing else. -/
theorem script_fill_error {reader after : BlockReader} {cause : IoError} (solid : reader.Solid)
    (failed : reader.fill = (.error cause, after)) :
    after.Solid ∧ reader.script = .error cause :: after.script := by
  unfold fill at failed
  split at failed
  · rename_i used
    rw [List.isEmpty_iff] at used
    cases reading : reader.source.read reader.capacity with
    | mk result source =>
        simp only [reading] at failed
        cases result with
        | ok octets => cases failed
        | error reason =>
            cases failed
            obtain ⟨front, left⟩ := Source.script_of_read_error solid.source reading
            refine ⟨⟨solid.room, left⟩, ?_⟩
            rw [script, script, used, front]
            rfl
  · cases failed

instance : Scripted BlockReader where
  Sound := Solid
  script := script
  sound_fill := by
    intro reader solid
    cases filled : reader.fill with
    | mk result after =>
        change (reader.fill).2.Solid
        rw [filled]
        cases result with
        | ok ready => exact (script_fill solid filled).1
        | error cause => exact (script_fill_error solid filled).1
  sound_consume := fun _ solid => ⟨solid.room, solid.source⟩
  script_fill := by
    intro reader after ready solid filled
    obtain ⟨-, rfl, same, nothing⟩ := script_fill solid filled
    refine ⟨after.source.script, same.symm, same, nothing, ?_⟩
    intro amount _
    rfl
  script_fail := fun solid failed => (script_fill_error solid failed).2

end BlockReader

end Bytemark
