/-
Module: Bytemark.Stream.LineReader
Purpose: Lines of a buffered reader, one at a time.
Trusted boundary: none
Main exports: LineReader, LineReader.readOctets, LineReader.readLine,
  Visit, LineReader.visit, LineReader.readLines, LineReader.holdsLine,
  LineReader.readOctets_of_holdsLine
-/
import Bytemark.Lines
import Bytemark.Stream.TextStream

namespace Bytemark

/-!
A line is collected over as many buffers as it takes.  When a line ends with
CR, an LF that comes next belongs to the same terminator; whether one comes is
not known before the next buffer is seen, so the reader remembers to skip it.
A failure drops what was collected of the line, and reading may go on.
-/

/-- A reader cut into lines. -/
structure LineReader (β : Type) where
  inner : β
  /-- The last line ended with CR, so an LF that comes first is skipped. -/
  skipsLf : Bool := false
deriving Repr, Inhabited, DecidableEq

/-- Whether a visitor of lines wants to see more of them. -/
inductive Visit (σ : Type) where
  | more (state : σ)
  | stop (state : σ)
deriving Repr

namespace LineReader

variable {β : Type}

/-- Lines from where the reader stands. -/
def new (inner : β) : LineReader β := { inner }

/-- Octets of the buffer that are only the rest of the last terminator. -/
def skipped (skipsLf : Bool) (ready : Octets) : Nat :=
  if skipsLf && ready.head? == some LineAlphabet.lf then 1 else 0

/-- The octets of the next line behind those collected so far, last first, or
none at the end. -/
def collect [Buffered β] (reader : LineReader β) (line : Octets) :
    Except IoError (Option Octets) × LineReader β :=
  match filled : Buffered.fill reader.inner with
  | (.error cause, inner) => (.error cause, { reader with inner })
  | (.ok [], inner) => (.ok (if line.isEmpty then none else some line.reverse), { inner })
  | (.ok (first :: others), inner) =>
      let ready := first :: others
      let start := skipped reader.skipsLf ready
      let content := (ready.drop start).takeWhile fun octet => !Lines.isTerminator octet
      match ready.drop (start + content.length) with
      | terminator :: _ =>
          (.ok (some (content.reverse ++ line).reverse),
            { inner := Buffered.consume inner (start + content.length + 1)
              skipsLf := terminator == LineAlphabet.cr })
      | [] =>
          have := Buffered.weight_consume_lt filled (Nat.succ_pos others.length)
            (Nat.le_refl ready.length)
          collect { inner := Buffered.consume inner ready.length } (content.reverse ++ line)
termination_by Buffered.weight reader.inner

/-- The octets of the next line, without its terminator. -/
def readOctets [Buffered β] (reader : LineReader β) :
    Except IoError (Option Octets) × LineReader β :=
  reader.collect []

/-- The text of a line, which has to be UTF-8. -/
def textOf (line : Octets) : Except IoError String :=
  match Codec.Utf8.decode line with
  | .ok text => .ok (String.ofList text)
  | .error reason => .error (.malformedLine reason)

/-- The next line, or none at the end. -/
def readLine [Buffered β] (reader : LineReader β) :
    Except IoError (Option String) × LineReader β :=
  match reader.readOctets with
  | (.error cause, after) => (.error cause, after)
  | (.ok none, after) => (.ok none, after)
  | (.ok (some line), after) => ((textOf line).map some, after)

/-- Collecting a line takes the reader no further from its end, and closer to
it unless the line was there already. -/
theorem weight_of_collect [Buffered β] {reader after : LineReader β} {line found : Octets}
    (collected : reader.collect line = (.ok (some found), after)) :
    Buffered.weight after.inner < Buffered.weight reader.inner ∨
      line ≠ [] ∧ Buffered.weight after.inner ≤ Buffered.weight reader.inner := by
  fun_induction collect reader line with
  | case1 reader line cause inner filled => cases collected
  | case2 reader line inner filled =>
      cases line with
      | nil => simp at collected
      | cons octet octets =>
          cases collected
          exact .inr ⟨by simp, Buffered.weight_fill_le filled⟩
  | case3 reader line first others inner filled ready start content terminator rest split =>
      cases collected
      refine .inl (Buffered.weight_consume_lt filled (Nat.succ_pos _) ?_)
      have left := congrArg List.length split
      have size : ready.length = others.length + 1 := rfl
      simp only [List.length_drop, List.length_cons] at left
      change start + content.length + 1 ≤ ready.length
      omega
  | case4 reader line first others inner filled ready start content split lighter
      inductionHypothesis =>
      refine .inl ?_
      rcases inductionHypothesis collected with less | ⟨_, less⟩
      · exact Nat.lt_trans less lighter
      · exact Nat.lt_of_le_of_lt less lighter

/-- A line that was read brought the reader closer to its end. -/
theorem weight_lt_of_readLine [Buffered β] {reader after : LineReader β} {line : String}
    (reading : reader.readLine = (.ok (some line), after)) :
    Buffered.weight after.inner < Buffered.weight reader.inner := by
  unfold readLine at reading
  split at reading
  · cases reading
  · cases reading
  · rename_i octets middle collected
    have same : middle = after := (Prod.mk.inj reading).2
    subst same
    rcases weight_of_collect collected with less | ⟨nonempty, _⟩
    · exact less
    · exact absurd rfl nonempty

/-- Shows every further line to a visitor, until it asks to stop, the reader
ends or a line cannot be read. -/
def visit [Buffered β] {σ : Type} (reader : LineReader β) (see : σ → String → Visit σ)
    (state : σ) : σ × Except IoError Unit × LineReader β :=
  match reading : reader.readLine with
  | (.error cause, after) => (state, .error cause, after)
  | (.ok none, after) => (state, .ok (), after)
  | (.ok (some line), after) =>
      match see state line with
      | .stop final => (final, .ok (), after)
      | .more next =>
          have := weight_lt_of_readLine reading
          after.visit see next
termination_by Buffered.weight reader.inner

/-- Every further line, and the failure that ended them early if one did. -/
def readLines [Buffered β] (reader : LineReader β) :
    List String × Except IoError Unit × LineReader β :=
  let (lines, outcome, after) := reader.visit (fun seen line => .more (line :: seen)) []
  (lines.reverse, outcome, after)

/-!
A reader of a text stream can tell whether the next line needs the stream at
all: it does not if the text that is ready holds the end of the line.
-/

/-- The ready text behind what is left of the last terminator. -/
def readyText (reader : LineReader TextStream) : Octets :=
  reader.inner.ready.drop (skipped reader.skipsLf reader.inner.ready)

/-- Whether the next line and its end are ready. -/
def holdsLine (reader : LineReader TextStream) : Bool :=
  reader.readyText.any Lines.isTerminator

/-- A line that is ready is taken from the ready text alone. -/
theorem readOctets_of_holdsLine {reader : LineReader TextStream}
    (held : reader.holdsLine = true) :
    reader.readOctets =
      let content := reader.readyText.takeWhile fun octet => !Lines.isTerminator octet
      (.ok (some content),
        { inner := reader.inner.advance
            (skipped reader.skipsLf reader.inner.ready + content.length + 1)
          skipsLf := (reader.readyText.drop content.length).head? == some LineAlphabet.cr }) := by
  have waiting : reader.inner.ready ≠ [] := by
    intro none
    simp [holdsLine, readyText, none] at held
  have fills : Buffered.fill reader.inner = (.ok reader.inner.ready, reader.inner) := by
    change TextStream.fill reader.inner = _
    unfold TextStream.fill
    rw [if_pos (by simp [TextStream.isWaiting, (Window.isWaiting_iff _).mpr waiting])]
  unfold readOctets collect
  split
  · rename_i filled
    rw [fills] at filled
    cases filled
  · rename_i filled
    rw [fills] at filled
    exact absurd (Except.ok.inj (Prod.mk.inj filled).1) waiting
  · rename_i first others inner filled
    rw [fills] at filled
    have ready : reader.inner.ready = first :: others := Except.ok.inj (Prod.mk.inj filled).1
    have same : reader.inner = inner := (Prod.mk.inj filled).2
    subst same
    dsimp only
    rw [← ready, ← List.drop_drop]
    split
    · rename_i ended
      simp only [readyText, ended, List.append_nil, List.reverse_reverse, List.head?_cons,
        Option.some_beq_some]
      rfl
    · rename_i unended
      change reader.readyText.drop _ = _ at unended
      have whole : reader.readyText.takeWhile (fun octet => !Lines.isTerminator octet) =
          reader.readyText :=
        (List.takeWhile_prefix _).eq_of_length_le (List.drop_eq_nil_iff.mp unended)
      have plain := List.all_takeWhile (l := reader.readyText)
        (p := fun octet => !Lines.isTerminator octet)
      rw [whole] at plain
      simp only [holdsLine, List.any_eq_true] at held
      obtain ⟨octet, member, terminates⟩ := held
      have := List.all_eq_true.mp plain octet member
      simp [terminates] at this

/-- A line that is ready leaves the stream as it is. -/
theorem inner_of_holdsLine {reader : LineReader TextStream} (held : reader.holdsLine = true) :
    reader.readLine.2.inner.inner = reader.inner.inner := by
  unfold readLine
  rw [readOctets_of_holdsLine held]
  rfl

/-- A line that is ready does not depend on what the stream has in store. -/
theorem readLine_of_holdsLine {reader : LineReader TextStream} (held : reader.holdsLine = true)
    (inner : Pushback) :
    ({ reader with inner := { reader.inner with inner } } : LineReader TextStream).readLine =
      (reader.readLine.1,
        { reader.readLine.2 with inner := { reader.readLine.2.inner with inner } }) := by
  have other : ({ reader with inner := { reader.inner with inner } } :
      LineReader TextStream).holdsLine = true := held
  unfold readLine
  rw [readOctets_of_holdsLine other, readOctets_of_holdsLine held]
  rfl

end LineReader

end Bytemark
