/-
Module: Bytemark.Proofs.FileReading
Purpose: A cursor over a file that nobody changes reads on where it stood.
Trusted boundary: none
Main exports: Source.Lasting, ReadCursor.Settled, ReadCursor.look_settle,
  ReadCursor.readLine_of_settled, ReadCursor.openFile_of_file, ReadCursor.readRemaining_of_holds,
  ReadCursor.visit_of_holds
-/
import Bytemark.Files.ReadCursor
import Bytemark.Proofs.LineReading
import Bytemark.Proofs.Probing

namespace Bytemark

open Codec Lines

/-!
Each layer of reading goes to its source through reads alone.  So whatever
reads keep true of a source is still true of it after a probe, a line or a
whole visit.
-/

/-- What a read does not make false. -/
def Source.Lasting (kept : Source → Prop) : Prop :=
  ∀ source size, kept source → kept (source.read size).2

section Lasting

variable {kept : Source → Prop}

theorem Pushback.lasting_read (lasting : Source.Lasting kept) {stream : Pushback}
    (held : kept stream.source) (size : Nat) : kept (stream.read size).2.source := by
  rcases stream.read_cases size with
    ⟨result, after, -, reading, through, -⟩ | ⟨after, -, front, -, source⟩
  · have next := lasting stream.source size held
    rw [reading] at next
    rw [through]
    exact next
  · rw [front]
    exact source ▸ held

theorem Pushback.source_unread (stream : Pushback) (octets : Octets) :
    (stream.unread octets).2.source = stream.source := by
  rcases stream.unread_cases octets with ⟨-, full⟩ | ⟨after, -, putBack, -, source⟩
  · rw [full]
  · rw [putBack]
    exact source

theorem Resolver.lasting_probe (lasting : Source.Lasting kept) {stream : Pushback}
    (held : kept stream.source) (window : Octets) :
    kept (probe stream window).stream.source := by
  fun_induction probe stream window with
  | case1 stream window short after reading =>
      have next := Pushback.lasting_read lasting held (Signature.windowSize - window.length)
      rwa [reading] at next
  | case2 stream window short octet octets after reading lighter inductionHypothesis =>
      have next := Pushback.lasting_read lasting held (Signature.windowSize - window.length)
      rw [reading] at next
      exact inductionHypothesis next
  | case3 stream window short after reading lighter inductionHypothesis =>
      have next := Pushback.lasting_read lasting held (Signature.windowSize - window.length)
      rw [reading] at next
      exact inductionHypothesis next
  | case4 stream window short cause after lasts reading =>
      have next := Pushback.lasting_read lasting held (Signature.windowSize - window.length)
      rwa [reading] at next
  | case5 stream window full => exact held

theorem Resolver.lasting_resolve (lasting : Source.Lasting kept) (resolver : Resolver)
    {stream : Pushback} (held : kept stream.source) :
    kept (resolver.resolve stream).stream.source := by
  have probed := lasting_probe lasting held []
  unfold resolve
  split
  rename_i window failure after probing
  rw [probing] at probed
  split
  · have same := after.source_unread window
    split <;> rename_i putBack <;> rw [putBack] at same <;> exact same ▸ probed
  · dsimp only
    have same := after.source_unread
      (window.drop (Resolution.ofOctets window resolver.defaultEncoding).signatureLength)
    split <;> rename_i putBack <;> rw [putBack] at same <;> exact same ▸ probed

theorem TextStream.lasting_fill (lasting : Source.Lasting kept) {text : TextStream}
    (held : kept text.inner.source) : kept text.fill.2.inner.source := by
  fun_induction fill text with
  | case1 text waiting => exact held
  | case2 text waiting after reading =>
      have next := Pushback.lasting_read lasting held blockSize
      rwa [reading] at next
  | case3 text waiting octet octets after reading lighter inductionHypothesis =>
      have next := Pushback.lasting_read lasting held blockSize
      rw [reading] at next
      exact inductionHypothesis next
  | case4 text waiting after reading lighter inductionHypothesis =>
      have next := Pushback.lasting_read lasting held blockSize
      rw [reading] at next
      exact inductionHypothesis next
  | case5 text waiting cause after lasts reading =>
      have next := Pushback.lasting_read lasting held blockSize
      rwa [reading] at next

namespace LineReader

theorem lasting_collect (lasting : Source.Lasting kept) {reader : LineReader TextStream}
    (held : kept reader.inner.inner.source) (line : Octets) :
    kept (reader.collect line).2.inner.inner.source := by
  fun_induction collect reader line with
  | case1 reader line cause inner filled =>
      have next := TextStream.lasting_fill lasting held
      rwa [show reader.inner.fill = _ from filled] at next
  | case2 reader line inner filled =>
      have next := TextStream.lasting_fill lasting held
      rwa [show reader.inner.fill = _ from filled] at next
  | case3 reader line first others inner filled ready start content terminator rest split =>
      have next := TextStream.lasting_fill lasting held
      rwa [show reader.inner.fill = _ from filled] at next
  | case4 reader line first others inner filled ready start content split lighter
      inductionHypothesis =>
      have next := TextStream.lasting_fill lasting held
      rw [show reader.inner.fill = _ from filled] at next
      exact inductionHypothesis next

theorem lasting_readLine (lasting : Source.Lasting kept) {reader : LineReader TextStream}
    (held : kept reader.inner.inner.source) : kept reader.readLine.2.inner.inner.source := by
  have next := lasting_collect lasting held []
  unfold readLine readOctets
  split <;> rename_i reading <;> rwa [reading] at next

theorem lasting_visit {σ : Type} (lasting : Source.Lasting kept) {reader : LineReader TextStream}
    (held : kept reader.inner.inner.source) (see : σ → String → Visit σ) (state : σ) :
    kept (reader.visit see state).2.2.inner.inner.source := by
  fun_induction visit reader see state with
  | case1 reader state cause after reading =>
      have next := lasting_readLine lasting held
      rwa [reading] at next
  | case2 reader state after reading =>
      have next := lasting_readLine lasting held
      rwa [reading] at next
  | case3 reader state line after reading final seen =>
      have next := lasting_readLine lasting held
      rwa [reading] at next
  | case4 reader state line after reading following seen lighter inductionHypothesis =>
      have next := lasting_readLine lasting held
      rw [reading] at next
      exact inductionHypothesis next

end LineReader

end Lasting

/-! ### What is left of a file -/

namespace Source

/-- The source is a last part of these octets, in one portion. -/
def Behind (whole : Octets) (source : Source) : Prop :=
  ∃ left, left <:+ whole ∧ source = ofOctets left

theorem putRest_nil (left : Octets) : putRest [] left = ofOctets left := by
  cases left <;> rfl

theorem lasting_behind (whole : Octets) : Lasting (Behind whole) := by
  rintro source size ⟨left, suffix, rfl⟩
  unfold read
  split
  · exact ⟨left, suffix, rfl⟩
  · cases left with
    | nil => exact ⟨[], suffix, rfl⟩
    | cons octet octets =>
        refine ⟨(octet :: octets).drop size, ?_, putRest_nil _⟩
        exact (List.drop_suffix size _).trans suffix

theorem solid_ofOctets (octets : Octets) : (ofOctets octets).Solid := by
  cases octets with
  | nil => exact fun step member => absurd member List.not_mem_nil
  | cons octet octets =>
      intro step member
      rw [List.mem_singleton.mp member]
      simp

theorem script_ofOctets (octets : Octets) :
    (ofOctets octets).script = Script.ofList octets := by
  cases octets with
  | nil => rfl
  | cons octet octets => simp [ofOctets, script, Step.script]

end Source

/-! ### Texts -/

/-- The text of octets whose encoding is known: a signature is taken off, and
the rest is decoded in one go. -/
def Resolution.text (resolution : Resolution) (octets : Octets) : String :=
  resolution.encoding.decode (octets.drop resolution.signatureLength)

/-- The text of octets: what they begin with decides about the encoding. -/
def Resolver.text (resolver : Resolver) (octets : Octets) : String :=
  (Resolution.ofOctets octets resolver.defaultEncoding).text octets

/-- The lines of a text. -/
def Lines.ofText (text : String) : List String := (cut text.toList).map String.ofList

/-- A new reader over a stream without lasting failures holds its decoded text. -/
theorem LineReader.holds_new {stream : Pushback} (solid : stream.source.Solid)
    (quiet : stream.script.Quiet) (encoding : Encoding) :
    (LineReader.new (TextStream.new stream encoding)).Holds
      (encoding.decode stream.script.elements).toList := by
  refine ⟨solid, ?_⟩
  change (TextStream.new stream encoding).script = _
  rw [TextStream.script_new, Decoder.script_of_quiet quiet, Script.utf8_ofList, Encoding.decode,
    String.toList_ofList]

namespace Script

variable {α : Type}

/-- What is left behind the front of a list is a list. -/
theorem ofList_eq_append {elements front : List α} {rest : Script α}
    (whole : ofList elements = ofList front ++ rest) :
    ∃ behind, elements = front ++ behind ∧ rest = ofList behind := by
  obtain ⟨first, second, parts, same, behind⟩ := List.map_eq_append_iff.mp whole
  have equal : first = front := (List.map_inj_right fun _ _ => Except.ok.inj).mp same
  subst equal
  exact ⟨second, parts, behind.symm⟩

end Script

namespace TextStream

/-- Draining delivers what the stream would hand out, and meets no failure. -/
theorem drainFrom_of_script {text : TextStream} {octets : Octets} (solid : text.Solid)
    (script : text.script = Script.ofList octets) (seen : Octets) :
    (text.drainFrom seen).1 = ⟨seen.reverse ++ octets, none⟩ := by
  fun_induction drainFrom text seen generalizing octets with
  | case1 text seen cause after filled =>
      obtain ⟨-, front⟩ := script_fill_error solid filled
      rw [script] at front
      have member : Except.error cause ∈ Script.ofList octets := by simp [front]
      exact absurd member (Script.error_notMem_ofList _ _)
  | case2 text seen after filled =>
      obtain ⟨-, -, nothing⟩ := script_fill solid filled
      have empty := nothing rfl
      rw [script, Script.ofList, List.map_eq_nil_iff] at empty
      rw [empty, List.append_nil]
  | case3 text seen octet others after filled lighter inductionHypothesis =>
      obtain ⟨rest, front, -, -, used⟩ := 
        Scripted.script_fill (show Scripted.Sound text from solid) filled
      obtain ⟨afterSolid, -, -⟩ := script_fill solid filled
      have left := used (octet :: others).length (Nat.le_refl _)
      rw [List.drop_length] at left
      obtain ⟨behind, whole, same⟩ := Script.ofList_eq_append (script.symm.trans front)
      have tail := inductionHypothesis afterSolid (left.trans same)
      rw [tail, whole, List.reverse_append, List.reverse_reverse, List.append_assoc]

end TextStream

/-! ### Files -/

theorem view_of_file (files : FileSystem) {handle : ReadHandle} {id : FileId}
    (node : handle.node = .file id) :
    files.view handle = Source.ofOctets ((files.content id).drop handle.offset) := by
  simp only [FileSystem.view, node]

theorem view_start (files : FileSystem) (id : FileId) :
    files.view { node := .file id } = Source.ofOctets (files.content id) :=
  view_of_file files rfl

theorem FileSystem.openRead_of_file {files : FileSystem} {path : String} {location : Location}
    {id : FileId} (found : files.find path = .ok (location, .file id)) :
    files.openRead path = .ok { node := .file id } := by
  rw [openRead, found]
  rfl

/-- A file is resolved by its first octets. -/
theorem Resolver.resolve_of_file (resolver : Resolver) (files : FileSystem) (id : FileId) :
    let resolved := resolver.resolve (Pushback.ofSource (files.view { node := .file id }))
    let resolution := Resolution.ofOctets (files.content id) resolver.defaultEncoding
    resolved.result = .ok resolution ∧
      resolved.stream.script.elements = (files.content id).drop resolution.signatureLength ∧
      resolved.stream.source.Solid ∧ resolved.stream.script.Quiet := by
  have solid : (Pushback.ofSource (files.view { node := .file id })).source.Solid := by
    rw [view_start]
    exact Source.solid_ofOctets _
  have script : (Pushback.ofSource (files.view { node := .file id })).script =
      Script.ofList (files.content id) := by
    rw [Pushback.script_ofSource, view_start, Source.script_ofOctets]
  have quiet : (Pushback.ofSource (files.view { node := .file id })).script.Quiet := by
    rw [script]
    intro cause member
    exact absurd member (Script.error_notMem_ofList _ _)
  have resolved := resolve_of_quiet resolver solid quiet (Nat.zero_le _)
  rw [script, Script.elements_ofList] at resolved
  exact resolved

theorem Resolver.resolveFile_of_file {files : FileSystem} {path : String} {location : Location}
    {id : FileId} (found : files.find path = .ok (location, .file id)) (resolver : Resolver) :
    (resolver.resolveFile files path).1 =
      .ok (Resolution.ofOctets (files.content id) resolver.defaultEncoding) := by
  rw [resolveFile, FileSystem.openRead_of_file found]
  exact (resolver.resolve_of_file files id).1

/-! ### Cursors -/

namespace ReadCursor

/-- Between two calls: a cursor over a file, which has let go of the source. -/
structure Settled (cursor : ReadCursor) (id : FileId) : Prop where
  node : cursor.handle.node = .file id
  source : cursor.lines.inner.inner.source = ⟨[]⟩

theorem settled_settle {cursor : ReadCursor} {id : FileId}
    (node : cursor.handle.node = .file id) (files : FileSystem)
    (lines : LineReader TextStream) : (cursor.settle files lines).Settled id := ⟨node, rfl⟩

theorem source_look {cursor : ReadCursor} {id : FileId} (settled : cursor.Settled id)
    (files : FileSystem) :
    (cursor.look files).inner.inner.source.Behind
      ((files.content id).drop cursor.handle.offset) :=
  ⟨_, List.suffix_refl _, view_of_file files settled.node⟩

/-- If the file did not change, looking at it again goes on where the reader
stood. -/
theorem look_settle {cursor : ReadCursor} {files : FileSystem} {id : FileId}
    {lines : LineReader TextStream} (node : cursor.handle.node = .file id)
    (behind : lines.inner.inner.source.Behind ((files.content id).drop cursor.handle.offset)) :
    (cursor.settle files lines).look files = lines := by
  rcases behind with ⟨left, suffix, source⟩
  have ahead : files.ahead cursor.handle =
      ((files.content id).drop cursor.handle.offset).length := by
    rw [← FileSystem.size_view, view_of_file files node, Source.size_ofOctets]
  have view : files.view (cursor.settle files lines).handle = lines.inner.inner.source := by
    rw [view_of_file files (settled_settle node files lines).node, source]
    have offset : (cursor.settle files lines).handle.offset = cursor.handle.offset +
        (((files.content id).drop cursor.handle.offset).length - left.length) := by
      rw [← ahead]
      simp only [settle, FileSystem.advance, source, Source.size_ofOctets]
    rw [offset, ← List.drop_drop, ← List.suffix_iff_eq_drop.mp suffix]
  rw [look, view]
  rfl

theorem look_new {files : FileSystem} {id : FileId} {stream : Pushback}
    (behind : stream.source.Behind (files.content id)) (resolution : Resolution) :
    ((⟨{ node := .file id }, resolution,
        LineReader.new (TextStream.new stream resolution.encoding)⟩ : ReadCursor).settle files
        (LineReader.new (TextStream.new stream resolution.encoding))).look files =
      LineReader.new (TextStream.new stream resolution.encoding) :=
  look_settle rfl behind

/-- A call for a line is a call of the reader over the file. -/
theorem readLine_of_settled {cursor : ReadCursor} {id : FileId} (settled : cursor.Settled id)
    (files : FileSystem) :
    (cursor.readLine files).1 = (cursor.look files).readLine.1 ∧
      (cursor.readLine files).2.look files = (cursor.look files).readLine.2 ∧
      (cursor.readLine files).2.Settled id := by
  have behind := LineReader.lasting_readLine
    (Source.lasting_behind _) (source_look settled files)
  rw [readLine_eq cursor files settled.source]
  exact ⟨rfl, look_settle settled.node behind, settled_settle settled.node files _⟩

theorem visit_of_settled {σ : Type} {cursor : ReadCursor} {id : FileId}
    (settled : cursor.Settled id) (files : FileSystem) (see : σ → String → Visit σ)
    (state : σ) :
    (cursor.visit files see state).1 = ((cursor.look files).visit see state).1 ∧
      (cursor.visit files see state).2.1 = ((cursor.look files).visit see state).2.1 ∧
      (cursor.visit files see state).2.2.look files =
        ((cursor.look files).visit see state).2.2 ∧
      (cursor.visit files see state).2.2.Settled id := by
  have behind := LineReader.lasting_visit
    (Source.lasting_behind _) (source_look settled files) see state
  exact ⟨rfl, rfl, look_settle settled.node behind, settled_settle settled.node files _⟩

/-- The text that is left is the text that the reader over the file holds. -/
theorem readRemaining_of_holds {cursor : ReadCursor} {files : FileSystem} {text : List Char}
    (holds : (cursor.look files).Holds text) :
    (cursor.readRemaining files).1 = .ok (String.ofList text) := by
  have drained := TextStream.drainFrom_of_script holds.sound holds.script []
  rw [List.reverse_nil, List.nil_append] at drained
  unfold readRemaining TextStream.drain
  simp only [drained, Utf8.decode_encodeText]

/-- A visitor is shown the lines of the text that is left. -/
theorem visit_of_holds {σ : Type} {cursor : ReadCursor} {files : FileSystem} {text : String}
    (holds : (cursor.look files).Holds text.toList) (skips : (cursor.look files).skipsLf = false)
    (see : σ → String → Visit σ) (state : σ) :
    (cursor.visit files see state).1 = Visit.through see state (Lines.ofText text) ∧
      (cursor.visit files see state).2.1 = .ok () := by
  have cutting := congrArg (fun flag => Lines.split (Lines.unskipped flag text.toList)) skips
  rw [Lines.unskipped_false] at cutting
  have shown := LineReader.visit_of_split holds cutting see state
  rw [Lines.ofText, ← Lines.map_split, List.map_map]
  exact shown

/-- A file that can be found is opened, and the cursor stands on the text of
its octets. -/
theorem openFile_of_file {files : FileSystem} {path : String} {location : Location}
    {id : FileId} (found : files.find path = .ok (location, .file id)) (resolver : Resolver) :
    ∃ cursor, (openFile files path resolver).1 = .ok cursor ∧
      cursor.resolution = Resolution.ofOctets (files.content id) resolver.defaultEncoding ∧
      cursor.Settled id ∧
      (cursor.look files).Holds (resolver.text (files.content id)).toList ∧
      (cursor.look files).skipsLf = false := by
  obtain ⟨result, elements, solid, quiet⟩ := resolver.resolve_of_file files id
  have start : (Pushback.ofSource (files.view { node := .file id })).source.Behind
      (files.content id) := ⟨_, List.suffix_refl _, view_start files id⟩
  have behind := Resolver.lasting_resolve (Source.lasting_behind _) resolver start
  unfold openFile
  simp only [FileSystem.openRead_of_file found]
  generalize resolver.resolve (Pushback.ofSource (files.view { node := .file id })) =
    resolved at result elements solid quiet behind ⊢
  simp only [result]
  unfold Resolver.text
  generalize Resolution.ofOctets (files.content id) resolver.defaultEncoding = resolution
    at elements ⊢
  have holds := LineReader.holds_new solid quiet resolution.encoding
  rw [elements] at holds
  have again := look_new behind resolution
  refine ⟨_, rfl, rfl, settled_settle rfl files _, ?_, ?_⟩
  · rw [again]
    exact holds
  · rw [again]
    rfl

end ReadCursor

/-- A tree with one file in it. -/
def FileSystem.holding (name : String) (octets : Octets) : FileSystem :=
  { entries := [(.ofNames [name], .file 0)]
    contents := [.ofOctets octets]
    workingDirectory := .root }

end Bytemark
