/-
Module: Bytemark.Proofs.InterleavedCalls
Purpose: Scans, probes and changes of settings between the calls on an open cursor.
Trusted boundary: none
Main exports: SessionCall.advances, SessionCall.aside, Session.blind_of_advances,
  Session.left_of_aside, Session.answer_of_looks, Session.answers, Session.leaves,
  Session.Undisturbed, Session.undisturbed, interleaved_calls
-/
import Bytemark.Proofs.AcceptedWrites
import Bytemark.Proofs.ScanAnswers
import Bytemark.Proofs.SessionStates

namespace Bytemark

open FileSystem Bytemark.Action

/-!
A scan or a probe has a cursor of its own, and settings are read when a cursor is
opened.  So two runs that differ only in such calls have sessions that differ only
in their settings, and what is done with the open cursor does not depend on those.
-/

namespace SessionCall

/-- The calls that read on with an open cursor. -/
def reads : SessionCall → Bool
  | readLine => true
  | _ => false

/-- What a call writes with an open cursor, if it is one that does. -/
def writing? : SessionCall → Option Writing
  | write text => some (.text text)
  | writeLine text => some (.line text)
  | writeLines texts => some (.lines texts)
  | _ => none

/-- The calls that go on with the open cursor. -/
def advances (call : SessionCall) : Bool := call.reads || call.writing?.isSome

/-- The calls beside the open cursor: they look at the file or change the settings. -/
def aside : SessionCall → Bool
  | configure _ => true
  | call => call.looks

/-- The settings behind a call. -/
def adjusted (settings : TextSettings) : SessionCall → TextSettings
  | configure change => change settings
  | _ => settings

theorem not_advances_of_aside {call : SessionCall} (aside : call.aside = true) :
    ¬ call.advances = true := by
  apply Bool.eq_false_iff.mp
  cases call <;> first | rfl | cases aside

/-- Without the calls beside the cursor, all are of the other kind. -/
theorem of_mem_advances {calls : List SessionCall} {kind : SessionCall → Prop}
    (known : ∀ call ∈ calls, kind call ∨ call.aside = true) :
    ∀ call ∈ calls.filter advances, kind call := by
  intro call member
  obtain ⟨within, advances⟩ := List.mem_filter.mp member
  rcases known call within with expected | aside
  · exact expected
  · exact absurd advances (not_advances_of_aside aside)

theorem adjusted_of_advances {call : SessionCall} (advances : call.advances = true)
    (settings : TextSettings) : call.adjusted settings = settings := by
  cases call <;> first | rfl | cases advances

/-- Calls beside the cursor write nothing. -/
theorem writings_of_advances (calls : List SessionCall) :
    (calls.filter advances).filterMap writing? = calls.filterMap writing? := by
  have same : (fun call => if advances call = true then writing? call else none) = writing? := by
    funext call
    cases call <;> rfl
  rw [List.filterMap_filter, same]

/-- A call that writes does nothing but that. -/
theorem run_of_writing {call : SessionCall} {writing : Writing}
    (writes : call.writing? = some writing) (session : Session) (files : FileSystem) :
    (call.action.run session files).2 = (writing.action.run session files).2 := by
  cases call with
  | write text =>
      cases writes
      rfl
  | writeLine text =>
      cases writes
      rfl
  | writeLines texts =>
      cases writes
      rfl
  | _ => cases writes

end SessionCall

namespace Session

/-- The session with other settings. -/
def configured (session : Session) (settings : TextSettings) : Session :=
  { session with settings }

/-! ### Calls on the open cursor -/

/-- An action whose answer and effects do not depend on the settings, and which keeps
them. -/
def Blind {α : Type} (action : Action α) : Prop :=
  ∀ session settings files, action.run (session.configured settings) files =
    ((action.run session files).1, (action.run session files).2.1.configured settings,
      (action.run session files).2.2)

theorem Blind.bind {α β : Type} {first : Action α} {next : α → Action β} (before : Blind first)
    (behind : ∀ a, Blind (next a)) : Blind (first >>= next) := by
  intro session settings files
  rw [run_bind, run_bind, before session settings files]
  generalize first.run session files = outcome
  rcases outcome with ⟨result, left, after⟩
  cases result with
  | error failure => rfl
  | ok a => exact behind a left settings after

theorem blind_readLine : Blind readLine := by
  intro session settings files
  cases opened : session.cursor with
  | reading cursor =>
      have same : (session.configured settings).cursor = .reading cursor := opened
      rw [run_readLine opened, run_readLine same]
      rfl
  | closed => simp [readLine, configured, opened]
  | writing cursor => simp [readLine, configured, opened]

theorem blind_writeUnder (operation : Operation) (text : String) :
    Blind (writeUnder operation text) := by
  intro session settings files
  cases opened : session.cursor with
  | writing cursor =>
      have same : (session.configured settings).cursor = .writing cursor := opened
      rw [run_writeUnder opened, run_writeUnder same]
      cases cursor.encoding.encode text <;> rfl
  | closed => simp [writeUnder, configured, opened]
  | reading cursor => simp [writeUnder, configured, opened]

theorem blind_writeEach (texts : List String) : Blind (writeEach texts) := by
  induction texts with
  | nil => exact fun _ _ _ => rfl
  | cons text rest inductionHypothesis =>
      exact (blind_writeUnder _ _).bind fun _ => inductionHypothesis

theorem blind_writeLines (texts : List String) : Blind (writeLines texts) := by
  intro session settings files
  have same : (session.configured settings).isWriting = session.isWriting := rfl
  rw [writeLines, run_bind, run_bind, run_session, run_session]
  dsimp only
  rw [same]
  split
  · exact blind_writeEach texts session settings files
  · rfl

theorem blind_of_advances {call : SessionCall} (advances : call.advances = true) :
    Blind call.action := by
  cases call with
  | readLine => exact blind_readLine
  | write text => exact blind_writeUnder .write text
  | writeLine text => exact blind_writeUnder .writeLine _
  | writeLines texts => exact blind_writeLines texts
  | _ => cases advances

theorem onCursor_readLine : OnCursor readLine := by
  intro session files
  cases opened : session.cursor with
  | reading cursor =>
      rw [run_readLine opened]
      rfl
  | closed => simp [readLine, opened]
  | writing cursor => simp [readLine, opened]

theorem onCursor_of_advances {call : SessionCall} (advances : call.advances = true) :
    OnCursor call.action := by
  cases call with
  | readLine => exact onCursor_readLine
  | write text => exact onCursor_writeUnder .write text
  | writeLine text => exact onCursor_writeUnder .writeLine _
  | writeLines texts => exact onCursor_writeLines texts
  | _ => cases advances

theorem files_of_reads {call : SessionCall} (reads : call.reads = true) (session : Session)
    (files : FileSystem) : (call.action.run session files).2.2 = files := by
  cases call with
  | readLine =>
      change (Session.readLine.run session files).2.2 = files
      cases opened : session.cursor with
      | reading cursor => rw [run_readLine opened]
      | closed => rw [run_readLine_of_missing (by rw [isReading, opened])]
      | writing cursor => rw [run_readLine_of_missing (by rw [isReading, opened])]
  | _ => cases reads

/-! ### Calls beside the open cursor -/

/-- A call beside the cursor changes the settings at most. -/
theorem left_of_aside {call : SessionCall} (aside : call.aside = true) (session : Session)
    (files : FileSystem) :
    (call.action.run session files).2 =
      (session.configured (call.adjusted session.settings), files) := by
  cases call with
  | configure change => rfl
  | count filter => exact left_of_looks rfl session files
  | page request filter => exact left_of_looks rfl session files
  | pageJson request filter => exact left_of_looks rfl session files
  | tail requested filter => exact left_of_looks rfl session files
  | probe => exact left_of_looks rfl session files
  | _ => cases aside

/-- A scan or a probe answers as a new session with the same settings does, whatever is
open and whoever listens. -/
theorem answer_of_looks {call : SessionCall} (looks : call.looks = true) (session : Session)
    (logger : Logger) (files : FileSystem) :
    (call.action.run session files).1 =
      (call.action.run (Session.new session.path session.settings logger) files).1 := by
  have scanner : (Session.new session.path session.settings logger).scanner =
      session.scanner.logged logger := rfl
  have resolver : (Session.new session.path session.settings logger).resolver =
      session.resolver.logged logger := rfl
  cases call with
  | count filter =>
      change ((Session.count filter).run session files).1 = ((Session.count filter).run _ files).1
      rw [Session.count, run_scanning, run_scanning, scanner, Scanner.count_logged]
  | page request filter =>
      change ((Session.page request filter).run session files).1 =
        ((Session.page request filter).run _ files).1
      rw [Session.page, run_scanning, run_scanning, scanner, Scanner.page_logged]
  | pageJson request filter =>
      change ((Session.pageJson request filter).run session files).1 =
        ((Session.pageJson request filter).run _ files).1
      rw [Session.pageJson, run_bind, run_bind, Session.page, run_scanning, run_scanning, scanner,
        Scanner.page_logged]
      cases (session.scanner.page files request filter).1 <;> rfl
  | tail requested filter =>
      change ((Session.tail requested filter).run session files).1 =
        ((Session.tail requested filter).run _ files).1
      rw [Session.tail, run_scanning, run_scanning, scanner, Scanner.tail_logged]
  | probe =>
      change (Session.probe.run session files).1 = (Session.probe.run _ files).1
      rw [run_probe, run_probe, resolver, Resolver.resolveFile_logged]
      rfl
  | _ => cases looks

/-! ### Runs of calls -/

/-- A call of a run, and what it was answered. -/
structure Answered where
  call : SessionCall
  answer : Except TextError call.Answer

/-- The answers to calls that are made one behind the other, whatever each answers. -/
def answers : Session → FileSystem → List SessionCall → List Answered
  | _, _, [] => []
  | session, files, call :: rest =>
      ⟨call, (call.action.run session files).1⟩ ::
        answers (call.action.run session files).2.1 (call.action.run session files).2.2 rest

/-- The session and the files behind a run. -/
def leaves : Session → FileSystem → List SessionCall → Session × FileSystem
  | session, files, [] => (session, files)
  | session, files, call :: rest =>
      leaves (call.action.run session files).2.1 (call.action.run session files).2.2 rest

/-- What is answered within a run is what the run in front of it leads to. -/
theorem getElem_answers (before : List SessionCall) (call : SessionCall)
    (behind : List SessionCall) (session : Session) (files : FileSystem) :
    (session.answers files (before ++ call :: behind))[before.length]? =
      some ⟨call, (call.action.run (session.leaves files before).1
        (session.leaves files before).2).1⟩ := by
  induction before generalizing session files with
  | nil => rfl
  | cons first rest inductionHypothesis => exact inductionHypothesis _ _

section

variable {calls : List SessionCall}
  (known : ∀ call ∈ calls, call.advances = true ∨ call.aside = true)

include known

/-- The calls on the cursor are answered as they are without the others. -/
theorem filter_answers (session : Session) (settings : TextSettings) (files : FileSystem) :
    ((session.configured settings).answers files calls).filter (·.call.advances) =
      session.answers files (calls.filter SessionCall.advances) := by
  -- A setter leads to other settings, so these are left open on one of the two sides.
  induction calls generalizing session settings files with
  | nil => rfl
  | cons call rest inductionHypothesis =>
      obtain ⟨step, others⟩ := List.forall_mem_cons.mp known
      have behind := inductionHypothesis others
      rcases step with advances | aside
      · have same := blind_of_advances advances session settings files
        rw [answers, same, List.filter_cons_of_pos advances, answers, ← behind]
        exact List.filter_cons_of_pos advances
      · have idle := SessionCall.not_advances_of_aside aside
        rw [answers, left_of_aside aside, List.filter_cons_of_neg idle, ← behind session]
        exact List.filter_cons_of_neg idle

/-- Behind a run everything is as it is without the other calls, the settings aside. -/
theorem leaves_configured (session : Session) (settings : TextSettings) (files : FileSystem) :
    (session.configured settings).leaves files calls =
      let alone := session.leaves files (calls.filter SessionCall.advances)
      (alone.1.configured (calls.foldl SessionCall.adjusted settings), alone.2) := by
  induction calls generalizing session settings files with
  | nil => rfl
  | cons call rest inductionHypothesis =>
      obtain ⟨step, others⟩ := List.forall_mem_cons.mp known
      have behind := inductionHypothesis others
      rcases step with advances | aside
      · have same := blind_of_advances advances session settings files
        rw [leaves, List.filter_cons_of_pos advances, leaves, same, behind, List.foldl_cons,
          SessionCall.adjusted_of_advances advances]
      · have idle := SessionCall.not_advances_of_aside aside
        rw [leaves, List.filter_cons_of_neg idle, left_of_aside aside, List.foldl_cons]
        exact behind session _ files

theorem path_leaves (session : Session) (files : FileSystem) :
    (session.leaves files calls).1.path = session.path := by
  induction calls generalizing session files with
  | nil => rfl
  | cons call rest inductionHypothesis =>
      obtain ⟨kind, others⟩ := List.forall_mem_cons.mp known
      have step : (call.action.run session files).2.1.path = session.path := by
        rcases kind with advances | aside
        · have same := onCursor_of_advances advances session files
          exact congrArg (fun released => released.path) same
        · rw [left_of_aside aside]
          rfl
      exact (inductionHypothesis others _ _).trans step

end

/-- A run of calls on the open cursor with other calls between them, beside the run
without the others: the calls on the cursor are answered in the same way, everything is
the same in the end, the settings aside, and each scan or probe is answered as by a
new session with the settings of that moment, over the files that the run without the
others has led to. -/
structure Undisturbed (session : Session) (files : FileSystem) (calls : List SessionCall) :
    Prop where
  answered : (session.answers files calls).filter (·.call.advances) =
    session.answers files (calls.filter SessionCall.advances)
  left : session.leaves files calls =
    let alone := session.leaves files (calls.filter SessionCall.advances)
    (alone.1.configured (calls.foldl SessionCall.adjusted session.settings), alone.2)
  looked : ∀ before call behind, calls = before ++ call :: behind → call.looks = true →
    ∀ logger,
      let current := before.foldl SessionCall.adjusted session.settings
      let alone := session.leaves files (before.filter SessionCall.advances)
      (session.answers files calls)[before.length]? =
        some ⟨call, (call.action.run (Session.new session.path current logger) alone.2).1⟩

/-- Calls beside the cursor disturb none of the calls on it. -/
theorem undisturbed {calls : List SessionCall}
    (known : ∀ call ∈ calls, call.advances = true ∨ call.aside = true) (session : Session)
    (files : FileSystem) : session.Undisturbed files calls := by
  refine ⟨filter_answers known session session.settings files,
    leaves_configured known session session.settings files, ?_⟩
  rintro before call behind rfl looks logger current alone
  have earlier : ∀ call ∈ before, call.advances = true ∨ call.aside = true :=
    fun call member => known call (List.mem_append_left _ member)
  have path := path_leaves earlier session files
  have left : session.leaves files before = (alone.1.configured current, alone.2) :=
    leaves_configured earlier session session.settings files
  have settings : (session.leaves files before).1.settings = current := by
    rw [left]
    rfl
  rw [getElem_answers, answer_of_looks looks _ logger, path, settings, left]

/-! ### The files behind a run -/

theorem files_leaves_of_reads {calls : List SessionCall}
    (known : ∀ call ∈ calls, call.reads = true) (session : Session) (files : FileSystem) :
    (session.leaves files calls).2 = files := by
  induction calls generalizing session with
  | nil => rfl
  | cons call rest inductionHypothesis =>
      obtain ⟨step, others⟩ := List.forall_mem_cons.mp known
      rw [leaves, files_of_reads step]
      exact inductionHypothesis others _

theorem leaves_of_writings {calls : List SessionCall}
    (known : ∀ call ∈ calls, call.writing?.isSome = true) (session : Session) (files : FileSystem) :
    session.leaves files calls =
      ((writings (calls.filterMap SessionCall.writing?)).run session files).2 := by
  induction calls generalizing session files with
  | nil => rfl
  | cons call rest inductionHypothesis =>
      obtain ⟨step, others⟩ := List.forall_mem_cons.mp known
      obtain ⟨writing, writes⟩ := Option.isSome_iff_exists.mp step
      rw [leaves, List.filterMap_cons_some writes, left_writings_cons,
        SessionCall.run_of_writing writes, inductionHypothesis others]

/-- Behind a run of writes the file is what it began with and the texts that were taken. -/
theorem Began.octets_writings {session opened : Session} {files : FileSystem}
    {kept : Option Octets} {used : Encoding} {id : FileId} {mode : WriteMode}
    (began : Began session opened files kept used id mode) (calls : List Writing) :
    ((writings calls).run opened files).2.2.octets? session.path =
      some (kept.getD used.signatureOctets ++
        used.octetsOf (calls.flatMap (Writing.taken used))) := by
  obtain ⟨location, found⟩ := began.found
  have present := lt_of_find began.wellFormed found
  obtain ⟨after, goes, content, names⟩ :=
    puts_writings began.writes present began.atEnd.within calls
  rw [goes, octets_of_file ((names.find session.path).trans found), content, began.atEnd.put,
    began.content]

end Session

/-- Scans, probes and setters disturb no call on the open cursor, and each scan or probe is
answered over the files that the calls on the cursor before it have led to.  Where those
read lines, these are the files as they were.  Where a regular path was opened for writing,
the file at that moment is what it was begun with and the texts of all writes so far. -/
theorem interleaved_calls :
    (∀ (session : Session) (files : FileSystem) (calls : List SessionCall),
      (∀ call ∈ calls, call.advances = true ∨ call.aside = true) →
      session.Undisturbed files calls) ∧
    (∀ (session : Session) (files : FileSystem) (before : List SessionCall),
      (∀ call ∈ before, call.reads = true ∨ call.aside = true) →
      (session.leaves files (before.filter SessionCall.advances)).2 = files) ∧
    ∀ (session opened : Session) (files between : FileSystem) (append : Bool)
      (encoding : Option Encoding), files.WellFormed → files.Regular session.path →
      (Session.openWrite append encoding).run session files = (.ok (), opened, between) →
      let kept := if append then files.octets? session.path else none
      ∃ used, opened.encoding = some used ∧ ∀ before : List SessionCall,
        (∀ call ∈ before, call.writing?.isSome = true ∨ call.aside = true) →
        let written := (before.filterMap SessionCall.writing?).flatMap (Writing.taken used)
        (opened.leaves between (before.filter SessionCall.advances)).2.octets? session.path =
          some (kept.getD used.signatureOctets ++ used.octetsOf written) := by
  refine ⟨?_, ?_, ?_⟩
  · intro session files calls known
    exact Session.undisturbed known session files
  · intro session files before known
    have reads := SessionCall.of_mem_advances known
    exact Session.files_leaves_of_reads reads session files
  · intro session opened files between append encoding wellFormed regular opens kept
    obtain ⟨used, id, mode, began⟩ := Session.began_of_openWrite wellFormed regular opens
    refine ⟨used, began.writes.encoding_eq, ?_⟩
    intro before known written
    have writes := SessionCall.of_mem_advances known
    rw [Session.leaves_of_writings writes, SessionCall.writings_of_advances,
      began.octets_writings]

/-- The default encoding is changed between lines that are read and between lines that are
written: scans go by it from then on, the open cursor does not. -/
theorem interleaved_calls_latin :
    let latin : SessionCall :=
      .configure fun settings => { settings with defaultEncoding := .latin1 }
    let files := FileSystem.holding "a" [0xE9, 0x0A, 0xE8]
    let reader := (Session.openRead.run (Session.new "a" default .silent) files).2.1
    let reading := reader.answers files [.readLine, latin, .tail 2 none, .readLine]
    let empty := FileSystem.empty ["home"]
    let opens := (Session.openWrite true none).run (Session.new "a" default .silent) empty
    let writing := opens.2.1.answers opens.2.2 [.write "x", .probe, latin, .write "é", .tail 1 none]
    (reading.filter (·.call.advances) =
        [⟨.readLine, .ok (some "\uFFFD")⟩, ⟨.readLine, .ok (some "\uFFFD")⟩] ∧
      reading[2]? =
        some ⟨.tail 2 none, .ok { requested := 2, lines := ["é", "è"], matchedTotal := 2 }⟩) ∧
    empty.WellFormed ∧ empty.Regular "a" ∧ opens = (.ok (), opens.2.1, opens.2.2) ∧
      (opens.2.1.leaves opens.2.2 [.write "x", .write "é"]).2.octets? "a" =
        some [0xEF, 0xBB, 0xBF, 0x78, 0xC3, 0xA9] ∧
      writing[4]? =
        some ⟨.tail 1 none, .ok { requested := 1, lines := ["xé"], matchedTotal := 1 }⟩ := by
  intro latin files reader reading empty opens writing
  have wellFormed : empty.WellFormed := wellFormed_empty ["home"]
  have regular : empty.Regular "a" := regular_of_missing (by decide +kernel)
  have begins : opens = (.ok (), opens.2.1, opens.2.2) := by decide +kernel
  have readers : ∀ call ∈ [.readLine, latin, .tail 2 none, .readLine],
      call.advances = true ∨ call.aside = true := by
    simp [latin, SessionCall.advances, SessionCall.reads, SessionCall.aside, SessionCall.looks]
  have writers : ∀ call ∈ [.write "x", .probe, latin, .write "é", .tail 1 none],
      call.advances = true ∨ call.aside = true := by
    simp [latin, SessionCall.advances, SessionCall.writing?, SessionCall.aside, SessionCall.looks]
  have early : ∀ call ∈ [.readLine, latin], call.reads = true ∨ call.aside = true := by
    simp [latin, SessionCall.reads, SessionCall.aside]
  have earlier : ∀ call ∈ [.write "x", .probe, latin, .write "é"],
      call.writing?.isSome = true ∨ call.aside = true := by
    simp [latin, SessionCall.writing?, SessionCall.aside, SessionCall.looks]
  obtain ⟨disturb, reads, writes⟩ := interleaved_calls
  have besideReads := disturb reader files _ readers
  have besideWrites := disturb opens.2.1 opens.2.2 _ writers
  have same := reads reader files _ early
  obtain ⟨used, known, written⟩ := writes _ _ empty _ true none wellFormed regular begins
  have utf8 : opens.2.1.encoding = some .utf8 := by decide +kernel
  cases utf8.symm.trans known
  have content := written _ earlier
  have line : Session.readLine.run reader files =
      (.ok (some "\uFFFD"), (Session.readLine.run reader files).2.1, files) := by decide +kernel
  have next : (Session.readLine.run (Session.readLine.run reader files).2.1 files).1 =
      .ok (some "\uFFFD") := by decide +kernel
  have alone : reader.answers files [.readLine, .readLine] =
      [⟨.readLine, .ok (some "\uFFFD")⟩, ⟨.readLine, .ok (some "\uFFFD")⟩] := by
    have first : SessionCall.readLine.action.run reader files = _ := line
    rw [Session.answers, Session.answers, first]
    exact congrArg (fun answer => [_, Session.Answered.mk .readLine answer]) next
  have scanned : ((Session.tail 2 none).run
      (Session.new reader.path (latin.adjusted reader.settings) .silent) files).1 =
        .ok { requested := 2, lines := ["é", "è"], matchedTotal := 2 } := by decide +kernel
  have rescanned : ((Session.tail 1 none).run
      (Session.new opens.2.1.path (latin.adjusted opens.2.1.settings) .silent)
      (opens.2.1.leaves opens.2.2 [.write "x", .write "é"]).2).1 =
        .ok { requested := 1, lines := ["xé"], matchedTotal := 1 } := by decide +kernel
  refine ⟨⟨besideReads.answered.trans alone, ?_⟩, wellFormed, regular, begins,
    content.trans (by decide +kernel), ?_⟩
  · have looked := besideReads.looked [.readLine, latin] (.tail 2 none) [.readLine] rfl rfl .silent
    dsimp only at looked
    rw [same] at looked
    exact looked.trans (congrArg (fun answer => some (Session.Answered.mk (.tail 2 none) answer))
      scanned)
  · have looked := besideWrites.looked [.write "x", .probe, latin, .write "é"] (.tail 1 none) []
      rfl rfl .silent
    exact looked.trans (congrArg (fun answer => some (Session.Answered.mk (.tail 1 none) answer))
      rescanned)

end Bytemark
