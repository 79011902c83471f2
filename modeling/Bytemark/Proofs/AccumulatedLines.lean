/-
Module: Bytemark.Proofs.AccumulatedLines
Purpose: The lines that runs of the program write to a file one after the other.
Trusted boundary: none
Main exports: LineWrite.standing, LineWrite.standing_snoc, LineWrite.Runs, HoldsLines,
  Session.encoding_of_openWrite, Session.holdsLines_of_written, LineWrite.Runs.stands,
  written_lines_accumulate
-/
import Bytemark.Proofs.AcceptedWrites
import Bytemark.Proofs.CommandRuns
import Bytemark.Proofs.WrittenLines

namespace Bytemark

open FileSystem Bytemark.Action

/-!
Each run of the program finds nothing but the octets that the runs before it have left,
and resolves the encoding of the file anew.  What carries the proof is that the file holds
the signature of the default encoding and plain lines in that encoding: octets like these
are resolved to the default encoding again, so the next run adds lines of the same kind.
-/

/-- What one run of the program is asked to write. -/
structure LineWrite where
  append : Bool
  texts : List String
deriving Repr, DecidableEq

namespace LineWrite

/-- The lines that stand in the end: those of the last write that does not append, or else
of the first, and those of all writes behind it. -/
def standing : List LineWrite → List String
  | [] => []
  | write :: rest =>
      if rest.all LineWrite.append then (write :: rest).flatMap LineWrite.texts
      else standing rest

/-- One more write adds its lines to those that stand, or replaces them. -/
theorem standing_snoc (writes : List LineWrite) (write : LineWrite) :
    standing (writes ++ [write]) =
      (if write.append then standing writes else []) ++ write.texts := by
  induction writes with
  | nil =>
      cases write.append <;> simp [standing]
  | cons first rest inductionHypothesis =>
      rw [List.cons_append, standing, standing, List.all_append, inductionHypothesis]
      cases appends : write.append with
      | false => simp [appends]
      | true =>
          cases rest.all LineWrite.append <;> simp [appends]

theorem forall_standing {writes : List LineWrite} {holds : String → Prop}
    (all : ∀ write ∈ writes, ∀ text ∈ write.texts, holds text) :
    ∀ text ∈ standing writes, holds text := by
  induction writes with
  | nil => exact fun _ member => nomatch member
  | cons first rest inductionHypothesis =>
      obtain ⟨-, others⟩ := List.forall_mem_cons.mp all
      rw [standing]
      split
      · intro text member
        obtain ⟨write, within, among⟩ := List.mem_flatMap.mp member
        exact all write within text among
      · exact inductionHypothesis others

/-- Successful runs of the program, one behind the other, that write to one file in no
encoding of their own, each under a configuration with the same default encoding. -/
inductive Runs (home : Option String) (file : String) (default : Encoding) (start : FileSystem) :
    List LineWrite → FileSystem → Prop where
  | nil : Runs home file default start [] start
  | snoc {writes : List LineWrite} {before : FileSystem} {write : LineWrite}
      {arguments : List String} {invocation : Invocation} {config : Config}
      (earlier : Runs home file default start writes before)
      (understood : Invocation.ofArguments arguments = .ok invocation)
      (asked : invocation.command = .write file write.append none write.texts)
      (loaded : invocation.loadConfig before home = .ok config)
      (sameDefault : config.text.defaultEncoding = default)
      (succeeded : (CommandLine.run before home arguments).code = 0) :
      Runs home file default start (writes ++ [write]) (CommandLine.run before home arguments).files

end LineWrite

/-- A file holds the signature of an encoding and behind it lines in that encoding. -/
def HoldsLines (files : FileSystem) (path : String) (encoding : Encoding) (lines : List String) :
    Prop :=
  ∃ location id octets, files.find path = .ok (location, .file id) ∧
    encoding.encode (writtenLines lines) = .ok octets ∧
    files.content id = encoding.signatureOctets ++ octets

/-- Nothing is at the path and no lines stand, or they stand in a file. -/
def LinesStand (files : FileSystem) (path : String) (encoding : Encoding) (lines : List String) :
    Prop :=
  lines = [] ∧ files.exists? path = false ∨ HoldsLines files path encoding lines

namespace LinesStand

variable {files : FileSystem} {path : String} {encoding : Encoding} {lines : List String}

theorem regular (stand : LinesStand files path encoding lines) : files.Regular path := by
  rcases stand with ⟨-, missing⟩ | ⟨location, id, octets, found, -, -⟩
  · exact regular_of_missing missing
  · exact regular_of_file found

/-- What a writer keeps of the file is the signature, and the lines if it appends. -/
theorem kept_eq (stand : LinesStand files path encoding lines) (append : Bool) :
    ∃ octets, encoding.encode (writtenLines (if append then lines else [])) = .ok octets ∧
      (if append then files.octets? path else none).getD encoding.signatureOctets =
        encoding.signatureOctets ++ octets := by
  cases append with
  | false => exact ⟨[], rfl, (List.append_nil _).symm⟩
  | true =>
      rcases stand with ⟨rfl, missing⟩ | ⟨location, id, octets, found, encoded, content⟩
      · refine ⟨[], rfl, ?_⟩
        rw [if_pos rfl, octets_of_not_exists missing, List.append_nil]
        rfl
      · refine ⟨octets, encoded, ?_⟩
        rw [if_pos rfl, octets_of_file found, content]
        rfl

end LinesStand

namespace Session

section

variable {session opened : Session} {files between : FileSystem} {append : Bool}
  {encoding : Encoding} {lines : List String}

/-- Where plain lines in the default encoding stand, a writer without an encoding of its own
chooses the default encoding. -/
theorem encoding_of_openWrite
    (opens : (openWrite append none).run session files = (.ok (), opened, between))
    (sameDefault : session.settings.defaultEncoding = encoding) (wellFormed : files.WellFormed)
    (stand : LinesStand files session.path encoding lines)
    (plain : ∀ line ∈ lines, encoding.PlainLine line) : opened.encoding = some encoding := by
  rcases stand with ⟨-, missing⟩ | ⟨location, id, octets, found, encoded, content⟩
  · rcases run_openWrite_new wellFormed missing append none with
      ⟨failure, fails⟩ | ⟨location, id, after, begins, -, -, -⟩
    · cases fails.symm.trans opens
    · cases begins.symm.trans opens
      exact congrArg some sameDefault
  · have settles : (Resolution.ofOctets (files.content id)
        session.settings.defaultEncoding).encoding = encoding := by
      rw [content, sameDefault]
      exact Encoding.encoding_of_signed encoded
        (Encoding.not_collides_writtenLines plain encoded)
    cases append with
    | true =>
        cases (run_openAppend_eq found none).symm.trans opens
        exact congrArg some settles
    | false =>
        obtain ⟨after, begins, -, -⟩ := run_openWrite_over wellFormed found none
        cases begins.symm.trans opens
        change some (session.renewed none (files.content id)) = some encoding
        rw [renewed, Option.getD_none, settles, sameDefault, ite_self]

/-- A writer without an encoding of its own leaves the lines that it appends to, if it
does, and behind them its own. -/
theorem holdsLines_of_written {written : Session} {after : FileSystem} {texts : List String}
    (opens : (openWrite append none).run session files = (.ok (), opened, between))
    (writes : (writeLines texts).run opened between = (.ok (), written, after))
    (sameDefault : session.settings.defaultEncoding = encoding) (wellFormed : files.WellFormed)
    (stand : LinesStand files session.path encoding lines)
    (plain : ∀ line ∈ lines, encoding.PlainLine line) :
    after.WellFormed ∧
      HoldsLines after session.path encoding ((if append then lines else []) ++ texts) := by
  have chosen := encoding_of_openWrite opens sameDefault wellFormed stand plain
  obtain ⟨used, id, mode, began⟩ := began_of_openWrite wellFormed stand.regular opens
  cases chosen.symm.trans began.writes.encoding_eq
  obtain ⟨octets, encoded, kept⟩ := stand.kept_eq append
  obtain ⟨location, found⟩ := began.found
  have present := lt_of_find began.wellFormed found
  obtain ⟨last, goes, content, names⟩ :=
    puts_writing began.writes present began.atEnd.within (.lines texts)
  have same := goes.symm.trans writes
  have answered : encoding.verdict .writeLine opened.path (texts.map endedLine) = .ok () :=
    congrArg Prod.fst same
  cases congrArg (fun outcome => outcome.2.2) same
  -- The call has succeeded, so all of its texts have octets.
  rcases encoding.verdict_cases .writeLine opened.path (texts.map endedLine) with
    ⟨-, all⟩ | ⟨refusal, refused⟩
  · have behind := Encoding.encode_join all
    have taken : (Writing.lines texts).taken encoding = texts.map endedLine := all
    rw [taken, began.atEnd.put, began.content, kept, List.append_assoc] at content
    have whole := Encoding.encode_append encoded behind
    refine ⟨began.wellFormed.of_sameNames names, location, id, _,
      (names.find session.path).trans found, ?_, content⟩
    rw [writtenLines_append]
    exact whole
  · cases answered.symm.trans refused

end

end Session

namespace LineWrite

/-- Behind each run the lines stand that the writes so far have left. -/
theorem Runs.stands {home : Option String} {file : String} {default : Encoding}
    {start after : FileSystem} {writes : List LineWrite}
    (runs : Runs home file default start writes after) (wellFormed : start.WellFormed)
    (missing : start.exists? file = false)
    (plain : ∀ write ∈ writes, ∀ text ∈ write.texts, default.PlainLine text) :
    after.WellFormed ∧ LinesStand after file default (standing writes) ∧
      (writes ≠ [] → HoldsLines after file default (standing writes)) := by
  induction runs with
  | nil => exact ⟨wellFormed, .inl ⟨rfl, missing⟩, fun nonempty => absurd rfl nonempty⟩
  | @snoc writes before write arguments invocation config earlier understood asked loaded
      sameDefault succeeded inductionHypothesis =>
      have plainBefore : ∀ write ∈ writes, ∀ text ∈ write.texts, default.PlainLine text :=
        fun write member => plain write (List.mem_append_left _ member)
      obtain ⟨kept, stand, -⟩ := inductionHypothesis plainBefore
      have plainLines := forall_standing plainBefore
      rw [CommandLine.run_of_understood understood loaded, asked] at succeeded ⊢
      rw [Command.files_perform]
      obtain ⟨output, done⟩ := (Command.code_perform_iff _ config before).mp succeeded
      obtain ⟨opened, between, written, opens, wrote⟩ := Command.written_of_act done
      obtain ⟨kept', holds⟩ :=
        Session.holdsLines_of_written opens wrote sameDefault kept stand plainLines
      rw [standing_snoc]
      exact ⟨kept', .inr holds, fun _ => holds⟩

end LineWrite

/-- Where plain lines stand, the program prints them one by one. -/
theorem HoldsLines.printed {files : FileSystem} {home : Option String} {file : String}
    {default : Encoding} {lines : List String} (holds : HoldsLines files file default lines)
    (plain : ∀ line ∈ lines, default.PlainLine line) {arguments : List String}
    {invocation : Invocation} {config : Config}
    (understood : Invocation.ofArguments arguments = .ok invocation)
    (asked : invocation.command = .lines file false)
    (loaded : invocation.loadConfig files home = .ok config)
    (sameDefault : config.text.defaultEncoding = default) :
    (CommandLine.run files home arguments).code = 0 ∧
      (CommandLine.run files home arguments).output = String.join (lines.map printedLine) ∧
      (CommandLine.run files home arguments).files = files := by
  obtain ⟨location, id, octets, found, encoded, content⟩ := holds
  have apart := Encoding.not_collides_writtenLines plain encoded
  have settings : ((Command.lines file false).session config).resolver.defaultEncoding = default :=
    sameDefault
  have text := (Encoding.text_signed_eq_iff encoded fun latin => settings.trans latin).mpr apart
  have reached : files.find ((Command.lines file false).session config).path =
      .ok (location, .file id) := found
  have shown : (Command.lines file false).act.run _ files = _ := Command.run_lines_of_file reached
  rw [content, text, Encoding.ofText_writtenLines plain] at shown
  have done := congrArg Prod.fst shown
  rw [CommandLine.run_of_understood understood loaded, asked]
  refine ⟨(Command.code_perform_iff _ config files).mpr ⟨_, done⟩, Command.output_perform done, ?_⟩
  rw [Command.files_perform, shown]

/-- Successful runs of the program that write plain lines to a file which was missing at
first, whatever the rest of their configuration is, leave the signature of the default
encoding and behind it the lines of the last run that did not append, or of the first one,
and of all runs behind it.  The program then prints just these lines, one by one. -/
theorem written_lines_accumulate {home : Option String} {file : String} {default : Encoding}
    {start after : FileSystem} {writes : List LineWrite}
    (runs : LineWrite.Runs home file default start writes after) (wellFormed : start.WellFormed)
    (missing : start.exists? file = false) (nonempty : writes ≠ [])
    (plain : ∀ write ∈ writes, ∀ text ∈ write.texts, default.PlainLine text) :
    let standing := LineWrite.standing writes
    (∃ octets, default.encode (writtenLines standing) = .ok octets ∧
      after.octets? file = some (default.signatureOctets ++ octets)) ∧
    ∀ arguments invocation config,
      Invocation.ofArguments arguments = .ok invocation →
      invocation.command = .lines file false →
      invocation.loadConfig after home = .ok config →
      config.text.defaultEncoding = default →
      let report := CommandLine.run after home arguments
      report.code = 0 ∧ report.output = String.join (standing.map printedLine) ∧
        report.files = after := by
  intro standing
  obtain ⟨-, -, held⟩ := runs.stands wellFormed missing plain
  have holds := held nonempty
  have plainLines := LineWrite.forall_standing plain
  constructor
  · obtain ⟨location, id, octets, found, encoded, content⟩ := holds
    refine ⟨octets, encoded, ?_⟩
    rw [octets_of_file found, content]
  · intro arguments invocation config understood asked loaded sameDefault
    exact holds.printed plainLines understood asked loaded sameDefault

/-- The third run appends to what the second one has begun anew, in UTF-16LE. -/
theorem written_lines_accumulate_wide :
    let start := FileSystem.empty ["home"]
    let default : Encoding := .utf16 .little
    let writes : List LineWrite := [⟨false, ["lost"]⟩, ⟨false, ["x"]⟩, ⟨true, ["é", ""]⟩]
    let arguments (command : List String) := ["--default-encoding", "utf-16le"] ++ command
    let first := CommandLine.run start none (arguments ["write", "a", "lost"])
    let second := CommandLine.run first.files none (arguments ["write", "a", "x"])
    let last := CommandLine.run second.files none (arguments ["write", "a", "--append", "é", ""])
    let shown := CommandLine.run last.files none (arguments ["lines", "a"])
    start.WellFormed ∧ start.exists? "a" = false ∧ writes ≠ [] ∧
      LineWrite.Runs none "a" default start writes last.files ∧
      (∀ write ∈ writes, ∀ text ∈ write.texts, default.PlainLine text) ∧
      last.files.octets? "a" = some [0xFF, 0xFE, 0x78, 0x00, 0x0A, 0x00, 0xE9, 0x00, 0x0A, 0x00,
        0x0A, 0x00] ∧
      shown.code = 0 ∧ shown.output = "x\né\n\n" := by
  intro start default writes arguments first second last shown
  have wellFormed : start.WellFormed := wellFormed_empty ["home"]
  have missing : start.exists? "a" = false := by decide +kernel
  have nonempty : writes ≠ [] := List.cons_ne_nil _ _
  let config : Config := { text := { defaultEncoding := default } }
  let asked (command : Command) : Invocation := ⟨none, default, command⟩
  have one : LineWrite.Runs none "a" default start ([] ++ [⟨false, ["lost"]⟩]) first.files := by
    have understood : Invocation.ofArguments (arguments ["write", "a", "lost"]) =
        .ok (asked (.write "a" false none ["lost"])) := by decide +kernel
    have loaded : (asked (.write "a" false none ["lost"])).loadConfig start none = .ok config := by
      decide +kernel
    have succeeded : first.code = 0 := by decide +kernel
    exact .snoc .nil understood rfl loaded rfl succeeded
  have two : LineWrite.Runs none "a" default start ([⟨false, ["lost"]⟩] ++ [⟨false, ["x"]⟩])
      second.files := by
    have understood : Invocation.ofArguments (arguments ["write", "a", "x"]) =
        .ok (asked (.write "a" false none ["x"])) := by decide +kernel
    have loaded : (asked (.write "a" false none ["x"])).loadConfig first.files none =
        .ok config := by decide +kernel
    have succeeded : second.code = 0 := by decide +kernel
    exact .snoc one understood rfl loaded rfl succeeded
  have runs : LineWrite.Runs none "a" default start
      ([⟨false, ["lost"]⟩, ⟨false, ["x"]⟩] ++ [⟨true, ["é", ""]⟩]) last.files := by
    have understood : Invocation.ofArguments (arguments ["write", "a", "--append", "é", ""]) =
        .ok (asked (.write "a" true none ["é", ""])) := by decide +kernel
    have loaded : (asked (.write "a" true none ["é", ""])).loadConfig second.files none =
        .ok config := by decide +kernel
    have succeeded : last.code = 0 := by decide +kernel
    exact .snoc two understood rfl loaded rfl succeeded
  have apart : ∀ write ∈ writes, ∀ text ∈ write.texts, '\n' ∉ text.toList ∧ '\r' ∉ text.toList ∧
      Char.ofNat 0 ∉ text.toList := by decide +kernel
  have plain : ∀ write ∈ writes, ∀ text ∈ write.texts, default.PlainLine text := by
    intro write member text among
    obtain ⟨noLf, noCr, noNull⟩ := apart write member text among
    refine ⟨noLf, noCr, noNull, ?_⟩
    intro (latin : Encoding.utf16 .little = .latin1)
    cases latin
  obtain ⟨⟨octets, encoded, held⟩, prints⟩ :=
    written_lines_accumulate runs wellFormed missing nonempty plain
  have understood : Invocation.ofArguments (arguments ["lines", "a"]) =
      .ok (asked (.lines "a" false)) := by decide +kernel
  have loaded : (asked (.lines "a" false)).loadConfig last.files none = .ok config := by
    decide +kernel
  obtain ⟨code, output, -⟩ := prints _ _ config understood rfl loaded rfl
  refine ⟨wellFormed, missing, nonempty, runs, plain, held.trans ?_, code, output.trans ?_⟩
  · cases encoded
    decide +kernel
  · decide +kernel

end Bytemark
