/-
Module: Bytemark.Proofs.CommandRuns
Purpose: What a run of the program comes to, in terms of the session that it works on.
Trusted boundary: none
Main exports: CommandLine.run_of_understood, Command.session, Command.files_perform,
  Command.code_perform_iff, Command.output_perform, Command.written_of_act,
  Command.run_lines_of_file
-/
import Bytemark.CommandLine
import Bytemark.Proofs.SessionRun

namespace Bytemark

open FileSystem Bytemark.Action

namespace CommandLine

/-- A run on arguments that were understood performs their command, if there is a
configuration. -/
theorem run_of_understood {arguments : List String} {invocation : Invocation} {config : Config}
    {files : FileSystem} {home : Option String}
    (understood : Invocation.ofArguments arguments = .ok invocation)
    (loaded : invocation.loadConfig files home = .ok config) :
    run files home arguments = invocation.command.perform config files := by
  rw [run, understood]
  dsimp only
  rw [Invocation.run, loaded]

end CommandLine

/-! ### Reports -/

namespace Report

/-- The report about what a command has come to. -/
def ofOutcome (outcome : Outcome (String × Option Failure)) : Report :=
  match outcome.result with
  | .ok (output, failure) => ofFailure output failure outcome.files outcome.log
  | .error cause => ofFailure "" (some (.text cause)) outcome.files outcome.log

theorem files_ofOutcome (outcome : Outcome (String × Option Failure)) :
    (ofOutcome outcome).files = outcome.files := by
  rcases outcome with ⟨cause | ⟨output, failure⟩, session, files, log⟩
  · rfl
  · cases failure <;> rfl

theorem code_ofOutcome_iff (outcome : Outcome (String × Option Failure)) :
    (ofOutcome outcome).code = 0 ↔ ∃ output, outcome.result = .ok (output, none) := by
  rcases outcome with ⟨cause | ⟨output, failure⟩, session, files, log⟩
  · apply iff_of_false Nat.one_ne_zero
    rintro ⟨output, done⟩
    cases done
  · cases failure with
    | none => exact iff_of_true rfl ⟨output, rfl⟩
    | some failure =>
        apply iff_of_false Nat.one_ne_zero
        rintro ⟨output, done⟩
        cases done

end Report

namespace Command

/-- The session that a command works on. -/
def session (command : Command) (config : Config) : Session :=
  Session.new command.file config.text
    (match LogFilter.ofLevel config.logLevel with
    | some filter => filter.logger
    | none => .silent)

theorem perform_eq (command : Command) (config : Config) (files : FileSystem) :
    command.perform config files =
      .ofOutcome (command.act (command.session config) files) := rfl

theorem files_perform (command : Command) (config : Config) (files : FileSystem) :
    (command.perform config files).files =
      (command.act.run (command.session config) files).2.2 := by
  rw [perform_eq, Report.files_ofOutcome]
  rfl

/-- A run succeeds exactly if its command was carried out to its end. -/
theorem code_perform_iff (command : Command) (config : Config) (files : FileSystem) :
    (command.perform config files).code = 0 ↔
      ∃ output, (command.act.run (command.session config) files).1 = .ok (output, none) := by
  rw [perform_eq, Report.code_ofOutcome_iff]
  rfl

theorem output_perform {command : Command} {config : Config} {files : FileSystem}
    {output : String}
    (done : (command.act.run (command.session config) files).1 = .ok (output, none)) :
    (command.perform config files).output = output := by
  have result : (command.act (command.session config) files).result = .ok (output, none) := done
  rw [perform_eq, Report.ofOutcome, result]
  rfl

/-! ### Writing -/

/-- A write that was carried out has opened the file and written every line. -/
theorem written_of_act {file : String} {append : Bool} {encoding : Option Encoding}
    {texts : List String} {session : Session} {files : FileSystem} {output : String}
    (done : ((write file append encoding texts).act.run session files).1 = .ok (output, none)) :
    ∃ opened between written,
      (Session.openWrite append encoding).run session files = (.ok (), opened, between) ∧
      (Session.writeLines texts).run opened between =
        (.ok (), written, ((write file append encoding texts).act.run session files).2.2) := by
  simp only [act, run_bind, run_attempt] at done ⊢
  generalize (Session.openWrite append encoding).run session files = opening at done ⊢
  rcases opening with ⟨cause | _, opened, between⟩
  · cases done
  · refine ⟨opened, between, ?_⟩
    simp only [run_bind, Session.run_thenClose] at done ⊢
    generalize (Session.writeLines texts).run opened between = writing at done ⊢
    rcases writing with ⟨cause | _, written, after⟩
    · cases done
    · exact ⟨written, trivial, rfl⟩

/-! ### Reading -/

/-- A visitor that prints every line has printed all of them in the end. -/
theorem printed_through_see (shown : Numbered) (lines : List String) :
    (Visit.through (Numbered.see false) shown lines).printed =
      (lines.map printedLine).reverse ++ shown.printed := by
  induction lines generalizing shown with
  | nil => rfl
  | cons line rest inductionHypothesis =>
      rw [List.map_cons, List.reverse_cons, List.append_assoc]
      exact inductionHypothesis _

/-- The lines of a file are printed one by one. -/
theorem run_lines_of_file {file : String} {session : Session} {files : FileSystem}
    {location : Location} {id : FileId}
    (found : files.find session.path = .ok (location, .file id)) :
    let shown := Lines.ofText (session.resolver.text (files.content id))
    (lines file false).act.run session files =
      (.ok (String.join (shown.map printedLine), none), session.released, files) := by
  intro shown
  obtain ⟨cursor, opened, -, holds, skips⟩ := Session.run_openRead_of_file found
  obtain ⟨seen, outcome⟩ := ReadCursor.visit_of_holds holds skips (Numbered.see false) {}
  have printed : (Visit.through (Numbered.see false) {} shown).output =
      String.join (shown.map printedLine) := by
    rw [Numbered.output, printed_through_see, List.append_nil, List.reverse_reverse]
  have visits := Session.run_visit (show (session.reading cursor).cursor = .reading cursor from rfl)
    files (Numbered.see false) {}
  rw [seen, outcome] at visits
  simp only [act, run_bind, opened, visits, Session.run_close]
  rw [printed]
  rfl

end Command

end Bytemark
