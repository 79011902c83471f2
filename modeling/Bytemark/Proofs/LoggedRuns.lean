/-
Module: Bytemark.Proofs.LoggedRuns
Purpose: Who listens to a run changes nothing of it, and hears the messages of their levels.
Trusted boundary: none
Main exports: Activity, Workspace, Workspace.perform, Workspace.run, Workspace.perform_told,
  Workspace.run_told, levels_only_filter
-/
import Mathlib.Logic.Function.Basic
import Bytemark.Proofs.DiscreetActions

namespace Bytemark

/-!
A run is made of calls of sessions, of scans and of searches for signatures, with one
logger for all of them.  Each of these has one outcome for all loggers, and so has the
run: the answers, the sessions and the files do not depend on the logger, and what it
keeps is a part of one list of messages.
-/

/-- What can be done in a run, with one logger for all of it. -/
inductive Activity (ι : Type) where
  /-- A call of a session; a session that is let go of is closed. -/
  | call (who : ι) (call : SessionCall)
  | count (path : String) (settings : TextSettings) (filter : Filter)
  | page (path : String) (settings : TextSettings) (request : PageRequest) (filter : Filter)
  | tail (path : String) (settings : TextSettings) (requested : Nat) (filter : Filter)
  | resolve (settings : TextSettings) (stream : Pushback)
  | resolveFile (settings : TextSettings) (path : String)
  | openFile (settings : TextSettings) (path : String)
  /-- Others change the files. -/
  | others (change : FileSystem → FileSystem)

namespace Activity

variable {ι : Type}

/-- What an activity answers.  A resolver answers with the stream that it leaves. -/
def Answer : Activity ι → Type
  | call _ asked => Except TextError asked.Answer
  | count _ _ _ => Except TextError Nat
  | page _ _ _ _ => Except TextError Page
  | tail _ _ _ _ => Except TextError Tail
  | resolve _ _ => Except IoError Resolution × Pushback
  | resolveFile _ _ => Except IoError Resolution
  | openFile _ _ => Except IoError ReadCursor
  | others _ => Unit

/-- An activity of a run, and its answer. -/
structure Answered (ι : Type) where
  activity : Activity ι
  answer : activity.Answer

end Activity

/-- Any number of sessions, and the files. -/
structure Workspace (ι : Type) where
  sessions : ι → Session
  files : FileSystem

/-- The answers of a run, everything as it is afterwards, and what the logger has kept. -/
structure Account (ι : Type) where
  answers : List (Activity.Answered ι)
  left : Workspace ι
  log : List Log.Entry

namespace Workspace

open Logger

variable {ι : Type}

/-- The workspace with another logger in its sessions. -/
def logged (workspace : Workspace ι) (logger : Logger) : Workspace ι :=
  { workspace with sessions := fun who => (workspace.sessions who).logged logger }

/-- What is done beside the sessions leaves them and the files alone. -/
def beside {α : Type} (workspace : Workspace ι) (report : α × List Log.Entry) :
    α × Workspace ι × List Log.Entry :=
  (report.1, workspace, report.2)

theorem told_beside {α : Type} (workspace : Workspace ι) (reports : Logger → α × List Log.Entry)
    {answer : α} (same : ∀ logger, (reports logger).1 = answer)
    (hears : Hears fun logger => (reports logger).2) :
    ∃ answer left log, ∀ logger, (workspace.logged logger).beside (reports logger) =
      (answer, logged left logger, logger.kept log) := by
  obtain ⟨log, heard⟩ := hears
  refine ⟨answer, workspace, log, fun logger => ?_⟩
  unfold beside
  rw [same, ← heard]

variable [DecidableEq ι]

/-- What an activity answers, does and sends. -/
def perform (workspace : Workspace ι) (logger : Logger) :
    (activity : Activity ι) → activity.Answer × Workspace ι × List Log.Entry
  | .call who call =>
      let outcome := call.action (workspace.sessions who) workspace.files
      let sessions := Function.update workspace.sessions who outcome.session
      (outcome.result, ⟨sessions, outcome.files⟩, outcome.log)
  | .count path settings filter =>
      workspace.beside ((Scanner.new path settings logger).count workspace.files filter)
  | .page path settings request filter =>
      workspace.beside ((Scanner.new path settings logger).page workspace.files request filter)
  | .tail path settings requested filter =>
      workspace.beside ((Scanner.new path settings logger).tail workspace.files requested filter)
  | .resolve settings stream =>
      let resolved := (settings.resolver logger).resolve stream
      workspace.beside ((resolved.result, resolved.stream), resolved.log)
  | .resolveFile settings path =>
      workspace.beside ((settings.resolver logger).resolveFile workspace.files path)
  | .openFile settings path =>
      workspace.beside (ReadCursor.openFile workspace.files path (settings.resolver logger))
  | .others change => ((), { workspace with files := change workspace.files }, [])

/-- Activities, one after the other. -/
def run (logger : Logger) : Workspace ι → List (Activity ι) → Account ι
  | workspace, [] => ⟨[], workspace, []⟩
  | workspace, activity :: rest =>
      let (answer, left, log) := workspace.perform logger activity
      let behind := run logger left rest
      ⟨⟨activity, answer⟩ :: behind.answers, behind.left, log ++ behind.log⟩

theorem told_call (workspace : Workspace ι) (who : ι) (call : SessionCall) :
    ∃ answer left log, ∀ logger, (workspace.logged logger).perform logger (.call who call) =
      (answer, logged left logger, logger.kept log) := by
  obtain ⟨outcome, told⟩ := Session.discreet_action call (workspace.sessions who) workspace.files
  refine ⟨outcome.result, ⟨Function.update workspace.sessions who outcome.session, outcome.files⟩,
    outcome.log, fun logger => ?_⟩
  have sessions : (logged ⟨Function.update workspace.sessions who outcome.session,
      outcome.files⟩ logger).sessions =
      Function.update (workspace.logged logger).sessions who (outcome.session.logged logger) :=
    Function.comp_update (Session.logged · logger) workspace.sessions who outcome.session
  have performed := congrArg
    (fun outcome : Outcome call.Answer => (outcome.result,
      Workspace.mk (Function.update (workspace.logged logger).sessions who outcome.session)
        outcome.files, outcome.log)) (told logger)
  refine Eq.trans performed ?_
  exact congrArg (fun sessions => (outcome.result, Workspace.mk sessions outcome.files,
    logger.kept outcome.log)) sessions.symm

/-- An activity has one outcome for all loggers. -/
theorem perform_told (workspace : Workspace ι) (activity : Activity ι) :
    ∃ answer left log, ∀ logger, (workspace.logged logger).perform logger activity =
      (answer, logged left logger, logger.kept log) := by
  cases activity with
  | call who call => exact workspace.told_call who call
  | count path settings filter =>
      let scanner := Scanner.new path settings .silent
      exact workspace.told_beside
        (fun logger => (scanner.logged logger).count workspace.files filter)
        (fun logger => scanner.count_logged logger workspace.files filter)
        (scanner.hears_count workspace.files filter)
  | page path settings request filter =>
      let scanner := Scanner.new path settings .silent
      exact workspace.told_beside
        (fun logger => (scanner.logged logger).page workspace.files request filter)
        (fun logger => scanner.page_logged logger workspace.files filter request)
        (scanner.hears_page workspace.files filter request)
  | tail path settings requested filter =>
      let scanner := Scanner.new path settings .silent
      exact workspace.told_beside
        (fun logger => (scanner.logged logger).tail workspace.files requested filter)
        (fun logger => scanner.tail_logged logger workspace.files filter requested)
        (scanner.hears_tail workspace.files filter requested)
  | resolve settings stream =>
      let resolver := settings.resolver .silent
      have same (logger : Logger) :
          (((resolver.logged logger).resolve stream).result,
            ((resolver.logged logger).resolve stream).stream) =
          ((resolver.resolve stream).result, (resolver.resolve stream).stream) :=
        Prod.ext (resolver.resolve_logged logger stream).1 (resolver.resolve_logged logger stream).2
      exact workspace.told_beside
        (fun logger =>
          let resolved := (resolver.logged logger).resolve stream
          ((resolved.result, resolved.stream), resolved.log))
        same (resolver.hears_resolve stream)
  | resolveFile settings path =>
      let resolver := settings.resolver .silent
      exact workspace.told_beside
        (fun logger => (resolver.logged logger).resolveFile workspace.files path)
        (fun logger => resolver.resolveFile_logged logger workspace.files path)
        (resolver.hears_resolveFile workspace.files path)
  | openFile settings path =>
      let resolver := settings.resolver .silent
      exact workspace.told_beside
        (fun logger => ReadCursor.openFile workspace.files path (resolver.logged logger))
        (fun logger => resolver.openFile_logged logger workspace.files path)
        (resolver.hears_openFile workspace.files path)
  | others change => exact ⟨(), ⟨workspace.sessions, change workspace.files⟩, [], fun _ => rfl⟩

theorem run_told (workspace : Workspace ι) (activities : List (Activity ι)) :
    ∃ answers left log, ∀ logger,
      run logger (workspace.logged logger) activities =
        ⟨answers, logged left logger, logger.kept log⟩ := by
  induction activities generalizing workspace with
  | nil => exact ⟨[], workspace, [], fun _ => rfl⟩
  | cons activity rest inductionHypothesis =>
      obtain ⟨answer, between, sent, told⟩ := workspace.perform_told activity
      obtain ⟨answers, left, log, behind⟩ := inductionHypothesis between
      refine ⟨⟨activity, answer⟩ :: answers, left, sent ++ log, fun logger => ?_⟩
      rw [run, told]
      dsimp only
      rw [behind, kept_append]

end Workspace

/-- Loggers of two levels, or none, listen to the same run: whatever is done with sessions,
scans and resolvers, all answers are the same, and so are the sessions and the files at its
end.  The logger of the higher level keeps the messages of the other one that reach its level,
in their order, and no logger keeps nothing.  (Messages say nothing of the time that was taken.) -/
theorem levels_only_filter {least most : Log.Level} (higher : most.atLeast least = true)
    {ι : Type} [DecidableEq ι] (workspace : Workspace ι) (activities : List (Activity ι)) :
    let under (logger : Logger) := (workspace.logged logger).run logger activities
    let low := under (.recording least)
    let high := under (.recording most)
    let none := under .silent
    high.answers = low.answers ∧ high.left = low.left.logged (.recording most) ∧
      high.log = low.log.filter (fun entry => entry.level.atLeast most) ∧
      none.answers = low.answers ∧ none.left = low.left.logged .silent ∧ none.log = [] := by
  obtain ⟨answers, left, log, told⟩ := workspace.run_told activities
  intro under low high none
  have lower : low = _ := told (.recording least)
  have upper : high = _ := told (.recording most)
  have unheard : none = _ := told .silent
  rw [lower, upper, unheard]
  exact ⟨rfl, rfl, Logger.kept_recording higher log, rfl, rfl, Logger.kept_silent log⟩

/-- A session appends, a scan counts, and a probe of a missing file falls back to the default:
the warning alone reaches the higher level. -/
theorem levels_only_filter_warned :
    let workspace : Workspace Unit :=
      ⟨fun _ => Session.new "a" default .silent, FileSystem.holding "a" [0xFE, 0xFF]⟩
    let activities : List (Activity Unit) :=
      [.call () (.openAppend none), .call () (.write "x"), .count "a" default none,
        .resolveFile { probePolicy := .useDefault } "b", .call () .close]
    let under (logger : Logger) := (workspace.logged logger).run logger activities
    let low := under (.recording .debug)
    let high := under (.recording .warn)
    Log.Level.warn.atLeast .debug = true ∧ high.answers = low.answers ∧
      high.left = low.left.logged (.recording .warn) ∧
      low.log.map Log.Entry.level = [.debug, .info, .debug, .debug, .warn, .debug] ∧
      high.log = [⟨.warn, "signature probe failed (No such file or directory (os error 2)), " ++
        "using default encoding UTF-8"⟩] ∧
      (under .silent).answers = low.answers ∧ (under .silent).log = [] := by
  intro workspace activities under low high
  have higher : Log.Level.warn.atLeast .debug = true := by decide
  obtain ⟨answers, left, filtered, unheard, -, nothing⟩ :=
    levels_only_filter higher workspace activities
  have levels : low.log.map Log.Entry.level = [.debug, .info, .debug, .debug, .warn, .debug] := by
    decide +kernel
  refine ⟨higher, answers, left, levels, ?_, unheard, nothing⟩
  rw [show high.log = _ from filtered]
  decide +kernel

end Bytemark
