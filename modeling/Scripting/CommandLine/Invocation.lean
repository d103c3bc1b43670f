import Scripting.CommandLine.Dialogue
import Scripting.CommandLine.Options

namespace Scripting
namespace CommandLine

/-!
The program as a whole: run a script, run a text, or hold a dialogue.
-/

open Evaluation (Settings)
open Files (Tree)
open Session (ampleFuel)
open Source (Document)

/-- The name under which errors in a text from the command line are reported. -/
def commandName : String := "<command>"

/-- All that the program is given. -/
structure Invocation where
  arguments : List String
  environment : Environment := {}
  input : List UInt8 := []
  files : Tree := {}

/-- The settings that options ask for. -/
def settingsOf (options : Options) : Settings :=
  { maxDepth := options.maxDepth.getD 1000, libraryDirectory := options.libraryDirectory }

/-- The settings for a script: relative paths are seen from the directory it is in. -/
def scriptSettings (settings : Settings) (path : String) : Settings :=
  let directory := Files.parent path
  if directory.isEmpty then settings else { settings with workingDirectory := directory }

/-- Run a text, or show its tree. -/
def runDocument (invocation : Invocation) (options : Options) (settings : Settings)
    (document : Document) : Report × Tree :=
  if options.dumpTree then
    match dump {} document {} with
    | .ok (report, _) => (report, invocation.files)
    | .error report => ({ report with code := failure }, invocation.files)
  else
    let started := Session.start settings { input := invocation.input } invocation.files
    let (outcome, state) := started.run ampleFuel document
    ({ code := codeOf outcome
       output := state.machine.console.output
       errors := complaint outcome }, state.machine.files)

/-- Run a script. -/
def runScript (invocation : Invocation) (options : Options) (path : String) : Report × Tree :=
  match invocation.files.readText path with
  | .error error =>
      ({ code := failure
         errors := describeFailure s!"could not read {path}" [error.message] }, invocation.files)
  | .ok text =>
      runDocument invocation options (scriptSettings (settingsOf options) path) ⟨path, text⟩

/--
Hold a dialogue.  Every line has a byte at least, and the end of the input is met
once more.
-/
def holdDialogue (invocation : Invocation) (options : Options) : Report × Tree :=
  let supply : Supply := { waiting := invocation.input }
  let count := invocation.input.length + 1
  let report : Report := { output := banner }
  if options.dumpTree then (dumpLines count supply {} report, invocation.files)
  else
    let started := Session.start (settingsOf options) {} invocation.files
    let (report, state) := converse count supply started report
    (report, state.machine.files)

/-- Do what the options ask for. -/
def perform (invocation : Invocation) (options : Options) : Report × Tree :=
  match options.command, options.file with
  | some text, _ => runDocument invocation options (settingsOf options) ⟨commandName, text⟩
  | none, some path => runScript invocation options path
  | none, none => holdDialogue invocation options

/-- How the program is used. -/
def usage : String :=
  "Run Quill scripts or start an interactive session\n\nUsage: quill [OPTIONS] [FILE]\n"

/-- Run the program. -/
def run (invocation : Invocation) : Report × Tree :=
  match readCommandLine invocation.arguments invocation.environment with
  | .ok (.perform options) => perform invocation options
  | .ok .showVersion => ({ output := s!"quill {version}\n" }, invocation.files)
  | .ok .showHelp => ({ output := usage }, invocation.files)
  | .error error =>
      ({ code := usageFailure, errors := s!"error: {error.message}\n" }, invocation.files)

end CommandLine
end Scripting
