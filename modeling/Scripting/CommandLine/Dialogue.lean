import Scripting.CommandLine.Report
import Scripting.CommandLine.Supply
import Scripting.Program.Printer
import Scripting.Text.Blank
import Scripting.Text.Erasure

namespace Scripting
namespace CommandLine

/-!
Programs given line by line.

Every line is a program of its own in one session, and its value is shown.  An
error ends the line but not the dialogue, as an exit or a crash does.  Backspaces
in a line erase what stands before them.  A program that reads from the input shares
it with the dialogue.
-/

open Files (FileError)
open Lexical (Switches)
open Session (Outcome State ampleFuel)

/-- The version that is shown. -/
def version : String := "0.0.1"

/-- What a dialogue starts with. -/
def banner : String := s!"Quill {version} (Ctrl+D to exit)\n"

/-- What is printed before each line is read. -/
def prompt : String := "quill> "

/-- The name under which errors in a line are reported. -/
def lineName : String := "<stdin>"

/-- A line without its end, which is a line feed with or without a carriage return before it. -/
def withoutEnd (line : List Char) : List Char :=
  match line.reverse with
  | '\n' :: '\r' :: rest => rest.reverse
  | '\n' :: rest => rest.reverse
  | _ => line

/-- The text of a line after its backspaces have done their work. -/
def lineText? (line : List UInt8) : Option String :=
  (String.fromUTF8? ⟨line.toArray⟩).map fun text =>
    String.ofList (Text.withoutErased (withoutEnd text.toList))

/-- Whether there is nothing on a line. -/
def isBlankLine (text : String) : Bool :=
  (Text.trimBlanks text.toList).isEmpty

namespace Report

/-- A report with more printed. -/
def print (report : Report) (text : String) : Report :=
  { report with output := report.output ++ text }

/-- A report with more complaints. -/
def complain (report : Report) (text : String) : Report :=
  { report with errors := report.errors ++ text }

/-- The end of a dialogue whose input is not text: reading fails, and the editor with it. -/
def brokenInput (report : Report) : Report :=
  let reason := FileError.notText.message
  { report.complain (describeFailure "line editor failed" [reason, reason]) with
    code := failure }

end Report

/-! ## Running lines -/

/-- What is shown of the value of a line: everything but the absence of a value. -/
def shownValue (state : State) : Outcome → String
  | .finished .nothing => ""
  | .finished value => state.machine.heap.represent value ++ "\n"
  | _ => ""

/-- A session that may read the given bytes. -/
def offer (state : State) (bytes : List UInt8) : State :=
  { state with
    machine := { state.machine with console := { state.machine.console with input := bytes } } }

/-- Run at most so many lines, until the input ends or one of them asks for an exit or crashes. -/
def converse : Nat → Supply → State → Report → Report × State
  | 0, _, state, report => (report, state)
  | count + 1, supply, state, report =>
      let report := report.print prompt
      match supply.nextLine? with
      | none => (report, state)
      | some (line, supply) =>
          match lineText? line with
          | none => (report.brokenInput, state)
          | some text =>
              if isBlankLine text then converse count supply state report
              else
                let offered := supply.offered
                let (outcome, state) := (offer state offered).run ampleFuel ⟨lineName, text⟩
                let (printed, state) := state.takeOutput
                let report := (report.print (printed ++ shownValue state outcome)).complain
                  (complaint outcome)
                match outcome with
                | .exited code => ({ report with code := exitByte code }, state)
                | .crashed _ => ({ report with code := breakdown }, state)
                | _ =>
                    let read := offered.length - state.machine.console.input.length
                    converse count (supply.afterProgram read) state report

/-! ## Showing trees -/

/-- Read a text and show its tree; only a program sets the switches for what follows. -/
def dump (switches : Switches) (document : Source.Document) (report : Report) :
    Except Report (Report × Switches) :=
  match Grammar.readProgram switches document.text with
  | (.ok program, next) => .ok (report.print (program.render ++ "\n"), next)
  | (.error error, _) => .error (report.complain (error.report document ++ "\n"))

/-- Show the trees of at most so many lines, until the input ends. -/
def dumpLines : Nat → Supply → Switches → Report → Report
  | 0, _, _, report => report
  | count + 1, supply, switches, report =>
      let report := report.print prompt
      match supply.nextLine? with
      | none => report
      | some (line, supply) =>
          match lineText? line with
          | none => report.brokenInput
          | some text =>
              if isBlankLine text then dumpLines count supply switches report
              else
                match dump switches ⟨lineName, text⟩ report with
                | .ok (report, next) => dumpLines count supply next report
                | .error report => dumpLines count supply switches report

end CommandLine
end Scripting
