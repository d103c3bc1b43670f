import Scripting.Files.Tree
import Scripting.Text.Lines

namespace Scripting
namespace Evaluation

/-!
The console: the text a program prints and the lines it is given.
-/

/-- What has been printed, and what is still to be read. -/
structure Console where
  output : String := ""
  /-- How many writes will still succeed, if there is a limit. -/
  writesLeft : Option Nat := none
  /-- The bytes of the input that have not been read. -/
  input : List UInt8 := []

/-- Print a text.  Nothing is written for an empty one, so that it cannot fail. -/
def Console.write? (console : Console) (text : String) : Option Console :=
  if text.isEmpty then some console
  else
    match console.writesLeft with
    | none => some { console with output := console.output ++ text }
    | some 0 => none
    | some (left + 1) =>
        some { console with output := console.output ++ text, writesLeft := some left }

/-- What the system says when the output cannot be written. -/
def outputClosed : String := "output closed"

/-- The bytes of the next line through its line feed, and the bytes after it. -/
def takeLine : List UInt8 → List UInt8 × List UInt8
  | [] => ([], [])
  | byte :: rest =>
      if byte = 10 then ([byte], rest)
      else
        let (line, after) := takeLine rest
        (byte :: line, after)

/-- Whether a character ends a line. -/
def isLineEnd (c : Char) : Bool :=
  c = '\n' || c = '\r'

/--
The next line of the input without its end; at the end of the input it is empty.
A line that is not text is passed all the same.
-/
def Console.readLine (console : Console) : Except Files.FileError String × Console :=
  let (line, rest) := takeLine console.input
  let result :=
    match String.fromUTF8? ⟨line.toArray⟩ with
    | some text => .ok (String.ofList (Text.dropEndWhile isLineEnd text.toList))
    | none => .error .notText
  (result, { console with input := rest })

end Evaluation
end Scripting
