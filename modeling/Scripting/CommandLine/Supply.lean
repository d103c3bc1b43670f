import Scripting.Evaluation.Console

namespace Scripting
namespace CommandLine

/-!
Input that a dialogue and its programs share.

Input is taken from the system in blocks.  The dialogue takes a block whenever it
needs one for its next line.  A program that reads takes what the dialogue has
left of its block, and further blocks if it needs them; what it has taken and not
read stays with the programs, and the dialogue goes on behind it.
-/

open Evaluation (takeLine)

/-- The most bytes that are taken at once. -/
def blockSize : Nat := 8192

/-- The bytes of some blocks, at least as many as asked for if there are so many. -/
def blocksFor (count : Nat) : Nat :=
  (count + (blockSize - 1)) / blockSize * blockSize

/-- Input that has not been read, by who will read it. -/
structure Supply where
  /-- Taken by a program. -/
  held : List UInt8 := []
  /-- Taken by the dialogue. -/
  ready : List UInt8 := []
  /-- Not taken by anyone. -/
  waiting : List UInt8 := []

namespace Supply

/-- What a program can read. -/
def offered (supply : Supply) : List UInt8 :=
  supply.held ++ supply.ready ++ supply.waiting

/-- The input after the dialogue has read some bytes. -/
def afterDialogue (supply : Supply) (count : Nat) : Supply :=
  let taken := blocksFor (count - supply.ready.length)
  { supply with
    ready := (supply.ready ++ supply.waiting.take taken).drop count
    waiting := supply.waiting.drop taken }

/-- The next line of the dialogue, unless the input is at its end. -/
def nextLine? (supply : Supply) : Option (List UInt8 × Supply) :=
  match (takeLine (supply.ready ++ supply.waiting)).1 with
  | [] => none
  | line => some (line, supply.afterDialogue line.length)

/-- The input after a program has read some bytes. -/
def afterProgram (supply : Supply) (count : Nat) : Supply :=
  if count ≤ supply.held.length then { supply with held := supply.held.drop count }
  else
    let missing := count - supply.held.length
    let taken := blocksFor (missing - supply.ready.length)
    { held := (supply.ready ++ supply.waiting.take taken).drop missing
      ready := []
      waiting := supply.waiting.drop taken }

theorem le_blocksFor (count : Nat) : count ≤ blocksFor count := by
  unfold blocksFor blockSize
  omega

/-- Taking enough blocks before some bytes are dropped leaves the order as it was. -/
theorem drop_taken (ready waiting : List UInt8) (count taken : Nat)
    (enough : count - ready.length ≤ taken) :
    (ready ++ waiting.take taken).drop count ++ waiting.drop taken =
      (ready ++ waiting).drop count := by
  have whole : ready ++ waiting = (ready ++ waiting.take taken) ++ waiting.drop taken := by
    rw [List.append_assoc, List.take_append_drop]
  rw [whole]
  by_cases within : count ≤ (ready ++ waiting.take taken).length
  · rw [List.drop_append_of_le_length within]
  · have short : waiting.length ≤ taken := by
      simp only [List.length_append, List.length_take] at within
      omega
    simp [List.drop_eq_nil_of_le short]

/-- What a program has read is gone, and the rest is offered in the same order. -/
theorem offered_afterProgram (supply : Supply) (count : Nat) :
    (supply.afterProgram count).offered = supply.offered.drop count := by
  unfold afterProgram
  split
  · rename_i within
    simp only [offered, List.append_assoc]
    rw [List.drop_append_of_le_length within]
  · rename_i beyond
    have past : (supply.held ++ (supply.ready ++ supply.waiting)).drop count =
        (supply.ready ++ supply.waiting).drop (count - supply.held.length) := by
      rw [List.drop_append, List.drop_eq_nil_of_le (by omega), List.nil_append]
    simp only [offered, List.append_nil, drop_taken _ _ _ _ (le_blocksFor _)]
    rw [List.append_assoc, past]

/-- The dialogue takes nothing away from the programs. -/
theorem offered_afterDialogue (supply : Supply) (count : Nat) :
    (supply.afterDialogue count).offered =
      supply.held ++ (supply.ready ++ supply.waiting).drop count := by
  simp only [offered, afterDialogue, List.append_assoc]
  rw [← drop_taken supply.ready supply.waiting count _ (le_blocksFor _)]

end Supply

end CommandLine
end Scripting
