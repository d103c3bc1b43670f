import Scripting.CommandLine.Invocation

namespace Scripting
namespace CommandLine

/-!
The switches that the lines of a dialogue are read with.

A dialogue either runs its lines or shows their trees, and in both ways the directives
of a line are meant to hold for the lines behind it.  The switches are kept in two
different places, and they are kept at two different moments: a line that is run has
set them as soon as it is split into tokens, and a line whose tree is shown only when
there is a tree.  So the two ways come apart at a line with a directive that is split
into tokens and is no program, and nowhere else.

Both dialogues are seen as a list of turns.  A turn has what the dialogue has come to
before its line; that the loops go through just these turns is proved of both by the
same argument, from what they do with a single line.  What is left is a comparison of
two rules for the switches over the same lines.
-/

open Evaluation (Settings)
open Files (Tree)
open Grammar (ParseError)
open Lexical (Switches Token)
open Session (State ampleFuel)

/-! ## Turns -/

/-- A line that is about to be read, with what the dialogue has come to before it. -/
structure Turn (σ : Type) where
  supply : Supply
  state : σ
  text : String

/-- Where a dialogue goes on behind a line, if it does; the input is the one behind the line. -/
abbrev Answer (σ : Type) := Supply → σ → String → Option (Supply × σ)

section Turns

variable {σ ω : Type} {answer : Answer σ} {dialogue : Nat → Supply → σ → Report → ω}

/-- At most so many turns, until there is no line of text or the dialogue does not go on. -/
def turns (answer : Answer σ) : Nat → Supply → σ → List (Turn σ)
  | 0, _, _ => []
  | count + 1, supply, state =>
      match supply.nextLine? with
      | none => []
      | some (line, behind) =>
          match lineText? line with
          | none => []
          | some text =>
              ⟨supply, state, text⟩ ::
                match answer behind state text with
                | none => []
                | some (next, after) => turns answer count next after

/-- A dialogue goes on as its lines are answered, whatever it has reported before. -/
def Follows (dialogue : Nat → Supply → σ → Report → ω) (answer : Answer σ) : Prop :=
  ∀ {supply behind next : Supply} {state after : σ} {line : List UInt8} {text : String}
    (report : Report), supply.nextLine? = some (line, behind) → lineText? line = some text →
    answer behind state text = some (next, after) →
    ∃ later, ∀ count, dialogue (count + 1) supply state report = dialogue count next after later

/-- After so many lines a dialogue stands before the line of a turn. -/
structure Turn.Met (turn : Turn σ) (dialogue : Nat → Supply → σ → Report → ω) (supply : Supply)
    (state : σ) (report : Report) (place : Nat) : Prop where
  line : ∃ line behind,
    turn.supply.nextLine? = some (line, behind) ∧ lineText? line = some turn.text
  before : ∃ later, ∀ count,
    dialogue (place + count) supply state report = dialogue count turn.supply turn.state later

/-- A dialogue that follows the answers comes to each of the turns. -/
theorem Follows.meets (follows : Follows dialogue answer) {bound : Nat} {supply : Supply}
    {state : σ} (report : Report) {place : Nat} {turn : Turn σ}
    (listed : (turns answer bound supply state)[place]? = some turn) :
    turn.Met dialogue supply state report place := by
  induction bound generalizing supply state report place with
  | zero => cases listed
  | succ bound ih =>
      unfold turns at listed
      split at listed
      · cases listed
      · rename_i line behind read
        split at listed
        · cases listed
        · rename_i text decoded
          cases place with
          | zero =>
              cases listed
              exact ⟨⟨line, behind, read, decoded⟩, report, fun count => by rw [Nat.zero_add]⟩
          | succ place =>
              rw [List.getElem?_cons_succ] at listed
              split at listed
              · cases listed
              · rename_i next after answered
                obtain ⟨later, goesOn⟩ := follows report read decoded answered
                obtain ⟨there, last, reached⟩ := ih later listed
                refine ⟨there, last, fun count => ?_⟩
                rw [← reached, ← goesOn, Nat.add_right_comm]

end Turns

/-! ## Lines that are run -/

/-- A line is run in the session, which may read the input behind it. -/
def runLine? : Answer State := fun behind state text =>
  if isBlankLine text then some (behind, state)
  else
    let offered := behind.offered
    let (outcome, state) := (offer state offered).run ampleFuel ⟨lineName, text⟩
    let (_, state) := state.takeOutput
    match outcome with
    | .exited _ => none
    | .crashed _ => none
    | _ =>
        let read := offered.length - state.machine.console.input.length
        some (behind.afterProgram read, state)

theorem converse_follows : Follows converse runLine? := by
  intro supply behind next state after line text report read decoded answered
  unfold runLine? at answered
  by_cases blank : isBlankLine text = true
  · rw [if_pos blank] at answered
    cases answered
    exact ⟨report.print prompt, fun count => by simp only [converse, read, decoded, if_pos blank]⟩
  · rw [if_neg blank] at answered
    dsimp only at answered
    generalize ran : (offer state behind.offered).run ampleFuel ⟨lineName, text⟩ = result
      at answered
    obtain ⟨outcome, ended⟩ := result
    refine ⟨((report.print prompt).print
      (ended.takeOutput.1 ++ shownValue ended.takeOutput.2 outcome)).complain (complaint outcome),
      fun count => ?_⟩
    simp only [converse, read, decoded, if_neg blank, ran]
    -- Behind an exit or a crash there is no answer; all other outcomes are alike.
    cases outcome with
    | exited code => cases answered
    | crashed crash => cases answered
    | _ =>
        cases answered
        rfl

/-- The switches behind a line that is run. -/
def switchesAfterRun (switches : Switches) (text : String) : Switches :=
  if isBlankLine text then switches else (Grammar.readProgram switches text).2

/-- Whatever comes of a program, the switches are those that the reading of it has left. -/
theorem switches_run (state : State) (fuel : Nat) (document : Source.Document) :
    (state.run fuel document).2.switches =
      (Grammar.readProgram state.switches document.text).2 := by
  unfold State.run
  rcases Grammar.readProgram state.switches document.text with ⟨error | program, switches⟩
  · rfl
  · simp only [State.evaluate]
    split <;> rfl

theorem switches_runLine {behind next : Supply} {state after : State} {text : String}
    (answered : runLine? behind state text = some (next, after)) :
    after.switches = switchesAfterRun state.switches text := by
  unfold runLine? at answered
  unfold switchesAfterRun
  by_cases blank : isBlankLine text = true
  · rw [if_pos blank] at answered ⊢
    cases answered
    rfl
  · rw [if_neg blank] at answered ⊢
    dsimp only at answered
    have set := switches_run (offer state behind.offered) ampleFuel ⟨lineName, text⟩
    generalize (offer state behind.offered).run ampleFuel ⟨lineName, text⟩ = result
      at answered set
    obtain ⟨outcome, ended⟩ := result
    cases outcome with
    | exited code => cases answered
    | crashed crash => cases answered
    | _ =>
        cases answered
        exact set

/-! ## Lines whose trees are shown -/

/-- The switches behind a line whose tree is shown. -/
def switchesAfterShow (switches : Switches) (text : String) : Switches :=
  if isBlankLine text then switches
  else
    match dump switches ⟨lineName, text⟩ {} with
    | .ok (_, next) => next
    | .error _ => switches

/-- The tree of a line is shown; the input behind it is not touched. -/
def showLine? : Answer Switches := fun behind switches text =>
  some (behind, switchesAfterShow switches text)

theorem switches_showLine {behind next : Supply} {switches after : Switches} {text : String}
    (answered : showLine? behind switches text = some (next, after)) :
    after = switchesAfterShow switches text := by
  cases answered
  rfl

theorem dumpLines_follows : Follows dumpLines showLine? := by
  intro supply behind next switches after line text report read decoded answered
  cases answered
  unfold switchesAfterShow
  by_cases blank : isBlankLine text = true
  · rw [if_pos blank]
    exact ⟨report.print prompt, fun count => by simp only [dumpLines, read, decoded, if_pos blank]⟩
  · rw [if_neg blank]
    simp only [dumpLines, read, decoded, if_neg blank, dump]
    rcases Grammar.readProgram switches text with ⟨error | program, next⟩
    · exact ⟨_, fun count => rfl⟩
    · exact ⟨_, fun count => rfl⟩

/-! ## Two rules for the switches -/

/-- A line that is no program and would set switches: where trees are shown, they are lost. -/
def Loses (switches : Switches) (text : String) : Prop :=
  isBlankLine text = false ∧ ∃ tokens next error,
    Lexical.tokenize switches text = .ok (tokens, next) ∧
      Grammar.parse tokens = .error error ∧ next ≠ switches

theorem switchesAfterRun_eq_iff {switches : Switches} {text : String} :
    switchesAfterRun switches text = switchesAfterShow switches text ↔ ¬ Loses switches text := by
  unfold switchesAfterRun switchesAfterShow Loses
  cases isBlankLine text with
  | true => simp
  | false =>
      simp only [dump, Grammar.readProgram]
      rcases Lexical.tokenize switches text with error | ⟨tokens, next⟩
      · simp
      · rcases parsed : Grammar.parse tokens with error | program <;> simp [parsed]

/-- Lines with the switches that they are read with. -/
def uses (rule : Switches → String → Switches) : Switches → List String → List (String × Switches)
  | _, [] => []
  | switches, text :: rest => (text, switches) :: uses rule (rule switches text) rest

/-- Two rules come to the same if they agree on each line that another one follows. -/
theorem uses_eq_iff {rule other : Switches → String → Switches} {switches : Switches}
    {texts : List String} :
    uses rule switches texts = uses other switches texts ↔
      ∀ use ∈ (uses rule switches texts).dropLast, rule use.2 use.1 = other use.2 use.1 := by
  induction texts generalizing switches with
  | nil => simp [uses]
  | cons text rest ih =>
      -- What a rule makes of the last line is not seen, for there is no line behind it.
      cases rest with
      | nil => simp [uses]
      | cons second others =>
          have split : (uses rule switches (text :: second :: others)).dropLast =
              (text, switches) :: (uses rule (rule switches text) (second :: others)).dropLast := rfl
          rw [split, List.forall_mem_cons, ← ih]
          constructor
          · intro same
            have tails : uses rule (rule switches text) (second :: others) =
                uses other (other switches text) (second :: others) := (List.cons.inj same).2
            have heads : rule switches text = other switches text :=
              congrArg Prod.snd (List.cons.inj tails).1
            refine ⟨heads, ?_⟩
            rw [tails, heads]
          · rintro ⟨heads, tails⟩
            rw [uses, uses.eq_def other, tails, heads]

/-- If an answer follows a rule for the switches, the lines are read with what the rule gives. -/
theorem uses_turns {σ : Type} {answer : Answer σ} {rule : Switches → String → Switches}
    (view : σ → Switches)
    (ruled : ∀ {behind next state after text}, answer behind state text = some (next, after) →
      view after = rule (view state) text)
    (count : Nat) (supply : Supply) (state : σ) :
    (turns answer count supply state).map (fun turn => (turn.text, view turn.state)) =
      uses rule (view state) ((turns answer count supply state).map (·.text)) := by
  induction count generalizing supply state with
  | zero => rfl
  | succ count ih =>
      unfold turns
      split
      · rfl
      · split
        · rfl
        · split
          · rfl
          · rename_i answered
            rw [List.map_cons, List.map_cons, ih, ruled answered, uses]

/-! ## The two dialogues -/

/-- The turns of a dialogue that runs its lines. -/
def runTurns (settings : Settings) (files : Tree) (input : List UInt8) (count : Nat) :
    List (Turn State) :=
  turns runLine? count { waiting := input } (Session.start settings {} files)

/-- The turns of a dialogue that shows the trees of its lines. -/
def showTurns (input : List UInt8) (count : Nat) : List (Turn Switches) :=
  turns showLine? count { waiting := input } {}

/--
Both dialogues read the same lines.  Then they read them with the same switches if and only
if no line but the last is lost: is no blank line, is split into tokens, makes no program and
would have left other switches.  The turns are those that the loops go through.
-/
theorem switches_agree_iff_nothing_lost (settings : Settings) (files : Tree)
    (input : List UInt8) (count : Nat)
    (same : (runTurns settings files input count).map (·.text) =
      (showTurns input count).map (·.text)) :
    ((runTurns settings files input count).map (fun turn => (turn.text, turn.state.switches)) =
        (showTurns input count).map (fun turn => (turn.text, turn.state)) ↔
      ∀ turn ∈ (runTurns settings files input count).dropLast,
        ¬ Loses turn.state.switches turn.text) ∧
    (∀ (place : Nat) (turn : Turn State) (report : Report),
      (runTurns settings files input count)[place]? = some turn →
      turn.Met converse { waiting := input } (Session.start settings {} files) report place) ∧
    ∀ (place : Nat) (turn : Turn Switches) (report : Report),
      (showTurns input count)[place]? = some turn →
      turn.Met dumpLines { waiting := input } {} report place := by
  refine ⟨?_, fun _ _ report => converse_follows.meets report,
    fun _ _ report => dumpLines_follows.meets report⟩
  have run : (runTurns settings files input count).map
        (fun turn => (turn.text, turn.state.switches)) =
      uses switchesAfterRun {} ((runTurns settings files input count).map (·.text)) :=
    uses_turns State.switches switches_runLine count _ _
  have shown : (showTurns input count).map (fun turn => (turn.text, turn.state)) =
      uses switchesAfterShow {} ((showTurns input count).map (·.text)) :=
    uses_turns id switches_showLine count _ _
  rw [shown, ← same, run, uses_eq_iff, ← run, ← List.map_dropLast, List.forall_mem_map]
  exact forall₂_congr fun turn _ => switchesAfterRun_eq_iff

/-- A directive in front of a sum that breaks off, and a text with an escape. -/
def lostInput : List UInt8 :=
  "@meta escapes off; 1 +\n\"a\\n\"\n".toUTF8.toList

theorem switches_differ_behind_lost_line :
    (runTurns {} {} lostInput 3).map (·.text) = (showTurns lostInput 3).map (·.text) ∧
      ∃ turn ∈ (runTurns {} {} lostInput 3).dropLast, Loses turn.state.switches turn.text := by
  have same : (runTurns {} {} lostInput 3).map (·.text) =
      (showTurns lostInput 3).map (·.text) := by decide +kernel
  have differ : (runTurns {} {} lostInput 3).map (fun turn => (turn.text, turn.state.switches)) ≠
      (showTurns lostInput 3).map (fun turn => (turn.text, turn.state)) := by decide +kernel
  refine ⟨same, Classical.byContradiction fun kept => differ ?_⟩
  exact (switches_agree_iff_nothing_lost {} {} lostInput 3 same).1.mpr
    fun turn member lost => kept ⟨turn, member, lost⟩

/-- The line with the directive makes no program, and the line behind it is read in two ways. -/
theorem directive_lost_with_its_line :
    (runTurns {} {} lostInput 3).map (·.text) = (showTurns lostInput 3).map (·.text) ∧
      (runTurns {} {} lostInput 3)[1]?.map (·.state.switches) = some { escapes := false } ∧
      (showTurns lostInput 3)[1]?.map (·.state) = some ({} : Switches) ∧
      (converse 3 { waiting := lostInput } (Session.start {} {} {}) {}).1.output =
        "quill> quill> \"a\\\\n\"\nquill> " ∧
      (dumpLines 3 { waiting := lostInput } {} {}).output =
        "quill> quill> (block \"a\\n\")\nquill> " := by
  decide +kernel

end CommandLine
end Scripting
