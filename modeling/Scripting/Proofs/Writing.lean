import Scripting.Proofs.Derivations

namespace Scripting

/-!
Expressions written as tokens.

Each form of an expression has a level that says how tightly it binds, and each position
in a form requires a level.  A part whose level is lower than its position requires is
written between brackets; brackets may also stand around any other part.  The relation
below gives all ways to write an expression.
-/

namespace Program

/-! ## Trees without spans -/

open Source (Position Span)

/-- The span of nodes whose place does not matter. -/
def nowhere : Span := ⟨.start, .start⟩

mutual

/-- The tree with all spans taken out. -/
def Node.unplaced : Node → Node
  | ⟨_, form⟩ => ⟨nowhere, Form.unplaced form⟩

def Form.unplaced : Form Node → Form Node
  | .list elements => .list (unplacedAll elements)
  | .assign targets op values => .assign (unplacedTargets targets) op (unplacedAll values)
  | .binary op left right => .binary op left.unplaced right.unplaced
  | .comparison first links => .comparison first.unplaced (unplacedLinks links)
  | .unary op operand => .unary op operand.unplaced
  | .fallback operands => .fallback (unplacedAll operands)
  | .conditional cases otherwise block =>
      .conditional (unplacedCases cases) (unplacedOption otherwise) block
  | .loop label header body block => .loop label (unplacedHeader header) body.unplaced block
  | .function name required optional body arrow =>
      .function name required (unplacedDefaults optional) body.unplaced arrow
  | .classDef name parent body => .classDef name (unplacedOption parent) body.unplaced
  | .call callee arguments => .call callee.unplaced (unplacedAll arguments)
  | .attribute base steps => .attribute base.unplaced (unplacedAll steps)
  | .returnFrom value => .returnFrom (unplacedOption value)
  | .exportAs value name => .exportAs value.unplaced name
  | .write text overwrite target line =>
      .write text.unplaced overwrite target.unplaced (unplacedOption line)
  | .read target bind line => .read target.unplaced bind (unplacedOption line)
  | .assertion condition message => .assertion condition.unplaced (unplacedOption message)
  | .block statements => .block (unplacedAll statements)
  | .number value => .number value
  | .text value => .text value
  | .name name => .name name
  | .inspect name => .inspect name
  | .placeholder => .placeholder
  | .delete name => .delete name
  | .breakLoop label => .breakLoop label
  | .continueLoop label => .continueLoop label
  | .importModule name rename => .importModule name rename

def unplacedHeader : LoopHeader Node → LoopHeader Node
  | .counted counter first last step =>
      .counted counter first.unplaced last.unplaced (unplacedOption step)
  | .each item items => .each item items.unplaced
  | .whileTrue condition => .whileTrue condition.unplaced
  | .doWhile condition => .doWhile condition.unplaced
  | .endless => .endless

def unplacedAll : List Node → List Node
  | [] => []
  | node :: rest => node.unplaced :: unplacedAll rest

def unplacedOption : Option Node → Option Node
  | none => none
  | some node => some node.unplaced

def unplacedTargets : List (Target Node) → List (Target Node)
  | [] => []
  | ⟨object, name, _⟩ :: rest => ⟨unplacedOption object, name, nowhere⟩ :: unplacedTargets rest

def unplacedLinks : List (CompareOp × Node) → List (CompareOp × Node)
  | [] => []
  | (op, operand) :: rest => (op, operand.unplaced) :: unplacedLinks rest

def unplacedCases : List (Node × Node) → List (Node × Node)
  | [] => []
  | (condition, body) :: rest => (condition.unplaced, body.unplaced) :: unplacedCases rest

def unplacedDefaults : List (String × Node) → List (String × Node)
  | [] => []
  | (name, value) :: rest => (name, value.unplaced) :: unplacedDefaults rest

end

end Program

namespace Grammar

open Lexical (Bracket Keyword Symbol TokenKind)
open Source (Span)
open Program

/-! ## Levels -/

/-- How tightly the forms of an expression bind. -/
inductive Level where
  | fallback
  | tier (tier : Tier)
  | comparison
  | factor
  | power
  | chain
  | call
  | atom
  deriving DecidableEq

/-- Tighter levels rank higher. -/
def Level.rank : Level → Nat
  | .fallback => 0
  | .tier .logic => 1
  | .comparison => 2
  | .tier .sum => 3
  | .tier .term => 4
  | .factor => 5
  | .power => 6
  | .chain => 7
  | .call => 8
  | .atom => 9

theorem Level.rank_injective {first second : Level} (same : first.rank = second.rank) :
    first = second := by
  revert same
  cases first with
  | tier tier => cases tier <;> cases second with
    | tier tier => cases tier <;> simp [Level.rank]
    | _ => simp [Level.rank]
  | _ => cases second with
    | tier tier => cases tier <;> simp [Level.rank]
    | _ => simp [Level.rank]

/-- The level of what stands to the right of an operator that groups from the left. -/
def Tier.tighter : Tier → Level
  | .logic => .comparison
  | .sum => .tier .term
  | .term => .factor

def operatorLevel : BinaryOp → Level
  | .and | .or | .xor | .bitOr | .bitAnd | .bitXor => .tier .logic
  | .add | .sub => .tier .sum
  | .mul | .div | .floorDiv | .mod => .tier .term
  | .pow => .power
  | .scale => .atom

def formLevel : Form Node → Level
  | .fallback _ => .fallback
  | .binary op _ _ => operatorLevel op
  | .comparison .. => .comparison
  | .unary .not _ => .comparison
  | .unary _ _ => .factor
  | .attribute .. => .chain
  | .call .. => .call
  | _ => .atom

theorem operatorLevel_of_mem {tier : Tier} {op : BinaryOp} (member : op ∈ tier.operators) :
    operatorLevel op = .tier tier := by
  revert member
  cases tier <;> cases op <;> decide

/-! ## Writing -/

/-- Where something is written. -/
inductive Slot where
  /-- In a position that requires a level. -/
  | within (required : Level)
  /-- Without brackets around it. -/
  | bare
  /-- As a step of an attribute chain. -/
  | step
  | steps
  | operands
  | links
  | items

abbrev Slot.Tree : Slot → Type
  | .within _ | .bare | .step => Node
  | .steps | .operands | .items => List Node
  | .links => List (CompareOp × Node)

/--
The tokens are a way to write the tree.  A sparing way has brackets only around parts that
bind too loosely for their position.
-/
inductive Writes (sparing : Bool) : (slot : Slot) → List TokenKind → slot.Tree → Prop
  | plain {required : Level} {tokens : List TokenKind} {node : Node}
      (fits : required.rank ≤ (formLevel node.form).rank) (form : Writes sparing .bare tokens node) :
      Writes sparing (.within required) tokens node
  | parenthesised {required : Level} {tokens : List TokenKind} {node : Node}
      (needed : sparing = true → (formLevel node.form).rank < required.rank)
      (inner : Writes sparing (.within .fallback) tokens node) :
      Writes sparing (.within required) (.opening .round :: (tokens ++ [.closing .round])) node
  | number {span : Span} {value : Literal} : Writes sparing .bare [literalToken value] ⟨span, .number value⟩
  | text {span : Span} {value : String} : Writes sparing .bare [.text value] ⟨span, .text value⟩
  | name {span : Span} {name : String} : Writes sparing .bare [.identifier name] ⟨span, .name name⟩
  | inspect {span : Span} {name : String} :
      Writes sparing .bare [.symbol .dollar, .identifier name] ⟨span, .inspect name⟩
  | placeholder {span : Span} : Writes sparing .bare [.keyword .defaultWord] ⟨span, .placeholder⟩
  | list {span : Span} {tokens : List TokenKind} {elements : List Node}
      (inner : Writes sparing .items tokens elements) :
      Writes sparing .bare (.opening .square :: (tokens ++ [.closing .square])) ⟨span, .list elements⟩
  | call {span : Span} {first given : List TokenKind} {callee : Node} {arguments : List Node}
      (called : Writes sparing (.within .call) first callee) (passed : Writes sparing .items given arguments) :
      Writes sparing .bare (first ++ .opening .round :: (given ++ [.closing .round]))
        ⟨span, .call callee arguments⟩
  | chain {span : Span} {first others : List TokenKind} {base : Node} {nodes : List Node}
      (start : Writes sparing (.within .call) first base) (further : Writes sparing .steps others nodes)
      (some : nodes ≠ []) : Writes sparing .bare (first ++ others) ⟨span, .attribute base nodes⟩
  | power {span : Span} {first second : List TokenKind} {base exponent : Node}
      (raised : Writes sparing (.within .chain) first base)
      (power : Writes sparing (.within .factor) second exponent) :
      Writes sparing .bare (first ++ binaryToken .pow :: second) ⟨span, .binary .pow base exponent⟩
  | sign {span : Span} {tokens : List TokenKind} {op : UnaryOp} {node : Node} (sign : op ≠ .not)
      (operand : Writes sparing (.within .factor) tokens node) :
      Writes sparing .bare (unaryToken op :: tokens) ⟨span, .unary op node⟩
  | binary {tier : Tier} {span : Span} {first second : List TokenKind} {op : BinaryOp}
      {left right : Node} (grouped : Writes sparing (.within (.tier tier)) first left)
      (operator : op ∈ tier.operators) (last : Writes sparing (.within tier.tighter) second right) :
      Writes sparing .bare (first ++ binaryToken op :: second) ⟨span, .binary op left right⟩
  | negation {span : Span} {tokens : List TokenKind} {node : Node}
      (operand : Writes sparing (.within .comparison) tokens node) :
      Writes sparing .bare (unaryToken .not :: tokens) ⟨span, .unary .not node⟩
  | comparison {span : Span} {tokens others : List TokenKind} {first : Node}
      {links : List (CompareOp × Node)} (start : Writes sparing (.within (.tier .sum)) tokens first)
      (further : Writes sparing .links others links) (some : links ≠ []) :
      Writes sparing .bare (tokens ++ others) ⟨span, .comparison first links⟩
  | fallback {span : Span} {tokens others : List TokenKind} {first : Node} {nodes : List Node}
      (start : Writes sparing (.within (.tier .logic)) tokens first)
      (further : Writes sparing .operands others nodes) (some : nodes ≠ []) :
      Writes sparing .bare (tokens ++ others) ⟨span, .fallback (first :: nodes)⟩
  | noItems : Writes sparing .items [] []
  | lastItem {tokens : List TokenKind} {node : Node}
      (last : Writes sparing (.within .fallback) tokens node) : Writes sparing .items tokens [node]
  | nextItem {tokens others : List TokenKind} {node : Node} {nodes : List Node}
      (first : Writes sparing (.within .fallback) tokens node) (later : Writes sparing .items others nodes)
      (some : nodes ≠ []) : Writes sparing .items (tokens ++ .symbol .comma :: others) (node :: nodes)
  | noLinks : Writes sparing .links [] []
  | nextLink {tokens others : List TokenKind} {op : CompareOp} {node : Node}
      {links : List (CompareOp × Node)} (first : Writes sparing (.within (.tier .sum)) tokens node)
      (later : Writes sparing .links others links) :
      Writes sparing .links (compareToken op :: (tokens ++ others)) ((op, node) :: links)
  | noOperands : Writes sparing .operands [] []
  | nextOperand {tokens others : List TokenKind} {node : Node} {nodes : List Node}
      (first : Writes sparing (.within (.tier .logic)) tokens node)
      (later : Writes sparing .operands others nodes) :
      Writes sparing .operands (.symbol .question :: (tokens ++ others)) (node :: nodes)
  | noSteps : Writes sparing .steps [] []
  | nextStep {tokens others : List TokenKind} {node : Node} {nodes : List Node}
      (first : Writes sparing .step tokens node) (later : Writes sparing .steps others nodes) :
      Writes sparing .steps (.symbol .dot :: (tokens ++ others)) (node :: nodes)
  | stepName {span : Span} {name : String} : Writes sparing .step [.identifier name] ⟨span, .name name⟩
  | stepCall {span : Span} {first given : List TokenKind} {callee : Node} {arguments : List Node}
      (called : Writes sparing .step first callee) (passed : Writes sparing .items given arguments) :
      Writes sparing .step (first ++ .opening .round :: (given ++ [.closing .round]))
        ⟨span, .call callee arguments⟩

/-! ## First tokens -/

/-- The tightest level that an expression with the given first token can have. -/
def starts? : TokenKind → Option Level
  | .int _ | .float _ | .text _ | .identifier _ | .opening _ => some .atom
  | .symbol .dollar => some .atom
  | .keyword .defaultWord => some .atom
  | .symbol .plus | .symbol .minus | .symbol .tilde => some .factor
  | .keyword .notWord => some .comparison
  | _ => none

/-- The first token is one that an expression of the level can have. -/
def Begins (level : Level) (tokens : List TokenKind) : Prop :=
  ∃ kind others started, tokens = kind :: others ∧ starts? kind = some started ∧
    level.rank ≤ started.rank

theorem Begins.looser {tight loose : Level} {tokens : List TokenKind} (begins : Begins tight tokens)
    (le : loose.rank ≤ tight.rank) : Begins loose tokens := by
  rcases begins with ⟨kind, others, started, split, starts, bound⟩
  exact ⟨kind, others, started, split, starts, Nat.le_trans le bound⟩

theorem Begins.append {level : Level} {tokens : List TokenKind} (begins : Begins level tokens)
    (more : List TokenKind) : Begins level (tokens ++ more) := by
  rcases begins with ⟨kind, others, started, rfl, starts, bound⟩
  exact ⟨kind, others ++ more, started, rfl, starts, bound⟩

/-- What is said of first tokens, where there has to be one. -/
def Slot.Begins : (slot : Slot) → List TokenKind → slot.Tree → Prop
  | .within required, tokens, _ => Grammar.Begins required tokens
  | .bare, tokens, node => Grammar.Begins (formLevel node.form) tokens
  | _, _, _ => True

theorem Writes.begins {sparing : Bool} {slot : Slot} {tokens : List TokenKind} {tree : slot.Tree}
    (writes : Writes sparing slot tokens tree) : slot.Begins tokens tree := by
  have atom : ∀ {kind others}, starts? kind = some .atom → ∀ level,
      Grammar.Begins level (kind :: others) := by
    intro kind others starts level
    refine ⟨kind, others, .atom, rfl, starts, ?_⟩
    cases level with
    | tier tier => cases tier <;> decide
    | _ => decide
  induction writes with
  | plain fits _ begins => exact Grammar.Begins.looser begins fits
  | parenthesised _ _ _ => exact atom rfl _
  | @number _ value => cases value <;> exact atom rfl _
  | text => exact atom rfl _
  | name => exact atom rfl _
  | inspect => exact atom rfl _
  | placeholder => exact atom rfl _
  | list _ _ => exact atom rfl _
  | call _ _ first _ => exact Grammar.Begins.append first _
  | chain _ _ _ first _ => exact (Grammar.Begins.append first _).looser (Nat.le_succ _)
  | power _ _ first _ => exact (Grammar.Begins.append first _).looser (Nat.le_succ _)
  | @sign _ _ op _ sign _ _ =>
      cases op with
      | not => exact absurd rfl sign
      | _ => exact ⟨_, _, .factor, rfl, rfl, Nat.le_refl _⟩
  | binary _ operator _ first _ =>
      change Grammar.Begins (operatorLevel _) _
      rw [operatorLevel_of_mem operator]
      exact Grammar.Begins.append first _
  | negation _ _ => exact ⟨_, _, .comparison, rfl, rfl, Nat.le_refl _⟩
  | comparison _ _ _ first _ => exact (Grammar.Begins.append first _).looser (Nat.le_succ _)
  | fallback _ _ _ first _ => exact (Grammar.Begins.append first _).looser (Nat.le_succ _)
  | _ => trivial

/-! ## Every expression can be written -/

/--
Trees of literals, names, lists, operators, calls and attributes.  Numbers scaled by a
power of ten are literals of their own and left out.
-/
inductive Expression : Node → Prop
  | number {span : Span} {value : Literal} : Expression ⟨span, .number value⟩
  | text {span : Span} {value : String} : Expression ⟨span, .text value⟩
  | name {span : Span} {name : String} : Expression ⟨span, .name name⟩
  | inspect {span : Span} {name : String} : Expression ⟨span, .inspect name⟩
  | placeholder {span : Span} : Expression ⟨span, .placeholder⟩
  | list {span : Span} {elements : List Node} (inner : ∀ node ∈ elements, Expression node) :
      Expression ⟨span, .list elements⟩
  | binary {span : Span} {op : BinaryOp} {left right : Node} (unscaled : op ≠ .scale)
      (first : Expression left) (second : Expression right) :
      Expression ⟨span, .binary op left right⟩
  | comparison {span : Span} {first : Node} {links : List (CompareOp × Node)} (some : links ≠ [])
      (start : Expression first) (further : ∀ link ∈ links, Expression link.2) :
      Expression ⟨span, .comparison first links⟩
  | unary {span : Span} {op : UnaryOp} {node : Node} (operand : Expression node) :
      Expression ⟨span, .unary op node⟩
  | fallback {span : Span} {operands : List Node} (two : 2 ≤ operands.length)
      (inner : ∀ node ∈ operands, Expression node) : Expression ⟨span, .fallback operands⟩
  | call {span : Span} {callee : Node} {arguments : List Node} (called : Expression callee)
      (passed : ∀ node ∈ arguments, Expression node) : Expression ⟨span, .call callee arguments⟩
  | chain {span : Span} {base : Node} {steps : List Node} (some : steps ≠ [])
      (start : Expression base) (further : ∀ node ∈ steps, Expression node)
      (named : ∀ node ∈ steps, node.headName?.isSome) : Expression ⟨span, .attribute base steps⟩

/-- Written with brackets where they are needed and nowhere else. -/
def Written (slot : Slot) (tree : slot.Tree) : Prop :=
  ∃ tokens, Writes true slot tokens tree

theorem Written.within {node : Node} (written : Written .bare node) (required : Level) :
    Written (.within required) node := by
  rcases written with ⟨tokens, writes⟩
  by_cases fits : required.rank ≤ (formLevel node.form).rank
  · exact ⟨tokens, .plain fits writes⟩
  · have inner : Writes true (.within .fallback) tokens node := .plain (Nat.zero_le _) writes
    exact ⟨_, .parenthesised (fun _ => Nat.lt_of_not_le fits) inner⟩

theorem written_items {nodes : List Node}
    (written : ∀ node ∈ nodes, Written .bare node) : Written .items nodes := by
  induction nodes with
  | nil => exact ⟨[], .noItems⟩
  | cons node nodes ih =>
      rcases List.forall_mem_cons.mp written with ⟨bare, others⟩
      rcases bare.within .fallback with ⟨tokens, first⟩
      by_cases last : nodes = []
      · subst last
        exact ⟨tokens, .lastItem first⟩
      · rcases ih others with ⟨more, later⟩
        exact ⟨_, .nextItem first later last⟩

theorem written_links {links : List (CompareOp × Node)}
    (written : ∀ link ∈ links, Written .bare link.2) : Written .links links := by
  induction links with
  | nil => exact ⟨[], .noLinks⟩
  | cons link links ih =>
      rcases List.forall_mem_cons.mp written with ⟨first, others⟩
      rcases first.within (.tier .sum) with ⟨tokens, first⟩
      rcases ih others with ⟨more, later⟩
      exact ⟨_, .nextLink first later⟩

theorem written_operands {nodes : List Node}
    (written : ∀ node ∈ nodes, Written .bare node) : Written .operands nodes := by
  induction nodes with
  | nil => exact ⟨[], .noOperands⟩
  | cons node nodes ih =>
      rcases List.forall_mem_cons.mp written with ⟨first, others⟩
      rcases first.within (.tier .logic) with ⟨tokens, first⟩
      rcases ih others with ⟨more, later⟩
      exact ⟨_, .nextOperand first later⟩

theorem written_steps {nodes : List Node} (written : ∀ node ∈ nodes, Written .step node) :
    Written .steps nodes := by
  induction nodes with
  | nil => exact ⟨[], .noSteps⟩
  | cons node nodes ih =>
      rcases List.forall_mem_cons.mp written with ⟨⟨tokens, first⟩, others⟩
      rcases ih others with ⟨more, later⟩
      exact ⟨_, .nextStep first later⟩

theorem written_binary {span : Span} {op : BinaryOp} {left right : Node} (unscaled : op ≠ .scale)
    (first : Written .bare left) (second : Written .bare right) :
    Written .bare ⟨span, .binary op left right⟩ := by
  have tiered : ∀ tier : Tier, op ∈ tier.operators →
      Written .bare ⟨span, .binary op left right⟩ := by
    intro tier operator
    rcases first.within (.tier tier) with ⟨tokens, grouped⟩
    rcases second.within tier.tighter with ⟨more, last⟩
    exact ⟨_, .binary grouped operator last⟩
  cases op with
  | pow =>
      rcases first.within .chain with ⟨tokens, raised⟩
      rcases second.within .factor with ⟨more, power⟩
      exact ⟨_, .power raised power⟩
  | scale => exact absurd rfl unscaled
  | add | sub => exact tiered .sum (by decide)
  | mul | div | floorDiv | mod => exact tiered .term (by decide)
  | and | or | xor | bitOr | bitAnd | bitXor => exact tiered .logic (by decide)

theorem written_unary {span : Span} {op : UnaryOp} {node : Node}
    (operand : Written .bare node) : Written .bare ⟨span, .unary op node⟩ := by
  by_cases negation : op = .not
  · subst negation
    rcases operand.within .comparison with ⟨tokens, writes⟩
    exact ⟨_, .negation writes⟩
  · rcases operand.within .factor with ⟨tokens, writes⟩
    exact ⟨_, .sign negation writes⟩

/-- An expression can be written, and as a step if it is a name with calls. -/
theorem Expression.written {node : Node} (expression : Expression node) :
    Written .bare node ∧ (node.headName?.isSome → Written .step node) := by
  induction expression with
  | number => exact ⟨⟨_, .number⟩, nofun⟩
  | text => exact ⟨⟨_, .text⟩, nofun⟩
  | name => exact ⟨⟨_, .name⟩, fun _ => ⟨_, .stepName⟩⟩
  | inspect => exact ⟨⟨_, .inspect⟩, nofun⟩
  | placeholder => exact ⟨⟨_, .placeholder⟩, nofun⟩
  | list _ elements =>
      rcases written_items fun node member => (elements node member).1 with ⟨tokens, inner⟩
      exact ⟨⟨_, .list inner⟩, nofun⟩
  | binary unscaled _ _ left right => exact ⟨written_binary unscaled left.1 right.1, nofun⟩
  | comparison some _ _ first links =>
      rcases first.1.within (.tier .sum) with ⟨tokens, start⟩
      rcases written_links fun link member => (links link member).1 with ⟨more, further⟩
      exact ⟨⟨_, .comparison start further some⟩, nofun⟩
  | unary _ operand => exact ⟨written_unary operand.1, nofun⟩
  | @fallback _ operands two _ written =>
      match operands with
      | first :: second :: others =>
          rcases List.forall_mem_cons.mp written with ⟨written, further⟩
          rcases written.1.within (.tier .logic) with ⟨tokens, start⟩
          rcases written_operands fun node member => (further node member).1 with ⟨more, later⟩
          exact ⟨⟨_, .fallback start later (List.cons_ne_nil _ _)⟩, nofun⟩
  | call _ _ callee arguments =>
      rcases written_items fun node member => (arguments node member).1 with ⟨given, passed⟩
      constructor
      · rcases callee.1.within .call with ⟨tokens, called⟩
        exact ⟨_, .call called passed⟩
      · intro named
        rcases callee.2 named with ⟨tokens, called⟩
        exact ⟨_, .stepCall called passed⟩
  | chain some _ _ named base steps =>
      rcases base.1.within .call with ⟨tokens, start⟩
      rcases written_steps fun node member => (steps node member).2 (named node member) with
        ⟨more, further⟩
      exact ⟨⟨_, .chain start further some⟩, nofun⟩

end Grammar
end Scripting
