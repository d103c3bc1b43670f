import Scripting.Lexical.Token
import Scripting.Program.Node

namespace Scripting
namespace Grammar

/-!
The grammar of programs.

A derivation relates a stretch of tokens to the tree it makes up.  The rules say what is
written for each construct and in which order; they do not say how a reader finds its way
through them.  Trees are related up to the spans of their nodes, which no rule restricts.
-/

open Lexical (Bracket Keyword Symbol TokenKind)
open Source (Span)
open Program

/-! ## Tokens of operators and names -/

/-- The token of an operator between two operands. -/
def binaryToken : BinaryOp → TokenKind
  | .add => .symbol .plus
  | .sub => .symbol .minus
  | .mul => .symbol .star
  | .div => .symbol .slash
  | .floorDiv => .symbol .doubleSlash
  | .mod => .symbol .percent
  | .pow => .symbol .caret
  | .bitOr => .symbol .pipe
  | .bitAnd => .symbol .ampersand
  | .bitXor => .symbol .doubleCaret
  | .and => .keyword .andWord
  | .or => .keyword .orWord
  | .xor => .keyword .xorWord
  | .scale => .exponent

def compareToken : CompareOp → TokenKind
  | .eq => .symbol .equal
  | .ne => .symbol .notEqual
  | .lt => .symbol .less
  | .gt => .symbol .greater
  | .le => .symbol .lessEqual
  | .ge => .symbol .greaterEqual

def unaryToken : UnaryOp → TokenKind
  | .neg => .symbol .minus
  | .pos => .symbol .plus
  | .bitNot => .symbol .tilde
  | .not => .keyword .notWord

/-- The token of an assignment, for the operators that have one. -/
def assignToken? : AssignOp → Option TokenKind
  | .set => some (.symbol .assign)
  | .compound .add => some (.symbol .plusAssign)
  | .compound .sub => some (.symbol .minusAssign)
  | .compound .mul => some (.symbol .starAssign)
  | .compound .div => some (.symbol .slashAssign)
  | .compound .floorDiv => some (.symbol .doubleSlashAssign)
  | .compound .mod => some (.symbol .percentAssign)
  | .compound .pow => some (.symbol .caretAssign)
  | .compound .bitOr => some (.symbol .pipeAssign)
  | .compound .bitAnd => some (.symbol .ampersandAssign)
  | .compound .bitXor => some (.symbol .doubleCaretAssign)
  | .compound _ => none

def literalToken : Literal → TokenKind
  | .int value => .int value
  | .float value => .float value

/-- The token between a text and the file it is written to. -/
def writeToken (overwrite : Bool) : TokenKind :=
  if overwrite then .symbol .overwrite else .symbol .redirect

/-- A name after the token that announces it, or neither. -/
def namedAfter (lead : TokenKind) : Option String → List TokenKind
  | none => []
  | some name => [lead, .identifier name]

/-- The name of a function, if it has one. -/
def nameTokens : Option String → List TokenKind
  | none => []
  | some name => [.identifier name]

/-- The word that ends a block; a body on the same line has no such word. -/
def closing (block : Bool) : List TokenKind :=
  if block then [.keyword .endWord] else []

/-- Any number of newlines. -/
def Newlines (tokens : List TokenKind) : Prop :=
  ∀ kind ∈ tokens, kind = .newline

/-- A signed power of ten with its value. -/
inductive Exponent : List TokenKind → Int64 → Prop
  | plain {digits : Int64} : Exponent [.int digits] digits
  | plus {digits : Int64} : Exponent [.symbol .plus, .int digits] digits
  | minus {digits : Int64} : Exponent [.symbol .minus, .int digits] (-digits)

/-- The name that a form brings with it. -/
inductive Names : Form Node → String → Prop
  | variable {name : String} : Names (.name name) name
  | function {name : String} {required : List String} {optional : List (String × Node)}
      {body : Node} {arrow : Bool} : Names (.function (some name) required optional body arrow) name
  | classDef {name : String} {parent : Option Node} {body : Node} :
      Names (.classDef name parent body) name

/-! ## Parts of the grammar -/

/-- Levels of operators that group from the left, from the loosest. -/
inductive Tier where
  | logic
  | sum
  | term
  deriving DecidableEq

def Tier.operators : Tier → List BinaryOp
  | .logic => [.and, .or, .xor, .bitOr, .bitAnd, .bitXor]
  | .sum => [.add, .sub]
  | .term => [.mul, .div, .floorDiv, .mod]

/-- What is written with commas between. -/
inductive Element where
  | value
  | target
  | parameter

abbrev Element.Tree : Element → Type
  | .value => Node
  | .target => Target Node
  | .parameter => String × Option Node

/-- The parts that rules are given for. -/
inductive Part where
  | statement
  | expression
  | fallback
  | tier (tier : Tier)
  /-- What stands between the operators of a level. -/
  | operand (tier : Tier)
  | comparison
  | factor
  | power
  | chain
  | call
  | atom
  /-- A name with the calls after it. -/
  | step
  /-- Steps of which the last is not assigned to. -/
  | path
  /-- Statements with the newlines around them. -/
  | block
  /-- What a case of a conditional does, on lines of its own or not. -/
  | arm (block : Bool)
  | statements
  /-- The further operands of a fallback, each after its sign. -/
  | operands
  /-- The further operands of a comparison, each after its operator. -/
  | links
  /-- The steps of an attribute chain, each after its dot. -/
  | steps
  /-- Expressions with commas between, where lines may be broken. -/
  | items
  /-- What follows an opening bracket, through the closing one. -/
  | bracketed (bracket : Bracket)
  | element (element : Element)
  | separated (element : Element)
  | parameters
  /-- An expression after the tokens that announce it, or nothing. -/
  | clause (lead : List TokenKind)
  | parent
  /-- A body on the same line or, with a flag, on lines of its own. -/
  | layout
  /-- The cases of a conditional after the first. -/
  | cases (block : Bool)
  /-- The body of a function, with a flag for one whose value is the result. -/
  | functionBody
  | classBody

/-- What each part makes up. -/
abbrev Part.Tree : Part → Type
  | .statements | .operands | .steps | .items | .bracketed _ => List Node
  | .links => List (CompareOp × Node)
  | .element kind => kind.Tree
  | .separated kind => List kind.Tree
  | .parameters => List (String × Option Node)
  | .clause _ | .parent => Option Node
  | .layout | .functionBody => Node × Bool
  | .cases _ => List (Node × Node) × Option Node
  | _ => Node

/-- Parameters in the order in which they are written: those with a default come last. -/
def writtenParameters (required : List String) (optional : List (String × Node)) :
    List (String × Option Node) :=
  required.map (fun name => (name, none)) ++ optional.map fun entry => (entry.1, some entry.2)

/-! ## Rules -/

/-- The tokens are a derivation of the tree. -/
inductive Derives : (part : Part) → List TokenKind → part.Tree → Prop
  -- Statements
  | returnFrom {span : Span} {tokens : List TokenKind} {value : Option Node}
      (given : Derives (.clause []) tokens value) :
      Derives .statement (.keyword .returnWord :: tokens) ⟨span, .returnFrom value⟩
  | breakLoop {span : Span} {label : Option String} :
      Derives .statement (.keyword .breakWord :: namedAfter (.symbol .colon) label)
        ⟨span, .breakLoop label⟩
  | continueLoop {span : Span} {label : Option String} :
      Derives .statement (.keyword .continueWord :: namedAfter (.symbol .colon) label)
        ⟨span, .continueLoop label⟩
  | importModule {span : Span} {name : String} {rename : Option String} :
      Derives .statement
        (.keyword .importWord :: .identifier name :: namedAfter (.keyword .asWord) rename)
        ⟨span, .importModule name rename⟩
  | exportAs {span : Span} {tokens : List TokenKind} {value : Node} {name : String}
      (exported : Derives .expression tokens value) :
      Derives .statement
        (.keyword .exportWord :: (tokens ++ [.keyword .asWord, .identifier name]))
        ⟨span, .exportAs value name⟩
  | exportNamed {span : Span} {tokens : List TokenKind} {value : Node} {name : String}
      (exported : Derives .expression tokens value) (named : Names value.form name) :
      Derives .statement (.keyword .exportWord :: tokens) ⟨span, .exportAs value name⟩
  | statementAlone {tokens : List TokenKind} {node : Node} (alone : Derives .expression tokens node) :
      Derives .statement tokens node
  | noStatements : Derives .statements [] []
  | lastStatement {tokens : List TokenKind} {node : Node} (last : Derives .statement tokens node) :
      Derives .statements tokens [node]
  | nextStatement {tokens gap others : List TokenKind} {node : Node} {nodes : List Node}
      (first : Derives .statement tokens node) (newlines : Newlines gap)
      (later : Derives .statements others nodes) :
      Derives .statements (tokens ++ .newline :: (gap ++ others)) (node :: nodes)
  | block {span : Span} {gap tokens : List TokenKind} {nodes : List Node} (newlines : Newlines gap)
      (inner : Derives .statements tokens nodes) :
      Derives .block (gap ++ tokens) ⟨span, .block nodes⟩
  -- Expressions that read like statements
  | assign {span : Span} {targets values : List TokenKind} {mark : TokenKind} {op : AssignOp}
      {assigned : List (Target Node)} {given : List Node}
      (left : Derives (.separated .target) targets assigned)
      (operator : assignToken? op = some mark) (right : Derives (.separated .value) values given) :
      Derives .expression (.keyword .varWord :: (targets ++ mark :: values))
        ⟨span, .assign assigned op given⟩
  | delete {span : Span} {name : String} :
      Derives .expression [.keyword .delWord, .identifier name] ⟨span, .delete name⟩
  | write {span : Span} {texts targets lines : List TokenKind} {text target : Node}
      {overwrite : Bool} {line : Option Node} (written : Derives .expression texts text)
      (file : Derives .expression targets target) (place : Derives (.clause []) lines line) :
      Derives .expression
        (.keyword .writeWord :: (texts ++ writeToken overwrite :: (targets ++ lines)))
        ⟨span, .write text overwrite target line⟩
  | read {span : Span} {targets lines : List TokenKind} {target : Node} {into : Option String}
      {line : Option Node} (file : Derives .expression targets target)
      (place : Derives (.clause []) lines line) :
      Derives .expression
        (.keyword .readWord :: (targets ++ (namedAfter (.symbol .redirect) into ++ lines)))
        ⟨span, .read target into line⟩
  | assertion {span : Span} {conditions messages : List TokenKind} {condition : Node}
      {message : Option Node} (claimed : Derives .expression conditions condition)
      (explained : Derives (.clause [.symbol .comma]) messages message) :
      Derives .expression (.keyword .assertWord :: (conditions ++ messages))
        ⟨span, .assertion condition message⟩
  | expressionAlone {tokens : List TokenKind} {node : Node} (alone : Derives .fallback tokens node) :
      Derives .expression tokens node
  -- Elements between commas
  | value {tokens : List TokenKind} {node : Node} (given : Derives .expression tokens node) :
      Derives (.element .value) tokens node
  | variable {span : Span} {name : String} :
      Derives (.element .target) [.identifier name] ⟨none, name, span⟩
  | attributeTarget {span : Span} {tokens : List TokenKind} {object : Node} {name : String}
      (owner : Derives .path tokens object) :
      Derives (.element .target) (tokens ++ [.symbol .dot, .identifier name])
        ⟨some object, name, span⟩
  | required {name : String} : Derives (.element .parameter) [.identifier name] (name, none)
  | optional {tokens : List TokenKind} {name : String} {value : Node}
      (standard : Derives .expression tokens value) :
      Derives (.element .parameter) (.identifier name :: .symbol .assign :: tokens)
        (name, some value)
  | lastElement {element : Element} {tokens : List TokenKind} {tree : element.Tree}
      (last : Derives (.element element) tokens tree) : Derives (.separated element) tokens [tree]
  | nextElement {element : Element} {tokens others : List TokenKind} {tree : element.Tree}
      {trees : List element.Tree} (first : Derives (.element element) tokens tree)
      (later : Derives (.separated element) others trees) :
      Derives (.separated element) (tokens ++ .symbol .comma :: others) (tree :: trees)
  | pathAlone {tokens : List TokenKind} {node : Node} (alone : Derives .step tokens node) :
      Derives .path tokens node
  | path {span : Span} {first others : List TokenKind} {base : Node} {nodes : List Node}
      (start : Derives .step first base) (further : Derives .steps others nodes)
      (some : nodes ≠ []) : Derives .path (first ++ others) ⟨span, .attribute base nodes⟩
  | noClause {lead : List TokenKind} : Derives (.clause lead) [] none
  | clause {lead tokens : List TokenKind} {node : Node} (given : Derives .expression tokens node) :
      Derives (.clause lead) (lead ++ tokens) (some node)
  -- Operators
  | fallbackAlone {tokens : List TokenKind} {node : Node}
      (alone : Derives (.tier .logic) tokens node) : Derives .fallback tokens node
  | fallback {span : Span} {tokens others : List TokenKind} {first : Node} {nodes : List Node}
      (start : Derives (.tier .logic) tokens first) (further : Derives .operands others nodes)
      (some : nodes ≠ []) : Derives .fallback (tokens ++ others) ⟨span, .fallback (first :: nodes)⟩
  | noOperands : Derives .operands [] []
  | nextOperand {tokens others : List TokenKind} {node : Node} {nodes : List Node}
      (first : Derives (.tier .logic) tokens node) (later : Derives .operands others nodes) :
      Derives .operands (.symbol .question :: (tokens ++ others)) (node :: nodes)
  | comparisonOperand {tokens : List TokenKind} {node : Node}
      (alone : Derives .comparison tokens node) : Derives (.operand .logic) tokens node
  | termOperand {tokens : List TokenKind} {node : Node} (alone : Derives (.tier .term) tokens node) :
      Derives (.operand .sum) tokens node
  | factorOperand {tokens : List TokenKind} {node : Node} (alone : Derives .factor tokens node) :
      Derives (.operand .term) tokens node
  | tierAlone {tier : Tier} {tokens : List TokenKind} {node : Node}
      (alone : Derives (.operand tier) tokens node) : Derives (.tier tier) tokens node
  | binary {tier : Tier} {span : Span} {first second : List TokenKind} {op : BinaryOp}
      {left right : Node} (grouped : Derives (.tier tier) first left)
      (operator : op ∈ tier.operators) (last : Derives (.operand tier) second right) :
      Derives (.tier tier) (first ++ binaryToken op :: second) ⟨span, .binary op left right⟩
  | comparisonAlone {tokens : List TokenKind} {node : Node}
      (alone : Derives (.tier .sum) tokens node) : Derives .comparison tokens node
  | comparison {span : Span} {tokens others : List TokenKind} {first : Node}
      {links : List (CompareOp × Node)} (start : Derives (.tier .sum) tokens first)
      (further : Derives .links others links) (some : links ≠ []) :
      Derives .comparison (tokens ++ others) ⟨span, .comparison first links⟩
  | noLinks : Derives .links [] []
  | nextLink {tokens others : List TokenKind} {op : CompareOp} {node : Node}
      {links : List (CompareOp × Node)} (first : Derives (.tier .sum) tokens node)
      (later : Derives .links others links) :
      Derives .links (compareToken op :: (tokens ++ others)) ((op, node) :: links)
  | negation {span : Span} {tokens : List TokenKind} {node : Node}
      (operand : Derives .comparison tokens node) :
      Derives .comparison (unaryToken .not :: tokens) ⟨span, .unary .not node⟩
  | factorAlone {tokens : List TokenKind} {node : Node} (alone : Derives .power tokens node) :
      Derives .factor tokens node
  | sign {span : Span} {tokens : List TokenKind} {op : UnaryOp} {node : Node} (sign : op ≠ .not)
      (operand : Derives .factor tokens node) :
      Derives .factor (unaryToken op :: tokens) ⟨span, .unary op node⟩
  | powerAlone {tokens : List TokenKind} {node : Node} (alone : Derives .chain tokens node) :
      Derives .power tokens node
  | power {span : Span} {first second : List TokenKind} {base exponent : Node}
      (raised : Derives .chain first base) (power : Derives .factor second exponent) :
      Derives .power (first ++ binaryToken .pow :: second) ⟨span, .binary .pow base exponent⟩
  | chainAlone {tokens : List TokenKind} {node : Node} (alone : Derives .call tokens node) :
      Derives .chain tokens node
  | chain {span : Span} {first others : List TokenKind} {base : Node} {nodes : List Node}
      (start : Derives .call first base) (further : Derives .steps others nodes)
      (some : nodes ≠ []) : Derives .chain (first ++ others) ⟨span, .attribute base nodes⟩
  | noSteps : Derives .steps [] []
  | nextStep {tokens others : List TokenKind} {node : Node} {nodes : List Node}
      (first : Derives .step tokens node) (later : Derives .steps others nodes) :
      Derives .steps (.symbol .dot :: (tokens ++ others)) (node :: nodes)
  | stepName {span : Span} {name : String} : Derives .step [.identifier name] ⟨span, .name name⟩
  | stepCall {span : Span} {first given : List TokenKind} {callee : Node} {arguments : List Node}
      (called : Derives .step first callee) (passed : Derives (.bracketed .round) given arguments) :
      Derives .step (first ++ .opening .round :: given) ⟨span, .call callee arguments⟩
  | callAlone {tokens : List TokenKind} {node : Node} (alone : Derives .atom tokens node) :
      Derives .call tokens node
  | call {span : Span} {first given : List TokenKind} {callee : Node} {arguments : List Node}
      (called : Derives .call first callee) (passed : Derives (.bracketed .round) given arguments) :
      Derives .call (first ++ .opening .round :: given) ⟨span, .call callee arguments⟩
  -- Atoms
  | number {span : Span} {value : Literal} :
      Derives .atom [literalToken value] ⟨span, .number value⟩
  | scaled {span literalSpan exponentSpan : Span} {tokens : List TokenKind} {value : Literal}
      {power : Int64} (exponent : Exponent tokens power) :
      Derives .atom (literalToken value :: binaryToken .scale :: tokens)
        ⟨span, .binary .scale ⟨literalSpan, .number value⟩ ⟨exponentSpan, .number (.int power)⟩⟩
  | text {span : Span} {value : String} : Derives .atom [.text value] ⟨span, .text value⟩
  | name {span : Span} {name : String} : Derives .atom [.identifier name] ⟨span, .name name⟩
  | inspect {span : Span} {name : String} :
      Derives .atom [.symbol .dollar, .identifier name] ⟨span, .inspect name⟩
  | placeholder {span : Span} : Derives .atom [.keyword .defaultWord] ⟨span, .placeholder⟩
  | parenthesised {before tokens behind : List TokenKind} {node : Node} (first : Newlines before)
      (inner : Derives .expression tokens node) (last : Newlines behind) :
      Derives .atom (.opening .round :: (before ++ (tokens ++ (behind ++ [.closing .round])))) node
  | list {span : Span} {tokens : List TokenKind} {elements : List Node}
      (inner : Derives (.bracketed .square) tokens elements) :
      Derives .atom (.opening .square :: tokens) ⟨span, .list elements⟩
  | noneBracketed {bracket : Bracket} {gap : List TokenKind} (newlines : Newlines gap) :
      Derives (.bracketed bracket) (gap ++ [.closing bracket]) []
  | bracketed {bracket : Bracket} {gap tokens : List TokenKind} {nodes : List Node}
      (newlines : Newlines gap) (inner : Derives .items tokens nodes) :
      Derives (.bracketed bracket) (gap ++ (tokens ++ [.closing bracket])) nodes
  | lastItem {tokens gap : List TokenKind} {node : Node} (last : Derives .expression tokens node)
      (newlines : Newlines gap) : Derives .items (tokens ++ gap) [node]
  | nextItem {tokens before behind others : List TokenKind} {node : Node} {nodes : List Node}
      (first : Derives .expression tokens node) (newlinesBefore : Newlines before)
      (newlinesBehind : Newlines behind) (later : Derives .items others nodes) :
      Derives .items (tokens ++ (before ++ .symbol .comma :: (behind ++ others))) (node :: nodes)
  -- Forms with a body
  | sameLine {tokens : List TokenKind} {node : Node} (body : Derives .statement tokens node) :
      Derives .layout tokens (node, false)
  | ownLines {tokens : List TokenKind} {node : Node} (body : Derives .block (.newline :: tokens) node) :
      Derives .layout (.newline :: tokens) (node, true)
  | armSameLine {tokens : List TokenKind} {node : Node} (body : Derives .statement tokens node) :
      Derives (.arm false) tokens node
  | armOwnLines {tokens : List TokenKind} {node : Node} (body : Derives .block tokens node) :
      Derives (.arm true) tokens node
  | noCases {block : Bool} : Derives (.cases block) [] ([], none)
  | otherwise {block : Bool} {tokens : List TokenKind} {node : Node}
      (body : Derives (.arm block) tokens node) :
      Derives (.cases block) (.keyword .elseWord :: tokens) ([], some node)
  | nextCase {block : Bool} {conditions tokens others : List TokenKind} {condition chosen : Node}
      {cases : List (Node × Node)} {last : Option Node}
      (tested : Derives .expression conditions condition) (body : Derives (.arm block) tokens chosen)
      (later : Derives (.cases block) others (cases, last)) :
      Derives (.cases block)
        (.keyword .elifWord :: (conditions ++ .keyword .thenWord :: (tokens ++ others)))
        ((condition, chosen) :: cases, last)
  | conditional {span : Span} {conditions tokens others : List TokenKind} {condition first : Node}
      {block : Bool} {cases : List (Node × Node)} {last : Option Node}
      (tested : Derives .expression conditions condition)
      (body : Derives .layout tokens (first, block))
      (later : Derives (.cases block) others (cases, last)) :
      Derives .atom
        (.keyword .ifWord ::
          (conditions ++ .keyword .thenWord :: (tokens ++ (others ++ closing block))))
        ⟨span, .conditional ((condition, first) :: cases) last block⟩
  | countedLoop {span : Span} {firsts lasts steps tokens : List TokenKind} {label : Option String}
      {counter : String} {first last body : Node} {step : Option Node} {block : Bool}
      (starts : Derives .expression firsts first) (stops : Derives .expression lasts last)
      (advances : Derives (.clause [.keyword .stepWord]) steps step)
      (repeated : Derives .layout tokens (body, block)) :
      Derives .atom
        (.keyword .forWord ::
          (namedAfter (.symbol .colon) label ++ .identifier counter :: .symbol .assign ::
            (firsts ++ .keyword .toWord ::
              (lasts ++ (steps ++ .keyword .thenWord :: (tokens ++ closing block))))))
        ⟨span, .loop label (.counted counter first last step) body block⟩
  | eachLoop {span : Span} {visited tokens : List TokenKind} {label : Option String}
      {item : String} {items body : Node} {block : Bool}
      (visits : Derives .expression visited items)
      (repeated : Derives .layout tokens (body, block)) :
      Derives .atom
        (.keyword .forWord ::
          (namedAfter (.symbol .colon) label ++ .identifier item :: .keyword .inWord ::
            (visited ++ .keyword .thenWord :: (tokens ++ closing block))))
        ⟨span, .loop label (.each item items) body block⟩
  | whileLoop {span : Span} {conditions tokens : List TokenKind} {label : Option String}
      {condition body : Node} {block : Bool} (tested : Derives .expression conditions condition)
      (repeated : Derives .layout tokens (body, block)) :
      Derives .atom
        (.keyword .whileWord ::
          (namedAfter (.symbol .colon) label ++
            (conditions ++ .keyword .thenWord :: (tokens ++ closing block))))
        ⟨span, .loop label (.whileTrue condition) body block⟩
  | doLoop {span : Span} {conditions tokens : List TokenKind} {label : Option String}
      {condition body : Node} {block : Bool} (repeated : Derives .layout tokens (body, block))
      (tested : Derives .expression conditions condition) :
      Derives .atom
        (.keyword .doWord ::
          (namedAfter (.symbol .colon) label ++
            (tokens ++ .keyword .thenWord :: .keyword .loopWord :: .keyword .whileWord :: conditions)))
        ⟨span, .loop label (.doWhile condition) body block⟩
  | endlessLoop {span : Span} {filler tokens : List TokenKind} {label : Option String}
      {body : Node} {block : Bool} (optionalWord : filler = [] ∨ filler = [.keyword .thenWord])
      (repeated : Derives .layout tokens (body, block)) :
      Derives .atom
        (.keyword .loopWord ::
          (namedAfter (.symbol .colon) label ++ (filler ++ (tokens ++ closing block))))
        ⟨span, .loop label .endless body block⟩
  | noParameters : Derives .parameters [] []
  | parameters {tokens : List TokenKind} {given : List (String × Option Node)}
      (some : Derives (.separated .parameter) tokens given) : Derives .parameters tokens given
  | arrowBody {tokens : List TokenKind} {node : Node} (value : Derives .expression tokens node) :
      Derives .functionBody (.symbol .arrow :: tokens) (node, true)
  | blockBody {tokens : List TokenKind} {node : Node}
      (lines : Derives .block (.newline :: tokens) node) :
      Derives .functionBody (.newline :: (tokens ++ [.keyword .endWord])) (node, false)
  | function {span : Span} {given tokens : List TokenKind} {name : Option String}
      {required : List String} {optional : List (String × Node)} {body : Node} {arrow : Bool}
      (taken : Derives .parameters given (writtenParameters required optional))
      (distinct : (required ++ optional.map Prod.fst).Nodup)
      (does : Derives .functionBody tokens (body, arrow)) :
      Derives .atom
        (.keyword .defWord ::
          (nameTokens name ++ .opening .round :: (given ++ .closing .round :: tokens)))
        ⟨span, .function name required optional body arrow⟩
  | noParent : Derives .parent [] none
  | parent {tokens : List TokenKind} {node : Node} (extended : Derives .chain tokens node) :
      Derives .parent (.opening .round :: (tokens ++ [.closing .round])) (some node)
  | arrowClass {tokens : List TokenKind} {node : Node} (body : Derives .statement tokens node) :
      Derives .classBody (.symbol .arrow :: tokens) node
  | blockClass {tokens : List TokenKind} {node : Node}
      (lines : Derives .block (.newline :: tokens) node) :
      Derives .classBody (.newline :: (tokens ++ [.keyword .endWord])) node
  | classDef {span : Span} {parents tokens : List TokenKind} {name : String}
      {parent : Option Node} {body : Node} (inherits : Derives .parent parents parent)
      (does : Derives .classBody tokens body) :
      Derives .atom (.keyword .classWord :: .identifier name :: (parents ++ tokens))
        ⟨span, .classDef name parent body⟩

/-! ## Well-formed trees -/

def loopParts : LoopHeader Node → List Node
  | .counted _ first last step => first :: last :: step.toList
  | .each _ items => [items]
  | .whileTrue condition => [condition]
  | .doWhile condition => [condition]
  | .endless => []

/-- The nodes that a form is made of. -/
def formParts : Form Node → List Node
  | .list elements => elements
  | .assign targets _ values => targets.flatMap (·.object.toList) ++ values
  | .binary _ left right => [left, right]
  | .comparison first links => first :: links.map Prod.snd
  | .unary _ operand => [operand]
  | .fallback operands => operands
  | .conditional cases otherwise _ =>
      cases.flatMap (fun case => [case.1, case.2]) ++ otherwise.toList
  | .loop _ header body _ => body :: loopParts header
  | .function _ _ optional body _ => body :: optional.map Prod.snd
  | .classDef _ parent body => body :: parent.toList
  | .call callee arguments => callee :: arguments
  | .attribute base steps => base :: steps
  | .returnFrom value => value.toList
  | .exportAs value _ => [value]
  | .write text _ target line => text :: target :: line.toList
  | .read target _ line => target :: line.toList
  | .assertion condition message => condition :: message.toList
  | .block statements => statements
  | .number _ | .text _ | .name _ | .inspect _ | .placeholder | .delete _ | .breakLoop _
  | .continueLoop _ | .importModule .. => []

/-- What a form requires of its own parts. -/
def FormSound : Form Node → Prop
  | .comparison _ links => links ≠ []
  | .fallback operands => 2 ≤ operands.length
  | .attribute _ steps => steps ≠ [] ∧ ∀ step ∈ steps, step.headName?.isSome
  | .function _ required optional _ _ => (required ++ optional.map Prod.fst).Nodup
  | _ => True

/-- Every form of a tree is what it requires. -/
inductive WellFormed : Node → Prop
  | node {span : Span} {form : Form Node} (sound : FormSound form)
      (parts : ∀ part ∈ formParts form, WellFormed part) : WellFormed ⟨span, form⟩

theorem wellFormed_iff {span : Span} {form : Form Node} :
    WellFormed ⟨span, form⟩ ↔ FormSound form ∧ ∀ part ∈ formParts form, WellFormed part := by
  constructor
  · rintro ⟨sound, parts⟩
    exact ⟨sound, parts⟩
  · rintro ⟨sound, parts⟩
    exact ⟨sound, parts⟩

theorem wellFormed_single {node : Node} : (∀ part ∈ [node], WellFormed part) ↔ WellFormed node :=
  List.forall_mem_singleton

/-- The nodes in what a part of the grammar makes up. -/
def Part.nodes : (part : Part) → part.Tree → List Node
  | .statement, node | .expression, node | .fallback, node | .tier _, node | .operand _, node
  | .comparison, node | .factor, node | .power, node | .chain, node | .call, node | .atom, node
  | .step, node | .path, node | .block, node | .arm _, node | .classBody, node
  | .element .value, node => [node]
  | .statements, nodes | .operands, nodes | .steps, nodes | .items, nodes | .bracketed _, nodes
  | .separated .value, nodes => nodes
  | .links, trees => trees.map Prod.snd
  | .element .target, tree => tree.object.toList
  | .separated .target, trees => trees.flatMap (·.object.toList)
  | .element .parameter, tree => tree.2.toList
  | .separated .parameter, trees | .parameters, trees => trees.flatMap (·.2.toList)
  | .clause _, node | .parent, node => node.toList
  | .layout, tree | .functionBody, tree => [tree.1]
  | .cases _, tree => tree.1.flatMap (fun case => [case.1, case.2]) ++ tree.2.toList

/-- The steps of an attribute chain look up names. -/
def Part.Headed : (part : Part) → part.Tree → Prop
  | .step, node => node.headName?.isSome
  | .steps, nodes => ∀ node ∈ nodes, node.headName?.isSome
  | _, _ => True

theorem Derives.headed {part : Part} {tokens : List TokenKind} {tree : part.Tree}
    (derives : Derives part tokens tree) : part.Headed tree := by
  induction derives with
  | stepName => rfl
  | stepCall _ _ callee _ => exact callee
  | noSteps =>
      intro node none
      cases none
  | nextStep _ _ first later =>
      intro node member
      rcases List.mem_cons.mp member with rfl | member
      · exact first
      · exact later node member
  | _ => trivial

theorem Derives.wellFormed {part : Part} {tokens : List TokenKind} {tree : part.Tree}
    (derives : Derives part tokens tree) : ∀ node ∈ part.nodes tree, WellFormed node := by
  induction derives with
  | assign _ _ _ targets values =>
      refine wellFormed_single.mpr (.node trivial ?_)
      exact List.forall_mem_append.mpr ⟨targets, values⟩
  | comparison _ _ some first links =>
      refine wellFormed_single.mpr (.node some ?_)
      exact List.forall_mem_cons.mpr ⟨wellFormed_single.mp first, links⟩
  | fallback _ _ some first others =>
      refine wellFormed_single.mpr (.node ?_ ?_)
      · exact Nat.succ_le_succ (List.length_pos_iff.mpr some)
      · exact List.forall_mem_cons.mpr ⟨wellFormed_single.mp first, others⟩
  | path _ further some base steps =>
      refine wellFormed_single.mpr (.node ⟨some, further.headed⟩ ?_)
      exact List.forall_mem_cons.mpr ⟨wellFormed_single.mp base, steps⟩
  | chain _ further some base steps =>
      refine wellFormed_single.mpr (.node ⟨some, further.headed⟩ ?_)
      exact List.forall_mem_cons.mpr ⟨wellFormed_single.mp base, steps⟩
  | @function _ _ _ _ required optional _ _ _ distinct _ taken body =>
      refine wellFormed_single.mpr (.node distinct ?_)
      refine List.forall_mem_cons.mpr ⟨wellFormed_single.mp body, ?_⟩
      intro value member
      obtain ⟨entry, given, rfl⟩ := List.mem_map.mp member
      refine taken entry.2 (List.mem_flatMap.mpr ⟨(entry.1, some entry.2), ?_, ?_⟩)
      · exact List.mem_append_right _ (List.mem_map_of_mem given)
      · exact Option.mem_toList.mpr rfl
  | @lastElement element _ _ _ last =>
      cases element with
      | value => exact last
      | target => simpa [Part.nodes] using last
      | parameter => simpa [Part.nodes] using last
  | @nextElement element _ _ _ _ _ _ first later =>
      cases element with
      | value => exact List.forall_mem_cons.mpr ⟨wellFormed_single.mp first, later⟩
      | target => exact List.forall_mem_append.mpr ⟨first, later⟩
      | parameter => exact List.forall_mem_append.mpr ⟨first, later⟩
  | nextLink _ _ first later =>
      exact List.forall_mem_cons.mpr ⟨wellFormed_single.mp first, later⟩
  | parameters _ given => exact given
  | _ => simp_all [Part.nodes, wellFormed_iff, formParts, loopParts, FormSound]

end Grammar
end Scripting
