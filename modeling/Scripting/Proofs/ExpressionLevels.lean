import Scripting.Grammar.Statement
import Scripting.Proofs.ReaderSteps
import Scripting.Proofs.Writing

namespace Scripting
namespace Grammar

/-!
Expressions by level.

What stands after an expression decides where it stops, so what is read from its tokens is
said for all tokens after them that do not go on with it.  Operators that group from the
left are read by a loop; an expression of such a level is said to feed the loop, which then
goes on from it, whether or not more operators follow.  What is read at a level is read at
every looser one.
-/

open Lexical (Bracket Keyword Symbol Token TokenKind)
open Source (Position Span)
open Program

/-! ## Where expressions stop -/

/-- The level of the operator or suffix that a token goes on with after an expression. -/
def continues? : TokenKind → Option Level
  | .exponent => some .atom
  | .opening .round => some .call
  | .symbol .dot => some .chain
  | .symbol .caret => some .power
  | .symbol .star | .symbol .slash | .symbol .doubleSlash | .symbol .percent => some (.tier .term)
  | .symbol .plus | .symbol .minus => some (.tier .sum)
  | .symbol .equal | .symbol .notEqual | .symbol .less | .symbol .greater | .symbol .lessEqual
  | .symbol .greaterEqual => some .comparison
  | .keyword .andWord | .keyword .orWord | .keyword .xorWord | .symbol .pipe | .symbol .ampersand
  | .symbol .doubleCaret => some (.tier .logic)
  | .symbol .question => some .fallback
  | _ => none

/-- An expression of the level stops before these tokens: only looser ones go on with it. -/
def Stops (level : Level) (rest : List TokenKind) : Prop :=
  ∃ kind others, rest = kind :: others ∧
    ∀ further, continues? kind = some further → further.rank < level.rank

theorem Stops.tighter {loose tight : Level} {rest : List TokenKind} (stops : Stops loose rest)
    (le : loose.rank ≤ tight.rank) : Stops tight rest := by
  rcases stops with ⟨kind, others, split, looser⟩
  exact ⟨kind, others, split, fun further goesOn => Nat.lt_of_lt_of_le (looser further goesOn) le⟩

theorem Stops.ne_nil {level : Level} {rest : List TokenKind} (stops : Stops level rest) :
    rest ≠ [] := by
  rcases stops with ⟨kind, others, rfl, -⟩
  exact List.cons_ne_nil _ _

/-- Nothing goes on with an expression after this token. -/
theorem Stops.of_none {kind : TokenKind} (ends : continues? kind = none) (level : Level)
    (others : List TokenKind) : Stops level (kind :: others) := by
  refine ⟨kind, others, rfl, ?_⟩
  intro further goesOn
  rw [ends] at goesOn
  cases goesOn

theorem Stops.of_looser {kind : TokenKind} {further level : Level}
    (goesOn : continues? kind = some further) (looser : further.rank < level.rank)
    (others : List TokenKind) : Stops level (kind :: others) := by
  refine ⟨kind, others, rfl, ?_⟩
  intro _ same
  cases goesOn.symm.trans same
  exact looser

/-- What goes on with an expression at a level or tighter is not where it stops. -/
theorem Stops.current_ne {level further : Level} {place : Place} {rest : List TokenKind}
    {kind : TokenKind} (stops : Stops level rest) (stands : place.kinds = rest)
    (goesOn : continues? kind = some further) (tight : level.rank ≤ further.rank) :
    place.current.kind ≠ kind := by
  rcases stops with ⟨first, others, rfl, looser⟩
  rw [Place.current_of_kinds stands]
  rintro rfl
  exact absurd (looser further goesOn) (Nat.not_lt.mpr tight)

/-- Signs are looked for before an expression only, so a power stops where its exponent does. -/
theorem Stops.factor_of_power {rest : List TokenKind} (stops : Stops .power rest) :
    Stops .factor rest := by
  rcases stops with ⟨kind, others, split, looser⟩
  refine ⟨kind, others, split, ?_⟩
  intro further goesOn
  have bound := looser further goesOn
  have different : further ≠ .factor := by
    rintro rfl
    revert goesOn
    cases kind with
    | symbol mark => cases mark <;> nofun
    | keyword word => cases word <;> nofun
    | opening bracket => cases bracket <;> nofun
    | _ => nofun
  have ranks : further.rank ≠ Level.factor.rank := fun same => different (Level.rank_injective same)
  simp only [Level.rank] at bound ranks ⊢
  omega

/-! ## Operator tables -/

/-- The operators of a level that groups from the left, by their tokens. -/
def Tier.op? : Tier → TokenKind → Option BinaryOp
  | .logic => logicOp?
  | .sum => additiveOp?
  | .term => multiplicativeOp?

theorem Tier.op?_binaryToken {tier : Tier} {op : BinaryOp} (member : op ∈ tier.operators) :
    tier.op? (binaryToken op) = some op := by
  revert member
  cases tier <;> cases op <;> decide

theorem continues?_binaryToken {tier : Tier} {op : BinaryOp} (member : op ∈ tier.operators) :
    continues? (binaryToken op) = some (.tier tier) := by
  revert member
  cases tier <;> cases op <;> decide

theorem continues?_of_op? {tier : Tier} {kind : TokenKind} {op : BinaryOp}
    (found : tier.op? kind = some op) : continues? kind = some (.tier tier) := by
  revert found
  cases kind with
  | symbol mark => cases tier <;> cases mark <;> first | (intro; rfl) | nofun
  | keyword word => cases tier <;> cases word <;> first | (intro; rfl) | nofun
  | _ => cases tier <;> nofun

theorem compareOp?_compareToken (op : CompareOp) : compareOp? (compareToken op) = some op := by
  cases op <;> rfl

theorem continues?_compareToken (op : CompareOp) :
    continues? (compareToken op) = some .comparison := by
  cases op <;> rfl

theorem continues?_of_compareOp? {kind : TokenKind} {op : CompareOp}
    (found : compareOp? kind = some op) : continues? kind = some .comparison := by
  revert found
  cases kind with
  | symbol mark => cases mark <;> first | (intro; rfl) | nofun
  | _ => nofun

theorem starts?_of_prefixOp? {kind : TokenKind} {op : UnaryOp} (found : prefixOp? kind = some op) :
    starts? kind = some .factor := by
  revert found
  cases kind with
  | symbol mark => cases mark <;> first | (intro; rfl) | nofun
  | _ => nofun

/-! ## Reading what is written -/

-- All lemmas about forms rewrite with these equations, which are derived here once.
attribute [local simp] Node.unplaced Form.unplaced unplacedAll unplacedLinks

/-- The node, whatever its spans. -/
def Same (node result : Node) : Prop :=
  result.unplaced = node.unplaced

def SameAll (nodes results : List Node) : Prop :=
  unplacedAll results = unplacedAll nodes

def SameLinks (links results : List (CompareOp × Node)) : Prop :=
  unplacedLinks results = unplacedLinks links

theorem SameAll.nil_iff {nodes results : List Node} (same : SameAll nodes results) :
    results = [] ↔ nodes = [] := by
  cases nodes <;> cases results <;> simp_all [SameAll, unplacedAll]

theorem SameLinks.nil_iff {links results : List (CompareOp × Node)}
    (same : SameLinks links results) : results = [] ↔ links = [] := by
  cases links <;> cases results <;> simp_all [SameLinks, unplacedLinks]

section Forms

variable {node operand left right : Node} {nodes operands : List Node}
  {links linked : List (CompareOp × Node)} {span place : Span}

theorem SameAll.cons (first : Same node operand) (later : SameAll nodes operands) :
    SameAll (node :: nodes) (operand :: operands) := by
  simp only [Same, SameAll, unplacedAll] at first later ⊢
  rw [first, later]

theorem SameLinks.cons {op : CompareOp} (first : Same node operand)
    (later : SameLinks links linked) : SameLinks ((op, node) :: links) ((op, operand) :: linked) := by
  simp only [Same, SameLinks, unplacedLinks] at first later ⊢
  rw [first, later]

theorem SameAll.list (elements : SameAll nodes operands) :
    Same ⟨span, .list nodes⟩ ⟨place, .list operands⟩ := by
  simp only [Same, SameAll, Node.unplaced, Form.unplaced] at elements ⊢
  rw [elements]

theorem SameAll.fallback (parts : SameAll nodes operands) :
    Same ⟨span, .fallback nodes⟩ ⟨place, .fallback operands⟩ := by
  simp only [Same, SameAll, Node.unplaced, Form.unplaced] at parts ⊢
  rw [parts]

theorem SameAll.block (statements : SameAll nodes operands) :
    Same ⟨span, .block nodes⟩ ⟨place, .block operands⟩ := by
  simp only [Same, SameAll, Node.unplaced, Form.unplaced] at statements ⊢
  rw [statements]

theorem Same.unary {op : UnaryOp} (inner : Same node operand) :
    Same ⟨span, .unary op node⟩ ⟨place, .unary op operand⟩ := by
  simp only [Same, Node.unplaced, Form.unplaced] at inner ⊢
  rw [inner]

theorem Same.binary {op : BinaryOp} (first : Same node left) (second : Same operand right) :
    Same ⟨span, .binary op node operand⟩ ⟨place, .binary op left right⟩ := by
  simp only [Same, Node.unplaced, Form.unplaced] at first second ⊢
  rw [first, second]

theorem Same.comparison (first : Same node operand) (later : SameLinks links linked) :
    Same ⟨span, .comparison node links⟩ ⟨place, .comparison operand linked⟩ := by
  simp only [Same, SameLinks, Node.unplaced, Form.unplaced] at first later ⊢
  rw [first, later]

theorem Same.call (callee : Same node operand) (given : SameAll nodes operands) :
    Same ⟨span, .call node nodes⟩ ⟨place, .call operand operands⟩ := by
  simp only [Same, SameAll, Node.unplaced, Form.unplaced] at callee given ⊢
  rw [callee, given]

theorem Same.chain (base : Same node operand) (steps : SameAll nodes operands) :
    Same ⟨span, .attribute node nodes⟩ ⟨place, .attribute operand operands⟩ := by
  simp only [Same, SameAll, Node.unplaced, Form.unplaced] at base steps ⊢
  rw [base, steps]

end Forms

/--
The reader gives a value as said from the tokens and stops before the rest, at every depth
of nesting that the tokens can reach.
-/
def Reads {α : Type} (reader : Descent → Reader α) (level : Level) (tokens : List TokenKind)
    (same : α → Prop) : Prop :=
  ∀ depth (place : Place) rest, tokens.length ≤ depth → place.kinds = tokens ++ rest →
    Stops level rest → Gives place (reader (descend depth)) (Leaves rest same)

/-- A first node with which a loop goes on. -/
def grouped (start : Reader Node) (loop : Nat → Node → Reader Node) : Reader Node := do
  let first ← start
  repeated fun fuel => loop fuel first

/-- The loop comes to the point where it goes on from the node, before the rest. -/
def Feeds (start : Descent → Reader Node) (loop : Descent → Nat → Node → Reader Node)
    (level : Level) (tokens : List TokenKind) (node : Node) : Prop :=
  ∀ depth (place : Place) rest good, tokens.length ≤ depth → place.kinds = tokens ++ rest →
    Stops level rest →
    (∀ result (next : Place) fuel, Leaves rest (Same node) result next → rest.length ≤ fuel →
      Gives next (loop (descend depth) fuel result) good) →
    Gives place (grouped (start (descend depth)) (loop (descend depth))) good

/--
The loop gives the parts as said from the tokens.  Where it stops, an expression of the
tighter level stops before the parts.
-/
def ReadsAll {α : Type} (loop : Descent → Nat → Reader (List α)) (level tight : Level)
    (tokens : List TokenKind) (same : List α → Prop) : Prop :=
  ∀ rest, Stops level rest → Stops tight (tokens ++ rest) ∧
    ∀ depth (place : Place) fuel, tokens.length ≤ depth → place.kinds = tokens ++ rest →
      (tokens ++ rest).length ≤ fuel → Gives place (loop (descend depth) fuel) (Leaves rest same)

theorem Reads.feeds {start : Descent → Reader Node} {level : Level} {tokens : List TokenKind}
    {node : Node} (reads : Reads start level tokens (Same node))
    (loop : Descent → Nat → Node → Reader Node) : Feeds start loop level tokens node := by
  intro depth place rest good enough stands stops continued
  refine Gives.bind (reads depth place rest enough stands stops) ?_
  intro first next left
  refine Gives.repeated fun fuel bound => ?_
  rw [left.1] at bound
  exact continued first next fuel left bound

theorem Feeds.reads {start : Descent → Reader Node} {loop : Descent → Nat → Node → Reader Node}
    {level tight : Level} {tokens : List TokenKind} {node : Node}
    (feeds : Feeds start loop tight tokens node) (le : level.rank ≤ tight.rank)
    (ends : ∀ (self : Descent) (fuel : Nat) (result : Node) (place : Place),
      Stops level place.kinds → loop self fuel result place = .ok (result, place)) :
    Reads (fun self => grouped (start self) (loop self)) level tokens (Same node) := by
  intro depth place rest enough stands stops
  refine feeds depth place rest _ enough stands (stops.tighter le) ?_
  intro result next fuel left _
  refine ⟨result, next, ends _ fuel result next ?_, left⟩
  rw [left.1]
  exact stops

/-! ## Readers by level -/

/-- The reader of expressions of a level. -/
def readerOf : Level → Descent → Reader Node
  | .fallback => fallback
  | .tier .logic => logic
  | .comparison => comparison
  | .tier .sum => sum
  | .tier .term => term
  | .factor => factor
  | .power => power
  | .chain => chain
  | .call => fun self => grouped (atom self) (callSuffixes self)
  | .atom => atom

/-- The loop over the operators of a level that groups from the left. -/
def Tier.loop (tier : Tier) (self : Descent) : Nat → Node → Reader Node :=
  leftGrouped tier.op? (readerOf tier.tighter self)

theorem readerOf_tier (tier : Tier) : readerOf (.tier tier) =
    fun self => grouped (readerOf tier.tighter self) (tier.loop self) := by
  cases tier <;> rfl

/-- An expression of the level is read; if the level groups from the left, its loop is fed. -/
def Takes : Level → List TokenKind → Node → Prop
  | .tier tier, tokens, node => Feeds (readerOf tier.tighter) tier.loop tier.tighter tokens node
  | .call, tokens, node => Feeds atom callSuffixes .atom tokens node
  | level, tokens, node => Reads (readerOf level) level tokens (Same node)

theorem Tier.loop_ends {tier : Tier} (self : Descent) (fuel : Nat) (result : Node) (place : Place)
    (stops : Stops (.tier tier) place.kinds) :
    tier.loop self fuel result place = .ok (result, place) := by
  cases fuel with
  | zero => rfl
  | succ fuel =>
      have none : tier.op? place.current.kind = none := by
        cases found : tier.op? place.current.kind with
        | none => rfl
        | some op =>
            exact absurd rfl (stops.current_ne rfl (continues?_of_op? found) (Nat.le_refl _))
      apply Gives.result
      refine Gives.peek ?_
      simp only [none]
      exact Gives.pure ⟨rfl, rfl⟩

theorem callSuffixes_ends (self : Descent) (fuel : Nat) (result : Node) (place : Place)
    (stops : Stops .call place.kinds) :
    callSuffixes self fuel result place = .ok (result, place) := by
  cases fuel with
  | zero => rfl
  | succ fuel =>
      apply Gives.result
      exact Gives.ifEat_elsewhere (stops.current_ne rfl rfl (Nat.le_refl _)) (Gives.pure ⟨rfl, rfl⟩)

theorem Takes.reads {level : Level} {tokens : List TokenKind} {node : Node}
    (takes : Takes level tokens node) : Reads (readerOf level) level tokens (Same node) := by
  cases level with
  | tier tier =>
      rw [readerOf_tier]
      refine Feeds.reads takes ?_ Tier.loop_ends
      cases tier <;> decide
  | call => exact Feeds.reads takes (by decide) callSuffixes_ends
  | _ => exact takes

/-! ## Repeated parts -/

section Parts

variable {α : Type} {loop : Descent → Nat → Reader (List α)} {level tight : Level}
  {tokens others : List TokenKind} {node : Node}

/-- Where nothing goes on, the loop gives nothing and stays. -/
theorem ReadsAll.nil {same : List α → Prop} (none : same []) (le : level.rank ≤ tight.rank)
    (ends : ∀ (self : Descent) (fuel : Nat) (place : Place), Stops level place.kinds →
      loop self fuel place = .ok ([], place)) :
    ReadsAll loop level tight [] same := by
  intro rest stops
  refine ⟨stops.tighter le, ?_⟩
  intro depth place fuel _ stands _
  refine ⟨[], place, ends (descend depth) fuel place ?_, stands, none⟩
  rw [stands]
  exact stops

/-- A token goes on with a part and with what the loop gives after it. -/
theorem ReadsAll.cons {kind : TokenKind} {part : Descent → Reader Node} {join : Node → α}
    {sameLater same : List α → Prop} (goesOn : continues? kind = some level)
    (looser : level.rank < tight.rank) (first : Reads part tight tokens (Same node))
    (later : ReadsAll loop level tight others sameLater)
    (turn : ∀ (self : Descent) (fuel : Nat) (place : Place) good, place.current.kind = kind →
      Gives place.advance (do
        let value ← part self
        let values ← loop self fuel
        return join value :: values) good →
      Gives place (loop self (fuel + 1)) good)
    (whole : ∀ value values, Same node value → sameLater values → same (join value :: values)) :
    ReadsAll loop level tight (kind :: (tokens ++ others)) same := by
  intro rest stops
  rcases later rest stops with ⟨stopsFirst, readsLater⟩
  refine ⟨Stops.of_looser goesOn looser _, ?_⟩
  intro depth place fuel enough stands bound
  have inner : kind ≠ .endOfFile := by
    rintro rfl
    cases goesOn
  have split : place.kinds = kind :: (tokens ++ (others ++ rest)) := by
    rw [stands, List.cons_append, List.append_assoc]
  have some : tokens ++ (others ++ rest) ≠ [] :=
    List.append_ne_nil_of_right_ne_nil _ stopsFirst.ne_nil
  rcases Place.kinds_passed split inner some with ⟨here, passed⟩
  simp only [List.length_cons, List.length_append] at enough bound
  cases fuel with
  | zero => omega
  | succ fuel =>
      refine turn _ fuel place _ here ?_
      refine Gives.bind (first depth _ _ (by omega) passed stopsFirst) ?_
      rintro value next ⟨left, sameValue⟩
      refine Gives.bind (readsLater depth next fuel (by omega) left ?_) ?_
      · rw [List.length_append]
        omega
      · rintro values final ⟨left, sameValues⟩
        exact Gives.pure ⟨left, whole value values sameValue sameValues⟩

/-- An expression with the parts after it. -/
theorem Reads.trailed {start : Descent → Reader Node} {finish : Node → List α → Reader Node}
    {sameParts : List α → Prop} {same : Node → Prop} (first : Reads start tight tokens (Same node))
    (later : ReadsAll loop level tight others sameParts)
    (whole : ∀ place value values, Same node value → sameParts values →
      Gives place (finish value values) fun result next => next = place ∧ same result) :
    Reads (fun self => do
      let value ← start self
      let values ← repeated (loop self)
      finish value values) level (tokens ++ others) same := by
  intro depth place rest enough stands stops
  rcases later rest stops with ⟨stopsFirst, readsLater⟩
  rw [List.length_append] at enough
  rw [List.append_assoc] at stands
  refine Gives.bind (first depth place _ (by omega) stands stopsFirst) ?_
  rintro value next ⟨left, sameValue⟩
  have looped : Gives next (repeated (loop (descend depth))) (Leaves rest sameParts) :=
    Gives.repeated fun fuel bound =>
      readsLater depth next fuel (by omega) left (by rwa [left] at bound)
  refine Gives.bind looped ?_
  rintro values final ⟨left, sameValues⟩
  rcases whole final value values sameValue sameValues with ⟨result, _, read, rfl, sameResult⟩
  exact ⟨result, _, read, left, sameResult⟩

end Parts

section Loops

variable {tokens others : List TokenKind} {node : Node} {nodes : List Node}

def ReadsSteps (tokens : List TokenKind) (steps : List Node) : Prop :=
  ReadsAll attributeSteps .chain .call tokens (SameAll steps)

theorem noSteps_reads : ReadsSteps [] [] := by
  refine ReadsAll.nil rfl (by decide) ?_
  intro self fuel place stops
  cases fuel with
  | zero => rfl
  | succ fuel =>
      apply Gives.result
      exact Gives.ifEat_elsewhere (stops.current_ne rfl rfl (Nat.le_refl _)) (Gives.pure ⟨rfl, rfl⟩)

theorem nextStep_reads
    (first : Reads (fun self => calledName self .attributeName) .call tokens (Same node))
    (later : ReadsSteps others nodes) :
    ReadsSteps (.symbol .dot :: (tokens ++ others)) (node :: nodes) :=
  ReadsAll.cons rfl (by decide) first later (fun _ _ _ _ => Gives.ifEat_passing)
    fun _ _ => SameAll.cons

def ReadsOperands (tokens : List TokenKind) (operands : List Node) : Prop :=
  ReadsAll (fun self => fallbackOperands (logic self)) .fallback (.tier .logic) tokens
    (SameAll operands)

theorem noOperands_reads : ReadsOperands [] [] := by
  refine ReadsAll.nil rfl (by decide) ?_
  intro self fuel place stops
  cases fuel with
  | zero => rfl
  | succ fuel =>
      apply Gives.result
      exact Gives.ifEat_elsewhere (stops.current_ne rfl rfl (Nat.le_refl _)) (Gives.pure ⟨rfl, rfl⟩)

theorem nextOperand_reads (first : Reads logic (.tier .logic) tokens (Same node))
    (later : ReadsOperands others nodes) :
    ReadsOperands (.symbol .question :: (tokens ++ others)) (node :: nodes) :=
  ReadsAll.cons rfl (by decide) first later (fun _ _ _ _ => Gives.ifEat_passing)
    fun _ _ => SameAll.cons

def ReadsLinks (tokens : List TokenKind) (links : List (CompareOp × Node)) : Prop :=
  ReadsAll (fun self => comparisonLinks (sum self)) .comparison (.tier .sum) tokens
    (SameLinks links)

theorem noLinks_reads : ReadsLinks [] [] := by
  refine ReadsAll.nil rfl (by decide) ?_
  intro self fuel place stops
  cases fuel with
  | zero => rfl
  | succ fuel =>
      have none : compareOp? place.current.kind = none := by
        cases found : compareOp? place.current.kind with
        | none => rfl
        | some op =>
            exact absurd rfl (stops.current_ne rfl (continues?_of_compareOp? found) (Nat.le_refl _))
      apply Gives.result
      refine Gives.peek ?_
      simp only [none]
      exact Gives.pure ⟨rfl, rfl⟩

theorem nextLink_reads {op : CompareOp} {links : List (CompareOp × Node)}
    (first : Reads sum (.tier .sum) tokens (Same node)) (later : ReadsLinks others links) :
    ReadsLinks (compareToken op :: (tokens ++ others)) ((op, node) :: links) := by
  refine ReadsAll.cons (continues?_compareToken op) (by decide) first later ?_
    fun _ _ => SameLinks.cons
  intro self fuel place good here gives
  refine Gives.peek ?_
  simp only [here, compareOp?_compareToken]
  exact Gives.step rfl gives

end Loops

/-! ## Expressions with parts after them -/

/-- An expression that stays alone if no parts follow it and is a form of its own otherwise. -/
def Joined {α : Type} (node first : Node) (parts : List α) (form : Form Node) : Prop :=
  (parts = [] ∧ node = first) ∨ (parts ≠ [] ∧ ∃ span, node = ⟨span, form⟩)

section Trailing

variable {tokens others : List TokenKind} {node first : Node}

theorem chain_reads {steps : List Node} (joined : Joined node first steps (.attribute first steps))
    (start : Reads (readerOf .call) .call tokens (Same first))
    (further : ReadsSteps others steps) :
    Reads chain .chain (tokens ++ others) (Same node) := by
  have shape : chain = fun self => (do
      let base ← readerOf .call self
      let steps ← repeated (attributeSteps self)
      return attributeChain base steps : Reader Node) := by
    funext self
    simp only [chain, readerOf, grouped, called, bind_assoc]
  rw [shape]
  refine Reads.trailed start further ?_
  intro place value values sameFirst sameSteps
  refine Gives.pure ⟨rfl, ?_⟩
  unfold attributeChain
  rcases joined with ⟨none, rfl⟩ | ⟨some, span, rfl⟩
  · rw [sameSteps.nil_iff.mpr none]
    exact sameFirst
  · cases final : values.getLast? with
    | none => exact absurd (sameSteps.nil_iff.mp (List.getLast?_eq_none_iff.mp final)) some
    | some last => exact sameFirst.chain sameSteps

theorem fallback_reads {operands : List Node}
    (joined : Joined node first operands (.fallback (first :: operands)))
    (start : Reads logic (.tier .logic) tokens (Same first))
    (further : ReadsOperands others operands) :
    Reads fallback .fallback (tokens ++ others) (Same node) := by
  refine Reads.trailed start further ?_
  intro place value values sameFirst sameOperands
  rcases joined with ⟨none, rfl⟩ | ⟨some, span, rfl⟩
  · rw [sameOperands.nil_iff.mpr none]
    exact Gives.pure ⟨rfl, sameFirst⟩
  · cases final : values.getLast? with
    | none => exact absurd (sameOperands.nil_iff.mp (List.getLast?_eq_none_iff.mp final)) some
    | some last => exact Gives.pure ⟨rfl, (SameAll.cons sameFirst sameOperands).fallback⟩

theorem comparison_reads {links : List (CompareOp × Node)}
    (joined : Joined node first links (.comparison first links))
    (begins : Begins (.tier .sum) tokens) (start : Reads sum (.tier .sum) tokens (Same first))
    (further : ReadsLinks others links) :
    Reads comparison .comparison (tokens ++ others) (Same node) := by
  intro depth place rest enough stands stops
  have positive : place.current.kind ≠ .keyword .notWord := by
    rcases begins with ⟨kind, later, started, rfl, starts, bound⟩
    rw [Place.current_of_kinds stands]
    rintro rfl
    cases starts
    exact absurd bound (by decide)
  refine Gives.peek ?_
  rw [if_neg positive]
  refine Reads.trailed start further ?_ depth place rest enough stands stops
  intro place value values sameFirst sameLinks
  rcases joined with ⟨none, rfl⟩ | ⟨some, span, rfl⟩
  · rw [sameLinks.nil_iff.mpr none]
    exact Gives.pure ⟨rfl, sameFirst⟩
  · cases final : values.getLast? with
    | none => exact absurd (sameLinks.nil_iff.mp (List.getLast?_eq_none_iff.mp final)) some
    | some last => exact Gives.pure ⟨rfl, sameFirst.comparison sameLinks⟩

end Trailing

/-! ## From each level to the next looser one -/

theorem power_of_chain {tokens : List TokenKind} {same : Node → Prop}
    (reads : Reads chain .chain tokens same) : Reads power .power tokens same := by
  intro depth place rest enough stands stops
  refine Gives.bind (reads depth place rest enough stands (stops.tighter (by decide))) ?_
  rintro base next ⟨left, sameBase⟩
  refine Gives.ifEat_elsewhere (stops.current_ne left rfl (Nat.le_refl _)) ?_
  exact Gives.pure ⟨left, sameBase⟩

theorem factor_of_power {tokens : List TokenKind} {same : Node → Prop}
    (begins : Begins .power tokens) (reads : Reads power .power tokens same) :
    Reads factor .factor tokens same := by
  intro depth place rest enough stands stops
  have unsigned : prefixOp? place.current.kind = none := by
    rcases begins with ⟨kind, later, started, rfl, starts, bound⟩
    rw [Place.current_of_kinds stands]
    cases found : prefixOp? kind with
    | none => rfl
    | some op =>
        cases (starts?_of_prefixOp? found).symm.trans starts
        exact absurd bound (by decide)
  refine Gives.peek ?_
  simp only [unsigned]
  exact reads depth place rest enough stands (stops.tighter (by decide))

/-- The next looser level; the loosest is its own. -/
def Level.looser : Level → Level
  | .fallback => .fallback
  | .tier .logic => .fallback
  | .comparison => .tier .logic
  | .tier .sum => .comparison
  | .tier .term => .tier .sum
  | .factor => .tier .term
  | .power => .factor
  | .chain => .power
  | .call => .chain
  | .atom => .call

theorem Level.rank_looser (level : Level) : level.looser.rank = level.rank - 1 := by
  cases level with
  | tier tier => cases tier <;> rfl
  | _ => rfl

theorem Takes.looser {level : Level} {tokens : List TokenKind} {node : Node}
    (begins : Begins level tokens) (takes : Takes level tokens node) :
    Takes level.looser tokens node := by
  have reads := takes.reads
  have alone {α : Type} {form : Form Node} : Joined node node ([] : List α) form := Or.inl ⟨rfl, rfl⟩
  cases level with
  | fallback => exact reads
  | tier tier =>
      cases tier with
      | logic =>
          have whole := fallback_reads alone reads noOperands_reads
          rwa [List.append_nil] at whole
      | sum =>
          have whole := comparison_reads alone begins reads noLinks_reads
          rwa [List.append_nil] at whole
      | term => exact reads.feeds _
  | comparison => exact reads.feeds _
  | factor => exact reads.feeds _
  | power => exact factor_of_power begins reads
  | chain => exact power_of_chain reads
  | call =>
      have whole := chain_reads alone reads noSteps_reads
      rwa [List.append_nil] at whole
  | atom => exact reads.feeds _

/-- What an expression of some level is read from is also read at every looser level. -/
theorem Takes.within {tight loose : Level} {tokens : List TokenKind} {node : Node}
    (begins : Begins tight tokens) (takes : Takes tight tokens node)
    (le : loose.rank ≤ tight.rank) : Takes loose tokens node := by
  -- Induction on the distance between the levels, from the tight end.
  generalize distance : tight.rank - loose.rank = steps
  induction steps generalizing tight with
  | zero =>
      have same : tight = loose := Level.rank_injective (by omega)
      exact same ▸ takes
  | succ steps ih =>
      have rank := Level.rank_looser tight
      exact ih (begins.looser (by omega)) (takes.looser begins) (by omega) (by omega)

end Grammar
end Scripting
