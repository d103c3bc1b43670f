import Scripting.Proofs.ExpressionLevels

namespace Scripting
namespace Grammar

/-!
Written expressions are read back.

Every way to write an expression as tokens, with brackets where a part binds too loosely and
anywhere else besides, is read as that expression, up to the spans of its nodes.
-/

open Lexical (Bracket Keyword Symbol Token TokenKind)
open Source (Position Span)
open Program

/-! ## Expressions inside expressions -/

theorem expression_reads {tokens : List TokenKind} {same : Node → Prop}
    (begins : Begins .fallback tokens) (reads : Reads fallback .fallback tokens same) :
    Reads expression .fallback tokens same := by
  intro depth place rest enough stands stops
  have read := reads depth place rest enough stands stops
  rcases begins with ⟨kind, later, started, rfl, starts, -⟩
  rw [← Place.current_of_kinds stands] at starts
  refine Gives.peek ?_
  generalize place.current.kind = kind at starts ⊢
  cases kind with
  | keyword word => cases word <;> first | exact read | cases starts
  | _ => exact read

/-- A token before the expression leaves enough depth for it. -/
theorem Reads.descended {reader : Descent → Reader Node} {level : Level} {entry : Entry}
    {tokens rest : List TokenKind} {same : Node → Prop} {depth : Nat} {place : Place}
    (reads : Reads reader level tokens same)
    (shape : ∀ self, Grammar.level self entry = reader self) (enough : tokens.length < depth)
    (stands : place.kinds = tokens ++ rest) (stops : Stops level rest) :
    Gives place (descend depth entry) (Leaves rest same) := by
  cases depth with
  | zero => omega
  | succ depth =>
      change Gives place (Grammar.level (descend depth) entry) _
      rw [shape]
      exact reads depth place rest (Nat.le_of_lt_succ enough) stands stops

/-- The first token of an expression is not a newline. -/
theorem Begins.not_newline {level : Level} {tokens rest : List TokenKind} {place : Place}
    (begins : Begins level tokens) (stands : place.kinds = tokens ++ rest) :
    place.current.kind ≠ .newline := by
  rcases begins with ⟨kind, later, started, rfl, starts, -⟩
  rw [Place.current_of_kinds stands]
  rintro rfl
  cases starts

/-- An expression after a token that opens or separates. -/
theorem inner_reads {tokens rest : List TokenKind} {same : Node → Prop} {depth : Nat} {place : Place}
    (begins : Begins .fallback tokens) (reads : Reads fallback .fallback tokens same)
    (enough : tokens.length < depth) (stands : place.kinds = tokens ++ rest)
    (stops : Stops .fallback rest) :
    Gives place (descend depth .expression) (Leaves rest same) :=
  (expression_reads begins reads).descended (fun _ => rfl) enough stands stops

/-! ## Items between brackets -/

/-- The items are read up to a closing bracket, if there are any. -/
def ReadsItems (tokens : List TokenKind) (nodes : List Node) : Prop :=
  (tokens = [] ∧ nodes = []) ∨ (Begins .fallback tokens ∧
    ∀ depth (place : Place) fuel bracket others, tokens.length < depth →
      place.kinds = tokens ++ .closing bracket :: others → place.kinds.length ≤ fuel →
      Gives place (bracketedItems (descend depth .expression) fuel)
        (Leaves (.closing bracket :: others) (SameAll nodes)))

section Items

variable {tokens others : List TokenKind} {node : Node} {nodes : List Node}
  (begins : Begins .fallback tokens) (reads : Reads fallback .fallback tokens (Same node))

include begins reads

theorem lastItem_reads : ReadsItems tokens [node] := by
  refine Or.inr ⟨begins, ?_⟩
  intro depth place fuel bracket others enough stands bound
  have item := inner_reads begins reads enough stands (Stops.of_none rfl _ _)
  cases fuel with
  | zero => simp [Place.kinds] at bound
  | succ fuel =>
      refine Gives.bind item ?_
      rintro value next ⟨left, sameValue⟩
      refine Gives.skipNewlines (Place.current_ne left TokenKind.noConfusion) ?_
      refine Gives.ifEat_elsewhere (Place.current_ne left TokenKind.noConfusion) ?_
      exact Gives.pure ⟨left, SameAll.cons sameValue rfl⟩

theorem nextItem_reads (some : nodes ≠ []) (later : ReadsItems others nodes) :
    ReadsItems (tokens ++ .symbol .comma :: others) (node :: nodes) := by
  rcases later with ⟨-, none⟩ | ⟨beginsLater, readsLater⟩
  · exact absurd none some
  refine Or.inr ⟨begins.append _, ?_⟩
  intro depth place fuel bracket following enough stands bound
  rw [List.append_assoc, List.cons_append] at stands
  rw [stands] at bound
  simp only [List.length_append, List.length_cons] at enough bound
  have shorter : tokens.length < depth := by omega
  have item := inner_reads begins reads shorter stands (Stops.of_none rfl _ _)
  cases fuel with
  | zero => omega
  | succ fuel =>
      refine Gives.bind item ?_
      rintro value next ⟨left, sameValue⟩
      refine Gives.skipNewlines (Place.current_ne left TokenKind.noConfusion) ?_
      refine Gives.ifEat_here left nofun (List.append_ne_nil_of_right_ne_nil _ nofun) ?_
      intro next stands
      refine Gives.skipNewlines (beginsLater.not_newline stands) ?_
      refine Gives.bind (readsLater depth next fuel bracket following (by omega) stands ?_) ?_
      · rw [stands, List.length_append, List.length_cons]
        omega
      · rintro values final ⟨left, sameValues⟩
        exact Gives.pure ⟨left, SameAll.cons sameValue sameValues⟩

end Items

section Brackets

variable {tokens rest : List TokenKind} {nodes : List Node} {depth : Nat} {place : Place}

theorem Begins.not_closing {level : Level} {bracket : Bracket} (begins : Begins level tokens)
    (stands : place.kinds = tokens ++ rest) : place.current.kind ≠ .closing bracket := by
  rcases begins with ⟨kind, later, started, rfl, starts, -⟩
  rw [Place.current_of_kinds stands]
  rintro rfl
  cases starts

theorem arguments_reads (items : ReadsItems tokens nodes) (enough : tokens.length < depth)
    (stands : place.kinds = tokens ++ .closing .round :: rest) (some : rest ≠ []) :
    Gives place (arguments (descend depth)) (Leaves rest (SameAll nodes)) := by
  rcases items with ⟨rfl, rfl⟩ | ⟨begins, reads⟩
  · refine Gives.skipNewlines (Place.current_ne stands TokenKind.noConfusion) ?_
    exact Gives.ifEat_here stands nofun some fun next left => Gives.pure ⟨left, rfl⟩
  · refine Gives.skipNewlines (begins.not_newline stands) ?_
    refine Gives.ifEat_elsewhere (begins.not_closing stands) ?_
    refine Gives.bind (Gives.repeated fun fuel => reads depth place fuel _ _ enough stands) ?_
    rintro given next ⟨left, sameGiven⟩
    exact Gives.expect left nofun some fun next left => Gives.pure ⟨left, sameGiven⟩

theorem listElements_reads (items : ReadsItems tokens nodes) (enough : tokens.length < depth)
    (stands : place.kinds = tokens ++ .closing .square :: rest) (some : rest ≠ []) :
    Gives place (listElements (descend depth)) (Leaves rest (SameAll nodes)) := by
  rcases items with ⟨rfl, rfl⟩ | ⟨begins, reads⟩
  · refine Gives.skipNewlines (Place.current_ne stands TokenKind.noConfusion) ?_
    exact Gives.ifEat_here stands nofun some fun next left => Gives.pure ⟨left, rfl⟩
  · refine Gives.skipNewlines (begins.not_newline stands) ?_
    refine Gives.ifEat_elsewhere (begins.not_closing stands) ?_
    refine Gives.bind (Gives.repeated fun fuel => reads depth place fuel _ _ enough stands) ?_
    rintro elements next ⟨left, sameElements⟩
    exact Gives.ifEat_here left nofun some fun next left => Gives.pure ⟨left, sameElements⟩

end Brackets

/-! ## Atoms -/

theorem literal_reads {span : Span} (value : Literal) :
    Reads atom .atom [literalToken value] (Same ⟨span, .number value⟩) := by
  intro depth place rest _ stands stops
  refine Gives.peek ?_
  cases value with
  | int value | float value =>
      simp only [Place.current_of_kinds stands, literalToken]
      refine Gives.advance stands nofun stops.ne_nil fun next left => ?_
      refine Gives.ifEat_elsewhere (stops.current_ne left rfl (Nat.le_refl _)) ?_
      exact Gives.pure ⟨left, rfl⟩

theorem text_reads {span : Span} (value : String) :
    Reads atom .atom [.text value] (Same ⟨span, .text value⟩) := by
  intro depth place rest _ stands stops
  refine Gives.peek ?_
  simp only [Place.current_of_kinds stands]
  exact Gives.advance stands nofun stops.ne_nil fun next left => Gives.pure ⟨left, rfl⟩

theorem name_reads {span : Span} (name : String) :
    Reads atom .atom [.identifier name] (Same ⟨span, .name name⟩) := by
  intro depth place rest _ stands stops
  refine Gives.peek ?_
  simp only [Place.current_of_kinds stands]
  exact Gives.advance stands nofun stops.ne_nil fun next left => Gives.pure ⟨left, rfl⟩

theorem placeholder_reads {span : Span} :
    Reads atom .atom [.keyword .defaultWord] (Same ⟨span, .placeholder⟩) := by
  intro depth place rest _ stands stops
  refine Gives.peek ?_
  simp only [Place.current_of_kinds stands]
  exact Gives.advance stands nofun stops.ne_nil fun next left => Gives.pure ⟨left, rfl⟩

theorem inspect_reads {span : Span} (name : String) :
    Reads atom .atom [.symbol .dollar, .identifier name] (Same ⟨span, .inspect name⟩) := by
  intro depth place rest _ stands stops
  refine Gives.peek ?_
  simp only [Place.current_of_kinds stands]
  refine Gives.advance stands nofun nofun fun next left => ?_
  refine Gives.identifier left stops.ne_nil fun next left => ?_
  exact Gives.nodeFrom fun span => ⟨left, rfl⟩

theorem list_reads {span : Span} {tokens : List TokenKind} {nodes : List Node}
    (items : ReadsItems tokens nodes) :
    Reads atom .atom (.opening .square :: (tokens ++ [.closing .square]))
      (Same ⟨span, .list nodes⟩) := by
  intro depth place rest enough stands stops
  rw [List.cons_append, List.append_assoc] at stands
  simp only [List.length_cons, List.length_append, List.length_nil] at enough
  refine Gives.peek ?_
  simp only [Place.current_of_kinds stands]
  refine Gives.advance stands nofun (List.append_ne_nil_of_right_ne_nil _ nofun) fun next left => ?_
  refine Gives.bind (listElements_reads items (by omega) left stops.ne_nil) ?_
  rintro elements next ⟨left, sameElements⟩
  exact Gives.nodeFrom fun span => ⟨left, sameElements.list⟩

theorem parenthesised_reads {tokens : List TokenKind} {node : Node}
    (begins : Begins .fallback tokens) (reads : Reads fallback .fallback tokens (Same node)) :
    Reads atom .atom (.opening .round :: (tokens ++ [.closing .round])) (Same node) := by
  intro depth place rest enough stands stops
  rw [List.cons_append, List.append_assoc] at stands
  simp only [List.length_cons, List.length_append, List.length_nil] at enough
  refine Gives.peek ?_
  simp only [Place.current_of_kinds stands]
  refine Gives.advance stands nofun (List.append_ne_nil_of_right_ne_nil _ nofun) fun next left => ?_
  refine Gives.skipNewlines (begins.not_newline left) ?_
  refine Gives.bind (inner_reads begins reads (by omega) left (Stops.of_none rfl _ _)) ?_
  rintro inner next ⟨left, sameInner⟩
  refine Gives.skipNewlines (Place.current_ne left TokenKind.noConfusion) ?_
  exact Gives.expect left nofun stops.ne_nil fun next left => Gives.pure ⟨left, sameInner⟩

/-! ## Calls and operators -/

theorem call_feeds {start : Descent → Reader Node} {first given : List TokenKind} {span : Span}
    {callee : Node} {nodes : List Node} (feeds : Feeds start callSuffixes .atom first callee)
    (items : ReadsItems given nodes) :
    Feeds start callSuffixes .atom (first ++ .opening .round :: (given ++ [.closing .round]))
      ⟨span, .call callee nodes⟩ := by
  intro depth place rest good enough stands stops continued
  simp only [List.append_assoc, List.cons_append, List.nil_append] at stands
  simp only [List.length_append, List.length_cons, List.length_nil] at enough
  refine feeds depth place _ good (by omega) stands (Stops.of_looser rfl (by decide) _) ?_
  rintro result next fuel ⟨left, sameCallee⟩ bound
  simp only [List.length_append, List.length_cons] at bound
  cases fuel with
  | zero => omega
  | succ fuel =>
      refine Gives.ifEat_here left nofun (List.append_ne_nil_of_right_ne_nil _ nofun) ?_
      intro next left
      refine Gives.bind (arguments_reads items (by omega) left stops.ne_nil) ?_
      rintro arguments next ⟨left, sameArguments⟩
      refine Gives.thenNode fun span => ?_
      exact continued _ next fuel ⟨left, Same.call sameCallee sameArguments⟩ (by omega)

/-- A name at the start of a step. -/
def stepStart (_ : Descent) : Reader Node := do
  let (name, span) ← identifier .attributeName
  return ⟨span, .name name⟩

theorem stepName_feeds {span : Span} (name : String) :
    Feeds stepStart callSuffixes .atom [.identifier name] ⟨span, .name name⟩ := by
  refine Reads.feeds ?_ callSuffixes
  intro depth place rest _ stands stops
  exact Gives.identifier stands stops.ne_nil fun next left => Gives.pure ⟨left, rfl⟩

theorem step_reads {tokens : List TokenKind} {node : Node}
    (feeds : Feeds stepStart callSuffixes .atom tokens node) :
    Reads (fun self => calledName self .attributeName) .call tokens (Same node) := by
  have shape : (fun self => calledName self .attributeName) =
      fun self => grouped (stepStart self) (callSuffixes self) := by
    funext self
    simp only [calledName, called, grouped, stepStart, bind_assoc, pure_bind]
  rw [shape]
  exact feeds.reads (by decide) callSuffixes_ends

theorem power_reads {first second : List TokenKind} {span : Span} {base exponent : Node}
    (raised : Reads chain .chain first (Same base))
    (power : Reads factor .factor second (Same exponent)) :
    Reads Grammar.power .power (first ++ binaryToken .pow :: second)
      (Same ⟨span, .binary .pow base exponent⟩) := by
  intro depth place rest enough stands stops
  rw [List.append_assoc, List.cons_append] at stands
  simp only [List.length_append, List.length_cons] at enough
  refine Gives.bind (raised depth place _ (by omega) stands (Stops.of_looser rfl (by decide) _)) ?_
  rintro base' next ⟨left, sameBase⟩
  refine Gives.ifEat_here left nofun (List.append_ne_nil_of_right_ne_nil _ stops.ne_nil) ?_
  intro next left
  refine Gives.bind (power.descended (fun _ => rfl) (by omega) left stops.factor_of_power) ?_
  rintro exponent' next ⟨left, sameExponent⟩
  exact Gives.pure ⟨left, Same.binary sameBase sameExponent⟩

theorem sign_reads {tokens : List TokenKind} (span : Span) {op : UnaryOp} {node : Node}
    (sign : op ≠ .not) (operand : Reads factor .factor tokens (Same node)) :
    Reads factor .factor (unaryToken op :: tokens) (Same ⟨span, .unary op node⟩) := by
  intro depth place rest enough stands stops
  rw [List.cons_append] at stands
  have found : prefixOp? place.current.kind = some op := by
    rw [Place.current_of_kinds stands]
    cases op with
    | not => exact absurd rfl sign
    | _ => rfl
  refine Gives.peek ?_
  simp only [found]
  refine Gives.advance stands (by cases op <;> nofun)
    (List.append_ne_nil_of_right_ne_nil _ stops.ne_nil) fun next left => ?_
  refine Gives.bind (operand.descended (fun _ => rfl) enough left stops) ?_
  rintro operand' next ⟨left, sameOperand⟩
  exact Gives.nodeFrom fun span => ⟨left, Same.unary sameOperand⟩

theorem negation_reads {tokens : List TokenKind} {span : Span} {node : Node}
    (operand : Reads comparison .comparison tokens (Same node)) :
    Reads comparison .comparison (unaryToken .not :: tokens) (Same ⟨span, .unary .not node⟩) := by
  intro depth place rest enough stands stops
  rw [List.cons_append] at stands
  refine Gives.peek ?_
  have here : place.current.kind = .keyword .notWord := Place.current_of_kinds stands
  rw [if_pos here]
  refine Gives.advance stands nofun (List.append_ne_nil_of_right_ne_nil _ stops.ne_nil)
    fun next left => ?_
  refine Gives.bind (operand.descended (fun _ => rfl) enough left stops) ?_
  rintro operand' next ⟨left, sameOperand⟩
  exact Gives.nodeFrom fun span => ⟨left, Same.unary sameOperand⟩

theorem binary_takes {tier : Tier} {first second : List TokenKind} {span : Span} {op : BinaryOp}
    {left right : Node} (grouped : Takes (.tier tier) first left) (operator : op ∈ tier.operators)
    (last : Takes tier.tighter second right) :
    Takes (.tier tier) (first ++ binaryToken op :: second) ⟨span, .binary op left right⟩ := by
  intro depth place rest good enough stands stops continued
  rw [List.append_assoc, List.cons_append] at stands
  simp only [List.length_append, List.length_cons] at enough
  have goesOn := continues?_binaryToken operator
  have inner : binaryToken op ≠ .endOfFile := by
    intro same
    rw [same] at goesOn
    cases goesOn
  have looser : (Level.tier tier).rank < tier.tighter.rank := by
    cases tier <;> decide
  refine grouped depth place _ good (by omega) stands (Stops.of_looser goesOn looser _) ?_
  rintro left' next fuel ⟨here, sameLeft⟩ bound
  simp only [List.length_append, List.length_cons] at bound
  cases fuel with
  | zero => omega
  | succ fuel =>
      refine Gives.peek ?_
      simp only [Place.current_of_kinds here, Tier.op?_binaryToken operator]
      refine Gives.advance here inner (List.append_ne_nil_of_right_ne_nil _ stops.ne_nil)
        fun next here => ?_
      refine Gives.bind (last.reads depth next rest (by omega) here stops) ?_
      rintro right' next ⟨here, sameRight⟩
      exact continued _ next fuel ⟨here, Same.binary sameLeft sameRight⟩ (by omega)

/-! ## Every writing is read -/

/-- What is read from the tokens of each kind of slot. -/
def Slot.Reads : (slot : Slot) → List TokenKind → slot.Tree → Prop
  | .within required, tokens, node => Takes required tokens node
  | .bare, tokens, node => Takes (formLevel node.form) tokens node
  | .step, tokens, node => Feeds stepStart callSuffixes .atom tokens node
  | .steps, tokens, nodes => ReadsSteps tokens nodes
  | .operands, tokens, nodes => ReadsOperands tokens nodes
  | .links, tokens, further => ReadsLinks tokens further
  | .items, tokens, nodes => ReadsItems tokens nodes

theorem Writes.reads {sparing : Bool} {slot : Slot} {tokens : List TokenKind} {tree : slot.Tree}
    (writes : Writes sparing slot tokens tree) : slot.Reads tokens tree := by
  induction writes with
  | plain fits form reads => exact Takes.within form.begins reads fits
  | @parenthesised required tokens node _ inner reads =>
      have begins : Begins .atom (.opening .round :: (tokens ++ [.closing .round])) :=
        ⟨_, _, .atom, rfl, rfl, Nat.le_refl _⟩
      have atom : Takes .atom (.opening .round :: (tokens ++ [.closing .round])) node :=
        parenthesised_reads inner.begins reads
      refine atom.within begins ?_
      cases required with
      | tier tier => cases tier <;> decide
      | _ => decide
  | number => exact literal_reads _
  | text => exact text_reads _
  | name => exact name_reads _
  | inspect => exact inspect_reads _
  | placeholder => exact placeholder_reads
  | list _ items => exact list_reads items
  | call _ _ callee items => exact call_feeds callee items
  | chain _ _ some base steps => exact chain_reads (Or.inr ⟨some, _, rfl⟩) (Takes.reads base) steps
  | power _ _ base exponent => exact power_reads base exponent
  | @sign span _ op _ sign _ operand =>
      have whole := sign_reads span sign operand
      cases op with
      | not => exact absurd rfl sign
      | _ => exact whole
  | binary _ operator _ left right =>
      change Takes (operatorLevel _) _ _
      rw [operatorLevel_of_mem operator]
      exact binary_takes left operator right
  | negation _ operand => exact negation_reads operand
  | comparison start _ some first links =>
      exact comparison_reads (Or.inr ⟨some, _, rfl⟩) start.begins (Takes.reads first) links
  | fallback _ _ some first operands =>
      exact fallback_reads (Or.inr ⟨some, _, rfl⟩) (Takes.reads first) operands
  | noItems => exact Or.inl ⟨rfl, rfl⟩
  | lastItem last reads => exact lastItem_reads last.begins reads
  | nextItem first _ some reads later => exact nextItem_reads first.begins reads some later
  | noLinks => exact noLinks_reads
  | nextLink _ _ first later => exact nextLink_reads (Takes.reads first) later
  | noOperands => exact noOperands_reads
  | nextOperand _ _ first later => exact nextOperand_reads (Takes.reads first) later
  | noSteps => exact noSteps_reads
  | nextStep _ _ first later => exact nextStep_reads (step_reads first) later
  | stepName => exact stepName_feeds _
  | stepCall _ _ callee items => exact call_feeds callee items

/-! ## Programs of one expression -/

theorem statement_reads {tokens : List TokenKind} {same : Node → Prop}
    (begins : Begins .fallback tokens) (reads : Reads fallback .fallback tokens same) :
    Reads statement .fallback tokens same := by
  intro depth place rest enough stands stops
  have read := expression_reads begins reads depth place rest enough stands stops
  rcases begins with ⟨kind, later, started, rfl, starts, -⟩
  rw [← Place.current_of_kinds stands] at starts
  refine Gives.peek ?_
  generalize place.current.kind = kind at starts ⊢
  cases kind with
  | keyword word => cases word <;> first | exact read | cases starts
  | _ => exact read

/-- The first token of an expression does not end the statements of a program. -/
theorem Begins.goes_on {level : Level} {tokens rest : List TokenKind} {place : Place}
    (begins : Begins level tokens) (stands : place.kinds = tokens ++ rest) :
    isAtStop [] place = .ok (false, place) := by
  rcases begins with ⟨kind, later, started, rfl, starts, -⟩
  unfold isAtStop
  rw [Place.current_of_kinds stands]
  cases kind with
  | endOfFile => cases starts
  | _ => rfl

theorem program_reads {tokens : List TokenKind} {node : Node} {depth : Nat} {place : Place}
    (begins : Begins .fallback tokens) (reads : Reads fallback .fallback tokens (Same node))
    (enough : tokens.length < depth) (stands : place.kinds = tokens ++ [.endOfFile]) :
    Gives place (program (descend depth)) fun result _ => Same ⟨nowhere, .block [node]⟩ result := by
  have listed : Gives place (repeated (statementList (descend depth) []))
      (Leaves [.endOfFile] (SameAll [node])) := by
    refine Gives.repeated fun fuel bound => ?_
    cases fuel with
    | zero => simp [Place.kinds] at bound
    | succ fuel =>
        refine Gives.step (begins.goes_on stands) ?_
        refine Gives.bind ((statement_reads begins reads).descended (fun _ => rfl) enough stands
          (Stops.of_none rfl _ _)) ?_
        rintro value next ⟨left, sameValue⟩
        refine Gives.ifAt_elsewhere (Place.current_ne left TokenKind.noConfusion) ?_
        exact Gives.pure ⟨left, SameAll.cons sameValue rfl⟩
  have read : Gives place (statements (descend depth) [])
      (Leaves [.endOfFile] (Same ⟨nowhere, .block [node]⟩)) := by
    refine Gives.peek ?_
    refine Gives.skipNewlines (begins.not_newline stands) ?_
    refine Gives.bind listed ?_
    rintro body next ⟨left, sameBody⟩
    exact Gives.nodeFrom fun span => ⟨left, SameAll.block sameBody⟩
  refine Gives.bind read ?_
  rintro body next ⟨left, sameBody⟩
  exact Gives.ifAt_here (Place.current_of_kinds left) (Gives.pure sameBody)

/-- The tokens of an expression are parsed as the program of that expression. -/
theorem Writes.parses {sparing : Bool} {node : Node} {tokens : List Token} {last : Token}
    (writes : Writes sparing (.within .fallback) (tokens.map Token.kind) node)
    (ends : last.kind = .endOfFile) :
    ∃ program, parse (tokens ++ [last]) = .ok program ∧ Same ⟨nowhere, .block [node]⟩ program := by
  have enough : (tokens.map Token.kind).length < (tokens ++ [last]).length + 2 := by
    rw [List.length_map, List.length_append]
    omega
  rcases program_reads writes.begins (Takes.reads writes.reads) enough (kinds_ofTokens ends) with
    ⟨result, next, read, same⟩
  exact ⟨result, outcome_ok.mpr ⟨next, read⟩, same⟩

/--
Every expression can be written with brackets only where a part binds too loosely for its
position, and every way to write it, with any further brackets, is read as the program of
that expression.
-/
theorem parse_written {node : Node} (expression : Expression node) :
    (∃ kinds, Writes true (.within .fallback) kinds node) ∧
      ∀ (sparing : Bool) (tokens : List Token) (last : Token), last.kind = .endOfFile →
        Writes sparing (.within .fallback) (tokens.map Token.kind) node →
        ∃ program, parse (tokens ++ [last]) = .ok program ∧
          program.unplaced = (⟨nowhere, .block [node]⟩ : Node).unplaced := by
  refine ⟨expression.written.1.within .fallback, ?_⟩
  intro sparing tokens last ends writes
  exact writes.parses ends

/-- `-a ^ 2 * (b ? c)`, of which the last factor needs brackets. -/
def sampleProduct : Node :=
  ⟨nowhere, .binary .mul
    ⟨nowhere, .unary .neg
      ⟨nowhere, .binary .pow ⟨nowhere, .name "a"⟩ ⟨nowhere, .number (.int 2)⟩⟩⟩
    ⟨nowhere, .fallback [⟨nowhere, .name "b"⟩, ⟨nowhere, .name "c"⟩]⟩⟩

/-- The product with brackets around its exponent, too. -/
def sampleWriting : List Token :=
  [.symbol .minus, .identifier "a", .symbol .caret, .opening .round, .int 2, .closing .round,
    .symbol .star, .opening .round, .identifier "b", .symbol .question, .identifier "c",
    .closing .round].map fun kind => ⟨kind, nowhere⟩

theorem sampleProduct_expression : Expression sampleProduct := by
  refine .binary nofun (.unary (.binary nofun .name .number)) (.fallback (by decide) ?_)
  exact List.forall_mem_cons.mpr ⟨.name, List.forall_mem_singleton.mpr .name⟩

theorem sampleWriting_writes :
    Writes false (.within .fallback) (sampleWriting.map Token.kind) sampleProduct := by
  have exponent : Writes false (.within .factor) _ ⟨nowhere, .number (.int 2)⟩ :=
    .parenthesised nofun (.plain (by decide) .number)
  have square : Writes false .bare _ ⟨nowhere, .binary .pow ⟨nowhere, .name "a"⟩ _⟩ :=
    .power (.plain (by decide) .name) exponent
  have other : Writes false .operands _ [⟨nowhere, .name "c"⟩] :=
    .nextOperand (.plain (by decide) .name) .noOperands
  have choice : Writes false .bare _ ⟨nowhere, .fallback (⟨nowhere, .name "b"⟩ :: _)⟩ :=
    .fallback (.plain (by decide) .name) other nofun
  have product : Writes false .bare _ sampleProduct :=
    .binary (.plain (by decide) (.sign nofun (.plain (by decide) square)))
      (by decide : _ ∈ Tier.term.operators) (.parenthesised nofun (.plain (by decide) choice))
  exact .plain (by decide) product

theorem sampleProduct_written :
    Expression sampleProduct ∧
      Writes false (.within .fallback) (sampleWriting.map Token.kind) sampleProduct ∧
      ∃ program, parse (sampleWriting ++ [endToken .start]) = .ok program ∧
        program.unplaced = (⟨nowhere, .block [sampleProduct]⟩ : Node).unplaced :=
  ⟨sampleProduct_expression, sampleWriting_writes,
    (parse_written sampleProduct_expression).2 false sampleWriting (endToken .start) rfl
      sampleWriting_writes⟩

end Grammar
end Scripting
