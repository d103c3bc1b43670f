import Mathlib.Data.List.Nodup
import Scripting.Grammar.Statement
import Scripting.Proofs.TokenPassing

namespace Scripting
namespace Grammar

/-!
Readers follow the grammar.

Every reader passes a derivation of the tree it makes, provided that the readers it
descends to do.  One lemma a reader says so; by induction on the depth of the descent it
holds of the whole grammar, and so of every program that is read.
-/

open Lexical (Bracket Keyword Symbol Token TokenKind)
open Source (Position Span)
open Program

variable {α β : Type} {place : Place}

/-- The parts of the grammar that contain themselves are read as the rules say. -/
structure Follows (reads : Descent) : Prop where
  statement : ∀ place, Yields place (reads .statement) (Derives .statement)
  expression : ∀ place, Yields place (reads .expression) (Derives .expression)
  comparison : ∀ place, Yields place (reads .comparison) (Derives .comparison)
  factor : ∀ place, Yields place (reads .factor) (Derives .factor)
  chain : ∀ place, Yields place (reads .chain) (Derives .chain)

variable {self : Descent}

/-! ## Names and signs -/

theorem label_yields : Yields place label fun passed name =>
    passed = namedAfter (.symbol .colon) name := by
  refine Yields.ifEat nofun (fun next => ?_) (fun _ => Yields.pure rfl)
  exact Yields.identifier fun name span next => Yields.pure rfl

theorem nameAfterAs_yields {expected : Expectation} :
    Yields place (nameAfterAs expected) fun passed name =>
      passed = namedAfter (.keyword .asWord) name := by
  refine Yields.ifEat nofun (fun next => ?_) (fun _ => Yields.pure rfl)
  exact Yields.identifier fun name span next => Yields.pure rfl

theorem readInto_yields : Yields place readInto fun passed name =>
    passed = namedAfter (.symbol .redirect) name := by
  refine Yields.ifEat nofun (fun next => ?_) (fun _ => Yields.pure rfl)
  exact Yields.identifier fun name span next => Yields.pure rfl

theorem functionName_yields : Yields place functionName fun passed name =>
    passed = nameTokens name := by
  refine Yields.ifAt (fun _ => Yields.pure rfl) (fun _ => ?_)
  exact Yields.identifier fun name span next => Yields.pure rfl

theorem signedDigits_yields {negative : Bool} {digits : Int64} {span : Span} :
    Yields place (signedDigits negative digits span) fun passed power =>
      passed = [] ∧ power = if negative = true then -digits else digits := by
  intro _ power next read
  rcases signedDigits_ok read with ⟨rfl, rfl⟩
  exact ⟨[], rfl, rfl, rfl⟩

/-- A number alone, or with a power of ten that is negated behind a minus sign. -/
theorem number_scales {value : Literal} {span : Span} :
    Yields place (number value span) fun passed node =>
      passed = [] ∧ node = ⟨span, .number value⟩ ∨
      ∃ signed power exponentSpan, passed = .exponent :: signed ∧ Exponent signed power ∧
        node = binaryNode .scale ⟨span, .number value⟩ ⟨exponentSpan, .number (.int power)⟩ := by
  refine Yields.ifEat nofun (fun next => ?_) (fun _ => Yields.pure (Or.inl ⟨rfl, rfl⟩))
  refine Yields.peek ?_
  have sign : Yields next exponentSign fun passed negative => ∀ digits,
      Exponent (passed ++ [.int digits]) (if negative = true then -digits else digits) := by
    refine Yields.ifEat nofun (fun next => Yields.pure fun digits => .minus) (fun _ => ?_)
    refine (eat_yields (.symbol .plus) nofun).bind fun passed _ next optionalSign => ?_
    refine Yields.pure fun digits => ?_
    rcases optionalSign with rfl | rfl
    · exact .plain
    · exact .plus
  refine sign.bind fun signs negative next signed => ?_
  refine Yields.peek ?_
  split
  · rename_i digits found
    refine Yields.advance found nofun fun token next => ?_
    refine signedDigits_yields.bind fun none power next result => ?_
    rcases result with ⟨rfl, rfl⟩
    refine Yields.thenNode fun exponentSpan => ?_
    exact Yields.pure (Or.inr ⟨_, _, exponentSpan, rfl, signed digits, rfl⟩)
  · exact Yields.unexpected

theorem number_yields {value : Literal} {span : Span} :
    Yields place (number value span) fun passed node =>
      Derives .atom (literalToken value :: passed) node := by
  refine number_scales.mono fun passed node scales => ?_
  rcases scales with ⟨rfl, rfl⟩ | ⟨signed, power, exponentSpan, rfl, exponent, rfl⟩
  · exact .number
  · exact .scaled exponent

/-! ## Brackets -/

theorem bracketedItems_yields (follows : Follows self) (fuel : Nat) :
    Yields place (bracketedItems (self .expression) fuel) (Derives .items) := by
  induction fuel generalizing place with
  | zero =>
      refine (follows.expression place).bind fun tokens node next first => Yields.pure ?_
      exact .lastItem first (List.forall_mem_nil _)
  | succ fuel ih =>
      refine (follows.expression place).bind fun tokens node next first => ?_
      refine Yields.skipNewlines fun gap next newlines _ => ?_
      refine Yields.ifEat nofun (fun next => ?_) (fun _ => Yields.pure ?_)
      · refine Yields.skipNewlines fun gap' next newlines' _ => ?_
        refine ih.bind fun others nodes next later => Yields.pure ?_
        rw [List.append_nil]
        exact .nextItem first newlines newlines' later
      · rw [List.append_nil]
        exact .lastItem first newlines

theorem arguments_yields (follows : Follows self) :
    Yields place (arguments self) (Derives (.bracketed .round)) := by
  refine Yields.skipNewlines fun gap next newlines _ => ?_
  refine Yields.ifEat nofun (fun next => Yields.pure (.noneBracketed newlines)) (fun _ => ?_)
  refine (Yields.repeated (bracketedItems_yields follows)).bind fun tokens nodes next items => ?_
  exact Yields.expect nofun fun token next => Yields.pure (.bracketed newlines items)

theorem listElements_yields (follows : Follows self) :
    Yields place (listElements self) (Derives (.bracketed .square)) := by
  refine Yields.skipNewlines fun gap next newlines _ => ?_
  refine Yields.ifEat nofun (fun next => Yields.pure (.noneBracketed newlines)) (fun _ => ?_)
  refine (Yields.repeated (bracketedItems_yields follows)).bind fun tokens nodes next items => ?_
  refine Yields.ifEat nofun (fun next => Yields.pure ?_) (fun _ => Yields.unexpected)
  exact .bracketed newlines items

theorem bracketed_yields (follows : Follows self) (found : place.current.kind = .opening .round) :
    Yields place (bracketed self) (Derives .atom) := by
  refine Yields.advance found nofun fun token next => ?_
  refine Yields.skipNewlines fun gap next newlines _ => ?_
  refine (follows.expression next).bind fun tokens node next inner => ?_
  refine Yields.skipNewlines fun gap' next newlines' _ => ?_
  exact Yields.expect nofun fun token next => Yields.pure (.parenthesised newlines inner newlines')

theorem listLiteral_yields (follows : Follows self)
    (found : place.current.kind = .opening .square) :
    Yields place (listLiteral self) (Derives .atom) := by
  refine Yields.advance found nofun fun token next => ?_
  refine (listElements_yields follows).bind fun tokens elements next inner => ?_
  refine Yields.nodeFrom fun span => ?_
  rw [List.append_nil]
  exact .list inner

/-! ## Bodies -/

theorem isAtStop_bind {stop : List Keyword} {chosen other : Reader β}
    {condition : List TokenKind → β → Prop} (here : Yields place chosen condition)
    (elsewhere : Yields place other condition) :
    Yields place (isAtStop stop >>= fun found => if found = true then chosen else other)
      condition := by
  intro ends value next read
  obtain ⟨found, between, passed, readRest⟩ := bind_ok read
  have stays : place = between := by
    cases passed
    rfl
  subst stays
  cases found with
  | true => exact here ends value next readRest
  | false => exact elsewhere ends value next readRest

theorem statementList_yields (follows : Follows self) (stop : List Keyword) (fuel : Nat) :
    Yields place (statementList self stop fuel) (Derives .statements) := by
  induction fuel generalizing place with
  | zero => exact Yields.pure .noStatements
  | succ fuel ih =>
      refine isAtStop_bind (Yields.pure .noStatements) ?_
      refine (follows.statement place).bind fun tokens node next first => ?_
      refine Yields.ifAt (fun newline => ?_) (fun _ => Yields.pure ?_)
      · refine Yields.skipNewlines fun gap next newlines some => ?_
        obtain ⟨later, rfl⟩ := some newline
        refine ih.bind fun others nodes next following => Yields.pure ?_
        rw [List.append_nil]
        exact .nextStatement first (List.forall_mem_cons.mp newlines).2 following
      · rw [List.append_nil]
        exact .lastStatement first

/-- A block passes the newline that it starts with, if there is one. -/
theorem statements_yields (follows : Follows self) (stop : List Keyword) :
    Yields place (statements self stop) fun passed node => Derives .block passed node ∧
      (place.current.kind = .newline → ∃ later, passed = .newline :: later) := by
  refine Yields.peek ?_
  refine Yields.skipNewlines fun gap next newlines some => ?_
  refine (Yields.repeated (statementList_yields follows stop)).bind fun tokens nodes next inner => ?_
  refine Yields.nodeFrom fun span => ?_
  rw [List.append_nil]
  refine ⟨.block newlines inner, fun newline => ?_⟩
  obtain ⟨later, rfl⟩ := some newline
  exact ⟨later ++ tokens, rfl⟩

theorem closedBlock_yields (follows : Follows self) {opener : Keyword} {span : Span}
    {closer : Keyword} (newline : place.current.kind = .newline) :
    Yields place (closedBlock self opener span closer) fun passed node =>
      ∃ lines, passed = .newline :: (lines ++ [.keyword closer]) ∧
        Derives .block (.newline :: lines) node := by
  refine Yields.enterBlock fun next same => ?_
  refine (statements_yields follows _).bind fun tokens node after block => ?_
  obtain ⟨derives, begins⟩ := block
  obtain ⟨lines, rfl⟩ := begins (same ▸ newline)
  exact Yields.leaveBlock fun next => Yields.pure ⟨lines, rfl, derives⟩

theorem loopBody_yields (follows : Follows self) {opener : Keyword} {span : Span} :
    Yields place (loopBody self opener span) fun passed body => ∃ tokens,
      passed = tokens ++ closing body.2 ∧ Derives .layout tokens body := by
  refine Yields.ifAt (fun newline => ?_) (fun _ => ?_)
  · refine (closedBlock_yields follows newline).bind fun passed node next block => Yields.pure ?_
    obtain ⟨lines, rfl, derives⟩ := block
    exact ⟨.newline :: lines, by rw [List.append_nil]; rfl, .ownLines derives⟩
  · refine (follows.statement place).bind fun tokens node next inner => Yields.pure ?_
    exact ⟨tokens, rfl, .sameLine inner⟩

theorem furtherCases_yields (follows : Follows self) {body lastBody : Reader Node} {block : Bool}
    (arm : ∀ place, Yields place body (Derives (.arm block)))
    (lastArm : ∀ place, Yields place lastBody (Derives (.arm block))) (fuel : Nat) :
    Yields place (furtherCases self body lastBody fuel) (Derives (.cases block)) := by
  induction fuel generalizing place with
  | zero => exact Yields.pure .noCases
  | succ fuel ih =>
      refine Yields.ifEat nofun (fun next => ?_) (fun _ => ?_)
      · refine (follows.expression next).bind fun conditions condition next tested => ?_
        refine Yields.expect nofun fun token next => ?_
        refine (arm next).bind fun tokens chosen next inner => ?_
        refine ih.bind fun others cases next later => Yields.pure ?_
        rw [List.append_nil]
        exact .nextCase tested inner later
      · refine Yields.ifEat nofun (fun next => ?_) (fun _ => Yields.pure .noCases)
        refine (lastArm next).bind fun tokens node next inner => Yields.pure ?_
        rw [List.append_nil]
        exact .otherwise inner

theorem conditional_yields (follows : Follows self)
    (found : place.current.kind = .keyword .ifWord) :
    Yields place (conditional self) (Derives .atom) := by
  have block : ∀ stop place, Yields place (statements self stop) (Derives (.arm true)) :=
    fun stop place => (statements_yields follows stop).mono fun _ _ block => .armOwnLines block.1
  have inline : ∀ place, Yields place (self .statement) (Derives (.arm false)) :=
    fun place => (follows.statement place).mono fun _ _ inner => .armSameLine inner
  refine Yields.advance found nofun fun token next => ?_
  refine (follows.expression next).bind fun conditions condition next tested => ?_
  refine Yields.expect nofun fun token next => ?_
  refine Yields.ifAt (fun newline => ?_) (fun _ => ?_)
  · refine Yields.enterBlock fun next same => ?_
    refine (statements_yields follows _).bind fun tokens first after body => ?_
    obtain ⟨lines, rfl⟩ := body.2 (same ▸ newline)
    refine (Yields.repeated (furtherCases_yields follows (block _) (block _))).bind
      fun others cases next later => ?_
    refine Yields.leaveBlock fun next => Yields.nodeFrom fun span => ?_
    exact .conditional tested (.ownLines body.1) later
  · refine (follows.statement next).bind fun tokens first next body => ?_
    refine (Yields.repeated (furtherCases_yields follows inline inline)).bind
      fun others cases next later => ?_
    refine Yields.nodeFrom fun span => ?_
    exact .conditional tested (.sameLine body) later

theorem stepClause_yields (follows : Follows self) :
    Yields place (stepClause self) (Derives (.clause [.keyword .stepWord])) := by
  refine Yields.ifEat nofun (fun next => ?_) (fun _ => Yields.pure .noClause)
  refine (follows.expression next).bind fun tokens node next given => Yields.pure ?_
  rw [List.append_nil]
  exact .clause given

theorem forLoop_yields (follows : Follows self) (found : place.current.kind = .keyword .forWord) :
    Yields place (forLoop self) (Derives .atom) := by
  refine Yields.advance found nofun fun token next => ?_
  refine label_yields.bind fun labels name next labelled => ?_
  subst labelled
  refine Yields.identifier fun counter span next => ?_
  refine Yields.ifEat nofun (fun next => ?_) (fun _ => ?_)
  · refine (follows.expression next).bind fun firsts first next starts => ?_
    refine Yields.expect nofun fun token next => ?_
    refine (follows.expression next).bind fun lasts last next stops => ?_
    refine (stepClause_yields follows).bind fun steps step next advances => ?_
    refine Yields.expect nofun fun token next => ?_
    refine (loopBody_yields follows).bind fun passed body next inner => ?_
    obtain ⟨tokens, rfl, layout⟩ := inner
    refine Yields.nodeFrom fun span => ?_
    rw [List.append_nil]
    exact .countedLoop starts stops advances layout
  · refine Yields.ifEat nofun (fun next => ?_) (fun _ => Yields.unexpected)
    refine (follows.expression next).bind fun visited items next visits => ?_
    refine Yields.expect nofun fun token next => ?_
    refine (loopBody_yields follows).bind fun passed body next inner => ?_
    obtain ⟨tokens, rfl, layout⟩ := inner
    refine Yields.nodeFrom fun span => ?_
    rw [List.append_nil]
    exact .eachLoop visits layout

theorem whileLoop_yields (follows : Follows self)
    (found : place.current.kind = .keyword .whileWord) :
    Yields place (whileLoop self) (Derives .atom) := by
  refine Yields.advance found nofun fun token next => ?_
  refine label_yields.bind fun labels name next labelled => ?_
  subst labelled
  refine (follows.expression next).bind fun conditions condition next tested => ?_
  refine Yields.expect nofun fun token next => ?_
  refine (loopBody_yields follows).bind fun passed body next inner => ?_
  obtain ⟨tokens, rfl, layout⟩ := inner
  refine Yields.nodeFrom fun span => ?_
  rw [List.append_nil]
  exact .whileLoop tested layout

theorem endlessLoop_yields (follows : Follows self)
    (found : place.current.kind = .keyword .loopWord) :
    Yields place (endlessLoop self) (Derives .atom) := by
  refine Yields.advance found nofun fun token next => ?_
  refine label_yields.bind fun labels name next labelled => ?_
  subst labelled
  refine (eat_yields (.keyword .thenWord) nofun).bind fun filler _ next optionalWord => ?_
  refine (loopBody_yields follows).bind fun passed body next inner => ?_
  obtain ⟨tokens, rfl, layout⟩ := inner
  refine Yields.nodeFrom fun span => ?_
  rw [List.append_nil]
  exact .endlessLoop optionalWord layout

theorem doBody_yields (follows : Follows self) {span : Span} :
    Yields place (doBody self span) fun passed body => ∃ tokens,
      passed = tokens ++ [.keyword .thenWord] ∧ Derives .layout tokens body := by
  refine Yields.ifAt (fun newline => ?_) (fun _ => ?_)
  · refine (closedBlock_yields follows newline).bind fun passed node next block => Yields.pure ?_
    obtain ⟨lines, rfl, derives⟩ := block
    exact ⟨.newline :: lines, by rw [List.append_nil]; rfl, .ownLines derives⟩
  · refine (follows.statement place).bind fun tokens node next inner => ?_
    exact Yields.expect nofun fun token next => Yields.pure ⟨tokens, rfl, .sameLine inner⟩

theorem doLoop_yields (follows : Follows self) (found : place.current.kind = .keyword .doWord) :
    Yields place (doLoop self) (Derives .atom) := by
  refine Yields.advance found nofun fun token next => ?_
  refine label_yields.bind fun labels name next labelled => ?_
  subst labelled
  refine (doBody_yields follows).bind fun passed body next inner => ?_
  obtain ⟨tokens, rfl, layout⟩ := inner
  refine Yields.expect nofun fun token next => ?_
  refine Yields.expect nofun fun token next => ?_
  refine (follows.expression next).bind fun conditions condition next tested => ?_
  refine Yields.nodeFrom fun span => ?_
  rw [List.append_nil, List.append_assoc]
  exact .doLoop layout tested

/-! ### Functions and classes -/

/-- Parameters in the order in which they are written. -/
def Parameters.written (given : Parameters) : List (String × Option Node) :=
  writtenParameters given.required given.optional

def Parameters.names (given : Parameters) : List String :=
  given.required ++ given.optional.map Prod.fst

theorem Parameters.contains_iff {given : Parameters} {name : String} :
    given.contains name = true ↔ name ∈ given.names := by
  simp [Parameters.contains, Parameters.names]

/-- A parameter is added behind the others, under a name that none of them has. -/
theorem parameter_yields (follows : Follows self) {given : Parameters}
    (distinct : given.names.Nodup) :
    Yields place (parameter self given) fun passed extended => extended.names.Nodup ∧
      ∃ added, extended.written = given.written ++ [added] ∧
        Derives (.element .parameter) passed added := by
  refine Yields.identifier fun name span next => ?_
  by_cases known : given.contains name = true
  · simp only [known, if_true]
    exact Yields.failAt
  simp only [known]
  have fresh : name ∉ given.names := fun member => known (Parameters.contains_iff.mpr member)
  refine Yields.ifEat nofun (fun next => ?_) (fun _ => ?_)
  · refine (follows.expression next).bind fun tokens value next standard => Yields.pure ?_
    refine ⟨?_, (name, some value), ?_, ?_⟩
    · have extended : Parameters.names { given with optional := given.optional ++ [(name, value)] } =
          given.names ++ [name] := by
        simp [Parameters.names]
      rw [extended]
      exact List.concat_eq_append ▸ List.Nodup.concat fresh distinct
    · simp [Parameters.written, writtenParameters]
    · rw [List.append_nil]
      exact .optional standard
  · by_cases optional : (!given.optional.isEmpty) = true
    · rw [if_pos optional]
      exact Yields.failAt
    · rw [if_neg optional]
      have none : given.optional = [] := by simpa using optional
      refine Yields.pure ⟨?_, (name, Option.none), ?_, .required⟩
      · have extended : Parameters.names { given with required := given.required ++ [name] } =
            given.names ++ [name] := by
          simp [Parameters.names, none]
        rw [extended]
        exact List.concat_eq_append ▸ List.Nodup.concat fresh distinct
      · simp [Parameters.written, writtenParameters, none]

theorem parameterList_yields (follows : Follows self) (fuel : Nat) {given : Parameters}
    (distinct : given.names.Nodup) :
    Yields place (parameterList self fuel given) fun passed extended => extended.names.Nodup ∧
      ∃ added, extended.written = given.written ++ added ∧
        Derives (.separated .parameter) passed added := by
  induction fuel generalizing place given with
  | zero =>
      refine (parameter_yields follows distinct).mono fun passed extended one => ?_
      rcases one with ⟨distinct, added, written, element⟩
      exact ⟨distinct, [added], written, .lastElement element⟩
  | succ fuel ih =>
      refine (parameter_yields follows distinct).bind fun tokens extended next one => ?_
      rcases one with ⟨distinct, added, written, element⟩
      refine Yields.ifEat nofun (fun next => ?_) (fun _ => Yields.pure ?_)
      · refine (ih distinct).mono fun passed complete others => ?_
        rcases others with ⟨distinct, more, further, later⟩
        refine ⟨distinct, added :: more, ?_, .nextElement element later⟩
        rw [further, written, List.append_assoc, List.singleton_append]
      · rw [List.append_nil]
        exact ⟨distinct, [added], written, .lastElement element⟩

theorem parameters_yields (follows : Follows self) :
    Yields place (parameters self) fun passed given => given.names.Nodup ∧
      ∃ tokens, passed = .opening .round :: (tokens ++ [.closing .round]) ∧
        Derives .parameters tokens given.written := by
  have read : ∀ place, Yields place
      (isAt (.closing .round) >>= fun found => if found = true then pure ⟨[], []⟩
        else repeated fun fuel => parameterList self fuel ⟨[], []⟩)
      fun passed given => given.names.Nodup ∧ Derives .parameters passed given.written := by
    intro place
    refine Yields.ifAt (fun _ => Yields.pure ⟨List.nodup_nil, .noParameters⟩) (fun _ => ?_)
    refine Yields.repeated fun fuel => ?_
    have none : (⟨[], []⟩ : Parameters).names.Nodup := List.nodup_nil
    refine (parameterList_yields follows fuel none).mono fun passed given all => ?_
    rcases all with ⟨distinct, added, written, separated⟩
    exact ⟨distinct, .parameters (written ▸ separated)⟩
  refine Yields.expect nofun fun token next => ?_
  refine (read next).bind fun tokens given next all => ?_
  exact Yields.expect nofun fun token next => Yields.pure ⟨all.1, tokens, rfl, all.2⟩

theorem function_yields (follows : Follows self) (found : place.current.kind = .keyword .defWord) :
    Yields place (function self) (Derives .atom) := by
  refine Yields.advance found nofun fun token next => ?_
  refine functionName_yields.bind fun names name next named => ?_
  subst named
  refine (parameters_yields follows).bind fun passed given next all => ?_
  rcases all with ⟨distinct, tokens, rfl, taken⟩
  simp only [List.cons_append, List.append_assoc, List.nil_append]
  refine Yields.ifEat nofun (fun next => ?_) (fun _ => ?_)
  · refine (follows.expression next).bind fun bodies body next value => ?_
    refine Yields.nodeFrom fun span => ?_
    rw [List.append_nil]
    exact .function taken distinct (.arrowBody value)
  · refine Yields.ifAt (fun newline => ?_) (fun _ => Yields.unexpected)
    refine (closedBlock_yields follows newline).bind fun bodies body next block => ?_
    rcases block with ⟨lines, rfl, derives⟩
    refine Yields.nodeFrom fun span => ?_
    rw [List.append_nil]
    exact .function taken distinct (.blockBody derives)

theorem parentClause_yields (follows : Follows self) :
    Yields place (parentClause self) (Derives .parent) := by
  refine Yields.ifEat nofun (fun next => ?_) (fun _ => Yields.pure .noParent)
  refine (follows.chain next).bind fun tokens node next extended => ?_
  exact Yields.expect nofun fun token next => Yields.pure (.parent extended)

theorem classDefinition_yields (follows : Follows self)
    (found : place.current.kind = .keyword .classWord) :
    Yields place (classDefinition self) (Derives .atom) := by
  refine Yields.advance found nofun fun token next => ?_
  refine Yields.identifier fun name span next => ?_
  refine (parentClause_yields follows).bind fun parents parent next inherits => ?_
  refine Yields.ifEat nofun (fun next => ?_) (fun _ => ?_)
  · refine (follows.statement next).bind fun bodies body next inner => ?_
    refine Yields.nodeFrom fun span => ?_
    rw [List.append_nil]
    exact .classDef inherits (.arrowClass inner)
  · refine Yields.ifAt (fun newline => ?_) (fun _ => Yields.unexpected)
    refine (closedBlock_yields follows newline).bind fun bodies body next block => ?_
    rcases block with ⟨lines, rfl, derives⟩
    refine Yields.nodeFrom fun span => ?_
    rw [List.append_nil]
    exact .classDef inherits (.blockClass derives)

/-! ## Atoms -/

theorem atom_yields (follows : Follows self) : Yields place (atom self) (Derives .atom) := by
  refine Yields.peek ?_
  cases found : place.current.kind with
  | int value => exact Yields.advance found nofun fun token next => number_yields
  | float value => exact Yields.advance found nofun fun token next => number_yields
  | text value => exact Yields.advance found nofun fun token next => Yields.pure .text
  | identifier name => exact Yields.advance found nofun fun token next => Yields.pure .name
  | symbol mark =>
      cases mark with
      | dollar =>
          refine Yields.advance found nofun fun token next => ?_
          exact Yields.identifier fun name span next => Yields.nodeFrom fun span => .inspect
      | _ => exact Yields.unexpected
  | opening bracket =>
      cases bracket with
      | round => exact bracketed_yields follows found
      | square => exact listLiteral_yields follows found
  | keyword word =>
      cases word with
      | defaultWord => exact Yields.advance found nofun fun token next => Yields.pure .placeholder
      | ifWord => exact conditional_yields follows found
      | forWord => exact forLoop_yields follows found
      | whileWord => exact whileLoop_yields follows found
      | doWord => exact doLoop_yields follows found
      | loopWord => exact endlessLoop_yields follows found
      | defWord => exact function_yields follows found
      | classWord => exact classDefinition_yields follows found
      | _ => exact Yields.unexpected
  | _ => exact Yields.unexpected

/-! ## Calls and attributes -/

/-- Calls go behind what is called, whatever rule that was made by. -/
theorem callSuffixes_yields (follows : Follows self) {made : List TokenKind → Node → Prop}
    (call : ∀ {span front given callee arguments}, made front callee →
      Derives (.bracketed .round) given arguments →
      made (front ++ .opening .round :: given) ⟨span, .call callee arguments⟩)
    (fuel : Nat) {front : List TokenKind} {callee : Node} (start : made front callee) :
    Yields place (callSuffixes self fuel callee) fun passed node => made (front ++ passed) node := by
  have nothing : made (front ++ []) callee := by rwa [List.append_nil]
  induction fuel generalizing place front callee with
  | zero => exact Yields.pure nothing
  | succ fuel ih =>
      refine Yields.ifEat nofun (fun next => ?_) (fun _ => Yields.pure nothing)
      refine (arguments_yields follows).bind fun given arguments next passed => ?_
      refine Yields.thenNode fun span => ?_
      have longer := @call span _ _ _ _ start passed
      refine (ih longer (by rwa [List.append_nil])).mono fun more node result => ?_
      rwa [List.append_assoc, List.cons_append] at result

theorem calledName_yields (follows : Follows self) {expected : Expectation} :
    Yields place (calledName self expected) (Derives .step) := by
  refine Yields.identifier fun name span next => ?_
  exact Yields.repeated fun fuel =>
    callSuffixes_yields follows Derives.stepCall fuel Derives.stepName

theorem attributeSteps_yields (follows : Follows self) (fuel : Nat) :
    Yields place (attributeSteps self fuel) (Derives .steps) := by
  induction fuel generalizing place with
  | zero => exact Yields.pure .noSteps
  | succ fuel ih =>
      refine Yields.ifEat nofun (fun next => ?_) (fun _ => Yields.pure .noSteps)
      refine (calledName_yields follows).bind fun tokens node next first => ?_
      refine ih.bind fun others nodes next later => Yields.pure ?_
      rw [List.append_nil]
      exact .nextStep first later

/-- A base is itself without steps and an attribute chain with some. -/
theorem attributeChain_cases (base : Node) (steps : List Node) :
    steps = [] ∧ attributeChain base steps = base ∨
      steps ≠ [] ∧ ∃ span, attributeChain base steps = ⟨span, .attribute base steps⟩ := by
  unfold attributeChain
  cases last : steps.getLast? with
  | none => exact Or.inl ⟨List.getLast?_eq_none_iff.mp last, rfl⟩
  | some node =>
      refine Or.inr ⟨?_, _, rfl⟩
      rintro rfl
      cases last

theorem chain_yields (follows : Follows self) : Yields place (chain self) (Derives .chain) := by
  refine (atom_yields follows).bind fun atoms atom next first => ?_
  have calls : Yields next (called self atom) fun passed node => Derives .call (atoms ++ passed) node :=
    Yields.repeated fun fuel =>
      callSuffixes_yields follows Derives.call fuel (Derives.callAlone first)
  refine calls.bind fun suffixes base next called => ?_
  refine (Yields.repeated (attributeSteps_yields follows)).bind fun others steps next further => ?_
  refine Yields.pure ?_
  rw [List.append_nil, ← List.append_assoc]
  rcases attributeChain_cases base steps with ⟨rfl, alone⟩ | ⟨some, span, chained⟩
  · cases further
    rw [alone, List.append_nil]
    exact .chainAlone called
  · rw [chained]
    exact .chain called further some

/-! ## Operators -/

theorem prefixOp?_token {kind : TokenKind} {op : UnaryOp} (found : prefixOp? kind = some op) :
    kind = unaryToken op ∧ op ≠ .not := by
  unfold prefixOp? at found
  split at found <;> cases found <;> exact ⟨rfl, nofun⟩

theorem compareOp?_token {kind : TokenKind} {op : CompareOp} (found : compareOp? kind = some op) :
    kind = compareToken op := by
  unfold compareOp? at found
  split at found <;> cases found <;> rfl

theorem assignOp?_token {kind : TokenKind} {op : AssignOp} (found : assignOp? kind = some op) :
    assignToken? op = some kind := by
  unfold assignOp? at found
  split at found <;> cases found <;> rfl

/-- The operators that are looked for at a level are those of the level. -/
def Tier.Reads (tier : Tier) (op? : TokenKind → Option BinaryOp) : Prop :=
  ∀ {kind op}, op? kind = some op → kind = binaryToken op ∧ op ∈ tier.operators

theorem logicOp?_reads : Tier.logic.Reads logicOp? := by
  intro kind op found
  unfold logicOp? at found
  split at found <;> cases found <;> exact ⟨rfl, by decide⟩

theorem additiveOp?_reads : Tier.sum.Reads additiveOp? := by
  intro kind op found
  unfold additiveOp? at found
  split at found <;> cases found <;> exact ⟨rfl, by decide⟩

theorem multiplicativeOp?_reads : Tier.term.Reads multiplicativeOp? := by
  intro kind op found
  unfold multiplicativeOp? at found
  split at found <;> cases found <;> exact ⟨rfl, by decide⟩

theorem binaryToken_inner (op : BinaryOp) : binaryToken op ≠ .endOfFile := by
  cases op <;> nofun

theorem leftGrouped_yields {tier : Tier} {op? : TokenKind → Option BinaryOp}
    (reads : tier.Reads op?) {operand : Reader Node}
    (operands : ∀ place, Yields place operand (Derives (.operand tier))) (fuel : Nat)
    {front : List TokenKind} {left : Node} (start : Derives (.tier tier) front left) :
    Yields place (leftGrouped op? operand fuel left) fun passed node =>
      Derives (.tier tier) (front ++ passed) node := by
  have nothing : Derives (.tier tier) (front ++ []) left := by rwa [List.append_nil]
  induction fuel generalizing place front left with
  | zero => exact Yields.pure nothing
  | succ fuel ih =>
      refine Yields.peek ?_
      cases found : op? place.current.kind with
      | none => exact Yields.pure nothing
      | some op =>
          rcases reads found with ⟨token, member⟩
          refine Yields.advance token (binaryToken_inner op) fun _ next => ?_
          refine (operands next).bind fun tokens right next last => ?_
          have grouped := @Derives.binary tier (left.span.through right.span) _ _ _ _ _ start member last
          refine (ih grouped (by rwa [List.append_nil])).mono fun more node result => ?_
          rwa [List.append_assoc, List.cons_append] at result

theorem binaryLevel_yields {tier : Tier} {op? : TokenKind → Option BinaryOp}
    (reads : tier.Reads op?) {operand : Reader Node}
    (operands : ∀ place, Yields place operand (Derives (.operand tier))) :
    Yields place (binaryLevel op? operand) (Derives (.tier tier)) := by
  refine (operands place).bind fun tokens first next alone => ?_
  exact Yields.repeated fun fuel => leftGrouped_yields reads operands fuel (.tierAlone alone)

theorem power_yields (follows : Follows self) : Yields place (power self) (Derives .power) := by
  refine (chain_yields follows).bind fun bases base next raised => ?_
  refine Yields.ifEat nofun (fun next => ?_) (fun _ => Yields.pure ?_)
  · refine (follows.factor next).bind fun tokens exponent next power => Yields.pure ?_
    rw [List.append_nil]
    exact .power raised power
  · rw [List.append_nil]
    exact .powerAlone raised

theorem unaryToken_inner (op : UnaryOp) : unaryToken op ≠ .endOfFile := by
  cases op <;> nofun

theorem factor_yields (follows : Follows self) : Yields place (factor self) (Derives .factor) := by
  refine Yields.peek ?_
  cases found : prefixOp? place.current.kind with
  | none => exact (power_yields follows).mono fun _ _ alone => .factorAlone alone
  | some op =>
      rcases prefixOp?_token found with ⟨token, sign⟩
      refine Yields.advance token (unaryToken_inner op) fun _ next => ?_
      refine (follows.factor next).bind fun tokens node next operand => ?_
      refine Yields.nodeFrom fun span => ?_
      rw [List.append_nil]
      exact .sign sign operand

theorem term_yields (follows : Follows self) :
    Yields place (term self) (Derives (.tier .term)) :=
  binaryLevel_yields multiplicativeOp?_reads fun _ =>
    (factor_yields follows).mono fun _ _ alone => .factorOperand alone

theorem sum_yields (follows : Follows self) : Yields place (sum self) (Derives (.tier .sum)) :=
  binaryLevel_yields additiveOp?_reads fun _ =>
    (term_yields follows).mono fun _ _ alone => .termOperand alone

theorem compareToken_inner (op : CompareOp) : compareToken op ≠ .endOfFile := by
  cases op <;> nofun

theorem comparisonLinks_yields (follows : Follows self) (fuel : Nat) :
    Yields place (comparisonLinks (sum self) fuel) (Derives .links) := by
  induction fuel generalizing place with
  | zero => exact Yields.pure .noLinks
  | succ fuel ih =>
      refine Yields.peek ?_
      cases found : compareOp? place.current.kind with
      | none => exact Yields.pure .noLinks
      | some op =>
          refine Yields.advance (compareOp?_token found) (compareToken_inner op) fun _ next => ?_
          refine (sum_yields follows).bind fun tokens node next first => ?_
          refine ih.bind fun others links next later => Yields.pure ?_
          rw [List.append_nil]
          exact .nextLink first later

theorem comparison_yields (follows : Follows self) :
    Yields place (comparison self) (Derives .comparison) := by
  refine Yields.peek ?_
  by_cases negated : place.current.kind = .keyword .notWord
  · rw [if_pos negated]
    refine Yields.advance negated nofun fun _ next => ?_
    refine (follows.comparison next).bind fun tokens node next operand => ?_
    refine Yields.nodeFrom fun span => ?_
    rw [List.append_nil]
    exact .negation operand
  · rw [if_neg negated]
    refine (sum_yields follows).bind fun tokens first next start => ?_
    refine (Yields.repeated (comparisonLinks_yields follows)).bind fun others links next further => ?_
    cases last : links.getLast? with
    | none =>
        rw [List.getLast?_eq_none_iff.mp last] at further
        cases further
        exact Yields.pure (by simpa using .comparisonAlone start)
    | some link =>
        have some : links ≠ [] := by
          rintro rfl
          cases last
        refine Yields.pure ?_
        rw [List.append_nil]
        exact .comparison start further some

theorem logic_yields (follows : Follows self) : Yields place (logic self) (Derives (.tier .logic)) :=
  binaryLevel_yields logicOp?_reads fun _ =>
    (comparison_yields follows).mono fun _ _ alone => .comparisonOperand alone

theorem fallbackOperands_yields (follows : Follows self) (fuel : Nat) :
    Yields place (fallbackOperands (logic self) fuel) (Derives .operands) := by
  induction fuel generalizing place with
  | zero => exact Yields.pure .noOperands
  | succ fuel ih =>
      refine Yields.ifEat nofun (fun next => ?_) (fun _ => Yields.pure .noOperands)
      refine (logic_yields follows).bind fun tokens node next first => ?_
      refine ih.bind fun others nodes next later => Yields.pure ?_
      rw [List.append_nil]
      exact .nextOperand first later

theorem fallback_yields (follows : Follows self) :
    Yields place (fallback self) (Derives .fallback) := by
  refine (logic_yields follows).bind fun tokens first next start => ?_
  refine (Yields.repeated (fallbackOperands_yields follows)).bind fun others nodes next further => ?_
  cases last : nodes.getLast? with
  | none =>
      rw [List.getLast?_eq_none_iff.mp last] at further
      cases further
      exact Yields.pure (by simpa using .fallbackAlone start)
  | some node =>
      have some : nodes ≠ [] := by
        rintro rfl
        cases last
      refine Yields.pure ?_
      rw [List.append_nil]
      exact .fallback start further some

/-! ## Statements -/

theorem commaSeparated_yields (element : Element) {item : Reader element.Tree}
    (items : ∀ place, Yields place item (Derives (.element element))) (fuel : Nat) :
    Yields place (commaSeparated item fuel) (Derives (.separated element)) := by
  induction fuel generalizing place with
  | zero =>
      refine (items place).bind fun tokens tree next last => Yields.pure ?_
      rw [List.append_nil]
      exact .lastElement last
  | succ fuel ih =>
      refine (items place).bind fun tokens tree next first => ?_
      refine Yields.ifEat nofun (fun next => ?_) (fun _ => Yields.pure ?_)
      · refine ih.bind fun others trees next later => Yields.pure ?_
        rw [List.append_nil]
        exact .nextElement first later
      · rw [List.append_nil]
        exact .lastElement first

/-- A step that is a plain name is written as one. -/
theorem Derives.step_name {tokens : List TokenKind} {span : Span} {name : String}
    (derives : Derives .step tokens ⟨span, .name name⟩) : tokens = [.identifier name] := by
  cases derives
  rfl

/-- The last of some steps is written behind the others. -/
theorem Derives.steps_concat {tokens : List TokenKind} {front : List Node} {last : Node}
    (derives : Derives .steps tokens (front ++ [last])) :
    ∃ before behind, tokens = before ++ .symbol .dot :: behind ∧
      Derives .steps before front ∧ Derives .step behind last := by
  induction front generalizing tokens with
  | nil =>
      cases derives with
      | nextStep first later =>
          cases later
          exact ⟨[], _, by rw [List.append_nil]; rfl, .noSteps, first⟩
  | cons node front ih =>
      cases derives with
      | @nextStep written others _ _ first later =>
          rcases ih later with ⟨before, behind, rfl, earlier, final⟩
          refine ⟨.symbol .dot :: (written ++ before), behind, ?_, .nextStep first earlier, final⟩
          simp only [List.cons_append, List.append_assoc]

theorem target_yields (follows : Follows self) :
    Yields place (target self) (Derives (.element .target)) := by
  refine Yields.peek ?_
  refine (calledName_yields follows).bind fun tokens first next start => ?_
  refine (Yields.repeated (attributeSteps_yields follows)).bind fun others steps next further => ?_
  refine Yields.spanFrom fun span => ?_
  rcases List.eq_nil_or_concat' steps with rfl | ⟨front, last, rfl⟩
  · cases further
    rcases first with ⟨firstSpan, form⟩
    cases form with
    | name name =>
        refine Yields.pure ?_
        rw [start.step_name]
        exact .variable
    | _ => exact Yields.failAt
  · rcases further.steps_concat with ⟨before, behind, rfl, earlier, final⟩
    rw [List.getLastD_concat]
    rcases last with ⟨lastSpan, form⟩
    cases form with
    | name name =>
        refine Yields.pure ?_
        rw [final.step_name]
        have owner : Derives .path (tokens ++ before) (attributeChain first front) := by
          rcases attributeChain_cases first front with ⟨rfl, alone⟩ | ⟨some, span, chained⟩
          · cases earlier
            rw [alone, List.append_nil]
            exact .pathAlone start
          · rw [chained]
            exact .path start earlier some
        have object : ownerOf first (front ++ [⟨lastSpan, .name name⟩]) =
            some (attributeChain first front) := by
          cases front with
          | nil => rfl
          | cons node front =>
              change some (attributeChain first ((node :: front) ++ [_]).dropLast) = _
              rw [List.dropLast_concat]
        have derives := @Derives.attributeTarget span _ _ name owner
        rw [object]
        simpa using derives
    | _ => exact Yields.failAt

/-- What is only tried passes nothing where it fails. -/
theorem attempt_yields (follows : Follows self) :
    Yields place (attempt (self .expression)) (Derives (.clause [])) := by
  intro ends tried next read
  rcases attempt_ok read with ⟨value, rfl, readInner⟩ | ⟨failure, rfl, -, -, rfl⟩
  · rcases follows.expression place ends _ _ readInner with ⟨passed, split, derives⟩
    exact ⟨passed, split, .clause derives⟩
  · exact ⟨[], rfl, .noClause⟩

theorem assignment_yields (follows : Follows self)
    (found : place.current.kind = .keyword .varWord) :
    Yields place (assignment self) (Derives .expression) := by
  refine Yields.advance found nofun fun token next => ?_
  have targets : ∀ place, Yields place (target self) (Derives (.element .target)) :=
    fun _ => target_yields follows
  refine (Yields.repeated (commaSeparated_yields .target targets)).bind fun tokens assigned next left => ?_
  refine Yields.peek ?_
  cases operator : assignOp? next.current.kind with
  | none => exact Yields.unexpected
  | some op =>
      have inner : next.current.kind ≠ .endOfFile := by
        intro last
        rw [last] at operator
        cases operator
      refine Yields.advance rfl inner fun token after => ?_
      have values : ∀ place, Yields place (self .expression) (Derives (.element .value)) :=
        fun place => (follows.expression place).mono fun _ _ given => .value given
      refine (Yields.repeated (commaSeparated_yields .value values)).bind fun more given last right => ?_
      refine Yields.nodeFrom fun span => ?_
      rw [List.append_nil]
      exact .assign left (assignOp?_token operator) right

theorem deletion_yields (found : place.current.kind = .keyword .delWord) :
    Yields place deletion (Derives .expression) := by
  refine Yields.advance found nofun fun token next => ?_
  exact Yields.identifier fun name span next => Yields.nodeFrom fun span => .delete

theorem redirection_yields : Yields place redirection fun passed overwrite =>
    passed = [writeToken overwrite] := by
  refine Yields.peek ?_
  split
  · rename_i found
    exact Yields.advance found nofun fun token next => Yields.pure rfl
  · rename_i found
    exact Yields.advance found nofun fun token next => Yields.pure rfl
  · exact Yields.unexpected

theorem writeStatement_yields (follows : Follows self)
    (found : place.current.kind = .keyword .writeWord) :
    Yields place (writeStatement self) (Derives .expression) := by
  refine Yields.advance found nofun fun token next => ?_
  refine (follows.expression next).bind fun texts text next written => ?_
  refine redirection_yields.bind fun mark overwrite next directed => ?_
  subst directed
  refine (follows.expression next).bind fun targets target next file => ?_
  refine (attempt_yields follows).bind fun lines line next place => ?_
  refine Yields.nodeFrom fun span => ?_
  rw [List.append_nil, List.singleton_append]
  exact .write written file place

theorem readStatement_yields (follows : Follows self)
    (found : place.current.kind = .keyword .readWord) :
    Yields place (readStatement self) (Derives .expression) := by
  refine Yields.advance found nofun fun token next => ?_
  refine (follows.expression next).bind fun targets target next file => ?_
  refine readInto_yields.bind fun names into next named => ?_
  subst named
  refine (attempt_yields follows).bind fun lines line next place => ?_
  refine Yields.nodeFrom fun span => ?_
  rw [List.append_nil]
  exact .read file place

theorem assertionMessage_yields (follows : Follows self) :
    Yields place (assertionMessage self) (Derives (.clause [.symbol .comma])) := by
  refine Yields.ifEat nofun (fun next => ?_) (fun _ => Yields.pure .noClause)
  refine (follows.expression next).bind fun tokens node next given => Yields.pure ?_
  rw [List.append_nil]
  exact .clause given

theorem assertionStatement_yields (follows : Follows self)
    (found : place.current.kind = .keyword .assertWord) :
    Yields place (assertionStatement self) (Derives .expression) := by
  refine Yields.advance found nofun fun token next => ?_
  refine (follows.expression next).bind fun conditions condition next claimed => ?_
  refine (assertionMessage_yields follows).bind fun messages message next explained => ?_
  refine Yields.nodeFrom fun span => ?_
  rw [List.append_nil]
  exact .assertion claimed explained

theorem expression_yields (follows : Follows self) :
    Yields place (expression self) (Derives .expression) := by
  refine Yields.peek ?_
  split
  · rename_i found
    exact assignment_yields follows found
  · rename_i found
    exact deletion_yields found
  · rename_i found
    exact writeStatement_yields follows found
  · rename_i found
    exact readStatement_yields follows found
  · rename_i found
    exact assertionStatement_yields follows found
  · exact (fallback_yields follows).mono fun _ _ alone => .expressionAlone alone

theorem returnStatement_yields (follows : Follows self)
    (found : place.current.kind = .keyword .returnWord) :
    Yields place (returnStatement self) (Derives .statement) := by
  refine Yields.advance found nofun fun token next => ?_
  refine (attempt_yields follows).bind fun tokens value next given => ?_
  refine Yields.nodeFrom fun span => ?_
  rw [List.append_nil]
  exact .returnFrom given

theorem breakStatement_yields (found : place.current.kind = .keyword .breakWord) :
    Yields place breakStatement (Derives .statement) := by
  refine Yields.advance found nofun fun token next => ?_
  refine label_yields.bind fun labels name next labelled => ?_
  subst labelled
  refine Yields.nodeFrom fun span => ?_
  rw [List.append_nil]
  exact .breakLoop

theorem continueStatement_yields (found : place.current.kind = .keyword .continueWord) :
    Yields place continueStatement (Derives .statement) := by
  refine Yields.advance found nofun fun token next => ?_
  refine label_yields.bind fun labels name next labelled => ?_
  subst labelled
  refine Yields.nodeFrom fun span => ?_
  rw [List.append_nil]
  exact .continueLoop

theorem importStatement_yields (found : place.current.kind = .keyword .importWord) :
    Yields place importStatement (Derives .statement) := by
  refine Yields.advance found nofun fun token next => ?_
  refine Yields.identifier fun name span next => ?_
  refine nameAfterAs_yields.bind fun names rename next renamed => ?_
  subst renamed
  refine Yields.nodeFrom fun span => ?_
  rw [List.append_nil]
  exact .importModule

theorem names_of_impliedName? {value : Node} {name : String}
    (implied : impliedName? value = some name) : Names value.form name := by
  unfold impliedName? at implied
  split at implied
  · rename_i same
    cases implied
    rw [same]
    exact .variable
  · rename_i same
    cases implied
    rw [same]
    exact .function
  · rename_i same
    cases implied
    rw [same]
    exact .classDef
  · cases implied

theorem exportStatement_yields (follows : Follows self)
    (found : place.current.kind = .keyword .exportWord) :
    Yields place (exportStatement self) (Derives .statement) := by
  refine Yields.advance found nofun fun token next => ?_
  refine (follows.expression next).bind fun tokens value next exported => ?_
  refine nameAfterAs_yields.bind fun names given next named => ?_
  subst named
  cases given with
  | some name => exact Yields.nodeFrom fun span => .exportAs exported
  | none =>
      cases implied : impliedName? value with
      | none =>
          simp only [Option.orElse]
          exact Yields.unexpected
      | some name =>
          simp only [Option.orElse]
          refine Yields.nodeFrom fun span => ?_
          have derives := @Derives.exportNamed span _ _ name exported (names_of_impliedName? implied)
          simpa [namedAfter] using derives

theorem statement_yields (follows : Follows self) :
    Yields place (statement self) (Derives .statement) := by
  refine Yields.peek ?_
  split
  · rename_i found
    exact returnStatement_yields follows found
  · rename_i found
    exact breakStatement_yields found
  · rename_i found
    exact continueStatement_yields found
  · rename_i found
    exact importStatement_yields found
  · rename_i found
    exact exportStatement_yields follows found
  · exact (expression_yields follows).mono fun _ _ alone => .statementAlone alone

/-- A level follows the rules if the levels inside it do. -/
theorem Follows.level (follows : Follows self) : Follows (level self) where
  statement := fun _ => statement_yields follows
  expression := fun _ => expression_yields follows
  comparison := fun _ => comparison_yields follows
  factor := fun _ => factor_yields follows
  chain := fun _ => chain_yields follows

theorem follows_descend (depth : Nat) : Follows (descend depth) := by
  induction depth with
  | zero => constructor <;> exact fun _ _ _ _ read => nomatch read
  | succ depth ih => exact ih.level

/-! ## Programs -/

theorem program_yields (follows : Follows self) :
    Yields place (program self) (Derives .block) := by
  refine (statements_yields follows _).bind fun passed body next block => ?_
  refine Yields.ifAt (fun _ => Yields.pure ?_) (fun _ => Yields.unexpected)
  rw [List.append_nil]
  exact block.1

/-- A program is read up to the end of the file. -/
theorem program_ends {node : Node} {last : Place} (read : program self place = .ok (node, last)) :
    last.current.kind = .endOfFile := by
  rcases bind_ok read with ⟨body, next, -, readEnd⟩
  rcases bind_ok readEnd with ⟨found, between, looked, rest⟩
  cases looked
  split at rest
  · rename_i done
    cases rest
    simpa using done
  · cases rest

theorem EndsOnce.finished {kinds : List TokenKind} (ends : EndsOnce (.endOfFile :: kinds)) :
    kinds = [] := by
  cases ends with
  | last => rfl
  | before inner _ => exact absurd rfl inner

theorem EndsOnce.of_body {kinds : List TokenKind} (inner : ∀ kind ∈ kinds, kind ≠ .endOfFile) :
    EndsOnce (kinds ++ [.endOfFile]) := by
  induction kinds with
  | nil => exact .last
  | cons kind kinds ih =>
      rcases List.forall_mem_cons.mp inner with ⟨first, others⟩
      exact .before first (ih others)

/--
A program that is read is a derivation of its tree from all tokens before the end of the
file, and the tree is well formed.
-/
theorem parse_derives_program {body : List Token} {last : Token} {node : Node}
    (ends : last.kind = .endOfFile) (inner : ∀ token ∈ body, token.kind ≠ .endOfFile)
    (parsed : parse (body ++ [last]) = .ok node) :
    Derives .block (body.map Token.kind) node ∧ WellFormed node := by
  have once : EndsOnce (Place.ofTokens (body ++ [last])).kinds := by
    rw [kinds_ofTokens ends]
    refine EndsOnce.of_body fun kind member => ?_
    rcases List.mem_map.mp member with ⟨token, among, rfl⟩
    exact inner token among
  rcases outcome_ok.mp parsed with ⟨next, read⟩
  rcases program_yields (follows_descend _) once.ended node next read with ⟨passed, split, derives⟩
  have left : next.kinds = [.endOfFile] := by
    have later : EndsOnce next.kinds := EndsOnce.of_append (split ▸ once) (List.cons_ne_nil _ _)
    unfold Place.kinds at later ⊢
    rw [program_ends read] at later ⊢
    rw [later.finished]
  rw [kinds_ofTokens ends, left] at split
  have whole := List.append_cancel_right split
  rw [whole]
  exact ⟨derives, wellFormed_single.mp derives.wellFormed⟩

/-- The tokens of `def (a, b = 1) -> a.c < b ? 2` at no place in particular. -/
def sampleTokens : List Token :=
  [.keyword .defWord, .opening .round, .identifier "a", .symbol .comma, .identifier "b",
    .symbol .assign, .int 1, .closing .round, .symbol .arrow, .identifier "a", .symbol .dot,
    .identifier "c", .symbol .less, .identifier "b", .symbol .question, .int 2].map
    fun kind => ⟨kind, ⟨.start, .start⟩⟩

theorem sample_derives_program :
    ∃ node, parse (sampleTokens ++ [endToken .start]) = .ok node ∧
      Derives .block (sampleTokens.map Token.kind) node ∧ WellFormed node := by
  have reads : (parse (sampleTokens ++ [endToken .start])).isOk = true := by decide +kernel
  cases parsed : parse (sampleTokens ++ [endToken .start]) with
  | ok node => exact ⟨node, rfl, parse_derives_program rfl (by decide) parsed⟩
  | error error =>
      rw [parsed] at reads
      cases reads

end Grammar
end Scripting
