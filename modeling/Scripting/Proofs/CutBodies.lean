import Scripting.Proofs.BlockReports

namespace Scripting
namespace Grammar

/-!
Blocks in tokens that are cut off.

If the newline stands between the statements of a block, then the shorter list ends inside
the block.  The statements are read up to its end as they are in the whole list, no other
case or word follows them, and so the block is reported by the word that opens it.  If the
newline stands inside one of the statements, then that statement decides what is reported.
-/

open Lexical (Bracket Keyword Symbol Token TokenKind)
open Source (Position Span)
open Program

variable {α β : Type} {cut : Cut} {fault : ParseError} {bound smaller : Nat} {place next : Place} {lost : Prop}
  {halt : Option ParseError}

theorem Trimmed.mono (trimmed : Trimmed cut fault bound) (less : smaller ≤ bound) :
    Trimmed cut fault smaller :=
  fun entry place fewer below => trimmed entry place fewer (Nat.lt_of_lt_of_le below less)

/-! ## Readers that read no nodes -/

/-- A reader that passes no newline and is at a loss nowhere. -/
abbrev CutsPlain (cut : Cut) (fault : ParseError) (bound : Nat) (place : Place)
    (reader : Reader α) : Prop :=
  Cuts cut fault bound place False none reader (fun _ next => cut.Before place → cut.Before next)
    fun _ => False

theorem label_cuts : CutsPlain cut fault bound place label :=
  .ifEat nofun nofun nofun (fun _ _ _ colon => .identifier fun _ _ name =>
    .pure (colon.trans name).stays id) (.pure id id)

theorem functionName_cuts : CutsPlain cut fault bound place functionName :=
  .ifAt (fun _ => .pure id id) fun _ => .identifier fun _ _ name => .pure name.stays id

theorem isAtStop_cuts {stop : List Keyword} {chosen otherwise : Reader α}
    {right : α → Place → Prop} {leaves : Place → Prop}
    (here : Cuts cut fault bound place lost halt chosen right leaves)
    (elsewhere : Cuts cut fault bound place lost halt otherwise right leaves) :
    Cuts cut fault bound place lost halt
      (isAtStop stop >>= fun found => if found = true then chosen else otherwise) right leaves := by
  have looked (at' : Place) (same : at'.current = place.current) : ∃ found,
      isAtStop stop place = .ok (found, place) ∧ isAtStop stop at' = .ok (found, at') := by
    refine ⟨_, rfl, ?_⟩
    rw [isAtStop, same]
  rcases looked (cut.shorten place) rfl with ⟨found, whole, short⟩
  cases found with
  | true => exact .staying (bind_of_ok whole) (bind_of_ok short) here
  | false => exact .staying (bind_of_ok whole) (bind_of_ok short) elsewhere

/-! ## At the end of the file -/

variable {self : Descent}

theorem statementList_end {stop : List Keyword} (fuel : Nat)
    (last : place.current.kind = .endOfFile) :
    statementList self stop fuel place = .ok ([], place) := by
  cases fuel with
  | zero => rfl
  | succ fuel =>
      have found : isAtStop stop place = .ok (true, place) := by
        rw [isAtStop, last]
      rw [statementList, bind_of_ok found]
      rfl

theorem noStatements_end {stop : List Keyword} (last : place.current.kind = .endOfFile) :
    repeated (statementList self stop) place = .ok ([], place) :=
  statementList_end _ last

theorem furtherCases_end {body lastBody : Reader Node} (fuel : Nat)
    (last : place.current.kind = .endOfFile) :
    furtherCases self body lastBody fuel place = .ok (([], none), place) := by
  have other (word : Keyword) : eat (.keyword word) place = .ok (false, place) :=
    if_neg (by rw [last]; nofun)
  cases fuel with
  | zero => rfl
  | succ fuel =>
      rw [furtherCases, bind_of_ok (other _)]
      exact bind_of_ok (other _)

theorem noCases_end {body lastBody : Reader Node} (last : place.current.kind = .endOfFile) :
    repeated (furtherCases self body lastBody) place = .ok (([], none), place) :=
  furtherCases_end _ last

theorem leaveBlock_end {opener closer : Keyword} {span : Span} {outside : List (Keyword × Span)}
    (openers : place.openers = (opener, span) :: outside)
    (last : place.current.kind = .endOfFile) :
    leaveBlock closer place = .error (place.failure (.neverClosed opener closer) span) := by
  have other : place.current.kind ≠ .keyword closer := by
    rw [last]
    nofun
  rw [leaveBlock, if_neg other, openers]
  exact if_pos (.inl last)

/-! ## Blocks -/

theorem laysAll_grammar (layout : Layout) : layout.LaysAll grammar :=
  fun entry place => Layout.laysAll_descend _ entry place

theorem statementList_cuts (trimmed : Trimmed cut fault bound) (less : smaller < bound)
    {stop : List Keyword} (fuel : Nat) :
    Cuts cut fault smaller place False halt (statementList grammar stop fuel)
      (fun nodes next => AllRight cut fault nodes ∧ (cut.Before place → ¬ cut.Before next →
        Bracketed cut.before cut.after ∨ (∃ node ∈ nodes, Inside cut.hole.span node.span) ∨
          ∀ stop ∈ halt, fault = stop)) Stuck := by
  induction fuel generalizing place with
  | zero => exact .pure ⟨.nil, fun before past => absurd before past⟩ False.elim
  | succ fuel ih =>
      refine isAtStop_cuts (.pure ⟨.nil, fun before past => absurd before past⟩ False.elim) ?_
      have lays : cut.layout.Laid place → ∀ node next, grammar .statement place = .ok (node, next) →
          cut.layout.Tidy node := fun laid node next read =>
        (laysAll_grammar _ .statement place laid node next read).2.2.2.tidy
      refine .bind (.also lays (trimmed .statement place _ less)) fun statement read _ => ?_
      -- What is held by the statement lies in its span.
      have held (given : Reported cut fault place [statement] read ∧ cut.layout.Tidy statement)
          (before : cut.Before place) (past : ¬ cut.Before read) :
          Bracketed cut.before cut.after ∨ Inside cut.hole.span statement.span := by
        rcases given.1.held before past with bracketed | ⟨node, member, inner, within, inside⟩
        · exact .inl bracketed
        · cases List.mem_singleton.mp member
          exact .inr (inside.trans (within.inside_span given.2))
      refine .ifAt (fun newline => .unlost (fun stuck => stuck.ne rfl newline) ?_) fun _ => ?_
      · refine .skipLines fun behind _ => ?_
        refine .bindHalting ih (fun _ _ stop given _ _ _ last due => due last stop given)
          fun others last _ _ => .pure ?_ id
        rintro ⟨later, laterHeld⟩ skipped given
        refine ⟨.cons (given.1.right _ List.mem_cons_self) later, fun before past => ?_⟩
        by_cases reached : cut.Before read
        · by_cases begun : cut.Before behind
          · rcases laterHeld begun past with bracketed | ⟨node, member, inside⟩ | ends
            · exact .inl bracketed
            · exact .inr (.inl ⟨node, List.mem_cons_of_mem _ member, inside⟩)
            · exact .inr (.inr ends)
          · rcases skipped reached begun with ⟨ended, last, -, due⟩
            rw [bind_of_ok (statementList_end fuel last)] at due
            exact .inr (.inr (due last))
        · exact (held given before reached).imp id fun inside =>
            .inl ⟨statement, List.mem_cons_self, inside⟩
      · refine .pure (fun given => ⟨given.1.right, fun before past => ?_⟩) id
        exact (held given before past).imp id fun inside =>
          .inl ⟨statement, List.mem_cons_self, inside⟩

/-- A block is right, and if the newline stands directly in it, the end of the file is met there. -/
theorem statements_cuts (trimmed : Trimmed cut fault bound) (less : smaller < bound)
    {stop : List Keyword} :
    Cuts cut fault smaller place False halt (statements grammar stop)
      (fun body _ => Right cut fault body ∧
        (Direct cut.before cut.hole cut.after body → ∀ stop ∈ halt, fault = stop)) Stuck := by
  refine .known fun laid => .peek (.skipLines fun start _ => ?_)
  refine .bindHalting (.repeated (.statements stop) fun fuel _ =>
    statementList_cuts trimmed less fuel) (fun _ _ stop given _ _ _ last due => due last stop given)
    fun nodes last _ _ => ?_
  refine .known fun laidLast => .nodeFrom ?_ id
  rintro ⟨right, held⟩ skipped
  refine ⟨.plain right fun _ _ _ => nofun, fun direct => ?_⟩
  have filled := cut.hole_filled
  have begins : place.ahead ≤ cut.hole.span.start.index := direct.inside.1
  have before : cut.Before place := by
    by_contra past
    have reaches := Cut.hole_le_ahead laid past
    omega
  have past : ¬ cut.Before last := by
    intro before
    have ahead := before.ahead_le laidLast
    have gap := laidLast.gap
    have reaches := direct.inside.2
    have stop : (last.spanAfter place.current.span.start).stop.index ≤
        max place.ahead last.behind := by
      unfold Place.spanAfter
      split
      · exact Nat.le_max_left _ _
      · exact Nat.le_max_right _ _
    have onward : cut.hole.span.stop.index ≤ max place.ahead last.behind :=
      Nat.le_trans reaches stop
    omega
  by_cases begun : cut.Before start
  · rcases held begun past with bracketed | ⟨node, member, inside⟩ | ends
    · exact absurd bracketed direct.free
    · rcases direct.between with ⟨statements, same, outside⟩
      cases same
      exact absurd inside (outside node member)
    · exact ends
  · rcases skipped before begun with ⟨ended, finish, -, due⟩
    rw [bind_of_ok (noStatements_end finish)] at due
    exact due finish

/-- The block at the end of the file is the one that was opened here. -/
theorem left_open {body : Reader α} {closer opener : Keyword} {span : Span} {value : α}
    {outside : List (Keyword × Span)} {rest : Unit → Reader β}
    (openers : place.openers = (opener, span) :: outside) (balanced : Balanced place body)
    (read : body place = .ok (value, next)) (last : next.current.kind = .endOfFile)
    (due : Due fault halt ((leaveBlock closer >>= rest) next)) :
    fault = ⟨.neverClosed opener closer, span⟩ := by
  rcases balanced.passes value next read with ⟨_, _, _, same, _⟩
  rw [bind_error (leaveBlock_end (same.trans openers) last)] at due
  exact due

/-- A form that begins with the word of its blocks. -/
theorem Right.opened {form : Form Node} {word : Keyword}
    (laid : cut.layout.Laid place) (found : place.current.kind = .keyword word)
    (parts : AllRight cut fault (firmParts form))
    (blocks : ∀ given closer body, BlockBody form given closer body →
      given = word ∧ (Direct cut.before cut.hole cut.after body →
        fault = ⟨.neverClosed word closer, place.current.span⟩)) :
    Right cut fault ⟨next.spanAfter place.current.span.start, form⟩ := by
  refine .node parts fun given closer body block direct => ?_
  rcases blocks given closer body block with ⟨rfl, ends⟩
  exact ⟨place.current, laid.current_mem, found, rfl, ends direct⟩

/-- If the newline stands directly in a block, then the block is reported. -/
theorem closedBlock_cuts (trimmed : Trimmed cut fault bound) (less : smaller < bound)
    {opener closer : Keyword} {span : Span} (word : begins (.keyword closer) = false) :
    Cuts cut fault smaller place False none (closedBlock grammar opener span closer)
      (fun body _ => Right cut fault body ∧ (Direct cut.before cut.hole cut.after body →
        fault = ⟨.neverClosed opener closer, span⟩)) fun _ => False := by
  refine .enterBlock fun entered _ _ openers => ?_
  have statements := @statements_cuts cut fault bound smaller entered
    (some ⟨.neverClosed opener closer, span⟩) trimmed less [closer]
  refine .bindHalting statements ?_ fun body read _ _ => ?_
  · intro laid before stop given value ended readShort last due
    cases given
    have closed := (before.near laid).closed_here
    have opens : (cut.shorten entered).openers = (opener, span) :: place.openers := openers
    exact left_open opens ((Routine.statements _).balanced closed) readShort last due
  · refine .leaveBlock (fun stuck => stuck.ne word) fun last _ => .pure ?_ id
    exact fun given => ⟨given.1, fun direct => given.2 direct _ rfl⟩

/-- The body of a loop, or another body that may stand on the same line. -/
theorem loopBody_cuts (trimmed : Trimmed cut fault bound) (less : smaller < bound)
    {opener : Keyword} {span : Span} :
    Cuts cut fault smaller place False none (loopBody grammar opener span)
      (fun body _ => Right cut fault body.1 ∧ (body.2 = true →
        Direct cut.before cut.hole cut.after body.1 →
          fault = ⟨.neverClosed opener .endWord, span⟩)) Stuck := by
  refine .ifAt (fun _ => ?_) fun _ => ?_
  · refine .bind (closedBlock_cuts trimmed less rfl) fun body read _ => .pure ?_ False.elim
    exact fun given => ⟨given.1, fun _ => given.2⟩
  · refine .bind (trimmed .statement place _ less) fun body read _ => .pure ?_ id
    exact fun given => ⟨given.right _ List.mem_cons_self, nofun⟩

theorem doBody_cuts (trimmed : Trimmed cut fault bound) (less : smaller < bound) {span : Span} :
    Cuts cut fault smaller place False none (doBody grammar span)
      (fun body _ => Right cut fault body.1 ∧ (body.2 = true →
        Direct cut.before cut.hole cut.after body.1 →
          fault = ⟨.neverClosed .doWord .thenWord, span⟩)) fun _ => False := by
  refine .ifAt (fun _ => ?_) fun _ => ?_
  · refine .bind (closedBlock_cuts trimmed less rfl) fun body read _ => .pure ?_ id
    exact fun given => ⟨given.1, fun _ => given.2⟩
  · refine .bind (trimmed .statement place _ less) fun body read _ => ?_
    refine .expect nofun nofun (fun stuck => stuck.ne rfl) fun last _ => .pure ?_ id
    exact fun given => ⟨given.right _ List.mem_cons_self, nofun⟩

/-! ## Conditionals -/

/-- The parts of the cases of a conditional. -/
def caseParts (cases : List (Node × Node) × Option Node) : List Node :=
  cases.1.flatMap (fun case => [case.1, case.2]) ++ cases.2.toList

/-- The bodies of the cases of a conditional. -/
def caseBodies (cases : List (Node × Node) × Option Node) : List Node :=
  cases.1.map Prod.snd ++ cases.2.toList

theorem BlockBody.of_conditional {cases : List (Node × Node)} {otherwise : Option Node}
    {block : Bool} {word closer : Keyword} {body : Node}
    (stands : BlockBody (.conditional cases otherwise block) word closer body) :
    block = true ∧ word = .ifWord ∧ closer = .endWord ∧ body ∈ caseBodies (cases, otherwise) := by
  cases stands with
  | case member => exact ⟨rfl, rfl, rfl, List.mem_append_left _ (List.mem_map_of_mem member)⟩
  | otherwise => exact ⟨rfl, rfl, rfl, List.mem_append_right _ (List.mem_singleton_self _)⟩

theorem furtherCases_cuts (trimmed : Trimmed cut fault bound) (less : smaller < bound)
    {fine : Node → Prop} {body lastBody : Reader Node}
    (bodies : ∀ place, Cuts cut fault smaller place False halt body
      (fun node _ => Right cut fault node ∧ fine node) Stuck)
    (last : ∀ place, Cuts cut fault smaller place False halt lastBody
      (fun node _ => Right cut fault node ∧ fine node) Stuck)
    (stays : lost → Stuck place) (fuel : Nat) :
    Cuts cut fault smaller place lost halt (furtherCases grammar body lastBody fuel)
      (fun cases _ => AllRight cut fault (caseParts cases) ∧ ∀ node ∈ caseBodies cases, fine node)
      Stuck := by
  induction fuel generalizing place lost with
  | zero => exact .pure ⟨.nil, nofun⟩ stays
  | succ fuel ih =>
      refine .ifEat nofun nofun (fun gone => (stays gone).ne rfl)
        (fun next _ below _ => .shrink below ?_) ?_
      · refine .bind (trimmed .expression next _ less) fun condition tested _ => ?_
        refine .expect nofun nofun (fun stuck => stuck.ne rfl) fun start _ => ?_
        refine .bindHalting (bodies start) ?_ fun chosen read _ _ => ?_
        · intro _ _ stop given _ _ _ ended due
          rw [bind_of_ok (furtherCases_end fuel ended)] at due
          exact due ended stop given
        refine .bindHalting (ih id) (fun _ _ stop given _ _ _ ended due => due ended stop given)
          fun others ended _ _ => .pure ?_ id
        intro later body condition
        exact ⟨.cons (condition.right _ List.mem_cons_self) (.cons body.1 later.1),
          List.forall_mem_cons.mpr ⟨body.2, later.2⟩⟩
      · refine .ifEat nofun nofun (fun gone => (stays gone).ne rfl)
          (fun next _ below _ => .shrink below ?_) (.pure ⟨.nil, nofun⟩ stays)
        refine .bindHalting (last next) (fun _ _ stop given _ _ _ ended due =>
          due ended stop given) fun otherwise ended _ _ => .pure ?_ id
        exact fun body => ⟨.single body.1, List.forall_mem_singleton.mpr body.2⟩

theorem blockCases_balanced (closed : Closed place.tokens) (stop lastStop : List Keyword) :
    Balanced place (repeated
      (furtherCases grammar (statements grammar stop) (statements grammar lastStop))) := by
  have sound := disciplined_grammar (place.rest.length + 1)
  have bodies (stop : List Keyword) : ∀ smaller < place.rest.length + 1, ∀ front place,
      Orderly smaller 0 0 front place (statements grammar stop) :=
    fun _ short _ _ => statements_orderly sound short stop
  have orderly : Orderly place.rest.length 0 0 [] place (repeated
      (furtherCases grammar (statements grammar stop) (statements grammar lastStop))) :=
    .repeated fun fuel =>
      furtherCases_orderly sound (Nat.lt_succ_self _) (bodies stop) (bodies lastStop) fuel
  exact orderly.balanced closed

theorem conditional_cuts (trimmed : Trimmed cut fault bound)
    (found : place.current.kind = .keyword .ifWord) :
    Cuts cut fault bound place False none (conditional grammar)
      (fun node next => Reported cut fault place [node] next) Stuck := by
  refine .opened (.known fun laid => .advance found nofun nofun fun start smaller less _ => ?_)
  refine .bind (trimmed .expression start _ less) fun condition tested _ => ?_
  refine .expect nofun nofun (fun stuck => stuck.ne rfl) fun next _ => ?_
  refine .ifAt (fun _ => ?_) fun _ => ?_
  · refine .enterBlock fun entered _ _ openers => .known fun laidHere => ?_
    let blame : ParseError := ⟨.neverClosed .ifWord .endWord, place.current.span⟩
    have bodies (stop : List Keyword) (place : Place) :
        Cuts cut fault smaller place False (some blame) (statements grammar stop)
          (fun node _ => Right cut fault node ∧ (Direct cut.before cut.hole cut.after node →
            ∀ stop ∈ some blame, fault = stop)) Stuck :=
      statements_cuts trimmed less
    refine .bindHalting (bodies _ _) ?_ fun first read readFirst moves => ?_
    · intro laid before stop given value ended readShort last due
      cases given
      have opens : (cut.shorten entered).openers = (.ifWord, place.current.span) :: next.openers :=
        openers
      rw [bind_of_ok (noCases_end last)] at due
      exact left_open opens ((Routine.statements _).balanced (before.near laid).closed_here)
        readShort last due
    have balanced := ((Routine.statements _).balanced laidHere.near.closed_here).passes _ _ readFirst
    refine .bindHalting (.repeated (.blockCases _ _) fun fuel _ =>
      furtherCases_cuts trimmed less (bodies _) (bodies _) id fuel) ?_
      fun others ended _ _ => ?_
    · intro laid before stop given value ended readShort last due
      cases given
      rcases balanced with ⟨_, _, _, same, _⟩
      have opens : (cut.shorten read).openers = (.ifWord, place.current.span) :: next.openers :=
        same.trans openers
      exact left_open opens (blockCases_balanced (before.near laid).closed_here _ _)
        readShort last due
    refine .leaveBlock (fun stuck => stuck.ne rfl) fun last _ => .nodeFrom ?_ False.elim
    intro later body condition
    refine ⟨.opened laid found (.cons (condition.right _ List.mem_cons_self)
      (.cons body.1 later.1)) fun word closer chosen block => ?_, rfl⟩
    rcases block.of_conditional with ⟨-, rfl, rfl, member⟩
    refine ⟨rfl, fun direct => ?_⟩
    rcases List.mem_cons.mp member with rfl | member
    · exact body.2 direct _ rfl
    · exact later.2 _ member direct _ rfl
  · refine .bind (trimmed .statement next _ less) fun first read _ => ?_
    have lines (place : Place) : Cuts cut fault smaller place False none (grammar .statement)
        (fun node _ => Right cut fault node ∧ True) Stuck :=
      (trimmed .statement place smaller less).mono
        (fun _ _ _ _ given => ⟨given.right _ List.mem_cons_self, trivial⟩) fun _ gone => gone
    refine .bind (.repeated .lineCases fun fuel _ =>
      furtherCases_cuts trimmed less lines lines id fuel) fun others ended _ => .nodeFrom ?_ id
    intro later body condition
    refine ⟨.plain (.cons (condition.right _ List.mem_cons_self)
      (.cons (body.right _ List.mem_cons_self) later.1)) fun word closer chosen block => ?_, rfl⟩
    cases block.of_conditional.1

/-! ## Loops -/

theorem stepClause_cuts (trimmed : Trimmed cut fault bound) (less : smaller < bound)
    (stays : lost → Stuck place) :
    Cuts cut fault smaller place lost none (stepClause grammar)
      (fun step _ => AllRight cut fault step.toList) Stuck := by
  refine .ifEat nofun nofun (fun gone => (stays gone).ne rfl)
    (fun next _ below _ => .shrink below ?_) (.pure .nil stays)
  exact .bind (trimmed .expression next _ less) fun step last _ => .pure Reported.right id

/-- The words around the block of a loop. -/
def loopWords : LoopHeader Node → Keyword × Keyword
  | .counted .. | .each .. => (.forWord, .endWord)
  | .whileTrue _ => (.whileWord, .endWord)
  | .doWhile _ => (.doWord, .thenWord)
  | .endless => (.loopWord, .endWord)

theorem BlockBody.of_loop {label : Option String} {header : LoopHeader Node} {body inner : Node}
    {block : Bool} {word closer : Keyword}
    (stands : BlockBody (.loop label header body block) word closer inner) :
    block = true ∧ inner = body ∧ loopWords header = (word, closer) := by
  cases stands <;> exact ⟨rfl, rfl, rfl⟩

/-- A loop that begins with its word. -/
theorem Right.loop {label : Option String} {header : LoopHeader Node} {body : Node} {block : Bool}
    {word closer : Keyword} (laid : cut.layout.Laid place)
    (found : place.current.kind = .keyword word) (words : loopWords header = (word, closer))
    (parts : AllRight cut fault (loopParts header))
    (right : Right cut fault body ∧ (block = true → Direct cut.before cut.hole cut.after body →
      fault = ⟨.neverClosed word closer, place.current.span⟩)) :
    Right cut fault ⟨next.spanAfter place.current.span.start, .loop label header body block⟩ := by
  refine .opened laid found (.cons right.1 parts) fun given closing inner stands => ?_
  rcases stands.of_loop with ⟨own, rfl, same⟩
  cases words.symm.trans same
  exact ⟨rfl, right.2 own⟩

theorem forLoop_cuts (trimmed : Trimmed cut fault bound)
    (found : place.current.kind = .keyword .forWord) :
    Cuts cut fault bound place False none (forLoop grammar)
      (fun node next => Reported cut fault place [node] next) Stuck := by
  refine .opened (.known fun laid => .advance found nofun nofun fun start smaller less _ => ?_)
  refine .bind label_cuts fun label named _ => .identifier fun name ranged _ => ?_
  refine .ifEat nofun nofun nofun (fun first _ below _ => .shrink below ?_)
    (.ifEat nofun nofun nofun (fun asked _ below _ => .shrink below ?_) .unexpected)
  · refine .bind (trimmed .expression first _ less) fun first toward _ => ?_
    refine .expect nofun nofun (fun stuck => stuck.ne rfl) fun bounded _ => ?_
    refine .bind (trimmed .expression bounded _ less) fun last stepped _ => ?_
    refine .bind (stepClause_cuts trimmed less id) fun step entered _ => ?_
    refine .expect nofun nofun (fun stuck => stuck.ne rfl) fun begun _ => ?_
    refine .bind (loopBody_cuts trimmed less) fun body ended _ => .nodeFrom ?_ id
    intro body step last first _
    refine ⟨.loop laid found rfl ?_ body, rfl⟩
    exact .cons (first.right _ List.mem_cons_self) (.cons (last.right _ List.mem_cons_self) step)
  · refine .bind (trimmed .expression asked _ less) fun items entered _ => ?_
    refine .expect nofun nofun (fun stuck => stuck.ne rfl) fun begun _ => ?_
    refine .bind (loopBody_cuts trimmed less) fun body ended _ => .nodeFrom ?_ id
    intro body items _
    exact ⟨.loop laid found rfl items.right body, rfl⟩

theorem whileLoop_cuts (trimmed : Trimmed cut fault bound)
    (found : place.current.kind = .keyword .whileWord) :
    Cuts cut fault bound place False none (whileLoop grammar)
      (fun node next => Reported cut fault place [node] next) Stuck := by
  refine .opened (.known fun laid => .advance found nofun nofun fun start smaller less _ => ?_)
  refine .bind label_cuts fun label named _ => ?_
  refine .bind (trimmed .expression named _ less) fun condition entered _ => ?_
  refine .expect nofun nofun (fun stuck => stuck.ne rfl) fun begun _ => ?_
  refine .bind (loopBody_cuts trimmed less) fun body ended _ => .nodeFrom ?_ id
  intro body condition _
  exact ⟨.loop laid found rfl condition.right body, rfl⟩

theorem endlessLoop_cuts (trimmed : Trimmed cut fault bound)
    (found : place.current.kind = .keyword .loopWord) :
    Cuts cut fault bound place False none (endlessLoop grammar)
      (fun node next => Reported cut fault place [node] next) Stuck := by
  refine .opened (.known fun laid => .advance found nofun nofun fun start smaller less _ => ?_)
  refine .bind label_cuts fun label named _ => .eat nofun nofun fun _ begun _ => ?_
  refine .bind (loopBody_cuts trimmed less) fun body ended _ => .nodeFrom ?_ id
  intro body _
  exact ⟨.loop laid found rfl .nil body, rfl⟩

theorem doLoop_cuts (trimmed : Trimmed cut fault bound)
    (found : place.current.kind = .keyword .doWord) :
    Cuts cut fault bound place False none (doLoop grammar)
      (fun node next => Reported cut fault place [node] next) Stuck := by
  refine .opened (.known fun laid => .advance found nofun nofun fun start smaller less _ => ?_)
  refine .bind label_cuts fun label named _ => ?_
  refine .bind (doBody_cuts trimmed less) fun body ended _ => ?_
  refine .expect nofun nofun False.elim fun again _ => ?_
  refine .expect nofun nofun False.elim fun asked _ => ?_
  refine .bind (trimmed .expression asked _ less) fun condition tested _ => .nodeFrom ?_ id
  intro condition body _
  exact ⟨.loop laid found rfl condition.right body, rfl⟩

/-! ## Functions and classes -/

/-- The defaults of parameters are right. -/
abbrev Defaulted (cut : Cut) (fault : ParseError) (given : Parameters) : Prop :=
  AllRight cut fault (Layout.defaultsOf given)

theorem parameter_cuts (trimmed : Trimmed cut fault bound) (less : smaller < bound)
    (given : Parameters) :
    Cuts cut fault smaller place False none (parameter grammar given)
      (fun extended _ => Defaulted cut fault given → Defaulted cut fault extended) Stuck := by
  refine .identifier fun name next _ => ?_
  dsimp only
  split
  · exact .failAt
  refine .ifEat nofun nofun nofun (fun value _ below _ => .shrink below ?_) ?_
  · refine .bind (trimmed .expression value _ less) fun value last _ => .pure ?_ id
    intro default right
    have listed : Layout.defaultsOf { given with optional := given.optional ++ [(name, value)] } =
        Layout.defaultsOf given ++ [value] := List.map_append
    rw [Defaulted, listed]
    exact right.append default.right
  · split
    · exact .failAt
    · exact .pure id False.elim

theorem parameterList_cuts (trimmed : Trimmed cut fault bound) (less : smaller < bound)
    (fuel : Nat) (given : Parameters) :
    Cuts cut fault smaller place False none (parameterList grammar fuel given)
      (fun extended _ => Defaulted cut fault given → Defaulted cut fault extended) Stuck := by
  induction fuel generalizing place given with
  | zero => exact parameter_cuts trimmed less given
  | succ fuel ih =>
      refine .bind (parameter_cuts trimmed less given) fun extended next _ => ?_
      refine .ifEat nofun nofun (fun stuck => stuck.ne rfl)
        (fun further _ below _ => .shrink below ?_) (.pure id id)
      exact (ih extended).mono (fun _ _ _ _ later earlier right => later (earlier right))
        fun _ gone => gone

theorem parameters_cuts (trimmed : Trimmed cut fault bound) (less : smaller < bound) :
    Cuts cut fault smaller place False none (parameters grammar)
      (fun given _ => Defaulted cut fault given) fun _ => False := by
  refine .expect nofun nofun False.elim fun start _ => ?_
  have read : Cuts cut fault smaller start False none
      (isAt (.closing .round) >>= fun found => if found = true then pure ⟨[], []⟩
        else repeated fun fuel => parameterList grammar fuel ⟨[], []⟩)
      (fun given _ => Defaulted cut fault given) Stuck := by
    refine .ifAt (fun _ => .pure .nil False.elim) fun _ => ?_
    exact (Cuts.repeated (.parameters _) fun fuel _ => parameterList_cuts trimmed less fuel _).mono
      (fun _ _ _ _ extended => extended .nil) fun _ gone => gone
  refine .bind read fun given ended _ => ?_
  exact .expect nofun nofun (fun stuck => stuck.ne rfl) fun last _ => .pure id id

theorem function_cuts (trimmed : Trimmed cut fault bound)
    (found : place.current.kind = .keyword .defWord) :
    Cuts cut fault bound place False none (function grammar)
      (fun node next => Reported cut fault place [node] next) Stuck := by
  refine .opened (.known fun laid => .advance found nofun nofun fun start smaller less _ => ?_)
  refine .bind functionName_cuts fun name named _ => ?_
  refine .bind (parameters_cuts trimmed less) fun given listed _ => ?_
  refine .ifEat (by simp) nofun False.elim (fun begun _ below _ => .shrink below ?_)
    (.ifAt (fun _ => ?_) fun _ => .unexpected)
  · refine .bind (trimmed .expression begun _ less) fun body ended _ => .nodeFrom ?_ id
    intro body defaults _
    exact ⟨.plain (.cons (body.right _ List.mem_cons_self) defaults) fun _ _ _ => nofun, rfl⟩
  · refine .bind (closedBlock_cuts trimmed less rfl) fun body ended _ => .nodeFrom ?_ False.elim
    intro body defaults _
    refine ⟨.opened laid found (.cons body.1 defaults) fun given closer inner stands => ?_, rfl⟩
    cases stands
    exact ⟨rfl, body.2⟩

/-- The node that a part makes up is not a block. -/
def Part.Blockless : (part : Part) → part.Tree → Prop
  | .statement, node | .expression, node | .fallback, node | .tier _, node | .operand _, node
  | .comparison, node | .factor, node | .power, node | .chain, node | .call, node | .atom, node
  | .step, node | .path, node => ∀ statements, node.form ≠ .block statements
  | _, _ => True

theorem Derives.blockless {part : Part} {kinds : List TokenKind} {tree : part.Tree}
    (derives : Derives part kinds tree) : part.Blockless tree := by
  induction derives <;> simp_all [Part.Blockless]

theorem statement_not_block {node : Node} (laid : cut.layout.Laid place)
    (read : grammar .statement place = .ok (node, next)) (statements : List Node) :
    node.form ≠ .block statements := by
  rcases follows_grammar.statement place laid.near.closed_here.ended node next read with
    ⟨kinds, -, derives⟩
  exact derives.blockless statements

theorem parentClause_cuts (trimmed : Trimmed cut fault bound) (less : smaller < bound) :
    Cuts cut fault smaller place False none (parentClause grammar)
      (fun parent _ => AllRight cut fault parent.toList) fun _ => False := by
  refine .ifEat nofun nofun nofun (fun next _ below _ => .shrink below ?_) (.pure .nil id)
  refine .bind (trimmed .chain next _ less) fun parent ended _ => ?_
  refine .expect nofun nofun (fun astray => ?_) fun last _ => .pure Reported.right id
  rcases astray with stranded | lost
  · exact stranded.ne rfl
  · exact lost.followed

theorem classDefinition_cuts (trimmed : Trimmed cut fault bound)
    (found : place.current.kind = .keyword .classWord) :
    Cuts cut fault bound place False none (classDefinition grammar)
      (fun node next => Reported cut fault place [node] next) Stuck := by
  refine .opened (.known fun laid => .advance found nofun nofun fun start smaller less _ => ?_)
  refine .identifier fun name named _ => ?_
  refine .bind (parentClause_cuts trimmed less) fun parent listed _ => ?_
  refine .ifEat (by simp) nofun False.elim (fun begun _ below _ => .shrink below ?_)
    (.ifAt (fun _ => ?_) fun _ => .unexpected)
  · -- The body is a statement, and so no block.
    refine .bind (.also (fun laid _ _ read => statement_not_block laid read)
      (trimmed .statement begun _ less)) fun body ended _ => .nodeFrom ?_ id
    intro body extended
    refine ⟨.opened laid found (.cons (body.1.right _ List.mem_cons_self) extended)
      fun given closer inner stands => ?_, rfl⟩
    cases stands
    refine ⟨rfl, fun direct => ?_⟩
    rcases direct.between with ⟨statements, same, -⟩
    exact absurd same (body.2 statements)
  · refine .bind (closedBlock_cuts trimmed less rfl) fun body ended _ => .nodeFrom ?_ False.elim
    intro body extended
    refine ⟨.opened laid found (.cons body.1 extended) fun given closer inner stands => ?_, rfl⟩
    cases stands
    exact ⟨rfl, body.2⟩

end Grammar
end Scripting
