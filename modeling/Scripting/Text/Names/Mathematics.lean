import Scripting.Text.Names.Block

namespace Scripting
namespace Text

/-!
Names of arrows and of the signs and letters of mathematics.
-/

namespace NameBlock

/-- Names in the block Arrows. -/
def arrows : NameBlock where
  first := 0x2190
  last := 0x21FF
  rows :=
    [⟨0x2190, "", "LEFTWARDS ARROW;UPWARDS ARROW;RIGHTWARDS ARROW;DOWNWARDS ARROW"⟩,
     ⟨0x2194, "", "LEFT RIGHT ARROW;UP DOWN ARROW;NORTH WEST ARROW;NORTH EAST ARROW"⟩,
     ⟨0x2198, "SOUTH ", "EAST ARROW;WEST ARROW"⟩,
     ⟨0x219A, "", "LEFTWARDS ARROW WITH STROKE;RIGHTWARDS ARROW WITH STROKE;LEFTWARDS WAVE ARROW"⟩,
     ⟨0x219D, "", "RIGHTWARDS WAVE ARROW;LEFTWARDS TWO HEADED ARROW;UPWARDS TWO HEADED ARROW"⟩,
     ⟨0x21A0, "", "RIGHTWARDS TWO HEADED ARROW;DOWNWARDS TWO HEADED ARROW"⟩,
     ⟨0x21A2, "", "LEFTWARDS ARROW WITH TAIL;RIGHTWARDS ARROW WITH TAIL;LEFTWARDS ARROW FROM BAR"⟩,
     ⟨0x21A5, "", "UPWARDS ARROW FROM BAR;RIGHTWARDS ARROW FROM BAR;DOWNWARDS ARROW FROM BAR"⟩,
     ⟨0x21A8, "", "UP DOWN ARROW WITH BASE;LEFTWARDS ARROW WITH HOOK;RIGHTWARDS ARROW WITH HOOK"⟩,
     ⟨0x21AB, "", "LEFTWARDS ARROW WITH LOOP;RIGHTWARDS ARROW WITH LOOP"⟩,
     ⟨0x21AD, "", "LEFT RIGHT WAVE ARROW;LEFT RIGHT ARROW WITH STROKE;DOWNWARDS ZIGZAG ARROW"⟩,
     ⟨0x21B0, "UPWARDS ARROW WITH TIP ", "LEFTWARDS;RIGHTWARDS"⟩,
     ⟨0x21B2, "DOWNWARDS ARROW WITH TIP ", "LEFTWARDS;RIGHTWARDS"⟩,
     ⟨0x21B4, "", "RIGHTWARDS ARROW WITH CORNER DOWNWARDS"⟩,
     ⟨0x21B5, "", "DOWNWARDS ARROW WITH CORNER LEFTWARDS;ANTICLOCKWISE TOP SEMICIRCLE ARROW"⟩,
     ⟨0x21B7, "", "CLOCKWISE TOP SEMICIRCLE ARROW;NORTH WEST ARROW TO LONG BAR"⟩,
     ⟨0x21B9, "", "LEFTWARDS ARROW TO BAR OVER RIGHTWARDS ARROW TO BAR"⟩,
     ⟨0x21BA, "", "ANTICLOCKWISE OPEN CIRCLE ARROW;CLOCKWISE OPEN CIRCLE ARROW"⟩,
     ⟨0x21BC, "LEFTWARDS HARPOON WITH BARB ", "UPWARDS;DOWNWARDS"⟩,
     ⟨0x21BE, "UPWARDS HARPOON WITH BARB ", "RIGHTWARDS;LEFTWARDS"⟩,
     ⟨0x21C0, "RIGHTWARDS HARPOON WITH BARB ", "UPWARDS;DOWNWARDS"⟩,
     ⟨0x21C2, "DOWNWARDS HARPOON WITH BARB ", "RIGHTWARDS;LEFTWARDS"⟩,
     ⟨0x21C4, "", "RIGHTWARDS ARROW OVER LEFTWARDS ARROW"⟩,
     ⟨0x21C5, "", "UPWARDS ARROW LEFTWARDS OF DOWNWARDS ARROW"⟩,
     ⟨0x21C6, "LEFTWARDS ", "ARROW OVER RIGHTWARDS ARROW;PAIRED ARROWS"⟩,
     ⟨0x21C8, "", "UPWARDS PAIRED ARROWS;RIGHTWARDS PAIRED ARROWS"⟩,
     ⟨0x21CA, "", "DOWNWARDS PAIRED ARROWS;LEFTWARDS HARPOON OVER RIGHTWARDS HARPOON"⟩,
     ⟨0x21CC, "", "RIGHTWARDS HARPOON OVER LEFTWARDS HARPOON;LEFTWARDS DOUBLE ARROW WITH STROKE"⟩,
     ⟨0x21CE, "", "LEFT RIGHT DOUBLE ARROW WITH STROKE;RIGHTWARDS DOUBLE ARROW WITH STROKE"⟩,
     ⟨0x21D0, "", "LEFTWARDS DOUBLE ARROW;UPWARDS DOUBLE ARROW;RIGHTWARDS DOUBLE ARROW"⟩,
     ⟨0x21D3, "", "DOWNWARDS DOUBLE ARROW;LEFT RIGHT DOUBLE ARROW;UP DOWN DOUBLE ARROW"⟩,
     ⟨0x21D6, "NORTH ", "WEST DOUBLE ARROW;EAST DOUBLE ARROW"⟩,
     ⟨0x21D8, "SOUTH ", "EAST DOUBLE ARROW;WEST DOUBLE ARROW"⟩,
     ⟨0x21DA, "", "LEFTWARDS TRIPLE ARROW;RIGHTWARDS TRIPLE ARROW;LEFTWARDS SQUIGGLE ARROW"⟩,
     ⟨0x21DD, "", "RIGHTWARDS SQUIGGLE ARROW;UPWARDS ARROW WITH DOUBLE STROKE"⟩,
     ⟨0x21DF, "", "DOWNWARDS ARROW WITH DOUBLE STROKE;LEFTWARDS DASHED ARROW"⟩,
     ⟨0x21E1, "", "UPWARDS DASHED ARROW;RIGHTWARDS DASHED ARROW;DOWNWARDS DASHED ARROW"⟩,
     ⟨0x21E4, "", "LEFTWARDS ARROW TO BAR;RIGHTWARDS ARROW TO BAR;LEFTWARDS WHITE ARROW"⟩,
     ⟨0x21E7, "", "UPWARDS WHITE ARROW;RIGHTWARDS WHITE ARROW;DOWNWARDS WHITE ARROW"⟩,
     ⟨0x21EA, "UPWARDS WHITE ARROW ", "FROM BAR;ON PEDESTAL"⟩,
     ⟨0x21EC, "UPWARDS WHITE ARROW ON PEDESTAL WITH ", "HORIZONTAL BAR;VERTICAL BAR"⟩,
     ⟨0x21EE, "UPWARDS WHITE DOUBLE ", "ARROW;ARROW ON PEDESTAL"⟩,
     ⟨0x21F0, "", "RIGHTWARDS WHITE ARROW FROM WALL"⟩,
     ⟨0x21F1, "", "NORTH WEST ARROW TO CORNER;SOUTH EAST ARROW TO CORNER;UP DOWN WHITE ARROW"⟩,
     ⟨0x21F4, "", "RIGHT ARROW WITH SMALL CIRCLE;DOWNWARDS ARROW LEFTWARDS OF UPWARDS ARROW"⟩,
     ⟨0x21F6, "", "THREE RIGHTWARDS ARROWS;LEFTWARDS ARROW WITH VERTICAL STROKE"⟩,
     ⟨0x21F8, "", "RIGHTWARDS ARROW WITH VERTICAL STROKE;LEFT RIGHT ARROW WITH VERTICAL STROKE"⟩,
     ⟨0x21FA, "", "LEFTWARDS ARROW WITH DOUBLE VERTICAL STROKE"⟩,
     ⟨0x21FB, "", "RIGHTWARDS ARROW WITH DOUBLE VERTICAL STROKE"⟩,
     ⟨0x21FC, "", "LEFT RIGHT ARROW WITH DOUBLE VERTICAL STROKE;LEFTWARDS OPEN-HEADED ARROW"⟩,
     ⟨0x21FE, "", "RIGHTWARDS OPEN-HEADED ARROW;LEFT RIGHT OPEN-HEADED ARROW"⟩]

/-- Names in the block Mathematical Operators. -/
def mathematicalOperators : NameBlock where
  first := 0x2200
  last := 0x22FF
  rows :=
    [⟨0x2200, "", "FOR ALL;COMPLEMENT;PARTIAL DIFFERENTIAL;THERE EXISTS;THERE DOES NOT EXIST"⟩,
     ⟨0x2205, "", "EMPTY SET;INCREMENT;NABLA;ELEMENT OF;NOT AN ELEMENT OF;SMALL ELEMENT OF"⟩,
     ⟨0x220B, "", "CONTAINS AS MEMBER;DOES NOT CONTAIN AS MEMBER;SMALL CONTAINS AS MEMBER"⟩,
     ⟨0x220E, "", "END OF PROOF;N-ARY PRODUCT;N-ARY COPRODUCT;N-ARY SUMMATION;MINUS SIGN"⟩,
     ⟨0x2213, "", "MINUS-OR-PLUS SIGN;DOT PLUS;DIVISION SLASH;SET MINUS;ASTERISK OPERATOR"⟩,
     ⟨0x2218, "", "RING OPERATOR;BULLET OPERATOR;SQUARE ROOT;CUBE ROOT;FOURTH ROOT"⟩,
     ⟨0x221D, "", "PROPORTIONAL TO;INFINITY;RIGHT ANGLE;ANGLE;MEASURED ANGLE;SPHERICAL ANGLE"⟩,
     ⟨0x2223, "", "DIVIDES;DOES NOT DIVIDE;PARALLEL TO;NOT PARALLEL TO;LOGICAL AND"⟩,
     ⟨0x2228, "", "LOGICAL OR;INTERSECTION;UNION;INTEGRAL;DOUBLE INTEGRAL;TRIPLE INTEGRAL"⟩,
     ⟨0x222E, "", "CONTOUR INTEGRAL;SURFACE INTEGRAL;VOLUME INTEGRAL;CLOCKWISE INTEGRAL"⟩,
     ⟨0x2232, "", "CLOCKWISE CONTOUR INTEGRAL;ANTICLOCKWISE CONTOUR INTEGRAL;THEREFORE"⟩,
     ⟨0x2235, "", "BECAUSE;RATIO;PROPORTION;DOT MINUS;EXCESS;GEOMETRIC PROPORTION;HOMOTHETIC"⟩,
     ⟨0x223C, "", "TILDE OPERATOR;REVERSED TILDE;INVERTED LAZY S;SINE WAVE;WREATH PRODUCT"⟩,
     ⟨0x2241, "", "NOT TILDE;MINUS TILDE;ASYMPTOTICALLY EQUAL TO;NOT ASYMPTOTICALLY EQUAL TO"⟩,
     ⟨0x2245, "APPROXIMATELY ", "EQUAL TO;BUT NOT ACTUALLY EQUAL TO"⟩,
     ⟨0x2247, "", "NEITHER APPROXIMATELY NOR ACTUALLY EQUAL TO"⟩,
     ⟨0x2248, "", "ALMOST EQUAL TO;NOT ALMOST EQUAL TO;ALMOST EQUAL OR EQUAL TO"⟩,
     ⟨0x224B, "", "TRIPLE TILDE;ALL EQUAL TO;EQUIVALENT TO;GEOMETRICALLY EQUIVALENT TO"⟩,
     ⟨0x224F, "", "DIFFERENCE BETWEEN;APPROACHES THE LIMIT;GEOMETRICALLY EQUAL TO"⟩,
     ⟨0x2252, "", "APPROXIMATELY EQUAL TO OR THE IMAGE OF;IMAGE OF OR APPROXIMATELY EQUAL TO"⟩,
     ⟨0x2254, "", "COLON EQUALS;EQUALS COLON;RING IN EQUAL TO;RING EQUAL TO;CORRESPONDS TO"⟩,
     ⟨0x2259, "", "ESTIMATES;EQUIANGULAR TO;STAR EQUALS;DELTA EQUAL TO;EQUAL TO BY DEFINITION"⟩,
     ⟨0x225E, "", "MEASURED BY;QUESTIONED EQUAL TO;NOT EQUAL TO;IDENTICAL TO;NOT IDENTICAL TO"⟩,
     ⟨0x2263, "", "STRICTLY EQUIVALENT TO;LESS-THAN OR EQUAL TO;GREATER-THAN OR EQUAL TO"⟩,
     ⟨0x2266, "", "LESS-THAN OVER EQUAL TO;GREATER-THAN OVER EQUAL TO;LESS-THAN BUT NOT EQUAL TO"⟩,
     ⟨0x2269, "", "GREATER-THAN BUT NOT EQUAL TO;MUCH LESS-THAN;MUCH GREATER-THAN;BETWEEN"⟩,
     ⟨0x226D, "NOT ", "EQUIVALENT TO;LESS-THAN;GREATER-THAN"⟩,
     ⟨0x2270, "NEITHER ", "LESS-THAN NOR EQUAL TO;GREATER-THAN NOR EQUAL TO"⟩,
     ⟨0x2272, "", "LESS-THAN OR EQUIVALENT TO;GREATER-THAN OR EQUIVALENT TO"⟩,
     ⟨0x2274, "NEITHER ", "LESS-THAN NOR EQUIVALENT TO;GREATER-THAN NOR EQUIVALENT TO"⟩,
     ⟨0x2276, "", "LESS-THAN OR GREATER-THAN;GREATER-THAN OR LESS-THAN"⟩,
     ⟨0x2278, "NEITHER ", "LESS-THAN NOR GREATER-THAN;GREATER-THAN NOR LESS-THAN"⟩,
     ⟨0x227A, "", "PRECEDES;SUCCEEDS;PRECEDES OR EQUAL TO"⟩,
     ⟨0x227D, "", "SUCCEEDS OR EQUAL TO;PRECEDES OR EQUIVALENT TO;SUCCEEDS OR EQUIVALENT TO"⟩,
     ⟨0x2280, "", "DOES NOT PRECEDE;DOES NOT SUCCEED;SUBSET OF;SUPERSET OF;NOT A SUBSET OF"⟩,
     ⟨0x2285, "", "NOT A SUPERSET OF;SUBSET OF OR EQUAL TO;SUPERSET OF OR EQUAL TO"⟩,
     ⟨0x2288, "NEITHER A ", "SUBSET OF NOR EQUAL TO;SUPERSET OF NOR EQUAL TO"⟩,
     ⟨0x228A, "", "SUBSET OF WITH NOT EQUAL TO;SUPERSET OF WITH NOT EQUAL TO"⟩,
     ⟨0x228C, "", "MULTISET;MULTISET MULTIPLICATION;MULTISET UNION;SQUARE IMAGE OF"⟩,
     ⟨0x2290, "SQUARE ", "ORIGINAL OF;IMAGE OF OR EQUAL TO;ORIGINAL OF OR EQUAL TO;CAP;CUP"⟩,
     ⟨0x2295, "CIRCLED ", "PLUS;MINUS;TIMES;DIVISION SLASH"⟩,
     ⟨0x2299, "CIRCLED ", "DOT OPERATOR;RING OPERATOR;ASTERISK OPERATOR;EQUALS;DASH"⟩,
     ⟨0x229E, "SQUARED ", "PLUS;MINUS;TIMES;DOT OPERATOR"⟩,
     ⟨0x22A2, "", "RIGHT TACK;LEFT TACK;DOWN TACK;UP TACK;ASSERTION;MODELS;TRUE;FORCES"⟩,
     ⟨0x22AA, "", "TRIPLE VERTICAL BAR RIGHT TURNSTILE;DOUBLE VERTICAL BAR DOUBLE RIGHT TURNSTILE"⟩,
     ⟨0x22AC, "", "DOES NOT PROVE;NOT TRUE;DOES NOT FORCE"⟩,
     ⟨0x22AF, "", "NEGATED DOUBLE VERTICAL BAR DOUBLE RIGHT TURNSTILE;PRECEDES UNDER RELATION"⟩,
     ⟨0x22B1, "", "SUCCEEDS UNDER RELATION;NORMAL SUBGROUP OF;CONTAINS AS NORMAL SUBGROUP"⟩,
     ⟨0x22B4, "", "NORMAL SUBGROUP OF OR EQUAL TO;CONTAINS AS NORMAL SUBGROUP OR EQUAL TO"⟩,
     ⟨0x22B6, "", "ORIGINAL OF;IMAGE OF;MULTIMAP;HERMITIAN CONJUGATE MATRIX"⟩,
     ⟨0x22BA, "", "INTERCALATE;XOR;NAND;NOR;RIGHT ANGLE WITH ARC;RIGHT TRIANGLE"⟩,
     ⟨0x22C0, "N-ARY ", "LOGICAL AND;LOGICAL OR;INTERSECTION;UNION"⟩,
     ⟨0x22C4, "", "DIAMOND OPERATOR;DOT OPERATOR;STAR OPERATOR;DIVISION TIMES;BOWTIE"⟩,
     ⟨0x22C9, "", "LEFT NORMAL FACTOR SEMIDIRECT PRODUCT;RIGHT NORMAL FACTOR SEMIDIRECT PRODUCT"⟩,
     ⟨0x22CB, "", "LEFT SEMIDIRECT PRODUCT;RIGHT SEMIDIRECT PRODUCT;REVERSED TILDE EQUALS"⟩,
     ⟨0x22CE, "CURLY LOGICAL ", "OR;AND"⟩,
     ⟨0x22D0, "DOUBLE ", "SUBSET;SUPERSET;INTERSECTION;UNION"⟩,
     ⟨0x22D4, "", "PITCHFORK;EQUAL AND PARALLEL TO;LESS-THAN WITH DOT;GREATER-THAN WITH DOT"⟩,
     ⟨0x22D8, "VERY MUCH ", "LESS-THAN;GREATER-THAN"⟩,
     ⟨0x22DA, "", "LESS-THAN EQUAL TO OR GREATER-THAN;GREATER-THAN EQUAL TO OR LESS-THAN"⟩,
     ⟨0x22DC, "EQUAL TO OR ", "LESS-THAN;GREATER-THAN;PRECEDES;SUCCEEDS"⟩,
     ⟨0x22E0, "DOES NOT ", "PRECEDE OR EQUAL;SUCCEED OR EQUAL"⟩,
     ⟨0x22E2, "NOT SQUARE ", "IMAGE OF OR EQUAL TO;ORIGINAL OF OR EQUAL TO"⟩,
     ⟨0x22E4, "SQUARE ", "IMAGE OF OR NOT EQUAL TO;ORIGINAL OF OR NOT EQUAL TO"⟩,
     ⟨0x22E6, "", "LESS-THAN BUT NOT EQUIVALENT TO"⟩,
     ⟨0x22E7, "", "GREATER-THAN BUT NOT EQUIVALENT TO;PRECEDES BUT NOT EQUIVALENT TO"⟩,
     ⟨0x22E9, "", "SUCCEEDS BUT NOT EQUIVALENT TO;NOT NORMAL SUBGROUP OF"⟩,
     ⟨0x22EB, "", "DOES NOT CONTAIN AS NORMAL SUBGROUP;NOT NORMAL SUBGROUP OF OR EQUAL TO"⟩,
     ⟨0x22ED, "", "DOES NOT CONTAIN AS NORMAL SUBGROUP OR EQUAL"⟩,
     ⟨0x22EE, "", "VERTICAL ELLIPSIS;MIDLINE HORIZONTAL ELLIPSIS;UP RIGHT DIAGONAL ELLIPSIS"⟩,
     ⟨0x22F1, "", "DOWN RIGHT DIAGONAL ELLIPSIS;ELEMENT OF WITH LONG HORIZONTAL STROKE"⟩,
     ⟨0x22F3, "", "ELEMENT OF WITH VERTICAL BAR AT END OF HORIZONTAL STROKE"⟩,
     ⟨0x22F4, "", "SMALL ELEMENT OF WITH VERTICAL BAR AT END OF HORIZONTAL STROKE"⟩,
     ⟨0x22F5, "ELEMENT OF WITH ", "DOT ABOVE;OVERBAR"⟩,
     ⟨0x22F7, "", "SMALL ELEMENT OF WITH OVERBAR"⟩,
     ⟨0x22F8, "ELEMENT OF WITH ", "UNDERBAR;TWO HORIZONTAL STROKES"⟩,
     ⟨0x22FA, "CONTAINS WITH ", "LONG HORIZONTAL STROKE;VERTICAL BAR AT END OF HORIZONTAL STROKE"⟩,
     ⟨0x22FC, "", "SMALL CONTAINS WITH VERTICAL BAR AT END OF HORIZONTAL STROKE"⟩,
     ⟨0x22FD, "", "CONTAINS WITH OVERBAR;SMALL CONTAINS WITH OVERBAR;Z NOTATION BAG MEMBERSHIP"⟩]

/-- Names in the block Miscellaneous Mathematical Symbols-A. -/
def miscellaneousMathematicalSymbolsA : NameBlock where
  first := 0x27C0
  last := 0x27EF
  rows :=
    [⟨0x27C0, "", "THREE DIMENSIONAL ANGLE"⟩,
     ⟨0x27C1, "", "WHITE TRIANGLE CONTAINING SMALL WHITE TRIANGLE;PERPENDICULAR;OPEN SUBSET"⟩,
     ⟨0x27C4, "", "OPEN SUPERSET;LEFT S-SHAPED BAG DELIMITER;RIGHT S-SHAPED BAG DELIMITER"⟩,
     ⟨0x27C7, "", "OR WITH DOT INSIDE;REVERSE SOLIDUS PRECEDING SUBSET;SUPERSET PRECEDING SOLIDUS"⟩,
     ⟨0x27CA, "", "VERTICAL BAR WITH HORIZONTAL STROKE;MATHEMATICAL RISING DIAGONAL;LONG DIVISION"⟩,
     ⟨0x27CD, "", "MATHEMATICAL FALLING DIAGONAL;SQUARED LOGICAL AND;SQUARED LOGICAL OR"⟩,
     ⟨0x27D0, "", "WHITE DIAMOND WITH CENTRED DOT;AND WITH DOT;ELEMENT OF OPENING UPWARDS"⟩,
     ⟨0x27D3, "", "LOWER RIGHT CORNER WITH DOT;UPPER LEFT CORNER WITH DOT"⟩,
     ⟨0x27D5, "", "LEFT OUTER JOIN;RIGHT OUTER JOIN;FULL OUTER JOIN;LARGE UP TACK;LARGE DOWN TACK"⟩,
     ⟨0x27DA, "LEFT AND RIGHT ", "DOUBLE TURNSTILE;TACK"⟩,
     ⟨0x27DC, "", "LEFT MULTIMAP;LONG RIGHT TACK;LONG LEFT TACK;UP TACK WITH CIRCLE ABOVE"⟩,
     ⟨0x27E0, "", "LOZENGE DIVIDED BY HORIZONTAL RULE;WHITE CONCAVE-SIDED DIAMOND"⟩,
     ⟨0x27E2, "WHITE CONCAVE-SIDED DIAMOND WITH ", "LEFTWARDS TICK;RIGHTWARDS TICK"⟩,
     ⟨0x27E4, "WHITE SQUARE WITH ", "LEFTWARDS TICK;RIGHTWARDS TICK"⟩,
     ⟨0x27E6, "MATHEMATICAL ", "LEFT WHITE SQUARE BRACKET;RIGHT WHITE SQUARE BRACKET"⟩,
     ⟨0x27E8, "MATHEMATICAL ", "LEFT ANGLE BRACKET;RIGHT ANGLE BRACKET;LEFT DOUBLE ANGLE BRACKET"⟩,
     ⟨0x27EB, "MATHEMATICAL ", "RIGHT DOUBLE ANGLE BRACKET;LEFT WHITE TORTOISE SHELL BRACKET"⟩,
     ⟨0x27ED, "", "MATHEMATICAL RIGHT WHITE TORTOISE SHELL BRACKET"⟩,
     ⟨0x27EE, "MATHEMATICAL ", "LEFT FLATTENED PARENTHESIS;RIGHT FLATTENED PARENTHESIS"⟩]

/-- Names in the block Supplemental Arrows-A. -/
def supplementalArrowsA : NameBlock where
  first := 0x27F0
  last := 0x27FF
  rows :=
    [⟨0x27F0, "", "UPWARDS QUADRUPLE ARROW"⟩,
     ⟨0x27F1, "", "DOWNWARDS QUADRUPLE ARROW;ANTICLOCKWISE GAPPED CIRCLE ARROW"⟩,
     ⟨0x27F3, "", "CLOCKWISE GAPPED CIRCLE ARROW;RIGHT ARROW WITH CIRCLED PLUS"⟩,
     ⟨0x27F5, "LONG ", "LEFTWARDS ARROW;RIGHTWARDS ARROW;LEFT RIGHT ARROW;LEFTWARDS DOUBLE ARROW"⟩,
     ⟨0x27F9, "LONG ", "RIGHTWARDS DOUBLE ARROW;LEFT RIGHT DOUBLE ARROW;LEFTWARDS ARROW FROM BAR"⟩,
     ⟨0x27FC, "LONG ", "RIGHTWARDS ARROW FROM BAR;LEFTWARDS DOUBLE ARROW FROM BAR"⟩,
     ⟨0x27FE, "LONG RIGHTWARDS ", "DOUBLE ARROW FROM BAR;SQUIGGLE ARROW"⟩]

/-- Names in the block Supplemental Arrows-B. -/
def supplementalArrowsB : NameBlock where
  first := 0x2900
  last := 0x297F
  rows :=
    [⟨0x2900, "RIGHTWARDS TWO-HEADED ARROW WITH ", "VERTICAL STROKE;DOUBLE VERTICAL STROKE"⟩,
     ⟨0x2902, "", "LEFTWARDS DOUBLE ARROW WITH VERTICAL STROKE"⟩,
     ⟨0x2903, "", "RIGHTWARDS DOUBLE ARROW WITH VERTICAL STROKE"⟩,
     ⟨0x2904, "", "LEFT RIGHT DOUBLE ARROW WITH VERTICAL STROKE"⟩,
     ⟨0x2905, "", "RIGHTWARDS TWO-HEADED ARROW FROM BAR;LEFTWARDS DOUBLE ARROW FROM BAR"⟩,
     ⟨0x2907, "", "RIGHTWARDS DOUBLE ARROW FROM BAR;DOWNWARDS ARROW WITH HORIZONTAL STROKE"⟩,
     ⟨0x2909, "UPWARDS ", "ARROW WITH HORIZONTAL STROKE;TRIPLE ARROW"⟩,
     ⟨0x290B, "", "DOWNWARDS TRIPLE ARROW;LEFTWARDS DOUBLE DASH ARROW"⟩,
     ⟨0x290D, "", "RIGHTWARDS DOUBLE DASH ARROW;LEFTWARDS TRIPLE DASH ARROW"⟩,
     ⟨0x290F, "RIGHTWARDS ", "TRIPLE DASH ARROW;TWO-HEADED TRIPLE DASH ARROW"⟩,
     ⟨0x2911, "", "RIGHTWARDS ARROW WITH DOTTED STEM;UPWARDS ARROW TO BAR;DOWNWARDS ARROW TO BAR"⟩,
     ⟨0x2914, "RIGHTWARDS ARROW WITH TAIL WITH ", "VERTICAL STROKE;DOUBLE VERTICAL STROKE"⟩,
     ⟨0x2916, "RIGHTWARDS TWO-HEADED ARROW WITH ", "TAIL;TAIL WITH VERTICAL STROKE"⟩,
     ⟨0x2918, "", "RIGHTWARDS TWO-HEADED ARROW WITH TAIL WITH DOUBLE VERTICAL STROKE"⟩,
     ⟨0x2919, "", "LEFTWARDS ARROW-TAIL;RIGHTWARDS ARROW-TAIL;LEFTWARDS DOUBLE ARROW-TAIL"⟩,
     ⟨0x291C, "", "RIGHTWARDS DOUBLE ARROW-TAIL;LEFTWARDS ARROW TO BLACK DIAMOND"⟩,
     ⟨0x291E, "", "RIGHTWARDS ARROW TO BLACK DIAMOND;LEFTWARDS ARROW FROM BAR TO BLACK DIAMOND"⟩,
     ⟨0x2920, "", "RIGHTWARDS ARROW FROM BAR TO BLACK DIAMOND;NORTH WEST AND SOUTH EAST ARROW"⟩,
     ⟨0x2922, "NORTH ", "EAST AND SOUTH WEST ARROW;WEST ARROW WITH HOOK;EAST ARROW WITH HOOK"⟩,
     ⟨0x2925, "SOUTH ", "EAST ARROW WITH HOOK;WEST ARROW WITH HOOK"⟩,
     ⟨0x2927, "NORTH ", "WEST ARROW AND NORTH EAST ARROW;EAST ARROW AND SOUTH EAST ARROW"⟩,
     ⟨0x2929, "SOUTH ", "EAST ARROW AND SOUTH WEST ARROW;WEST ARROW AND NORTH WEST ARROW"⟩,
     ⟨0x292B, "", "RISING DIAGONAL CROSSING FALLING DIAGONAL"⟩,
     ⟨0x292C, "", "FALLING DIAGONAL CROSSING RISING DIAGONAL"⟩,
     ⟨0x292D, "", "SOUTH EAST ARROW CROSSING NORTH EAST ARROW"⟩,
     ⟨0x292E, "", "NORTH EAST ARROW CROSSING SOUTH EAST ARROW"⟩,
     ⟨0x292F, "", "FALLING DIAGONAL CROSSING NORTH EAST ARROW"⟩,
     ⟨0x2930, "", "RISING DIAGONAL CROSSING SOUTH EAST ARROW"⟩,
     ⟨0x2931, "", "NORTH EAST ARROW CROSSING NORTH WEST ARROW"⟩,
     ⟨0x2932, "", "NORTH WEST ARROW CROSSING NORTH EAST ARROW;WAVE ARROW POINTING DIRECTLY RIGHT"⟩,
     ⟨0x2934, "ARROW POINTING RIGHTWARDS THEN CURVING ", "UPWARDS;DOWNWARDS"⟩,
     ⟨0x2936, "ARROW POINTING DOWNWARDS THEN CURVING ", "LEFTWARDS;RIGHTWARDS"⟩,
     ⟨0x2938, "", "RIGHT-SIDE ARC CLOCKWISE ARROW;LEFT-SIDE ARC ANTICLOCKWISE ARROW"⟩,
     ⟨0x293A, "", "TOP ARC ANTICLOCKWISE ARROW;BOTTOM ARC ANTICLOCKWISE ARROW"⟩,
     ⟨0x293C, "TOP ARC ", "CLOCKWISE ARROW WITH MINUS;ANTICLOCKWISE ARROW WITH PLUS"⟩,
     ⟨0x293E, "LOWER ", "RIGHT SEMICIRCULAR CLOCKWISE ARROW;LEFT SEMICIRCULAR ANTICLOCKWISE ARROW"⟩,
     ⟨0x2940, "", "ANTICLOCKWISE CLOSED CIRCLE ARROW"⟩,
     ⟨0x2941, "", "CLOCKWISE CLOSED CIRCLE ARROW;RIGHTWARDS ARROW ABOVE SHORT LEFTWARDS ARROW"⟩,
     ⟨0x2943, "", "LEFTWARDS ARROW ABOVE SHORT RIGHTWARDS ARROW"⟩,
     ⟨0x2944, "", "SHORT RIGHTWARDS ARROW ABOVE LEFTWARDS ARROW"⟩,
     ⟨0x2945, "", "RIGHTWARDS ARROW WITH PLUS BELOW;LEFTWARDS ARROW WITH PLUS BELOW"⟩,
     ⟨0x2947, "", "RIGHTWARDS ARROW THROUGH X;LEFT RIGHT ARROW THROUGH SMALL CIRCLE"⟩,
     ⟨0x2949, "", "UPWARDS TWO-HEADED ARROW FROM SMALL CIRCLE"⟩,
     ⟨0x294A, "LEFT BARB ", "UP RIGHT BARB DOWN HARPOON;DOWN RIGHT BARB UP HARPOON"⟩,
     ⟨0x294C, "UP BARB ", "RIGHT DOWN BARB LEFT HARPOON;LEFT DOWN BARB RIGHT HARPOON"⟩,
     ⟨0x294E, "", "LEFT BARB UP RIGHT BARB UP HARPOON"⟩,
     ⟨0x294F, "", "UP BARB RIGHT DOWN BARB RIGHT HARPOON;LEFT BARB DOWN RIGHT BARB DOWN HARPOON"⟩,
     ⟨0x2951, "", "UP BARB LEFT DOWN BARB LEFT HARPOON;LEFTWARDS HARPOON WITH BARB UP TO BAR"⟩,
     ⟨0x2953, "", "RIGHTWARDS HARPOON WITH BARB UP TO BAR;UPWARDS HARPOON WITH BARB RIGHT TO BAR"⟩,
     ⟨0x2955, "", "DOWNWARDS HARPOON WITH BARB RIGHT TO BAR"⟩,
     ⟨0x2956, "", "LEFTWARDS HARPOON WITH BARB DOWN TO BAR"⟩,
     ⟨0x2957, "", "RIGHTWARDS HARPOON WITH BARB DOWN TO BAR"⟩,
     ⟨0x2958, "", "UPWARDS HARPOON WITH BARB LEFT TO BAR;DOWNWARDS HARPOON WITH BARB LEFT TO BAR"⟩,
     ⟨0x295A, "", "LEFTWARDS HARPOON WITH BARB UP FROM BAR"⟩,
     ⟨0x295B, "", "RIGHTWARDS HARPOON WITH BARB UP FROM BAR"⟩,
     ⟨0x295C, "", "UPWARDS HARPOON WITH BARB RIGHT FROM BAR"⟩,
     ⟨0x295D, "", "DOWNWARDS HARPOON WITH BARB RIGHT FROM BAR"⟩,
     ⟨0x295E, "", "LEFTWARDS HARPOON WITH BARB DOWN FROM BAR"⟩,
     ⟨0x295F, "", "RIGHTWARDS HARPOON WITH BARB DOWN FROM BAR"⟩,
     ⟨0x2960, "", "UPWARDS HARPOON WITH BARB LEFT FROM BAR"⟩,
     ⟨0x2961, "", "DOWNWARDS HARPOON WITH BARB LEFT FROM BAR"⟩,
     ⟨0x2962, "", "LEFTWARDS HARPOON WITH BARB UP ABOVE LEFTWARDS HARPOON WITH BARB DOWN"⟩,
     ⟨0x2963, "", "UPWARDS HARPOON WITH BARB LEFT BESIDE UPWARDS HARPOON WITH BARB RIGHT"⟩,
     ⟨0x2964, "", "RIGHTWARDS HARPOON WITH BARB UP ABOVE RIGHTWARDS HARPOON WITH BARB DOWN"⟩,
     ⟨0x2965, "", "DOWNWARDS HARPOON WITH BARB LEFT BESIDE DOWNWARDS HARPOON WITH BARB RIGHT"⟩,
     ⟨0x2966, "", "LEFTWARDS HARPOON WITH BARB UP ABOVE RIGHTWARDS HARPOON WITH BARB UP"⟩,
     ⟨0x2967, "", "LEFTWARDS HARPOON WITH BARB DOWN ABOVE RIGHTWARDS HARPOON WITH BARB DOWN"⟩,
     ⟨0x2968, "", "RIGHTWARDS HARPOON WITH BARB UP ABOVE LEFTWARDS HARPOON WITH BARB UP"⟩,
     ⟨0x2969, "", "RIGHTWARDS HARPOON WITH BARB DOWN ABOVE LEFTWARDS HARPOON WITH BARB DOWN"⟩,
     ⟨0x296A, "LEFTWARDS HARPOON WITH BARB ", "UP ABOVE LONG DASH;DOWN BELOW LONG DASH"⟩,
     ⟨0x296C, "RIGHTWARDS HARPOON WITH BARB ", "UP ABOVE LONG DASH;DOWN BELOW LONG DASH"⟩,
     ⟨0x296E, "", "UPWARDS HARPOON WITH BARB LEFT BESIDE DOWNWARDS HARPOON WITH BARB RIGHT"⟩,
     ⟨0x296F, "", "DOWNWARDS HARPOON WITH BARB LEFT BESIDE UPWARDS HARPOON WITH BARB RIGHT"⟩,
     ⟨0x2970, "", "RIGHT DOUBLE ARROW WITH ROUNDED HEAD;EQUALS SIGN ABOVE RIGHTWARDS ARROW"⟩,
     ⟨0x2972, "", "TILDE OPERATOR ABOVE RIGHTWARDS ARROW;LEFTWARDS ARROW ABOVE TILDE OPERATOR"⟩,
     ⟨0x2974, "RIGHTWARDS ARROW ABOVE ", "TILDE OPERATOR;ALMOST EQUAL TO"⟩,
     ⟨0x2976, "", "LESS-THAN ABOVE LEFTWARDS ARROW;LEFTWARDS ARROW THROUGH LESS-THAN"⟩,
     ⟨0x2978, "", "GREATER-THAN ABOVE RIGHTWARDS ARROW;SUBSET ABOVE RIGHTWARDS ARROW"⟩,
     ⟨0x297A, "", "LEFTWARDS ARROW THROUGH SUBSET;SUPERSET ABOVE LEFTWARDS ARROW"⟩,
     ⟨0x297C, "", "LEFT FISH TAIL;RIGHT FISH TAIL;UP FISH TAIL;DOWN FISH TAIL"⟩]

/-- Names in the block Miscellaneous Mathematical Symbols-B. -/
def miscellaneousMathematicalSymbolsB : NameBlock where
  first := 0x2980
  last := 0x29FF
  rows :=
    [⟨0x2980, "", "TRIPLE VERTICAL BAR DELIMITER"⟩,
     ⟨0x2981, "", "Z NOTATION SPOT;Z NOTATION TYPE COLON;LEFT WHITE CURLY BRACKET"⟩,
     ⟨0x2984, "", "RIGHT WHITE CURLY BRACKET;LEFT WHITE PARENTHESIS;RIGHT WHITE PARENTHESIS"⟩,
     ⟨0x2987, "Z NOTATION ", "LEFT IMAGE BRACKET;RIGHT IMAGE BRACKET;LEFT BINDING BRACKET"⟩,
     ⟨0x298A, "", "Z NOTATION RIGHT BINDING BRACKET;LEFT SQUARE BRACKET WITH UNDERBAR"⟩,
     ⟨0x298C, "", "RIGHT SQUARE BRACKET WITH UNDERBAR;LEFT SQUARE BRACKET WITH TICK IN TOP CORNER"⟩,
     ⟨0x298E, "", "RIGHT SQUARE BRACKET WITH TICK IN BOTTOM CORNER"⟩,
     ⟨0x298F, "", "LEFT SQUARE BRACKET WITH TICK IN BOTTOM CORNER"⟩,
     ⟨0x2990, "", "RIGHT SQUARE BRACKET WITH TICK IN TOP CORNER;LEFT ANGLE BRACKET WITH DOT"⟩,
     ⟨0x2992, "", "RIGHT ANGLE BRACKET WITH DOT;LEFT ARC LESS-THAN BRACKET"⟩,
     ⟨0x2994, "", "RIGHT ARC GREATER-THAN BRACKET;DOUBLE LEFT ARC GREATER-THAN BRACKET"⟩,
     ⟨0x2996, "", "DOUBLE RIGHT ARC LESS-THAN BRACKET;LEFT BLACK TORTOISE SHELL BRACKET"⟩,
     ⟨0x2998, "", "RIGHT BLACK TORTOISE SHELL BRACKET;DOTTED FENCE;VERTICAL ZIGZAG LINE"⟩,
     ⟨0x299B, "", "MEASURED ANGLE OPENING LEFT;RIGHT ANGLE VARIANT WITH SQUARE"⟩,
     ⟨0x299D, "", "MEASURED RIGHT ANGLE WITH DOT;ANGLE WITH S INSIDE;ACUTE ANGLE"⟩,
     ⟨0x29A0, "SPHERICAL ANGLE OPENING ", "LEFT;UP"⟩,
     ⟨0x29A2, "", "TURNED ANGLE;REVERSED ANGLE;ANGLE WITH UNDERBAR;REVERSED ANGLE WITH UNDERBAR"⟩,
     ⟨0x29A6, "OBLIQUE ANGLE OPENING ", "UP;DOWN"⟩,
     ⟨0x29A8, "MEASURED ANGLE WITH OPEN ARM ENDING IN ARROW POINTING UP AND ", "RIGHT;LEFT"⟩,
     ⟨0x29AA, "MEASURED ANGLE WITH OPEN ARM ENDING IN ARROW POINTING DOWN AND ", "RIGHT;LEFT"⟩,
     ⟨0x29AC, "MEASURED ANGLE WITH OPEN ARM ENDING IN ARROW POINTING ", "RIGHT AND UP;LEFT AND UP"⟩,
     ⟨0x29AE, "", "MEASURED ANGLE WITH OPEN ARM ENDING IN ARROW POINTING RIGHT AND DOWN"⟩,
     ⟨0x29AF, "", "MEASURED ANGLE WITH OPEN ARM ENDING IN ARROW POINTING LEFT AND DOWN"⟩,
     ⟨0x29B0, "", "REVERSED EMPTY SET"⟩,
     ⟨0x29B1, "EMPTY SET WITH ", "OVERBAR;SMALL CIRCLE ABOVE;RIGHT ARROW ABOVE;LEFT ARROW ABOVE"⟩,
     ⟨0x29B5, "", "CIRCLE WITH HORIZONTAL BAR"⟩,
     ⟨0x29B6, "CIRCLED ", "VERTICAL BAR;PARALLEL;REVERSE SOLIDUS;PERPENDICULAR"⟩,
     ⟨0x29BA, "", "CIRCLE DIVIDED BY HORIZONTAL BAR AND TOP HALF DIVIDED BY VERTICAL BAR"⟩,
     ⟨0x29BB, "", "CIRCLE WITH SUPERIMPOSED X"⟩,
     ⟨0x29BC, "", "CIRCLED ANTICLOCKWISE-ROTATED DIVISION SIGN;UP ARROW THROUGH CIRCLE"⟩,
     ⟨0x29BE, "CIRCLED ", "WHITE BULLET;BULLET;LESS-THAN;GREATER-THAN"⟩,
     ⟨0x29C2, "CIRCLE WITH ", "SMALL CIRCLE TO THE RIGHT;TWO HORIZONTAL STROKES TO THE RIGHT"⟩,
     ⟨0x29C4, "SQUARED ", "RISING DIAGONAL SLASH;FALLING DIAGONAL SLASH;ASTERISK;SMALL CIRCLE"⟩,
     ⟨0x29C8, "", "SQUARED SQUARE;TWO JOINED SQUARES"⟩,
     ⟨0x29CA, "", "TRIANGLE WITH DOT ABOVE;TRIANGLE WITH UNDERBAR;S IN TRIANGLE"⟩,
     ⟨0x29CD, "", "TRIANGLE WITH SERIFS AT BOTTOM;RIGHT TRIANGLE ABOVE LEFT TRIANGLE"⟩,
     ⟨0x29CF, "", "LEFT TRIANGLE BESIDE VERTICAL BAR;VERTICAL BAR BESIDE RIGHT TRIANGLE"⟩,
     ⟨0x29D1, "BOWTIE WITH ", "LEFT HALF BLACK;RIGHT HALF BLACK"⟩,
     ⟨0x29D3, "", "BLACK BOWTIE;TIMES WITH LEFT HALF BLACK;TIMES WITH RIGHT HALF BLACK"⟩,
     ⟨0x29D6, "", "WHITE HOURGLASS;BLACK HOURGLASS;LEFT WIGGLY FENCE;RIGHT WIGGLY FENCE"⟩,
     ⟨0x29DA, "", "LEFT DOUBLE WIGGLY FENCE;RIGHT DOUBLE WIGGLY FENCE;INCOMPLETE INFINITY"⟩,
     ⟨0x29DD, "", "TIE OVER INFINITY;INFINITY NEGATED WITH VERTICAL BAR;DOUBLE-ENDED MULTIMAP"⟩,
     ⟨0x29E0, "", "SQUARE WITH CONTOURED OUTLINE;INCREASES AS;SHUFFLE PRODUCT"⟩,
     ⟨0x29E3, "EQUALS SIGN AND SLANTED ", "PARALLEL;PARALLEL WITH TILDE ABOVE"⟩,
     ⟨0x29E5, "", "IDENTICAL TO AND SLANTED PARALLEL;GLEICH STARK;THERMODYNAMIC"⟩,
     ⟨0x29E8, "DOWN-POINTING TRIANGLE WITH ", "LEFT HALF BLACK;RIGHT HALF BLACK"⟩,
     ⟨0x29EA, "", "BLACK DIAMOND WITH DOWN ARROW;BLACK LOZENGE;WHITE CIRCLE WITH DOWN ARROW"⟩,
     ⟨0x29ED, "", "BLACK CIRCLE WITH DOWN ARROW;ERROR-BARRED WHITE SQUARE"⟩,
     ⟨0x29EF, "ERROR-BARRED ", "BLACK SQUARE;WHITE DIAMOND;BLACK DIAMOND;WHITE CIRCLE"⟩,
     ⟨0x29F3, "", "ERROR-BARRED BLACK CIRCLE;RULE-DELAYED;REVERSE SOLIDUS OPERATOR"⟩,
     ⟨0x29F6, "", "SOLIDUS WITH OVERBAR;REVERSE SOLIDUS WITH HORIZONTAL STROKE;BIG SOLIDUS"⟩,
     ⟨0x29F9, "", "BIG REVERSE SOLIDUS;DOUBLE PLUS;TRIPLE PLUS;LEFT-POINTING CURVED ANGLE BRACKET"⟩,
     ⟨0x29FD, "", "RIGHT-POINTING CURVED ANGLE BRACKET;TINY;MINY"⟩]

/-- Names in the block Supplemental Mathematical Operators. -/
def supplementalMathematicalOperators : NameBlock where
  first := 0x2A00
  last := 0x2AFF
  rows :=
    [⟨0x2A00, "N-ARY CIRCLED ", "DOT OPERATOR;PLUS OPERATOR;TIMES OPERATOR"⟩,
     ⟨0x2A03, "N-ARY UNION OPERATOR WITH ", "DOT;PLUS"⟩,
     ⟨0x2A05, "N-ARY SQUARE ", "INTERSECTION OPERATOR;UNION OPERATOR"⟩,
     ⟨0x2A07, "TWO LOGICAL ", "AND OPERATOR;OR OPERATOR"⟩,
     ⟨0x2A09, "", "N-ARY TIMES OPERATOR;MODULO TWO SUM"⟩,
     ⟨0x2A0B, "", "SUMMATION WITH INTEGRAL;QUADRUPLE INTEGRAL OPERATOR;FINITE PART INTEGRAL"⟩,
     ⟨0x2A0E, "", "INTEGRAL WITH DOUBLE STROKE;INTEGRAL AVERAGE WITH SLASH;CIRCULATION FUNCTION"⟩,
     ⟨0x2A11, "", "ANTICLOCKWISE INTEGRATION;LINE INTEGRATION WITH RECTANGULAR PATH AROUND POLE"⟩,
     ⟨0x2A13, "LINE INTEGRATION ", "WITH SEMICIRCULAR PATH AROUND POLE;NOT INCLUDING THE POLE"⟩,
     ⟨0x2A15, "", "INTEGRAL AROUND A POINT OPERATOR;QUATERNION INTEGRAL OPERATOR"⟩,
     ⟨0x2A17, "INTEGRAL WITH ", "LEFTWARDS ARROW WITH HOOK;TIMES SIGN;INTERSECTION;UNION;OVERBAR"⟩,
     ⟨0x2A1C, "", "INTEGRAL WITH UNDERBAR;JOIN;LARGE LEFT TRIANGLE OPERATOR"⟩,
     ⟨0x2A1F, "Z NOTATION SCHEMA ", "COMPOSITION;PIPING;PROJECTION"⟩,
     ⟨0x2A22, "PLUS SIGN WITH ", "SMALL CIRCLE ABOVE;CIRCUMFLEX ACCENT ABOVE"⟩,
     ⟨0x2A24, "PLUS SIGN WITH ", "TILDE ABOVE;DOT BELOW;TILDE BELOW;SUBSCRIPT TWO;BLACK TRIANGLE"⟩,
     ⟨0x2A29, "MINUS SIGN WITH ", "COMMA ABOVE;DOT BELOW;FALLING DOTS;RISING DOTS"⟩,
     ⟨0x2A2D, "PLUS SIGN IN ", "LEFT HALF CIRCLE;RIGHT HALF CIRCLE"⟩,
     ⟨0x2A2F, "", "VECTOR OR CROSS PRODUCT"⟩,
     ⟨0x2A30, "MULTIPLICATION SIGN WITH ", "DOT ABOVE;UNDERBAR"⟩,
     ⟨0x2A32, "", "SEMIDIRECT PRODUCT WITH BOTTOM CLOSED;SMASH PRODUCT"⟩,
     ⟨0x2A34, "MULTIPLICATION SIGN IN ", "LEFT HALF CIRCLE;RIGHT HALF CIRCLE"⟩,
     ⟨0x2A36, "", "CIRCLED MULTIPLICATION SIGN WITH CIRCUMFLEX ACCENT"⟩,
     ⟨0x2A37, "", "MULTIPLICATION SIGN IN DOUBLE CIRCLE;CIRCLED DIVISION SIGN"⟩,
     ⟨0x2A39, "", "PLUS SIGN IN TRIANGLE;MINUS SIGN IN TRIANGLE;MULTIPLICATION SIGN IN TRIANGLE"⟩,
     ⟨0x2A3C, "", "INTERIOR PRODUCT;RIGHTHAND INTERIOR PRODUCT;Z NOTATION RELATIONAL COMPOSITION"⟩,
     ⟨0x2A3F, "", "AMALGAMATION OR COPRODUCT;INTERSECTION WITH DOT"⟩,
     ⟨0x2A41, "UNION WITH ", "MINUS SIGN;OVERBAR"⟩,
     ⟨0x2A43, "INTERSECTION WITH ", "OVERBAR;LOGICAL AND"⟩,
     ⟨0x2A45, "UNION ", "WITH LOGICAL OR;ABOVE INTERSECTION"⟩,
     ⟨0x2A47, "", "INTERSECTION ABOVE UNION;UNION ABOVE BAR ABOVE INTERSECTION"⟩,
     ⟨0x2A49, "", "INTERSECTION ABOVE BAR ABOVE UNION;UNION BESIDE AND JOINED WITH UNION"⟩,
     ⟨0x2A4B, "", "INTERSECTION BESIDE AND JOINED WITH INTERSECTION"⟩,
     ⟨0x2A4C, "CLOSED ", "UNION WITH SERIFS;INTERSECTION WITH SERIFS"⟩,
     ⟨0x2A4E, "DOUBLE SQUARE ", "INTERSECTION;UNION"⟩,
     ⟨0x2A50, "", "CLOSED UNION WITH SERIFS AND SMASH PRODUCT"⟩,
     ⟨0x2A51, "LOGICAL ", "AND WITH DOT ABOVE;OR WITH DOT ABOVE"⟩,
     ⟨0x2A53, "DOUBLE LOGICAL ", "AND;OR"⟩,
     ⟨0x2A55, "TWO INTERSECTING LOGICAL ", "AND;OR"⟩,
     ⟨0x2A57, "SLOPING LARGE ", "OR;AND"⟩,
     ⟨0x2A59, "LOGICAL ", "OR OVERLAPPING LOGICAL AND;AND WITH MIDDLE STEM"⟩,
     ⟨0x2A5B, "LOGICAL ", "OR WITH MIDDLE STEM;AND WITH HORIZONTAL DASH;OR WITH HORIZONTAL DASH"⟩,
     ⟨0x2A5E, "LOGICAL AND WITH ", "DOUBLE OVERBAR;UNDERBAR;DOUBLE UNDERBAR"⟩,
     ⟨0x2A61, "", "SMALL VEE WITH UNDERBAR"⟩,
     ⟨0x2A62, "LOGICAL OR WITH DOUBLE ", "OVERBAR;UNDERBAR"⟩,
     ⟨0x2A64, "Z NOTATION ", "DOMAIN ANTIRESTRICTION;RANGE ANTIRESTRICTION"⟩,
     ⟨0x2A66, "", "EQUALS SIGN WITH DOT BELOW;IDENTICAL WITH DOT ABOVE"⟩,
     ⟨0x2A68, "TRIPLE HORIZONTAL BAR WITH ", "DOUBLE VERTICAL STROKE;TRIPLE VERTICAL STROKE"⟩,
     ⟨0x2A6A, "TILDE OPERATOR WITH ", "DOT ABOVE;RISING DOTS"⟩,
     ⟨0x2A6C, "", "SIMILAR MINUS SIMILAR;CONGRUENT WITH DOT ABOVE"⟩,
     ⟨0x2A6E, "", "EQUALS WITH ASTERISK;ALMOST EQUAL TO WITH CIRCUMFLEX ACCENT"⟩,
     ⟨0x2A70, "", "APPROXIMATELY EQUAL OR EQUAL TO;EQUALS SIGN ABOVE PLUS SIGN"⟩,
     ⟨0x2A72, "", "PLUS SIGN ABOVE EQUALS SIGN;EQUALS SIGN ABOVE TILDE OPERATOR"⟩,
     ⟨0x2A74, "", "DOUBLE COLON EQUAL;TWO CONSECUTIVE EQUALS SIGNS;THREE CONSECUTIVE EQUALS SIGNS"⟩,
     ⟨0x2A77, "", "EQUALS SIGN WITH TWO DOTS ABOVE AND TWO DOTS BELOW"⟩,
     ⟨0x2A78, "", "EQUIVALENT WITH FOUR DOTS ABOVE;LESS-THAN WITH CIRCLE INSIDE"⟩,
     ⟨0x2A7A, "", "GREATER-THAN WITH CIRCLE INSIDE;LESS-THAN WITH QUESTION MARK ABOVE"⟩,
     ⟨0x2A7C, "", "GREATER-THAN WITH QUESTION MARK ABOVE;LESS-THAN OR SLANTED EQUAL TO"⟩,
     ⟨0x2A7E, "", "GREATER-THAN OR SLANTED EQUAL TO;LESS-THAN OR SLANTED EQUAL TO WITH DOT INSIDE"⟩,
     ⟨0x2A80, "", "GREATER-THAN OR SLANTED EQUAL TO WITH DOT INSIDE"⟩,
     ⟨0x2A81, "", "LESS-THAN OR SLANTED EQUAL TO WITH DOT ABOVE"⟩,
     ⟨0x2A82, "", "GREATER-THAN OR SLANTED EQUAL TO WITH DOT ABOVE"⟩,
     ⟨0x2A83, "", "LESS-THAN OR SLANTED EQUAL TO WITH DOT ABOVE RIGHT"⟩,
     ⟨0x2A84, "", "GREATER-THAN OR SLANTED EQUAL TO WITH DOT ABOVE LEFT;LESS-THAN OR APPROXIMATE"⟩,
     ⟨0x2A86, "", "GREATER-THAN OR APPROXIMATE;LESS-THAN AND SINGLE-LINE NOT EQUAL TO"⟩,
     ⟨0x2A88, "", "GREATER-THAN AND SINGLE-LINE NOT EQUAL TO"⟩,
     ⟨0x2A89, "", "LESS-THAN AND NOT APPROXIMATE;GREATER-THAN AND NOT APPROXIMATE"⟩,
     ⟨0x2A8B, "", "LESS-THAN ABOVE DOUBLE-LINE EQUAL ABOVE GREATER-THAN"⟩,
     ⟨0x2A8C, "", "GREATER-THAN ABOVE DOUBLE-LINE EQUAL ABOVE LESS-THAN"⟩,
     ⟨0x2A8D, "", "LESS-THAN ABOVE SIMILAR OR EQUAL"⟩,
     ⟨0x2A8E, "", "GREATER-THAN ABOVE SIMILAR OR EQUAL;LESS-THAN ABOVE SIMILAR ABOVE GREATER-THAN"⟩,
     ⟨0x2A90, "", "GREATER-THAN ABOVE SIMILAR ABOVE LESS-THAN"⟩,
     ⟨0x2A91, "", "LESS-THAN ABOVE GREATER-THAN ABOVE DOUBLE-LINE EQUAL"⟩,
     ⟨0x2A92, "", "GREATER-THAN ABOVE LESS-THAN ABOVE DOUBLE-LINE EQUAL"⟩,
     ⟨0x2A93, "", "LESS-THAN ABOVE SLANTED EQUAL ABOVE GREATER-THAN ABOVE SLANTED EQUAL"⟩,
     ⟨0x2A94, "", "GREATER-THAN ABOVE SLANTED EQUAL ABOVE LESS-THAN ABOVE SLANTED EQUAL"⟩,
     ⟨0x2A95, "SLANTED EQUAL TO OR ", "LESS-THAN;GREATER-THAN"⟩,
     ⟨0x2A97, "SLANTED EQUAL TO OR ", "LESS-THAN WITH DOT INSIDE;GREATER-THAN WITH DOT INSIDE"⟩,
     ⟨0x2A99, "DOUBLE-LINE EQUAL TO OR ", "LESS-THAN;GREATER-THAN"⟩,
     ⟨0x2A9B, "DOUBLE-LINE SLANTED EQUAL TO OR ", "LESS-THAN;GREATER-THAN"⟩,
     ⟨0x2A9D, "SIMILAR OR ", "LESS-THAN;GREATER-THAN"⟩,
     ⟨0x2A9F, "SIMILAR ABOVE ", "LESS-THAN ABOVE EQUALS SIGN;GREATER-THAN ABOVE EQUALS SIGN"⟩,
     ⟨0x2AA1, "DOUBLE NESTED ", "LESS-THAN;GREATER-THAN;LESS-THAN WITH UNDERBAR"⟩,
     ⟨0x2AA4, "GREATER-THAN ", "OVERLAPPING LESS-THAN;BESIDE LESS-THAN"⟩,
     ⟨0x2AA6, "", "LESS-THAN CLOSED BY CURVE"⟩,
     ⟨0x2AA7, "", "GREATER-THAN CLOSED BY CURVE;LESS-THAN CLOSED BY CURVE ABOVE SLANTED EQUAL"⟩,
     ⟨0x2AA9, "", "GREATER-THAN CLOSED BY CURVE ABOVE SLANTED EQUAL"⟩,
     ⟨0x2AAA, "", "SMALLER THAN;LARGER THAN;SMALLER THAN OR EQUAL TO;LARGER THAN OR EQUAL TO"⟩,
     ⟨0x2AAE, "", "EQUALS SIGN WITH BUMPY ABOVE;PRECEDES ABOVE SINGLE-LINE EQUALS SIGN"⟩,
     ⟨0x2AB0, "", "SUCCEEDS ABOVE SINGLE-LINE EQUALS SIGN;PRECEDES ABOVE SINGLE-LINE NOT EQUAL TO"⟩,
     ⟨0x2AB2, "", "SUCCEEDS ABOVE SINGLE-LINE NOT EQUAL TO"⟩,
     ⟨0x2AB3, "", "PRECEDES ABOVE EQUALS SIGN;SUCCEEDS ABOVE EQUALS SIGN"⟩,
     ⟨0x2AB5, "", "PRECEDES ABOVE NOT EQUAL TO;SUCCEEDS ABOVE NOT EQUAL TO"⟩,
     ⟨0x2AB7, "", "PRECEDES ABOVE ALMOST EQUAL TO;SUCCEEDS ABOVE ALMOST EQUAL TO"⟩,
     ⟨0x2AB9, "", "PRECEDES ABOVE NOT ALMOST EQUAL TO;SUCCEEDS ABOVE NOT ALMOST EQUAL TO"⟩,
     ⟨0x2ABB, "", "DOUBLE PRECEDES;DOUBLE SUCCEEDS;SUBSET WITH DOT"⟩,
     ⟨0x2ABE, "", "SUPERSET WITH DOT;SUBSET WITH PLUS SIGN BELOW;SUPERSET WITH PLUS SIGN BELOW"⟩,
     ⟨0x2AC1, "", "SUBSET WITH MULTIPLICATION SIGN BELOW;SUPERSET WITH MULTIPLICATION SIGN BELOW"⟩,
     ⟨0x2AC3, "", "SUBSET OF OR EQUAL TO WITH DOT ABOVE;SUPERSET OF OR EQUAL TO WITH DOT ABOVE"⟩,
     ⟨0x2AC5, "", "SUBSET OF ABOVE EQUALS SIGN;SUPERSET OF ABOVE EQUALS SIGN"⟩,
     ⟨0x2AC7, "", "SUBSET OF ABOVE TILDE OPERATOR;SUPERSET OF ABOVE TILDE OPERATOR"⟩,
     ⟨0x2AC9, "", "SUBSET OF ABOVE ALMOST EQUAL TO;SUPERSET OF ABOVE ALMOST EQUAL TO"⟩,
     ⟨0x2ACB, "", "SUBSET OF ABOVE NOT EQUAL TO;SUPERSET OF ABOVE NOT EQUAL TO"⟩,
     ⟨0x2ACD, "SQUARE ", "LEFT OPEN BOX OPERATOR;RIGHT OPEN BOX OPERATOR"⟩,
     ⟨0x2ACF, "CLOSED ", "SUBSET;SUPERSET;SUBSET OR EQUAL TO;SUPERSET OR EQUAL TO"⟩,
     ⟨0x2AD3, "", "SUBSET ABOVE SUPERSET;SUPERSET ABOVE SUBSET;SUBSET ABOVE SUBSET"⟩,
     ⟨0x2AD6, "SUPERSET ", "ABOVE SUPERSET;BESIDE SUBSET;BESIDE AND JOINED BY DASH WITH SUBSET"⟩,
     ⟨0x2AD9, "", "ELEMENT OF OPENING DOWNWARDS"⟩,
     ⟨0x2ADA, "", "PITCHFORK WITH TEE TOP;TRANSVERSAL INTERSECTION;FORKING"⟩,
     ⟨0x2ADD, "", "NONFORKING;SHORT LEFT TACK;SHORT DOWN TACK;SHORT UP TACK;PERPENDICULAR WITH S"⟩,
     ⟨0x2AE2, "", "VERTICAL BAR TRIPLE RIGHT TURNSTILE;DOUBLE VERTICAL BAR LEFT TURNSTILE"⟩,
     ⟨0x2AE4, "", "VERTICAL BAR DOUBLE LEFT TURNSTILE;DOUBLE VERTICAL BAR DOUBLE LEFT TURNSTILE"⟩,
     ⟨0x2AE6, "", "LONG DASH FROM LEFT MEMBER OF DOUBLE VERTICAL;SHORT DOWN TACK WITH OVERBAR"⟩,
     ⟨0x2AE8, "SHORT UP TACK ", "WITH UNDERBAR;ABOVE SHORT DOWN TACK"⟩,
     ⟨0x2AEA, "DOUBLE ", "DOWN TACK;UP TACK;STROKE NOT SIGN"⟩,
     ⟨0x2AED, "", "REVERSED DOUBLE STROKE NOT SIGN;DOES NOT DIVIDE WITH REVERSED NEGATION SLASH"⟩,
     ⟨0x2AEF, "VERTICAL LINE WITH CIRCLE ", "ABOVE;BELOW"⟩,
     ⟨0x2AF1, "", "DOWN TACK WITH CIRCLE BELOW"⟩,
     ⟨0x2AF2, "PARALLEL WITH ", "HORIZONTAL STROKE;TILDE OPERATOR"⟩,
     ⟨0x2AF4, "TRIPLE VERTICAL BAR ", "BINARY RELATION;WITH HORIZONTAL STROKE"⟩,
     ⟨0x2AF6, "TRIPLE ", "COLON OPERATOR;NESTED LESS-THAN;NESTED GREATER-THAN"⟩,
     ⟨0x2AF9, "DOUBLE-LINE SLANTED ", "LESS-THAN OR EQUAL TO;GREATER-THAN OR EQUAL TO"⟩,
     ⟨0x2AFB, "", "TRIPLE SOLIDUS BINARY RELATION;LARGE TRIPLE VERTICAL BAR OPERATOR"⟩,
     ⟨0x2AFD, "", "DOUBLE SOLIDUS OPERATOR;WHITE VERTICAL BAR;N-ARY WHITE VERTICAL BAR"⟩]

/-- Names in the block Miscellaneous Symbols and Arrows. -/
def miscellaneousSymbolsAndArrows : NameBlock where
  first := 0x2B00
  last := 0x2BFF
  rows :=
    [⟨0x2B00, "NORTH ", "EAST WHITE ARROW;WEST WHITE ARROW"⟩,
     ⟨0x2B02, "", "SOUTH EAST WHITE ARROW;SOUTH WEST WHITE ARROW;LEFT RIGHT WHITE ARROW"⟩,
     ⟨0x2B05, "", "LEFTWARDS BLACK ARROW;UPWARDS BLACK ARROW;DOWNWARDS BLACK ARROW"⟩,
     ⟨0x2B08, "", "NORTH EAST BLACK ARROW;NORTH WEST BLACK ARROW;SOUTH EAST BLACK ARROW"⟩,
     ⟨0x2B0B, "", "SOUTH WEST BLACK ARROW;LEFT RIGHT BLACK ARROW;UP DOWN BLACK ARROW"⟩,
     ⟨0x2B0E, "RIGHTWARDS ARROW WITH TIP ", "DOWNWARDS;UPWARDS"⟩,
     ⟨0x2B10, "LEFTWARDS ARROW WITH TIP ", "DOWNWARDS;UPWARDS"⟩,
     ⟨0x2B12, "SQUARE WITH ", "TOP HALF BLACK;BOTTOM HALF BLACK"⟩,
     ⟨0x2B14, "SQUARE WITH ", "UPPER RIGHT DIAGONAL HALF BLACK;LOWER LEFT DIAGONAL HALF BLACK"⟩,
     ⟨0x2B16, "DIAMOND WITH ", "LEFT HALF BLACK;RIGHT HALF BLACK;TOP HALF BLACK;BOTTOM HALF BLACK"⟩,
     ⟨0x2B1A, "", "DOTTED SQUARE;BLACK LARGE SQUARE;WHITE LARGE SQUARE;BLACK VERY SMALL SQUARE"⟩,
     ⟨0x2B1E, "", "WHITE VERY SMALL SQUARE;BLACK PENTAGON;WHITE PENTAGON;WHITE HEXAGON"⟩,
     ⟨0x2B22, "", "BLACK HEXAGON;HORIZONTAL BLACK HEXAGON;BLACK LARGE CIRCLE;BLACK MEDIUM DIAMOND"⟩,
     ⟨0x2B26, "", "WHITE MEDIUM DIAMOND;BLACK MEDIUM LOZENGE;WHITE MEDIUM LOZENGE"⟩,
     ⟨0x2B29, "", "BLACK SMALL DIAMOND;BLACK SMALL LOZENGE;WHITE SMALL LOZENGE"⟩,
     ⟨0x2B2C, "", "BLACK HORIZONTAL ELLIPSE;WHITE HORIZONTAL ELLIPSE;BLACK VERTICAL ELLIPSE"⟩,
     ⟨0x2B2F, "", "WHITE VERTICAL ELLIPSE;LEFT ARROW WITH SMALL CIRCLE;THREE LEFTWARDS ARROWS"⟩,
     ⟨0x2B32, "", "LEFT ARROW WITH CIRCLED PLUS;LONG LEFTWARDS SQUIGGLE ARROW"⟩,
     ⟨0x2B34, "LEFTWARDS TWO-HEADED ARROW WITH ", "VERTICAL STROKE;DOUBLE VERTICAL STROKE"⟩,
     ⟨0x2B36, "LEFTWARDS TWO-HEADED ", "ARROW FROM BAR;TRIPLE DASH ARROW"⟩,
     ⟨0x2B38, "", "LEFTWARDS ARROW WITH DOTTED STEM"⟩,
     ⟨0x2B39, "LEFTWARDS ARROW WITH TAIL WITH ", "VERTICAL STROKE;DOUBLE VERTICAL STROKE"⟩,
     ⟨0x2B3B, "LEFTWARDS TWO-HEADED ARROW WITH ", "TAIL;TAIL WITH VERTICAL STROKE"⟩,
     ⟨0x2B3D, "", "LEFTWARDS TWO-HEADED ARROW WITH TAIL WITH DOUBLE VERTICAL STROKE"⟩,
     ⟨0x2B3E, "", "LEFTWARDS ARROW THROUGH X;WAVE ARROW POINTING DIRECTLY LEFT"⟩,
     ⟨0x2B40, "", "EQUALS SIGN ABOVE LEFTWARDS ARROW;REVERSE TILDE OPERATOR ABOVE LEFTWARDS ARROW"⟩,
     ⟨0x2B42, "", "LEFTWARDS ARROW ABOVE REVERSE ALMOST EQUAL TO"⟩,
     ⟨0x2B43, "RIGHTWARDS ARROW THROUGH ", "GREATER-THAN;SUPERSET"⟩,
     ⟨0x2B45, "", "LEFTWARDS QUADRUPLE ARROW"⟩,
     ⟨0x2B46, "", "RIGHTWARDS QUADRUPLE ARROW;REVERSE TILDE OPERATOR ABOVE RIGHTWARDS ARROW"⟩,
     ⟨0x2B48, "", "RIGHTWARDS ARROW ABOVE REVERSE ALMOST EQUAL TO"⟩,
     ⟨0x2B49, "", "TILDE OPERATOR ABOVE LEFTWARDS ARROW"⟩,
     ⟨0x2B4A, "LEFTWARDS ARROW ABOVE ", "ALMOST EQUAL TO;REVERSE TILDE OPERATOR"⟩,
     ⟨0x2B4C, "", "RIGHTWARDS ARROW ABOVE REVERSE TILDE OPERATOR"⟩,
     ⟨0x2B4D, "", "DOWNWARDS TRIANGLE-HEADED ZIGZAG ARROW"⟩,
     ⟨0x2B4E, "SHORT ", "SLANTED NORTH ARROW;BACKSLANTED SOUTH ARROW"⟩,
     ⟨0x2B50, "", "WHITE MEDIUM STAR;BLACK SMALL STAR;WHITE SMALL STAR"⟩,
     ⟨0x2B53, "", "BLACK RIGHT-POINTING PENTAGON;WHITE RIGHT-POINTING PENTAGON;HEAVY LARGE CIRCLE"⟩,
     ⟨0x2B56, "HEAVY ", "OVAL WITH OVAL INSIDE;CIRCLE WITH CIRCLE INSIDE;CIRCLE;CIRCLED SALTIRE"⟩,
     ⟨0x2B5A, "", "SLANTED NORTH ARROW WITH HOOKED HEAD;BACKSLANTED SOUTH ARROW WITH HOOKED TAIL"⟩,
     ⟨0x2B5C, "", "SLANTED NORTH ARROW WITH HORIZONTAL TAIL"⟩,
     ⟨0x2B5D, "", "BACKSLANTED SOUTH ARROW WITH HORIZONTAL TAIL"⟩,
     ⟨0x2B5E, "", "BENT ARROW POINTING DOWNWARDS THEN NORTH EAST"⟩,
     ⟨0x2B5F, "", "SHORT BENT ARROW POINTING DOWNWARDS THEN NORTH EAST"⟩,
     ⟨0x2B60, "", "LEFTWARDS TRIANGLE-HEADED ARROW;UPWARDS TRIANGLE-HEADED ARROW"⟩,
     ⟨0x2B62, "", "RIGHTWARDS TRIANGLE-HEADED ARROW;DOWNWARDS TRIANGLE-HEADED ARROW"⟩,
     ⟨0x2B64, "", "LEFT RIGHT TRIANGLE-HEADED ARROW;UP DOWN TRIANGLE-HEADED ARROW"⟩,
     ⟨0x2B66, "NORTH ", "WEST TRIANGLE-HEADED ARROW;EAST TRIANGLE-HEADED ARROW"⟩,
     ⟨0x2B68, "SOUTH ", "EAST TRIANGLE-HEADED ARROW;WEST TRIANGLE-HEADED ARROW"⟩,
     ⟨0x2B6A, "", "LEFTWARDS TRIANGLE-HEADED DASHED ARROW;UPWARDS TRIANGLE-HEADED DASHED ARROW"⟩,
     ⟨0x2B6C, "", "RIGHTWARDS TRIANGLE-HEADED DASHED ARROW;DOWNWARDS TRIANGLE-HEADED DASHED ARROW"⟩,
     ⟨0x2B6E, "", "CLOCKWISE TRIANGLE-HEADED OPEN CIRCLE ARROW"⟩,
     ⟨0x2B6F, "", "ANTICLOCKWISE TRIANGLE-HEADED OPEN CIRCLE ARROW"⟩,
     ⟨0x2B70, "", "LEFTWARDS TRIANGLE-HEADED ARROW TO BAR;UPWARDS TRIANGLE-HEADED ARROW TO BAR"⟩,
     ⟨0x2B72, "", "RIGHTWARDS TRIANGLE-HEADED ARROW TO BAR;DOWNWARDS TRIANGLE-HEADED ARROW TO BAR"⟩,
     ⟨0x2B76, "NORTH ", "WEST TRIANGLE-HEADED ARROW TO BAR;EAST TRIANGLE-HEADED ARROW TO BAR"⟩,
     ⟨0x2B78, "SOUTH ", "EAST TRIANGLE-HEADED ARROW TO BAR;WEST TRIANGLE-HEADED ARROW TO BAR"⟩,
     ⟨0x2B7A, "", "LEFTWARDS TRIANGLE-HEADED ARROW WITH DOUBLE HORIZONTAL STROKE"⟩,
     ⟨0x2B7B, "", "UPWARDS TRIANGLE-HEADED ARROW WITH DOUBLE HORIZONTAL STROKE"⟩,
     ⟨0x2B7C, "", "RIGHTWARDS TRIANGLE-HEADED ARROW WITH DOUBLE HORIZONTAL STROKE"⟩,
     ⟨0x2B7D, "", "DOWNWARDS TRIANGLE-HEADED ARROW WITH DOUBLE HORIZONTAL STROKE"⟩,
     ⟨0x2B7E, "", "HORIZONTAL TAB KEY;VERTICAL TAB KEY"⟩,
     ⟨0x2B80, "", "LEFTWARDS TRIANGLE-HEADED ARROW OVER RIGHTWARDS TRIANGLE-HEADED ARROW"⟩,
     ⟨0x2B81, "", "UPWARDS TRIANGLE-HEADED ARROW LEFTWARDS OF DOWNWARDS TRIANGLE-HEADED ARROW"⟩,
     ⟨0x2B82, "", "RIGHTWARDS TRIANGLE-HEADED ARROW OVER LEFTWARDS TRIANGLE-HEADED ARROW"⟩,
     ⟨0x2B83, "", "DOWNWARDS TRIANGLE-HEADED ARROW LEFTWARDS OF UPWARDS TRIANGLE-HEADED ARROW"⟩,
     ⟨0x2B84, "", "LEFTWARDS TRIANGLE-HEADED PAIRED ARROWS"⟩,
     ⟨0x2B85, "", "UPWARDS TRIANGLE-HEADED PAIRED ARROWS;RIGHTWARDS TRIANGLE-HEADED PAIRED ARROWS"⟩,
     ⟨0x2B87, "", "DOWNWARDS TRIANGLE-HEADED PAIRED ARROWS"⟩,
     ⟨0x2B88, "", "LEFTWARDS BLACK CIRCLED WHITE ARROW;UPWARDS BLACK CIRCLED WHITE ARROW"⟩,
     ⟨0x2B8A, "", "RIGHTWARDS BLACK CIRCLED WHITE ARROW;DOWNWARDS BLACK CIRCLED WHITE ARROW"⟩,
     ⟨0x2B8C, "ANTICLOCKWISE TRIANGLE-HEADED ", "RIGHT U-SHAPED ARROW;BOTTOM U-SHAPED ARROW"⟩,
     ⟨0x2B8E, "ANTICLOCKWISE TRIANGLE-HEADED ", "LEFT U-SHAPED ARROW;TOP U-SHAPED ARROW"⟩,
     ⟨0x2B90, "", "RETURN LEFT;RETURN RIGHT;NEWLINE LEFT"⟩,
     ⟨0x2B93, "", "NEWLINE RIGHT;FOUR CORNER ARROWS CIRCLING ANTICLOCKWISE;RIGHTWARDS BLACK ARROW"⟩,
     ⟨0x2B97, "", "SYMBOL FOR TYPE A ELECTRONICS"⟩,
     ⟨0x2B98, "", "THREE-D TOP-LIGHTED LEFTWARDS EQUILATERAL ARROWHEAD"⟩,
     ⟨0x2B99, "", "THREE-D RIGHT-LIGHTED UPWARDS EQUILATERAL ARROWHEAD"⟩,
     ⟨0x2B9A, "", "THREE-D TOP-LIGHTED RIGHTWARDS EQUILATERAL ARROWHEAD"⟩,
     ⟨0x2B9B, "", "THREE-D LEFT-LIGHTED DOWNWARDS EQUILATERAL ARROWHEAD"⟩,
     ⟨0x2B9C, "BLACK ", "LEFTWARDS EQUILATERAL ARROWHEAD;UPWARDS EQUILATERAL ARROWHEAD"⟩,
     ⟨0x2B9E, "BLACK ", "RIGHTWARDS EQUILATERAL ARROWHEAD;DOWNWARDS EQUILATERAL ARROWHEAD"⟩,
     ⟨0x2BA0, "DOWNWARDS TRIANGLE-HEADED ARROW WITH LONG TIP ", "LEFTWARDS;RIGHTWARDS"⟩,
     ⟨0x2BA2, "UPWARDS TRIANGLE-HEADED ARROW WITH LONG TIP ", "LEFTWARDS;RIGHTWARDS"⟩,
     ⟨0x2BA4, "", "LEFTWARDS TRIANGLE-HEADED ARROW WITH LONG TIP UPWARDS"⟩,
     ⟨0x2BA5, "", "RIGHTWARDS TRIANGLE-HEADED ARROW WITH LONG TIP UPWARDS"⟩,
     ⟨0x2BA6, "", "LEFTWARDS TRIANGLE-HEADED ARROW WITH LONG TIP DOWNWARDS"⟩,
     ⟨0x2BA7, "", "RIGHTWARDS TRIANGLE-HEADED ARROW WITH LONG TIP DOWNWARDS"⟩,
     ⟨0x2BA8, "BLACK CURVED DOWNWARDS AND ", "LEFTWARDS ARROW;RIGHTWARDS ARROW"⟩,
     ⟨0x2BAA, "BLACK CURVED UPWARDS AND ", "LEFTWARDS ARROW;RIGHTWARDS ARROW"⟩,
     ⟨0x2BAC, "BLACK CURVED ", "LEFTWARDS AND UPWARDS ARROW;RIGHTWARDS AND UPWARDS ARROW"⟩,
     ⟨0x2BAE, "BLACK CURVED ", "LEFTWARDS AND DOWNWARDS ARROW;RIGHTWARDS AND DOWNWARDS ARROW"⟩,
     ⟨0x2BB0, "RIBBON ARROW ", "DOWN LEFT;DOWN RIGHT;UP LEFT;UP RIGHT;LEFT UP;RIGHT UP;LEFT DOWN"⟩,
     ⟨0x2BB7, "", "RIBBON ARROW RIGHT DOWN;UPWARDS WHITE ARROW FROM BAR WITH HORIZONTAL BAR"⟩,
     ⟨0x2BB9, "", "UP ARROWHEAD IN A RECTANGLE BOX"⟩,
     ⟨0x2BBA, "OVERLAPPING ", "WHITE SQUARES;WHITE AND BLACK SQUARES;BLACK SQUARES"⟩,
     ⟨0x2BBD, "", "BALLOT BOX WITH LIGHT X;CIRCLED X;CIRCLED BOLD X"⟩,
     ⟨0x2BC0, "BLACK ", "SQUARE CENTRED;DIAMOND CENTRED"⟩,
     ⟨0x2BC2, "", "TURNED BLACK PENTAGON;HORIZONTAL BLACK OCTAGON;BLACK OCTAGON"⟩,
     ⟨0x2BC5, "BLACK MEDIUM ", "UP-POINTING TRIANGLE CENTRED;DOWN-POINTING TRIANGLE CENTRED"⟩,
     ⟨0x2BC7, "BLACK MEDIUM ", "LEFT-POINTING TRIANGLE CENTRED;RIGHT-POINTING TRIANGLE CENTRED"⟩,
     ⟨0x2BC9, "", "NEPTUNE FORM TWO;TOP HALF BLACK CIRCLE;BOTTOM HALF BLACK CIRCLE"⟩,
     ⟨0x2BCC, "", "LIGHT FOUR POINTED BLACK CUSP;ROTATED LIGHT FOUR POINTED BLACK CUSP"⟩,
     ⟨0x2BCE, "", "WHITE FOUR POINTED CUSP;ROTATED WHITE FOUR POINTED CUSP"⟩,
     ⟨0x2BD0, "", "SQUARE POSITION INDICATOR;UNCERTAINTY SIGN;GROUP MARK"⟩,
     ⟨0x2BD3, "PLUTO FORM ", "TWO;THREE;FOUR;FIVE"⟩,
     ⟨0x2BD7, "", "TRANSPLUTO;PROSERPINA;ASTRAEA;HYGIEA;PHOLUS;NESSUS;WHITE MOON SELENA"⟩,
     ⟨0x2BDE, "", "BLACK DIAMOND ON CROSS;TRUE LIGHT MOON ARTA;CUPIDO;HADES;ZEUS;KRONOS"⟩,
     ⟨0x2BE4, "", "APOLLON;ADMETOS;VULCANUS;POSEIDON;LEFT HALF BLACK STAR;RIGHT HALF BLACK STAR"⟩,
     ⟨0x2BEA, "STAR WITH ", "LEFT HALF BLACK;RIGHT HALF BLACK"⟩,
     ⟨0x2BEC, "", "LEFTWARDS TWO-HEADED ARROW WITH TRIANGLE ARROWHEADS"⟩,
     ⟨0x2BED, "", "UPWARDS TWO-HEADED ARROW WITH TRIANGLE ARROWHEADS"⟩,
     ⟨0x2BEE, "", "RIGHTWARDS TWO-HEADED ARROW WITH TRIANGLE ARROWHEADS"⟩,
     ⟨0x2BEF, "", "DOWNWARDS TWO-HEADED ARROW WITH TRIANGLE ARROWHEADS"⟩,
     ⟨0x2BF0, "", "ERIS FORM ONE;ERIS FORM TWO;SEDNA;RUSSIAN ASTROLOGICAL SYMBOL VIGINTILE"⟩,
     ⟨0x2BF4, "RUSSIAN ASTROLOGICAL SYMBOL ", "NOVILE;QUINTILE;BINOVILE;SENTAGON;TREDECILE"⟩,
     ⟨0x2BF9, "", "EQUALS SIGN WITH INFINITY BELOW;UNITED SYMBOL;SEPARATED SYMBOL"⟩,
     ⟨0x2BFC, "", "DOUBLED SYMBOL;PASSED SYMBOL;REVERSED RIGHT ANGLE;HELLSCHREIBER PAUSE SYMBOL"⟩]

/-- Names in the block Counting Rod Numerals. -/
def countingRodNumerals : NameBlock where
  first := 0x1D360
  last := 0x1D37F
  rows :=
    [⟨0x1D360, "COUNTING ROD UNIT DIGIT ", "ONE;TWO;THREE;FOUR;FIVE;SIX;SEVEN;EIGHT;NINE"⟩,
     ⟨0x1D369, "COUNTING ROD TENS DIGIT ", "ONE;TWO;THREE;FOUR;FIVE;SIX;SEVEN;EIGHT;NINE"⟩,
     ⟨0x1D372, "IDEOGRAPHIC TALLY MARK ", "ONE;TWO;THREE;FOUR;FIVE"⟩,
     ⟨0x1D377, "TALLY MARK ", "ONE;FIVE"⟩]

/-- Names in the block Mathematical Alphanumeric Symbols. -/
def mathematicalAlphanumericSymbols : NameBlock where
  first := 0x1D400
  last := 0x1D7FF
  rows :=
    [⟨0x1D400, "MATHEMATICAL BOLD CAPITAL ", "A;B;C;D;E;F;G;H;I;J;K;L;M;N;O;P;Q;R;S;T;U;V;W;X;Y;Z"⟩,
     ⟨0x1D41A, "MATHEMATICAL BOLD SMALL ", "A;B;C;D;E;F;G;H;I;J;K;L;M;N;O;P;Q;R;S;T;U;V;W;X;Y;Z"⟩,
     ⟨0x1D434, "", "MATHEMATICAL ITALIC CAPITAL A"⟩,
     ⟨0x1D435, "MATHEMATICAL ITALIC CAPITAL ", "B;C;D;E;F;G;H;I;J;K;L;M;N;O;P;Q;R;S;T;U;V;W;X;Y;Z"⟩,
     ⟨0x1D44E, "MATHEMATICAL ITALIC SMALL ", "A;B;C;D;E;F;G"⟩,
     ⟨0x1D456, "MATHEMATICAL ITALIC SMALL ", "I;J;K;L;M;N;O;P;Q;R;S;T;U;V;W;X;Y;Z"⟩,
     ⟨0x1D468, "MATHEMATICAL BOLD ITALIC CAPITAL ", "A;B;C;D"⟩,
     ⟨0x1D46C, "MATHEMATICAL BOLD ITALIC CAPITAL ", "E;F;G;H;I;J;K;L;M;N;O;P;Q;R;S;T;U;V;W;X;Y;Z"⟩,
     ⟨0x1D482, "MATHEMATICAL BOLD ITALIC SMALL ", "A;B;C"⟩,
     ⟨0x1D485, "MATHEMATICAL BOLD ITALIC SMALL ", "D;E;F;G;H;I;J;K;L;M;N;O;P;Q;R;S;T;U;V;W;X;Y;Z"⟩,
     ⟨0x1D49C, "", "MATHEMATICAL SCRIPT CAPITAL A"⟩,
     ⟨0x1D49E, "MATHEMATICAL SCRIPT CAPITAL ", "C;D"⟩,
     ⟨0x1D4A2, "", "MATHEMATICAL SCRIPT CAPITAL G"⟩,
     ⟨0x1D4A5, "MATHEMATICAL SCRIPT CAPITAL ", "J;K"⟩,
     ⟨0x1D4A9, "MATHEMATICAL SCRIPT CAPITAL ", "N;O;P;Q"⟩,
     ⟨0x1D4AE, "MATHEMATICAL SCRIPT CAPITAL ", "S;T;U;V;W;X;Y;Z"⟩,
     ⟨0x1D4B6, "MATHEMATICAL SCRIPT SMALL ", "A;B;C;D"⟩,
     ⟨0x1D4BB, "", "MATHEMATICAL SCRIPT SMALL F"⟩,
     ⟨0x1D4BD, "MATHEMATICAL SCRIPT SMALL ", "H;I;J;K;L;M;N"⟩,
     ⟨0x1D4C5, "MATHEMATICAL SCRIPT SMALL ", "P;Q;R;S;T;U;V;W;X;Y;Z"⟩,
     ⟨0x1D4D0, "MATHEMATICAL BOLD SCRIPT CAPITAL ", "A;B;C;D"⟩,
     ⟨0x1D4D4, "MATHEMATICAL BOLD SCRIPT CAPITAL ", "E;F;G;H;I;J;K;L;M;N;O;P;Q;R;S;T;U;V;W;X;Y;Z"⟩,
     ⟨0x1D4EA, "MATHEMATICAL BOLD SCRIPT SMALL ", "A;B;C"⟩,
     ⟨0x1D4ED, "MATHEMATICAL BOLD SCRIPT SMALL ", "D;E;F;G;H;I;J;K;L;M;N;O;P;Q;R;S;T;U;V;W;X;Y;Z"⟩,
     ⟨0x1D504, "MATHEMATICAL FRAKTUR CAPITAL ", "A;B"⟩,
     ⟨0x1D507, "MATHEMATICAL FRAKTUR CAPITAL ", "D;E;F;G"⟩,
     ⟨0x1D50D, "MATHEMATICAL FRAKTUR CAPITAL ", "J;K;L;M;N;O;P;Q"⟩,
     ⟨0x1D516, "MATHEMATICAL FRAKTUR CAPITAL ", "S;T;U;V;W;X;Y"⟩,
     ⟨0x1D51E, "MATHEMATICAL FRAKTUR SMALL ", "A;B;C;D;E;F;G;H;I;J;K;L;M;N;O;P;Q;R;S;T;U;V;W;X;Y"⟩,
     ⟨0x1D537, "MATHEMATICAL ", "FRAKTUR SMALL Z;DOUBLE-STRUCK CAPITAL A;DOUBLE-STRUCK CAPITAL B"⟩,
     ⟨0x1D53B, "MATHEMATICAL DOUBLE-STRUCK CAPITAL ", "D;E;F;G"⟩,
     ⟨0x1D540, "MATHEMATICAL DOUBLE-STRUCK CAPITAL ", "I;J;K;L;M"⟩,
     ⟨0x1D546, "", "MATHEMATICAL DOUBLE-STRUCK CAPITAL O"⟩,
     ⟨0x1D54A, "MATHEMATICAL DOUBLE-STRUCK CAPITAL ", "S;T;U;V;W;X;Y"⟩,
     ⟨0x1D552, "MATHEMATICAL DOUBLE-STRUCK SMALL ", "A;B;C;D"⟩,
     ⟨0x1D556, "MATHEMATICAL DOUBLE-STRUCK SMALL ", "E;F;G;H;I;J;K;L;M;N;O;P;Q;R;S;T;U;V;W;X;Y;Z"⟩,
     ⟨0x1D56C, "MATHEMATICAL BOLD FRAKTUR CAPITAL ", "A;B;C;D"⟩,
     ⟨0x1D570, "MATHEMATICAL BOLD FRAKTUR CAPITAL ", "E;F;G;H;I;J;K;L;M;N;O;P;Q;R;S;T;U;V;W;X;Y;Z"⟩,
     ⟨0x1D586, "MATHEMATICAL BOLD FRAKTUR SMALL ", "A;B;C"⟩,
     ⟨0x1D589, "MATHEMATICAL BOLD FRAKTUR SMALL ", "D;E;F;G;H;I;J;K;L;M;N;O;P;Q;R;S;T;U;V;W;X;Y;Z"⟩,
     ⟨0x1D5A0, "MATHEMATICAL SANS-SERIF CAPITAL ", "A;B;C;D;E;F;G;H;I;J;K;L;M;N;O;P;Q;R;S;T;U;V;W"⟩,
     ⟨0x1D5B7, "MATHEMATICAL SANS-SERIF ", "CAPITAL X;CAPITAL Y;CAPITAL Z;SMALL A;SMALL B"⟩,
     ⟨0x1D5BC, "MATHEMATICAL SANS-SERIF SMALL ", "C;D;E;F;G;H;I;J;K;L;M;N;O;P;Q;R;S;T;U;V;W;X;Y;Z"⟩,
     ⟨0x1D5D4, "MATHEMATICAL SANS-SERIF BOLD CAPITAL ", "A;B;C;D;E;F"⟩,
     ⟨0x1D5DA, "MATHEMATICAL SANS-SERIF BOLD CAPITAL ", "G;H;I;J;K;L;M;N;O;P;Q;R;S;T;U;V;W;X;Y;Z"⟩,
     ⟨0x1D5EE, "MATHEMATICAL SANS-SERIF BOLD SMALL ", "A;B;C;D;E"⟩,
     ⟨0x1D5F3, "MATHEMATICAL SANS-SERIF BOLD SMALL ", "F;G;H;I;J;K;L;M;N;O;P;Q;R;S;T;U;V;W;X;Y;Z"⟩,
     ⟨0x1D608, "MATHEMATICAL SANS-SERIF ITALIC CAPITAL ", "A;B;C;D;E;F;G"⟩,
     ⟨0x1D60F, "MATHEMATICAL SANS-SERIF ITALIC CAPITAL ", "H;I;J;K;L;M;N;O;P;Q;R;S;T;U;V;W;X;Y;Z"⟩,
     ⟨0x1D622, "MATHEMATICAL SANS-SERIF ITALIC SMALL ", "A;B;C;D;E;F"⟩,
     ⟨0x1D628, "MATHEMATICAL SANS-SERIF ITALIC SMALL ", "G;H;I;J;K;L;M;N;O;P;Q;R;S;T;U;V;W;X;Y;Z"⟩,
     ⟨0x1D63C, "MATHEMATICAL SANS-SERIF BOLD ITALIC CAPITAL ", "A;B;C;D;E;F;G;H;I"⟩,
     ⟨0x1D645, "MATHEMATICAL SANS-SERIF BOLD ITALIC CAPITAL ", "J;K;L;M;N;O;P;Q;R;S;T;U;V;W;X;Y;Z"⟩,
     ⟨0x1D656, "MATHEMATICAL SANS-SERIF BOLD ITALIC SMALL ", "A;B;C;D;E;F;G;H"⟩,
     ⟨0x1D65E, "MATHEMATICAL SANS-SERIF BOLD ITALIC SMALL ", "I;J;K;L;M;N;O;P;Q;R;S;T;U;V;W;X;Y;Z"⟩,
     ⟨0x1D670, "MATHEMATICAL MONOSPACE CAPITAL ", "A;B;C;D;E;F;G;H;I;J;K;L;M;N;O;P;Q;R;S;T;U;V;W"⟩,
     ⟨0x1D687, "MATHEMATICAL MONOSPACE ", "CAPITAL X;CAPITAL Y;CAPITAL Z;SMALL A;SMALL B"⟩,
     ⟨0x1D68C, "MATHEMATICAL MONOSPACE SMALL ", "C;D;E;F;G;H;I;J;K;L;M;N;O;P;Q;R;S;T;U;V;W;X;Y;Z"⟩,
     ⟨0x1D6A4, "MATHEMATICAL ITALIC SMALL DOTLESS ", "I;J"⟩,
     ⟨0x1D6A8, "MATHEMATICAL BOLD CAPITAL ", "ALPHA;BETA;GAMMA;DELTA;EPSILON;ZETA"⟩,
     ⟨0x1D6AE, "MATHEMATICAL BOLD CAPITAL ", "ETA;THETA;IOTA;KAPPA;LAMDA;MU;NU;XI;OMICRON;PI;RHO"⟩,
     ⟨0x1D6B9, "MATHEMATICAL BOLD CAPITAL ", "THETA SYMBOL;SIGMA;TAU;UPSILON;PHI;CHI;PSI;OMEGA"⟩,
     ⟨0x1D6C1, "MATHEMATICAL BOLD ", "NABLA;SMALL ALPHA;SMALL BETA;SMALL GAMMA;SMALL DELTA"⟩,
     ⟨0x1D6C6, "MATHEMATICAL BOLD SMALL ", "EPSILON;ZETA;ETA;THETA;IOTA;KAPPA;LAMDA;MU;NU;XI"⟩,
     ⟨0x1D6D0, "MATHEMATICAL BOLD SMALL ", "OMICRON;PI;RHO;FINAL SIGMA;SIGMA;TAU;UPSILON;PHI;CHI"⟩,
     ⟨0x1D6D9, "MATHEMATICAL BOLD ", "SMALL PSI;SMALL OMEGA;PARTIAL DIFFERENTIAL;EPSILON SYMBOL"⟩,
     ⟨0x1D6DD, "MATHEMATICAL BOLD ", "THETA SYMBOL;KAPPA SYMBOL;PHI SYMBOL;RHO SYMBOL;PI SYMBOL"⟩,
     ⟨0x1D6E2, "MATHEMATICAL ITALIC CAPITAL ", "ALPHA;BETA;GAMMA;DELTA;EPSILON;ZETA;ETA"⟩,
     ⟨0x1D6E9, "MATHEMATICAL ITALIC CAPITAL ", "THETA;IOTA;KAPPA;LAMDA;MU;NU;XI;OMICRON;PI;RHO"⟩,
     ⟨0x1D6F3, "MATHEMATICAL ITALIC CAPITAL ", "THETA SYMBOL;SIGMA;TAU;UPSILON;PHI;CHI;PSI;OMEGA"⟩,
     ⟨0x1D6FB, "", "MATHEMATICAL ITALIC NABLA"⟩,
     ⟨0x1D6FC, "MATHEMATICAL ITALIC SMALL ", "ALPHA;BETA;GAMMA;DELTA;EPSILON"⟩,
     ⟨0x1D701, "MATHEMATICAL ITALIC SMALL ", "ZETA;ETA;THETA;IOTA;KAPPA;LAMDA;MU;NU;XI;OMICRON;PI"⟩,
     ⟨0x1D70C, "MATHEMATICAL ITALIC SMALL ", "RHO;FINAL SIGMA;SIGMA;TAU;UPSILON;PHI;CHI;PSI;OMEGA"⟩,
     ⟨0x1D715, "MATHEMATICAL ITALIC ", "PARTIAL DIFFERENTIAL;EPSILON SYMBOL"⟩,
     ⟨0x1D717, "MATHEMATICAL ITALIC ", "THETA SYMBOL;KAPPA SYMBOL;PHI SYMBOL;RHO SYMBOL;PI SYMBOL"⟩,
     ⟨0x1D71C, "MATHEMATICAL BOLD ITALIC CAPITAL ", "ALPHA;BETA;GAMMA;DELTA;EPSILON;ZETA;ETA"⟩,
     ⟨0x1D723, "MATHEMATICAL BOLD ITALIC CAPITAL ", "THETA;IOTA;KAPPA;LAMDA;MU;NU;XI;OMICRON;PI"⟩,
     ⟨0x1D72C, "MATHEMATICAL BOLD ITALIC CAPITAL ", "RHO;THETA SYMBOL;SIGMA;TAU;UPSILON;PHI;CHI"⟩,
     ⟨0x1D733, "MATHEMATICAL BOLD ITALIC ", "CAPITAL PSI;CAPITAL OMEGA;NABLA"⟩,
     ⟨0x1D736, "MATHEMATICAL BOLD ITALIC SMALL ", "ALPHA;BETA;GAMMA;DELTA;EPSILON;ZETA"⟩,
     ⟨0x1D73C, "MATHEMATICAL BOLD ITALIC SMALL ", "ETA;THETA;IOTA;KAPPA;LAMDA;MU;NU;XI;OMICRON;PI"⟩,
     ⟨0x1D746, "MATHEMATICAL BOLD ITALIC SMALL ", "RHO;FINAL SIGMA;SIGMA;TAU;UPSILON;PHI;CHI;PSI"⟩,
     ⟨0x1D74E, "MATHEMATICAL BOLD ITALIC ", "SMALL OMEGA;PARTIAL DIFFERENTIAL;EPSILON SYMBOL"⟩,
     ⟨0x1D751, "MATHEMATICAL BOLD ITALIC ", "THETA SYMBOL;KAPPA SYMBOL;PHI SYMBOL;RHO SYMBOL"⟩,
     ⟨0x1D755, "MATHEMATICAL ", "BOLD ITALIC PI SYMBOL;SANS-SERIF BOLD CAPITAL ALPHA"⟩,
     ⟨0x1D757, "MATHEMATICAL SANS-SERIF BOLD CAPITAL ", "BETA;GAMMA;DELTA;EPSILON;ZETA;ETA;THETA"⟩,
     ⟨0x1D75E, "MATHEMATICAL SANS-SERIF BOLD CAPITAL ", "IOTA;KAPPA;LAMDA;MU;NU;XI;OMICRON;PI;RHO"⟩,
     ⟨0x1D767, "MATHEMATICAL SANS-SERIF BOLD CAPITAL ", "THETA SYMBOL;SIGMA;TAU;UPSILON;PHI;CHI"⟩,
     ⟨0x1D76D, "MATHEMATICAL SANS-SERIF BOLD ", "CAPITAL PSI;CAPITAL OMEGA;NABLA;SMALL ALPHA"⟩,
     ⟨0x1D771, "MATHEMATICAL SANS-SERIF BOLD SMALL ", "BETA;GAMMA;DELTA;EPSILON;ZETA;ETA;THETA"⟩,
     ⟨0x1D778, "MATHEMATICAL SANS-SERIF BOLD SMALL ", "IOTA;KAPPA;LAMDA;MU;NU;XI;OMICRON;PI;RHO"⟩,
     ⟨0x1D781, "MATHEMATICAL SANS-SERIF BOLD SMALL ", "FINAL SIGMA;SIGMA;TAU;UPSILON;PHI;CHI;PSI"⟩,
     ⟨0x1D788, "MATHEMATICAL SANS-SERIF BOLD ", "SMALL OMEGA;PARTIAL DIFFERENTIAL;EPSILON SYMBOL"⟩,
     ⟨0x1D78B, "MATHEMATICAL SANS-SERIF BOLD ", "THETA SYMBOL;KAPPA SYMBOL;PHI SYMBOL"⟩,
     ⟨0x1D78E, "MATHEMATICAL SANS-SERIF BOLD ", "RHO SYMBOL;PI SYMBOL;ITALIC CAPITAL ALPHA"⟩,
     ⟨0x1D791, "MATHEMATICAL SANS-SERIF BOLD ITALIC CAPITAL ", "BETA;GAMMA;DELTA;EPSILON;ZETA;ETA"⟩,
     ⟨0x1D797, "MATHEMATICAL SANS-SERIF BOLD ITALIC CAPITAL ", "THETA;IOTA;KAPPA;LAMDA;MU;NU;XI"⟩,
     ⟨0x1D79E, "MATHEMATICAL SANS-SERIF BOLD ITALIC CAPITAL ", "OMICRON;PI;RHO;THETA SYMBOL;SIGMA"⟩,
     ⟨0x1D7A3, "MATHEMATICAL SANS-SERIF BOLD ITALIC CAPITAL ", "TAU;UPSILON;PHI;CHI;PSI;OMEGA"⟩,
     ⟨0x1D7A9, "", "MATHEMATICAL SANS-SERIF BOLD ITALIC NABLA"⟩,
     ⟨0x1D7AA, "MATHEMATICAL SANS-SERIF BOLD ITALIC SMALL ", "ALPHA;BETA;GAMMA;DELTA;EPSILON"⟩,
     ⟨0x1D7AF, "MATHEMATICAL SANS-SERIF BOLD ITALIC SMALL ", "ZETA;ETA;THETA;IOTA;KAPPA;LAMDA"⟩,
     ⟨0x1D7B5, "MATHEMATICAL SANS-SERIF BOLD ITALIC SMALL ", "MU;NU;XI;OMICRON;PI;RHO;FINAL SIGMA"⟩,
     ⟨0x1D7BC, "MATHEMATICAL SANS-SERIF BOLD ITALIC SMALL ", "SIGMA;TAU;UPSILON;PHI;CHI;PSI;OMEGA"⟩,
     ⟨0x1D7C3, "", "MATHEMATICAL SANS-SERIF BOLD ITALIC PARTIAL DIFFERENTIAL"⟩,
     ⟨0x1D7C4, "MATHEMATICAL SANS-SERIF BOLD ITALIC ", "EPSILON SYMBOL;THETA SYMBOL;KAPPA SYMBOL"⟩,
     ⟨0x1D7C7, "MATHEMATICAL SANS-SERIF BOLD ITALIC ", "PHI SYMBOL;RHO SYMBOL;PI SYMBOL"⟩,
     ⟨0x1D7CA, "MATHEMATICAL BOLD ", "CAPITAL DIGAMMA;SMALL DIGAMMA"⟩]

/-- Names in the block Supplemental Arrows-C. -/
def supplementalArrowsC : NameBlock where
  first := 0x1F800
  last := 0x1F8FF
  rows :=
    [⟨0x1F800, "", "LEFTWARDS ARROW WITH SMALL TRIANGLE ARROWHEAD"⟩,
     ⟨0x1F801, "", "UPWARDS ARROW WITH SMALL TRIANGLE ARROWHEAD"⟩,
     ⟨0x1F802, "", "RIGHTWARDS ARROW WITH SMALL TRIANGLE ARROWHEAD"⟩,
     ⟨0x1F803, "", "DOWNWARDS ARROW WITH SMALL TRIANGLE ARROWHEAD"⟩,
     ⟨0x1F804, "", "LEFTWARDS ARROW WITH MEDIUM TRIANGLE ARROWHEAD"⟩,
     ⟨0x1F805, "", "UPWARDS ARROW WITH MEDIUM TRIANGLE ARROWHEAD"⟩,
     ⟨0x1F806, "", "RIGHTWARDS ARROW WITH MEDIUM TRIANGLE ARROWHEAD"⟩,
     ⟨0x1F807, "", "DOWNWARDS ARROW WITH MEDIUM TRIANGLE ARROWHEAD"⟩,
     ⟨0x1F808, "", "LEFTWARDS ARROW WITH LARGE TRIANGLE ARROWHEAD"⟩,
     ⟨0x1F809, "", "UPWARDS ARROW WITH LARGE TRIANGLE ARROWHEAD"⟩,
     ⟨0x1F80A, "", "RIGHTWARDS ARROW WITH LARGE TRIANGLE ARROWHEAD"⟩,
     ⟨0x1F80B, "", "DOWNWARDS ARROW WITH LARGE TRIANGLE ARROWHEAD"⟩,
     ⟨0x1F810, "", "LEFTWARDS ARROW WITH SMALL EQUILATERAL ARROWHEAD"⟩,
     ⟨0x1F811, "", "UPWARDS ARROW WITH SMALL EQUILATERAL ARROWHEAD"⟩,
     ⟨0x1F812, "", "RIGHTWARDS ARROW WITH SMALL EQUILATERAL ARROWHEAD"⟩,
     ⟨0x1F813, "", "DOWNWARDS ARROW WITH SMALL EQUILATERAL ARROWHEAD"⟩,
     ⟨0x1F814, "", "LEFTWARDS ARROW WITH EQUILATERAL ARROWHEAD"⟩,
     ⟨0x1F815, "", "UPWARDS ARROW WITH EQUILATERAL ARROWHEAD"⟩,
     ⟨0x1F816, "", "RIGHTWARDS ARROW WITH EQUILATERAL ARROWHEAD"⟩,
     ⟨0x1F817, "", "DOWNWARDS ARROW WITH EQUILATERAL ARROWHEAD"⟩,
     ⟨0x1F818, "", "HEAVY LEFTWARDS ARROW WITH EQUILATERAL ARROWHEAD"⟩,
     ⟨0x1F819, "", "HEAVY UPWARDS ARROW WITH EQUILATERAL ARROWHEAD"⟩,
     ⟨0x1F81A, "", "HEAVY RIGHTWARDS ARROW WITH EQUILATERAL ARROWHEAD"⟩,
     ⟨0x1F81B, "", "HEAVY DOWNWARDS ARROW WITH EQUILATERAL ARROWHEAD"⟩,
     ⟨0x1F81C, "", "HEAVY LEFTWARDS ARROW WITH LARGE EQUILATERAL ARROWHEAD"⟩,
     ⟨0x1F81D, "", "HEAVY UPWARDS ARROW WITH LARGE EQUILATERAL ARROWHEAD"⟩,
     ⟨0x1F81E, "", "HEAVY RIGHTWARDS ARROW WITH LARGE EQUILATERAL ARROWHEAD"⟩,
     ⟨0x1F81F, "", "HEAVY DOWNWARDS ARROW WITH LARGE EQUILATERAL ARROWHEAD"⟩,
     ⟨0x1F820, "", "LEFTWARDS TRIANGLE-HEADED ARROW WITH NARROW SHAFT"⟩,
     ⟨0x1F821, "", "UPWARDS TRIANGLE-HEADED ARROW WITH NARROW SHAFT"⟩,
     ⟨0x1F822, "", "RIGHTWARDS TRIANGLE-HEADED ARROW WITH NARROW SHAFT"⟩,
     ⟨0x1F823, "", "DOWNWARDS TRIANGLE-HEADED ARROW WITH NARROW SHAFT"⟩,
     ⟨0x1F824, "", "LEFTWARDS TRIANGLE-HEADED ARROW WITH MEDIUM SHAFT"⟩,
     ⟨0x1F825, "", "UPWARDS TRIANGLE-HEADED ARROW WITH MEDIUM SHAFT"⟩,
     ⟨0x1F826, "", "RIGHTWARDS TRIANGLE-HEADED ARROW WITH MEDIUM SHAFT"⟩,
     ⟨0x1F827, "", "DOWNWARDS TRIANGLE-HEADED ARROW WITH MEDIUM SHAFT"⟩,
     ⟨0x1F828, "", "LEFTWARDS TRIANGLE-HEADED ARROW WITH BOLD SHAFT"⟩,
     ⟨0x1F829, "", "UPWARDS TRIANGLE-HEADED ARROW WITH BOLD SHAFT"⟩,
     ⟨0x1F82A, "", "RIGHTWARDS TRIANGLE-HEADED ARROW WITH BOLD SHAFT"⟩,
     ⟨0x1F82B, "", "DOWNWARDS TRIANGLE-HEADED ARROW WITH BOLD SHAFT"⟩,
     ⟨0x1F82C, "", "LEFTWARDS TRIANGLE-HEADED ARROW WITH HEAVY SHAFT"⟩,
     ⟨0x1F82D, "", "UPWARDS TRIANGLE-HEADED ARROW WITH HEAVY SHAFT"⟩,
     ⟨0x1F82E, "", "RIGHTWARDS TRIANGLE-HEADED ARROW WITH HEAVY SHAFT"⟩,
     ⟨0x1F82F, "", "DOWNWARDS TRIANGLE-HEADED ARROW WITH HEAVY SHAFT"⟩,
     ⟨0x1F830, "", "LEFTWARDS TRIANGLE-HEADED ARROW WITH VERY HEAVY SHAFT"⟩,
     ⟨0x1F831, "", "UPWARDS TRIANGLE-HEADED ARROW WITH VERY HEAVY SHAFT"⟩,
     ⟨0x1F832, "", "RIGHTWARDS TRIANGLE-HEADED ARROW WITH VERY HEAVY SHAFT"⟩,
     ⟨0x1F833, "", "DOWNWARDS TRIANGLE-HEADED ARROW WITH VERY HEAVY SHAFT"⟩,
     ⟨0x1F834, "", "LEFTWARDS FINGER-POST ARROW"⟩,
     ⟨0x1F835, "", "UPWARDS FINGER-POST ARROW;RIGHTWARDS FINGER-POST ARROW"⟩,
     ⟨0x1F837, "", "DOWNWARDS FINGER-POST ARROW;LEFTWARDS SQUARED ARROW;UPWARDS SQUARED ARROW"⟩,
     ⟨0x1F83A, "", "RIGHTWARDS SQUARED ARROW;DOWNWARDS SQUARED ARROW;LEFTWARDS COMPRESSED ARROW"⟩,
     ⟨0x1F83D, "", "UPWARDS COMPRESSED ARROW;RIGHTWARDS COMPRESSED ARROW"⟩,
     ⟨0x1F83F, "", "DOWNWARDS COMPRESSED ARROW;LEFTWARDS HEAVY COMPRESSED ARROW"⟩,
     ⟨0x1F841, "", "UPWARDS HEAVY COMPRESSED ARROW;RIGHTWARDS HEAVY COMPRESSED ARROW"⟩,
     ⟨0x1F843, "", "DOWNWARDS HEAVY COMPRESSED ARROW;LEFTWARDS HEAVY ARROW"⟩,
     ⟨0x1F845, "", "UPWARDS HEAVY ARROW;RIGHTWARDS HEAVY ARROW;DOWNWARDS HEAVY ARROW"⟩,
     ⟨0x1F850, "", "LEFTWARDS SANS-SERIF ARROW;UPWARDS SANS-SERIF ARROW"⟩,
     ⟨0x1F852, "", "RIGHTWARDS SANS-SERIF ARROW;DOWNWARDS SANS-SERIF ARROW"⟩,
     ⟨0x1F854, "NORTH ", "WEST SANS-SERIF ARROW;EAST SANS-SERIF ARROW"⟩,
     ⟨0x1F856, "SOUTH ", "EAST SANS-SERIF ARROW;WEST SANS-SERIF ARROW"⟩,
     ⟨0x1F858, "", "LEFT RIGHT SANS-SERIF ARROW;UP DOWN SANS-SERIF ARROW"⟩,
     ⟨0x1F860, "WIDE-HEADED ", "LEFTWARDS LIGHT BARB ARROW;UPWARDS LIGHT BARB ARROW"⟩,
     ⟨0x1F862, "WIDE-HEADED ", "RIGHTWARDS LIGHT BARB ARROW;DOWNWARDS LIGHT BARB ARROW"⟩,
     ⟨0x1F864, "WIDE-HEADED NORTH ", "WEST LIGHT BARB ARROW;EAST LIGHT BARB ARROW"⟩,
     ⟨0x1F866, "WIDE-HEADED SOUTH ", "EAST LIGHT BARB ARROW;WEST LIGHT BARB ARROW"⟩,
     ⟨0x1F868, "WIDE-HEADED ", "LEFTWARDS BARB ARROW;UPWARDS BARB ARROW;RIGHTWARDS BARB ARROW"⟩,
     ⟨0x1F86B, "WIDE-HEADED ", "DOWNWARDS BARB ARROW;NORTH WEST BARB ARROW;NORTH EAST BARB ARROW"⟩,
     ⟨0x1F86E, "WIDE-HEADED SOUTH ", "EAST BARB ARROW;WEST BARB ARROW"⟩,
     ⟨0x1F870, "WIDE-HEADED ", "LEFTWARDS MEDIUM BARB ARROW;UPWARDS MEDIUM BARB ARROW"⟩,
     ⟨0x1F872, "WIDE-HEADED ", "RIGHTWARDS MEDIUM BARB ARROW;DOWNWARDS MEDIUM BARB ARROW"⟩,
     ⟨0x1F874, "WIDE-HEADED NORTH ", "WEST MEDIUM BARB ARROW;EAST MEDIUM BARB ARROW"⟩,
     ⟨0x1F876, "WIDE-HEADED SOUTH ", "EAST MEDIUM BARB ARROW;WEST MEDIUM BARB ARROW"⟩,
     ⟨0x1F878, "WIDE-HEADED ", "LEFTWARDS HEAVY BARB ARROW;UPWARDS HEAVY BARB ARROW"⟩,
     ⟨0x1F87A, "WIDE-HEADED ", "RIGHTWARDS HEAVY BARB ARROW;DOWNWARDS HEAVY BARB ARROW"⟩,
     ⟨0x1F87C, "WIDE-HEADED NORTH ", "WEST HEAVY BARB ARROW;EAST HEAVY BARB ARROW"⟩,
     ⟨0x1F87E, "WIDE-HEADED SOUTH ", "EAST HEAVY BARB ARROW;WEST HEAVY BARB ARROW"⟩,
     ⟨0x1F880, "WIDE-HEADED ", "LEFTWARDS VERY HEAVY BARB ARROW;UPWARDS VERY HEAVY BARB ARROW"⟩,
     ⟨0x1F882, "WIDE-HEADED ", "RIGHTWARDS VERY HEAVY BARB ARROW;DOWNWARDS VERY HEAVY BARB ARROW"⟩,
     ⟨0x1F884, "WIDE-HEADED NORTH ", "WEST VERY HEAVY BARB ARROW;EAST VERY HEAVY BARB ARROW"⟩,
     ⟨0x1F886, "WIDE-HEADED SOUTH ", "EAST VERY HEAVY BARB ARROW;WEST VERY HEAVY BARB ARROW"⟩,
     ⟨0x1F890, "", "LEFTWARDS TRIANGLE ARROWHEAD"⟩,
     ⟨0x1F891, "", "UPWARDS TRIANGLE ARROWHEAD;RIGHTWARDS TRIANGLE ARROWHEAD"⟩,
     ⟨0x1F893, "", "DOWNWARDS TRIANGLE ARROWHEAD;LEFTWARDS WHITE ARROW WITHIN TRIANGLE ARROWHEAD"⟩,
     ⟨0x1F895, "", "UPWARDS WHITE ARROW WITHIN TRIANGLE ARROWHEAD"⟩,
     ⟨0x1F896, "", "RIGHTWARDS WHITE ARROW WITHIN TRIANGLE ARROWHEAD"⟩,
     ⟨0x1F897, "", "DOWNWARDS WHITE ARROW WITHIN TRIANGLE ARROWHEAD"⟩,
     ⟨0x1F898, "", "LEFTWARDS ARROW WITH NOTCHED TAIL;UPWARDS ARROW WITH NOTCHED TAIL"⟩,
     ⟨0x1F89A, "", "RIGHTWARDS ARROW WITH NOTCHED TAIL;DOWNWARDS ARROW WITH NOTCHED TAIL"⟩,
     ⟨0x1F89C, "HEAVY ARROW SHAFT WIDTH ", "ONE;TWO THIRDS;ONE HALF;ONE THIRD"⟩,
     ⟨0x1F8A0, "", "LEFTWARDS BOTTOM-SHADED WHITE ARROW"⟩,
     ⟨0x1F8A1, "", "RIGHTWARDS BOTTOM SHADED WHITE ARROW;LEFTWARDS TOP SHADED WHITE ARROW"⟩,
     ⟨0x1F8A3, "", "RIGHTWARDS TOP SHADED WHITE ARROW;LEFTWARDS LEFT-SHADED WHITE ARROW"⟩,
     ⟨0x1F8A5, "", "RIGHTWARDS RIGHT-SHADED WHITE ARROW;LEFTWARDS RIGHT-SHADED WHITE ARROW"⟩,
     ⟨0x1F8A7, "", "RIGHTWARDS LEFT-SHADED WHITE ARROW;LEFTWARDS BACK-TILTED SHADOWED WHITE ARROW"⟩,
     ⟨0x1F8A9, "", "RIGHTWARDS BACK-TILTED SHADOWED WHITE ARROW"⟩,
     ⟨0x1F8AA, "", "LEFTWARDS FRONT-TILTED SHADOWED WHITE ARROW"⟩,
     ⟨0x1F8AB, "", "RIGHTWARDS FRONT-TILTED SHADOWED WHITE ARROW"⟩,
     ⟨0x1F8AC, "WHITE ARROW SHAFT WIDTH ", "ONE;TWO THIRDS"⟩,
     ⟨0x1F8B0, "ARROW POINTING ", "UPWARDS THEN NORTH WEST;RIGHTWARDS THEN CURVING SOUTH WEST"⟩,
     ⟨0x1F8B2, "", "RIGHTWARDS ARROW WITH LOWER HOOK;DOWNWARDS BLACK ARROW TO BAR"⟩,
     ⟨0x1F8B4, "NEGATIVE SQUARED ", "LEFTWARDS ARROW;UPWARDS ARROW;RIGHTWARDS ARROW"⟩,
     ⟨0x1F8B7, "", "NEGATIVE SQUARED DOWNWARDS ARROW;NORTH WEST ARROW FROM BAR"⟩,
     ⟨0x1F8B9, "", "NORTH EAST ARROW FROM BAR;SOUTH EAST ARROW FROM BAR;SOUTH WEST ARROW FROM BAR"⟩,
     ⟨0x1F8C0, "", "LEFTWARDS ARROW FROM DOWNWARDS ARROW;RIGHTWARDS ARROW FROM DOWNWARDS ARROW"⟩]

end NameBlock

/-- The blocks of this module. -/
def mathematicsBlocks : List NameBlock :=
  [.arrows, .mathematicalOperators, .miscellaneousMathematicalSymbolsA, .supplementalArrowsA,
   .supplementalArrowsB, .miscellaneousMathematicalSymbolsB, .supplementalMathematicalOperators,
   .miscellaneousSymbolsAndArrows, .countingRodNumerals, .mathematicalAlphanumericSymbols,
   .supplementalArrowsC]

end Text
end Scripting
