import Scripting.Text.Names.Block

namespace Scripting
namespace Text

/-!
Names of shapes that early computers could draw.
-/

namespace NameBlock

/-- Names in the block Symbols for Legacy Computing Supplement. -/
def symbolsForLegacyComputingSupplement : NameBlock where
  first := 0x1CC00
  last := 0x1CEBF
  rows :=
    [⟨0x1CC00, "", "UP-POINTING GO-KART;RIGHT-POINTING GO-KART;LEFT-POINTING STICK FIGURE"⟩,
     ⟨0x1CC03, "", "RIGHT-POINTING STICK FIGURE;DOWN-POINTING STICK FIGURE"⟩,
     ⟨0x1CC05, "", "LOWER HORIZONTAL RULER SEGMENT;RIGHT VERTICAL RULER SEGMENT"⟩,
     ⟨0x1CC07, "", "LOWER RIGHT RULER SEGMENT;ANTENNA;HORIZONTAL RESISTOR SEGMENT"⟩,
     ⟨0x1CC0A, "", "VERTICAL RESISTOR SEGMENT;LEFT THIRD INDUCTOR;MIDDLE THIRD INDUCTOR"⟩,
     ⟨0x1CC0D, "", "RIGHT THIRD INDUCTOR;LEFT-POINTING DIODE;RIGHT-POINTING DIODE;NPN TRANSISTOR"⟩,
     ⟨0x1CC11, "", "PNP TRANSISTOR;RECEPTACLE;HORIZONTAL CAPACITOR;VERTICAL CAPACITOR"⟩,
     ⟨0x1CC15, "LOGIC GATE ", "OR;AND"⟩,
     ⟨0x1CC17, "LOGIC GATE ", "INVERTED INPUTS;INVERTED OUTPUT;BUFFER;BUFFER WITH INVERTED INPUT"⟩,
     ⟨0x1CC1B, "BOX DRAWINGS LIGHT HORIZONTAL AND ", "UPPER RIGHT;LOWER RIGHT"⟩,
     ⟨0x1CC1D, "BOX DRAWINGS LIGHT ", "TOP AND UPPER LEFT;BOTTOM AND LOWER LEFT"⟩,
     ⟨0x1CC1F, "BOX DRAWINGS DOUBLE DIAGONAL UPPER ", "RIGHT TO LOWER LEFT;LEFT TO LOWER RIGHT"⟩,
     ⟨0x1CC21, "SEPARATED BLOCK QUADRANT-", "1;2;12;3;13;23;123;4;14;24;124;34;134;234;1234"⟩,
     ⟨0x1CC30, "UPPER ", "LEFT TWELFTH CIRCLE;CENTRE LEFT TWELFTH CIRCLE"⟩,
     ⟨0x1CC32, "UPPER ", "CENTRE RIGHT TWELFTH CIRCLE;RIGHT TWELFTH CIRCLE"⟩,
     ⟨0x1CC34, "UPPER ", "MIDDLE LEFT TWELFTH CIRCLE;LEFT QUARTER CIRCLE;RIGHT QUARTER CIRCLE"⟩,
     ⟨0x1CC37, "", "UPPER MIDDLE RIGHT TWELFTH CIRCLE;LOWER MIDDLE LEFT TWELFTH CIRCLE"⟩,
     ⟨0x1CC39, "LOWER ", "LEFT QUARTER CIRCLE;RIGHT QUARTER CIRCLE;MIDDLE RIGHT TWELFTH CIRCLE"⟩,
     ⟨0x1CC3C, "LOWER ", "LEFT TWELFTH CIRCLE;CENTRE LEFT TWELFTH CIRCLE"⟩,
     ⟨0x1CC3E, "LOWER ", "CENTRE RIGHT TWELFTH CIRCLE;RIGHT TWELFTH CIRCLE"⟩,
     ⟨0x1CC40, "", "SPARSE HORIZONTAL FILL;SPARSE VERTICAL FILL;ORTHOGONAL CROSSHATCH FILL"⟩,
     ⟨0x1CC43, "", "DIAGONAL CROSSHATCH FILL;DENSE VERTICAL FILL;DENSE HORIZONTAL FILL"⟩,
     ⟨0x1CC46, "SPECKLE FILL FRAME-", "1;2"⟩,
     ⟨0x1CC48, "", "LEFT-FACING BASSINET;RIGHT-FACING BASSINET"⟩,
     ⟨0x1CC4A, "FLYING SAUCER ", "WITH BEAMS;WITHOUT BEAMS"⟩,
     ⟨0x1CC4C, "ALIEN MONSTER ", "OPEN JAWS;CLOSED JAWS"⟩,
     ⟨0x1CC4E, "ALIEN SQUID ", "OPEN TENTACLES;CLOSED TENTACLES"⟩,
     ⟨0x1CC50, "ALIEN ", "CRAB STEPPING RIGHT;CRAB STEPPING LEFT;SPIDER CROUCHING;SPIDER SPREAD"⟩,
     ⟨0x1CC54, "", "ALIEN MONSTER STEP-1;ALIEN MONSTER STEP-2;LEFT-POINTING ROCKET SHIP"⟩,
     ⟨0x1CC57, "", "UP-POINTING ROCKET SHIP;RIGHT-POINTING ROCKET SHIP;DOWN-POINTING ROCKET SHIP"⟩,
     ⟨0x1CC5A, "TOP HALF ", "LEFT-FACING ROBOT;FORWARD-FACING ROBOT;RIGHT-FACING ROBOT"⟩,
     ⟨0x1CC5D, "BOTTOM HALF ", "LEFT-FACING ROBOT;FORWARD-FACING ROBOT;RIGHT-FACING ROBOT"⟩,
     ⟨0x1CC60, "", "LEFT-POINTING ATOMIC BOMB;UP-POINTING ATOMIC BOMB;RIGHT-POINTING ATOMIC BOMB"⟩,
     ⟨0x1CC63, "", "DOWN-POINTING ATOMIC BOMB;MUSHROOM CLOUD;LEFT-POINTING RIFLE"⟩,
     ⟨0x1CC66, "", "UP-POINTING RIFLE;RIGHT-POINTING RIFLE;DOWN-POINTING RIFLE"⟩,
     ⟨0x1CC69, "EIGHT RAYS ", "INWARD;OUTWARD"⟩,
     ⟨0x1CC6B, "BLACK LARGE CIRCLE MINUS ", "LEFT QUARTER SECTION;UPPER QUARTER SECTION"⟩,
     ⟨0x1CC6D, "BLACK LARGE CIRCLE MINUS ", "RIGHT QUARTER SECTION;LOWER QUARTER SECTION"⟩,
     ⟨0x1CC6F, "", "BLACK NEUTRAL FACE;LEFT-FACING SNAKE HEAD WITH OPEN MOUTH"⟩,
     ⟨0x1CC71, "", "UP-FACING SNAKE HEAD WITH OPEN MOUTH;RIGHT-FACING SNAKE HEAD WITH OPEN MOUTH"⟩,
     ⟨0x1CC73, "", "DOWN-FACING SNAKE HEAD WITH OPEN MOUTH"⟩,
     ⟨0x1CC74, "", "LEFT-FACING SNAKE HEAD WITH CLOSED MOUTH"⟩,
     ⟨0x1CC75, "", "UP-FACING SNAKE HEAD WITH CLOSED MOUTH"⟩,
     ⟨0x1CC76, "", "RIGHT-FACING SNAKE HEAD WITH CLOSED MOUTH"⟩,
     ⟨0x1CC77, "", "DOWN-FACING SNAKE HEAD WITH CLOSED MOUTH;LEFT-POINTING ENERGY WAVE"⟩,
     ⟨0x1CC79, "", "UP-POINTING ENERGY WAVE;RIGHT-POINTING ENERGY WAVE;DOWN-POINTING ENERGY WAVE"⟩,
     ⟨0x1CC7C, "SQUARE SPIRAL FROM ", "TOP LEFT;TOP RIGHT;BOTTOM RIGHT;BOTTOM LEFT"⟩,
     ⟨0x1CC80, "STRIPED ", "LEFT-POINTING TRIANGLE;UP-POINTING TRIANGLE;RIGHT-POINTING TRIANGLE"⟩,
     ⟨0x1CC83, "", "STRIPED DOWN-POINTING TRIANGLE;VERTICAL LADDER;HORIZONTAL LADDER"⟩,
     ⟨0x1CC86, "WHITE LOWER ", "LEFT POINTER;RIGHT POINTER"⟩,
     ⟨0x1CC88, "", "TWO RINGS ALIGNED HORIZONTALLY"⟩,
     ⟨0x1CC89, "SQUARE FOUR CORNER ", "SALTIRES;DIAGONALS;BLACK TRIANGLES"⟩,
     ⟨0x1CC8C, "", "SQUARE APERTURE;INVERSE BLACK DIAMOND"⟩,
     ⟨0x1CC8E, "", "LEFT AND UPPER ONE EIGHTH BLOCK CONTAINING BLACK SMALL SQUARE"⟩,
     ⟨0x1CC8F, "", "INVERSE BLACK SMALL SQUARE;VERTICAL LINE WITH FOUR TICK MARKS"⟩,
     ⟨0x1CC91, "", "HORIZONTAL LINE WITH FOUR TICK MARKS;LEFT-FACING FISH;RIGHT-FACING FISH"⟩,
     ⟨0x1CC94, "", "LEFT-FACING FISH WITH OPEN MOUTH;RIGHT-FACING FISH WITH OPEN MOUTH"⟩,
     ⟨0x1CC96, "", "FLAPPING BIRD;LEFT-POINTING RACING CAR;UP-POINTING RACING CAR"⟩,
     ⟨0x1CC99, "", "RIGHT-POINTING RACING CAR;DOWN-POINTING RACING CAR;HORIZONTAL RACING CAR"⟩,
     ⟨0x1CC9C, "VERTICAL ", "RACING CAR;GO-KART"⟩,
     ⟨0x1CC9E, "", "LEFT-POINTING TANK;RIGHT-POINTING TANK;LEFT-POINTING ROCKET BOOSTER"⟩,
     ⟨0x1CCA1, "", "RIGHT-POINTING ROCKET BOOSTER;LEFT-POINTING ROLLER COASTER CAR"⟩,
     ⟨0x1CCA3, "", "RIGHT-POINTING ROLLER COASTER CAR;LEFT HALF FLYING SAUCER"⟩,
     ⟨0x1CCA5, "", "RIGHT HALF FLYING SAUCER;UPPER LEFT QUADRANT FACE WITH OPEN EYES"⟩,
     ⟨0x1CCA7, "UPPER ", "RIGHT QUADRANT FACE WITH OPEN EYES;LEFT QUADRANT FACE WITH CLOSED EYES"⟩,
     ⟨0x1CCA9, "", "UPPER RIGHT QUADRANT FACE WITH CLOSED EYES"⟩,
     ⟨0x1CCAA, "LOWER ", "LEFT QUADRANT SMILING FACE;RIGHT QUADRANT SMILING FACE"⟩,
     ⟨0x1CCAC, "LOWER ", "LEFT QUADRANT NEUTRAL FACE;RIGHT QUADRANT NEUTRAL FACE"⟩,
     ⟨0x1CCAE, "LOWER ", "LEFT QUADRANT FACE WITH OPEN MOUTH;RIGHT QUADRANT FACE WITH OPEN MOUTH"⟩,
     ⟨0x1CCB0, "LOWER ", "LEFT QUADRANT FROWNING FACE;RIGHT QUADRANT FROWNING FACE"⟩,
     ⟨0x1CCB2, "UPPER ", "LEFT QUADRANT TELEVISION;RIGHT QUADRANT TELEVISION"⟩,
     ⟨0x1CCB4, "LOWER ", "LEFT QUADRANT TELEVISION;RIGHT QUADRANT TELEVISION"⟩,
     ⟨0x1CCB6, "UPPER ", "LEFT QUADRANT MICROCOMPUTER;RIGHT QUADRANT MICROCOMPUTER"⟩,
     ⟨0x1CCB8, "LOWER ", "LEFT QUADRANT MICROCOMPUTER;RIGHT QUADRANT MICROCOMPUTER"⟩,
     ⟨0x1CCBA, "UPPER ", "LEFT QUADRANT CHESS KING;RIGHT QUADRANT CHESS KING"⟩,
     ⟨0x1CCBC, "LOWER ", "LEFT QUADRANT CHESS KING;RIGHT QUADRANT CHESS KING"⟩,
     ⟨0x1CCBE, "UPPER ", "LEFT QUADRANT CHESS QUEEN;RIGHT QUADRANT CHESS QUEEN"⟩,
     ⟨0x1CCC0, "LOWER ", "LEFT QUADRANT CHESS QUEEN;RIGHT QUADRANT CHESS QUEEN"⟩,
     ⟨0x1CCC2, "UPPER ", "LEFT QUADRANT CHESS ROOK;RIGHT QUADRANT CHESS ROOK"⟩,
     ⟨0x1CCC4, "LOWER ", "LEFT QUADRANT CHESS ROOK;RIGHT QUADRANT CHESS ROOK"⟩,
     ⟨0x1CCC6, "UPPER ", "LEFT QUADRANT CHESS BISHOP;RIGHT QUADRANT CHESS BISHOP"⟩,
     ⟨0x1CCC8, "LOWER ", "LEFT QUADRANT CHESS BISHOP;RIGHT QUADRANT CHESS BISHOP"⟩,
     ⟨0x1CCCA, "UPPER ", "LEFT QUADRANT CHESS KNIGHT;RIGHT QUADRANT CHESS KNIGHT"⟩,
     ⟨0x1CCCC, "LOWER ", "LEFT QUADRANT CHESS KNIGHT;RIGHT QUADRANT CHESS KNIGHT"⟩,
     ⟨0x1CCCE, "UPPER ", "LEFT QUADRANT CHESS PAWN;RIGHT QUADRANT CHESS PAWN"⟩,
     ⟨0x1CCD0, "LOWER ", "LEFT QUADRANT CHESS PAWN;RIGHT QUADRANT CHESS PAWN"⟩,
     ⟨0x1CCD2, "UPPER ", "LEFT QUADRANT STANDING KNIGHT;RIGHT QUADRANT STANDING KNIGHT"⟩,
     ⟨0x1CCD4, "LOWER ", "LEFT QUADRANT STANDING KNIGHT;RIGHT QUADRANT STANDING KNIGHT"⟩,
     ⟨0x1CCD6, "OUTLINED LATIN CAPITAL LETTER ", "A;B"⟩,
     ⟨0x1CCD8, "OUTLINED LATIN CAPITAL LETTER ", "C;D;E;F;G;H;I;J;K;L;M;N;O;P;Q;R;S;T;U;V;W;X;Y;Z"⟩,
     ⟨0x1CD00, "BLOCK OCTANT-", "3;23;123;4;14;124;34;134;234;5;15"⟩,
     ⟨0x1CD0B, "BLOCK OCTANT-", "25;125;135;235;1235;45;145;245;1245;345;1345;2345;12345;6;16;26"⟩,
     ⟨0x1CD1B, "BLOCK OCTANT-", "126;36;136;236;1236;146;246;1246;346;1346;2346;12346;56;156;256"⟩,
     ⟨0x1CD2A, "BLOCK OCTANT-", "1256;356;1356;2356;12356;456;1456;2456;12456;3456;13456;23456"⟩,
     ⟨0x1CD36, "BLOCK OCTANT-", "17;27;127;37;137;237;1237;47;147;247;1247;347;1347;2347;12347"⟩,
     ⟨0x1CD45, "BLOCK OCTANT-", "157;257;1257;357;2357;12357;457;1457;12457;3457;13457;23457"⟩,
     ⟨0x1CD51, "BLOCK OCTANT-", "67;167;267;1267;367;1367;2367;12367;467;1467;2467;12467;3467"⟩,
     ⟨0x1CD5E, "BLOCK OCTANT-", "13467;23467;123467;567;1567;2567;12567;3567;13567;23567;123567"⟩,
     ⟨0x1CD69, "BLOCK OCTANT-", "4567;14567;24567;124567;34567;134567;234567;1234567;18;28;128;38"⟩,
     ⟨0x1CD75, "BLOCK OCTANT-", "138;238;1238;48;148;248;1248;348;1348;2348;12348;58;158;258;1258"⟩,
     ⟨0x1CD84, "BLOCK OCTANT-", "358;1358;2358;12358;458;1458;2458;12458;3458;13458;23458;123458"⟩,
     ⟨0x1CD90, "BLOCK OCTANT-", "168;268;1268;368;2368;12368;468;1468;12468;3468;13468;23468;568"⟩,
     ⟨0x1CD9D, "BLOCK OCTANT-", "1568;2568;12568;3568;13568;23568;123568;4568;14568;24568;124568"⟩,
     ⟨0x1CDA8, "BLOCK OCTANT-", "34568;134568;234568;1234568;178;278;1278;378;1378;2378;12378"⟩,
     ⟨0x1CDB3, "BLOCK OCTANT-", "478;1478;2478;12478;3478;13478;23478;123478;578;1578;2578;12578"⟩,
     ⟨0x1CDBF, "BLOCK OCTANT-", "3578;13578;23578;123578;4578;14578;24578;124578;34578;134578"⟩,
     ⟨0x1CDC9, "BLOCK OCTANT-", "234578;1234578;678;1678;2678;12678;3678;13678;23678;123678"⟩,
     ⟨0x1CDD3, "BLOCK OCTANT-", "4678;14678;24678;124678;34678;134678;234678;1234678;15678;25678"⟩,
     ⟨0x1CDDD, "BLOCK OCTANT-", "125678;35678;235678;1235678;45678;145678;1245678;1345678;2345678"⟩,
     ⟨0x1CDE6, "", "TOP HALF STANDING PERSON"⟩,
     ⟨0x1CDE7, "", "BOTTOM HALF STANDING PERSON;TOP HALF RIGHT-FACING RUNNER FRAME-1"⟩,
     ⟨0x1CDE9, "", "BOTTOM HALF RIGHT-FACING RUNNER FRAME-1;TOP HALF RIGHT-FACING RUNNER FRAME-2"⟩,
     ⟨0x1CDEB, "", "BOTTOM HALF RIGHT-FACING RUNNER FRAME-2;TOP HALF LEFT-FACING RUNNER FRAME-1"⟩,
     ⟨0x1CDED, "", "BOTTOM HALF LEFT-FACING RUNNER FRAME-1;TOP HALF LEFT-FACING RUNNER FRAME-2"⟩,
     ⟨0x1CDEF, "", "BOTTOM HALF LEFT-FACING RUNNER FRAME-2;TOP HALF FORWARD-FACING RUNNER"⟩,
     ⟨0x1CDF1, "BOTTOM HALF FORWARD-FACING RUNNER FRAME-", "1;2;3;4"⟩,
     ⟨0x1CDF5, "", "MOON LANDER"⟩,
     ⟨0x1CDF6, "TOP HALF FLAILING ROBOT FRAME-", "1;2"⟩,
     ⟨0x1CDF8, "", "DOWN-POINTING AIRPLANE;LEFT-POINTING AIRPLANE"⟩,
     ⟨0x1CDFA, "", "SMALL UP-POINTING AIRPLANE;UP-POINTING FROG;DOWN-POINTING FROG"⟩,
     ⟨0x1CDFD, "EXPLOSION FRAME-", "1;2;3"⟩,
     ⟨0x1CE00, "", "RIGHT HALF AND LEFT HALF WHITE CIRCLE"⟩,
     ⟨0x1CE01, "", "LOWER HALF AND UPPER HALF WHITE CIRCLE;EXPLOSION AT HORIZON"⟩,
     ⟨0x1CE03, "", "UPPER HALF HEAVY WHITE SQUARE;LOWER HALF HEAVY WHITE SQUARE"⟩,
     ⟨0x1CE05, "", "HEAVY WHITE SQUARE CONTAINING BLACK VERY SMALL SQUARE"⟩,
     ⟨0x1CE06, "", "WHITE VERTICAL RECTANGLE WITH HORIZONTAL BAR"⟩,
     ⟨0x1CE07, "", "TOP LEFT BLACK LEFT-POINTING SMALL TRIANGLE;FUNNEL"⟩,
     ⟨0x1CE09, "", "BOX DRAWINGS DOUBLE DIAGONAL LOWER LEFT TO MIDDLE CENTRE TO LOWER RIGHT"⟩,
     ⟨0x1CE0A, "", "BOX DRAWINGS DOUBLE DIAGONAL UPPER LEFT TO MIDDLE CENTRE TO UPPER RIGHT"⟩,
     ⟨0x1CE0B, "", "LEFT HALF WHITE ELLIPSE"⟩,
     ⟨0x1CE0C, "", "RIGHT HALF WHITE ELLIPSE;LEFT HALF TRIPLE DASH HORIZONTAL"⟩,
     ⟨0x1CE0E, "", "RIGHT HALF TRIPLE DASH HORIZONTAL;HORIZONTAL LINE WITH TICK MARK"⟩,
     ⟨0x1CE10, "", "LEFT HALF HORIZONTAL LINE WITH THREE TICK MARKS"⟩,
     ⟨0x1CE11, "", "RIGHT HALF HORIZONTAL LINE WITH THREE TICK MARKS"⟩,
     ⟨0x1CE12, "", "HORIZONTAL LINE WITH THREE TICK MARKS"⟩,
     ⟨0x1CE13, "", "LOWER HALF VERTICAL LINE WITH THREE TICK MARKS"⟩,
     ⟨0x1CE14, "", "UPPER HALF VERTICAL LINE WITH THREE TICK MARKS"⟩,
     ⟨0x1CE15, "", "VERTICAL LINE WITH THREE TICK MARKS"⟩,
     ⟨0x1CE16, "BOX DRAWINGS LIGHT VERTICAL AND ", "TOP RIGHT;BOTTOM RIGHT;TOP LEFT;BOTTOM LEFT"⟩,
     ⟨0x1CE1A, "LARGE TYPE PIECE UPPER ", "LEFT ARC;LEFT CORNER;TERMINAL;LEFT CROTCH"⟩,
     ⟨0x1CE1E, "LARGE TYPE PIECE ", "LEFT ARM;CROSSBAR;CROSSBAR WITH LOWER STEM"⟩,
     ⟨0x1CE21, "LARGE TYPE PIECE ", "UPPER HALF VERTEX OF M;DIAGONAL LOWER LEFT"⟩,
     ⟨0x1CE23, "LARGE TYPE PIECE ", "SHORT UPPER TERMINAL;UPPER RIGHT ARC;RIGHT ARM"⟩,
     ⟨0x1CE26, "LARGE TYPE PIECE UPPER RIGHT ", "CROTCH;CORNER"⟩,
     ⟨0x1CE28, "LARGE TYPE PIECE ", "STEM WITH RIGHT CROSSBAR;STEM"⟩,
     ⟨0x1CE2A, "LARGE TYPE PIECE DIAGONAL ", "UPPER RIGHT AND LOWER RIGHT;UPPER RIGHT;LOWER RIGHT"⟩,
     ⟨0x1CE2D, "LARGE TYPE PIECE ", "SHORT LOWER TERMINAL;LOWER LEFT AND UPPER LEFT ARC"⟩,
     ⟨0x1CE2F, "LARGE TYPE PIECE ", "CENTRE OF K;LOWER HALF VERTEX OF M;UPPER HALF VERTEX OF W"⟩,
     ⟨0x1CE32, "LARGE TYPE PIECE CENTRE OF ", "X;Y;Z WITH CROSSBAR"⟩,
     ⟨0x1CE35, "", "LARGE TYPE PIECE RAISED UPPER LEFT ARC"⟩,
     ⟨0x1CE36, "LARGE TYPE PIECE ", "STEM WITH LEFT CROSSBAR;LOWER RIGHT AND UPPER RIGHT ARC"⟩,
     ⟨0x1CE38, "LARGE TYPE PIECE ", "DIAGONAL UPPER LEFT AND LOWER LEFT;STEM WITH LEFT JOINT"⟩,
     ⟨0x1CE3A, "LARGE TYPE PIECE ", "STEM WITH CROSSBAR;DIAGONAL UPPER LEFT;LOWER TERMINAL"⟩,
     ⟨0x1CE3D, "LARGE TYPE PIECE LOWER LEFT ", "CORNER;ARC;CROTCH"⟩,
     ⟨0x1CE40, "LARGE TYPE PIECE ", "CROSSBAR WITH UPPER STEM;VERTEX OF V;LOWER HALF VERTEX OF W"⟩,
     ⟨0x1CE43, "LARGE TYPE PIECE LOWER RIGHT ", "ARC;CORNER;ARC WITH TAIL;CROTCH"⟩,
     ⟨0x1CE47, "LARGE TYPE PIECE STEM-", "45;2345;4;34;234;1234;3;23;2;12"⟩,
     ⟨0x1CE51, "SEPARATED BLOCK SEXTANT-", "1;2;12;3;13;23;123;4;14;24;124;34;134;234;1234;5;15"⟩,
     ⟨0x1CE62, "SEPARATED BLOCK SEXTANT-", "25;125;35;135;235;1235;45;145;245;1245;345;1345;2345"⟩,
     ⟨0x1CE6F, "SEPARATED BLOCK SEXTANT-", "12345;6;16;26;126;36;136;236;1236;46;146;246;1246"⟩,
     ⟨0x1CE7C, "SEPARATED BLOCK SEXTANT-", "346;1346;2346;12346;56;156;256;1256;356;1356;2356"⟩,
     ⟨0x1CE87, "SEPARATED BLOCK SEXTANT-", "12356;456;1456;2456;12456;3456;13456;23456;123456"⟩,
     ⟨0x1CE90, "UPPER ", "LEFT ONE SIXTEENTH BLOCK;CENTRE LEFT ONE SIXTEENTH BLOCK"⟩,
     ⟨0x1CE92, "UPPER ", "CENTRE RIGHT ONE SIXTEENTH BLOCK;RIGHT ONE SIXTEENTH BLOCK"⟩,
     ⟨0x1CE94, "UPPER MIDDLE ", "LEFT ONE SIXTEENTH BLOCK;CENTRE LEFT ONE SIXTEENTH BLOCK"⟩,
     ⟨0x1CE96, "UPPER MIDDLE ", "CENTRE RIGHT ONE SIXTEENTH BLOCK;RIGHT ONE SIXTEENTH BLOCK"⟩,
     ⟨0x1CE98, "LOWER MIDDLE ", "LEFT ONE SIXTEENTH BLOCK;CENTRE LEFT ONE SIXTEENTH BLOCK"⟩,
     ⟨0x1CE9A, "LOWER MIDDLE ", "CENTRE RIGHT ONE SIXTEENTH BLOCK;RIGHT ONE SIXTEENTH BLOCK"⟩,
     ⟨0x1CE9C, "LOWER ", "LEFT ONE SIXTEENTH BLOCK;CENTRE LEFT ONE SIXTEENTH BLOCK"⟩,
     ⟨0x1CE9E, "LOWER ", "CENTRE RIGHT ONE SIXTEENTH BLOCK;RIGHT ONE SIXTEENTH BLOCK"⟩,
     ⟨0x1CEA0, "RIGHT ", "HALF LOWER ONE QUARTER BLOCK;THREE QUARTERS LOWER ONE QUARTER BLOCK"⟩,
     ⟨0x1CEA2, "LEFT ", "THREE QUARTERS LOWER ONE QUARTER BLOCK;HALF LOWER ONE QUARTER BLOCK"⟩,
     ⟨0x1CEA4, "LOWER ", "HALF LEFT ONE QUARTER BLOCK;THREE QUARTERS LEFT ONE QUARTER BLOCK"⟩,
     ⟨0x1CEA6, "UPPER ", "THREE QUARTERS LEFT ONE QUARTER BLOCK;HALF LEFT ONE QUARTER BLOCK"⟩,
     ⟨0x1CEA8, "LEFT ", "HALF UPPER ONE QUARTER BLOCK;THREE QUARTERS UPPER ONE QUARTER BLOCK"⟩,
     ⟨0x1CEAA, "RIGHT ", "THREE QUARTERS UPPER ONE QUARTER BLOCK;HALF UPPER ONE QUARTER BLOCK"⟩,
     ⟨0x1CEAC, "UPPER ", "HALF RIGHT ONE QUARTER BLOCK;THREE QUARTERS RIGHT ONE QUARTER BLOCK"⟩,
     ⟨0x1CEAE, "LOWER ", "THREE QUARTERS RIGHT ONE QUARTER BLOCK;HALF RIGHT ONE QUARTER BLOCK"⟩,
     ⟨0x1CEB0, "", "HORIZONTAL ZIGZAG LINE"⟩,
     ⟨0x1CEB1, "", "KEYHOLE;OLD PERSONAL COMPUTER WITH MONITOR IN PORTRAIT ORIENTATION"⟩,
     ⟨0x1CEB3, "", "BLACK RIGHT TRIANGLE CARET"⟩]

/-- Names in the block Symbols for Legacy Computing. -/
def symbolsForLegacyComputing : NameBlock where
  first := 0x1FB00
  last := 0x1FBFF
  rows :=
    [⟨0x1FB00, "BLOCK SEXTANT-", "1;2;12;3;13;23;123;4;14;24;124;34;134;234;1234;5;15"⟩,
     ⟨0x1FB11, "BLOCK SEXTANT-", "25;125;35;235;1235;45;145;245;1245;345;1345;2345;12345;6;16;26"⟩,
     ⟨0x1FB21, "BLOCK SEXTANT-", "126;36;136;236;1236;46;146;1246;346;1346;2346;12346;56;156;256"⟩,
     ⟨0x1FB30, "BLOCK SEXTANT-", "1256;356;1356;2356;12356;456;1456;2456;12456;3456;13456;23456"⟩,
     ⟨0x1FB3C, "LOWER LEFT BLOCK DIAGONAL LOWER MIDDLE LEFT TO LOWER ", "CENTRE;RIGHT"⟩,
     ⟨0x1FB3E, "LOWER LEFT BLOCK DIAGONAL UPPER MIDDLE LEFT TO LOWER ", "CENTRE;RIGHT"⟩,
     ⟨0x1FB40, "", "LOWER LEFT BLOCK DIAGONAL UPPER LEFT TO LOWER CENTRE"⟩,
     ⟨0x1FB41, "LOWER RIGHT BLOCK DIAGONAL UPPER MIDDLE LEFT TO UPPER ", "CENTRE;RIGHT"⟩,
     ⟨0x1FB43, "LOWER RIGHT BLOCK DIAGONAL LOWER MIDDLE LEFT TO UPPER ", "CENTRE;RIGHT"⟩,
     ⟨0x1FB45, "", "LOWER RIGHT BLOCK DIAGONAL LOWER LEFT TO UPPER CENTRE"⟩,
     ⟨0x1FB46, "", "LOWER RIGHT BLOCK DIAGONAL LOWER MIDDLE LEFT TO UPPER MIDDLE RIGHT"⟩,
     ⟨0x1FB47, "", "LOWER RIGHT BLOCK DIAGONAL LOWER CENTRE TO LOWER MIDDLE RIGHT"⟩,
     ⟨0x1FB48, "", "LOWER RIGHT BLOCK DIAGONAL LOWER LEFT TO LOWER MIDDLE RIGHT"⟩,
     ⟨0x1FB49, "", "LOWER RIGHT BLOCK DIAGONAL LOWER CENTRE TO UPPER MIDDLE RIGHT"⟩,
     ⟨0x1FB4A, "", "LOWER RIGHT BLOCK DIAGONAL LOWER LEFT TO UPPER MIDDLE RIGHT"⟩,
     ⟨0x1FB4B, "", "LOWER RIGHT BLOCK DIAGONAL LOWER CENTRE TO UPPER RIGHT"⟩,
     ⟨0x1FB4C, "", "LOWER LEFT BLOCK DIAGONAL UPPER CENTRE TO UPPER MIDDLE RIGHT"⟩,
     ⟨0x1FB4D, "", "LOWER LEFT BLOCK DIAGONAL UPPER LEFT TO UPPER MIDDLE RIGHT"⟩,
     ⟨0x1FB4E, "", "LOWER LEFT BLOCK DIAGONAL UPPER CENTRE TO LOWER MIDDLE RIGHT"⟩,
     ⟨0x1FB4F, "", "LOWER LEFT BLOCK DIAGONAL UPPER LEFT TO LOWER MIDDLE RIGHT"⟩,
     ⟨0x1FB50, "", "LOWER LEFT BLOCK DIAGONAL UPPER CENTRE TO LOWER RIGHT"⟩,
     ⟨0x1FB51, "", "LOWER LEFT BLOCK DIAGONAL UPPER MIDDLE LEFT TO LOWER MIDDLE RIGHT"⟩,
     ⟨0x1FB52, "UPPER RIGHT BLOCK DIAGONAL LOWER MIDDLE LEFT TO LOWER ", "CENTRE;RIGHT"⟩,
     ⟨0x1FB54, "UPPER RIGHT BLOCK DIAGONAL UPPER MIDDLE LEFT TO LOWER ", "CENTRE;RIGHT"⟩,
     ⟨0x1FB56, "", "UPPER RIGHT BLOCK DIAGONAL UPPER LEFT TO LOWER CENTRE"⟩,
     ⟨0x1FB57, "UPPER LEFT BLOCK DIAGONAL UPPER MIDDLE LEFT TO UPPER ", "CENTRE;RIGHT"⟩,
     ⟨0x1FB59, "UPPER LEFT BLOCK DIAGONAL LOWER MIDDLE LEFT TO UPPER ", "CENTRE;RIGHT"⟩,
     ⟨0x1FB5B, "", "UPPER LEFT BLOCK DIAGONAL LOWER LEFT TO UPPER CENTRE"⟩,
     ⟨0x1FB5C, "", "UPPER LEFT BLOCK DIAGONAL LOWER MIDDLE LEFT TO UPPER MIDDLE RIGHT"⟩,
     ⟨0x1FB5D, "", "UPPER LEFT BLOCK DIAGONAL LOWER CENTRE TO LOWER MIDDLE RIGHT"⟩,
     ⟨0x1FB5E, "", "UPPER LEFT BLOCK DIAGONAL LOWER LEFT TO LOWER MIDDLE RIGHT"⟩,
     ⟨0x1FB5F, "", "UPPER LEFT BLOCK DIAGONAL LOWER CENTRE TO UPPER MIDDLE RIGHT"⟩,
     ⟨0x1FB60, "", "UPPER LEFT BLOCK DIAGONAL LOWER LEFT TO UPPER MIDDLE RIGHT"⟩,
     ⟨0x1FB61, "", "UPPER LEFT BLOCK DIAGONAL LOWER CENTRE TO UPPER RIGHT"⟩,
     ⟨0x1FB62, "", "UPPER RIGHT BLOCK DIAGONAL UPPER CENTRE TO UPPER MIDDLE RIGHT"⟩,
     ⟨0x1FB63, "", "UPPER RIGHT BLOCK DIAGONAL UPPER LEFT TO UPPER MIDDLE RIGHT"⟩,
     ⟨0x1FB64, "", "UPPER RIGHT BLOCK DIAGONAL UPPER CENTRE TO LOWER MIDDLE RIGHT"⟩,
     ⟨0x1FB65, "", "UPPER RIGHT BLOCK DIAGONAL UPPER LEFT TO LOWER MIDDLE RIGHT"⟩,
     ⟨0x1FB66, "", "UPPER RIGHT BLOCK DIAGONAL UPPER CENTRE TO LOWER RIGHT"⟩,
     ⟨0x1FB67, "", "UPPER RIGHT BLOCK DIAGONAL UPPER MIDDLE LEFT TO LOWER MIDDLE RIGHT"⟩,
     ⟨0x1FB68, "", "UPPER AND RIGHT AND LOWER TRIANGULAR THREE QUARTERS BLOCK"⟩,
     ⟨0x1FB69, "", "LEFT AND LOWER AND RIGHT TRIANGULAR THREE QUARTERS BLOCK"⟩,
     ⟨0x1FB6A, "", "UPPER AND LEFT AND LOWER TRIANGULAR THREE QUARTERS BLOCK"⟩,
     ⟨0x1FB6B, "", "LEFT AND UPPER AND RIGHT TRIANGULAR THREE QUARTERS BLOCK"⟩,
     ⟨0x1FB6C, "", "LEFT TRIANGULAR ONE QUARTER BLOCK;UPPER TRIANGULAR ONE QUARTER BLOCK"⟩,
     ⟨0x1FB6E, "", "RIGHT TRIANGULAR ONE QUARTER BLOCK;LOWER TRIANGULAR ONE QUARTER BLOCK"⟩,
     ⟨0x1FB70, "VERTICAL ONE EIGHTH BLOCK-", "2;3;4;5;6;7"⟩,
     ⟨0x1FB76, "HORIZONTAL ONE EIGHTH BLOCK-", "2;3;4;5;6;7"⟩,
     ⟨0x1FB7C, "LEFT AND ", "LOWER ONE EIGHTH BLOCK;UPPER ONE EIGHTH BLOCK"⟩,
     ⟨0x1FB7E, "RIGHT AND ", "UPPER ONE EIGHTH BLOCK;LOWER ONE EIGHTH BLOCK"⟩,
     ⟨0x1FB80, "", "UPPER AND LOWER ONE EIGHTH BLOCK;HORIZONTAL ONE EIGHTH BLOCK-1358"⟩,
     ⟨0x1FB82, "UPPER ", "ONE QUARTER BLOCK;THREE EIGHTHS BLOCK"⟩,
     ⟨0x1FB84, "UPPER ", "FIVE EIGHTHS BLOCK;THREE QUARTERS BLOCK;SEVEN EIGHTHS BLOCK"⟩,
     ⟨0x1FB87, "RIGHT ", "ONE QUARTER BLOCK;THREE EIGHTHS BLOCK;FIVE EIGHTHS BLOCK"⟩,
     ⟨0x1FB8A, "", "RIGHT THREE QUARTERS BLOCK;RIGHT SEVEN EIGHTHS BLOCK;LEFT HALF MEDIUM SHADE"⟩,
     ⟨0x1FB8D, "", "RIGHT HALF MEDIUM SHADE;UPPER HALF MEDIUM SHADE;LOWER HALF MEDIUM SHADE"⟩,
     ⟨0x1FB90, "", "INVERSE MEDIUM SHADE;UPPER HALF BLOCK AND LOWER HALF INVERSE MEDIUM SHADE"⟩,
     ⟨0x1FB92, "", "UPPER HALF INVERSE MEDIUM SHADE AND LOWER HALF BLOCK"⟩,
     ⟨0x1FB94, "", "LEFT HALF INVERSE MEDIUM SHADE AND RIGHT HALF BLOCK"⟩,
     ⟨0x1FB95, "", "CHECKER BOARD FILL;INVERSE CHECKER BOARD FILL;HEAVY HORIZONTAL FILL"⟩,
     ⟨0x1FB98, "UPPER ", "LEFT TO LOWER RIGHT FILL;RIGHT TO LOWER LEFT FILL"⟩,
     ⟨0x1FB9A, "", "UPPER AND LOWER TRIANGULAR HALF BLOCK;LEFT AND RIGHT TRIANGULAR HALF BLOCK"⟩,
     ⟨0x1FB9C, "UPPER ", "LEFT TRIANGULAR MEDIUM SHADE;RIGHT TRIANGULAR MEDIUM SHADE"⟩,
     ⟨0x1FB9E, "LOWER ", "RIGHT TRIANGULAR MEDIUM SHADE;LEFT TRIANGULAR MEDIUM SHADE"⟩,
     ⟨0x1FBA0, "BOX DRAWINGS LIGHT DIAGONAL UPPER CENTRE TO MIDDLE ", "LEFT;RIGHT"⟩,
     ⟨0x1FBA2, "BOX DRAWINGS LIGHT DIAGONAL MIDDLE ", "LEFT TO LOWER CENTRE;RIGHT TO LOWER CENTRE"⟩,
     ⟨0x1FBA4, "", "BOX DRAWINGS LIGHT DIAGONAL UPPER CENTRE TO MIDDLE LEFT TO LOWER CENTRE"⟩,
     ⟨0x1FBA5, "", "BOX DRAWINGS LIGHT DIAGONAL UPPER CENTRE TO MIDDLE RIGHT TO LOWER CENTRE"⟩,
     ⟨0x1FBA6, "", "BOX DRAWINGS LIGHT DIAGONAL MIDDLE LEFT TO LOWER CENTRE TO MIDDLE RIGHT"⟩,
     ⟨0x1FBA7, "", "BOX DRAWINGS LIGHT DIAGONAL MIDDLE LEFT TO UPPER CENTRE TO MIDDLE RIGHT"⟩,
     ⟨0x1FBA8, "BOX DRAWINGS LIGHT DIAGONAL UPPER CENTRE TO MIDDLE LEFT AND ",
      "MIDDLE RIGHT TO LOWER CENTRE"⟩,
     ⟨0x1FBA9, "BOX DRAWINGS LIGHT DIAGONAL UPPER CENTRE TO MIDDLE RIGHT ",
      "AND MIDDLE LEFT TO LOWER CENTRE"⟩,
     ⟨0x1FBAA, "BOX DRAWINGS LIGHT DIAGONAL UPPER CENTRE TO MIDDLE RIGHT TO ",
      "LOWER CENTRE TO MIDDLE LEFT"⟩,
     ⟨0x1FBAB, "BOX DRAWINGS LIGHT DIAGONAL UPPER CENTRE TO MIDDLE LEFT TO ",
      "LOWER CENTRE TO MIDDLE RIGHT"⟩,
     ⟨0x1FBAC, "BOX DRAWINGS LIGHT DIAGONAL MIDDLE LEFT TO UPPER CENTRE TO ",
      "MIDDLE RIGHT TO LOWER CENTRE"⟩,
     ⟨0x1FBAD, "BOX DRAWINGS LIGHT DIAGONAL MIDDLE RIGHT TO UPPER CENTRE TO ",
      "MIDDLE LEFT TO LOWER CENTRE"⟩,
     ⟨0x1FBAE, "BOX DRAWINGS LIGHT ", "DIAGONAL DIAMOND;HORIZONTAL WITH VERTICAL STROKE"⟩,
     ⟨0x1FBB0, "", "ARROWHEAD-SHAPED POINTER;INVERSE CHECK MARK;LEFT HALF RUNNING MAN"⟩,
     ⟨0x1FBB3, "", "RIGHT HALF RUNNING MAN;INVERSE DOWNWARDS ARROW WITH TIP LEFTWARDS"⟩,
     ⟨0x1FBB5, "", "LEFTWARDS ARROW AND UPPER AND LOWER ONE EIGHTH BLOCK"⟩,
     ⟨0x1FBB6, "", "RIGHTWARDS ARROW AND UPPER AND LOWER ONE EIGHTH BLOCK"⟩,
     ⟨0x1FBB7, "", "DOWNWARDS ARROW AND RIGHT ONE EIGHTH BLOCK"⟩,
     ⟨0x1FBB8, "", "UPWARDS ARROW AND RIGHT ONE EIGHTH BLOCK"⟩,
     ⟨0x1FBB9, "", "LEFT HALF FOLDER;RIGHT HALF FOLDER;VOIDED GREEK CROSS;RIGHT OPEN SQUARED DOT"⟩,
     ⟨0x1FBBD, "NEGATIVE DIAGONAL ", "CROSS;MIDDLE RIGHT TO LOWER CENTRE;DIAMOND"⟩,
     ⟨0x1FBC0, "", "WHITE HEAVY SALTIRE WITH ROUNDED CORNERS"⟩,
     ⟨0x1FBC1, "", "LEFT THIRD WHITE RIGHT POINTING INDEX;MIDDLE THIRD WHITE RIGHT POINTING INDEX"⟩,
     ⟨0x1FBC3, "", "RIGHT THIRD WHITE RIGHT POINTING INDEX"⟩,
     ⟨0x1FBC4, "", "NEGATIVE SQUARED QUESTION MARK;STICK FIGURE"⟩,
     ⟨0x1FBC6, "STICK FIGURE ", "WITH ARMS RAISED;LEANING LEFT;LEANING RIGHT;WITH DRESS"⟩,
     ⟨0x1FBCA, "", "WHITE UP-POINTING CHEVRON;WHITE CROSS MARK;RAISED SMALL LEFT SQUARE BRACKET"⟩,
     ⟨0x1FBCD, "", "BLACK SMALL UP-POINTING CHEVRON;LEFT TWO THIRDS BLOCK"⟩,
     ⟨0x1FBCF, "", "LEFT ONE THIRD BLOCK;BOX DRAWINGS LIGHT DIAGONAL MIDDLE RIGHT TO LOWER LEFT"⟩,
     ⟨0x1FBD1, "BOX DRAWINGS LIGHT DIAGONAL UPPER ", "RIGHT TO MIDDLE LEFT;LEFT TO MIDDLE RIGHT"⟩,
     ⟨0x1FBD3, "", "BOX DRAWINGS LIGHT DIAGONAL MIDDLE LEFT TO LOWER RIGHT"⟩,
     ⟨0x1FBD4, "BOX DRAWINGS LIGHT DIAGONAL UPPER ", "LEFT TO LOWER CENTRE;CENTRE TO LOWER RIGHT"⟩,
     ⟨0x1FBD6, "BOX DRAWINGS LIGHT DIAGONAL UPPER ", "RIGHT TO LOWER CENTRE;CENTRE TO LOWER LEFT"⟩,
     ⟨0x1FBD8, "", "BOX DRAWINGS LIGHT DIAGONAL UPPER LEFT TO MIDDLE CENTRE TO UPPER RIGHT"⟩,
     ⟨0x1FBD9, "", "BOX DRAWINGS LIGHT DIAGONAL UPPER RIGHT TO MIDDLE CENTRE TO LOWER RIGHT"⟩,
     ⟨0x1FBDA, "", "BOX DRAWINGS LIGHT DIAGONAL LOWER LEFT TO MIDDLE CENTRE TO LOWER RIGHT"⟩,
     ⟨0x1FBDB, "", "BOX DRAWINGS LIGHT DIAGONAL UPPER LEFT TO MIDDLE CENTRE TO LOWER LEFT"⟩,
     ⟨0x1FBDC, "", "BOX DRAWINGS LIGHT DIAGONAL UPPER LEFT TO LOWER CENTRE TO UPPER RIGHT"⟩,
     ⟨0x1FBDD, "", "BOX DRAWINGS LIGHT DIAGONAL UPPER RIGHT TO MIDDLE LEFT TO LOWER RIGHT"⟩,
     ⟨0x1FBDE, "", "BOX DRAWINGS LIGHT DIAGONAL LOWER LEFT TO UPPER CENTRE TO LOWER RIGHT"⟩,
     ⟨0x1FBDF, "", "BOX DRAWINGS LIGHT DIAGONAL UPPER LEFT TO MIDDLE RIGHT TO LOWER LEFT"⟩,
     ⟨0x1FBE0, "", "TOP JUSTIFIED LOWER HALF WHITE CIRCLE;RIGHT JUSTIFIED LEFT HALF WHITE CIRCLE"⟩,
     ⟨0x1FBE2, "", "BOTTOM JUSTIFIED UPPER HALF WHITE CIRCLE"⟩,
     ⟨0x1FBE3, "", "LEFT JUSTIFIED RIGHT HALF WHITE CIRCLE"⟩,
     ⟨0x1FBE4, "", "UPPER CENTRE ONE QUARTER BLOCK;LOWER CENTRE ONE QUARTER BLOCK"⟩,
     ⟨0x1FBE6, "MIDDLE ", "LEFT ONE QUARTER BLOCK;RIGHT ONE QUARTER BLOCK"⟩,
     ⟨0x1FBE8, "", "TOP JUSTIFIED LOWER HALF BLACK CIRCLE;RIGHT JUSTIFIED LEFT HALF BLACK CIRCLE"⟩,
     ⟨0x1FBEA, "", "BOTTOM JUSTIFIED UPPER HALF BLACK CIRCLE"⟩,
     ⟨0x1FBEB, "", "LEFT JUSTIFIED RIGHT HALF BLACK CIRCLE"⟩,
     ⟨0x1FBEC, "", "TOP RIGHT JUSTIFIED LOWER LEFT QUARTER BLACK CIRCLE"⟩,
     ⟨0x1FBED, "", "BOTTOM LEFT JUSTIFIED UPPER RIGHT QUARTER BLACK CIRCLE"⟩,
     ⟨0x1FBEE, "", "BOTTOM RIGHT JUSTIFIED UPPER LEFT QUARTER BLACK CIRCLE"⟩,
     ⟨0x1FBEF, "", "TOP LEFT JUSTIFIED LOWER RIGHT QUARTER BLACK CIRCLE"⟩]

end NameBlock

/-- The blocks of this module. -/
def computingBlocks : List NameBlock :=
  [.symbolsForLegacyComputingSupplement, .symbolsForLegacyComputing]

end Text
end Scripting
