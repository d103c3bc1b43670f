import Scripting.Text.Names.Block

namespace Scripting
namespace Text

/-!
Names of signs made of letters and digits, of technical signs, and of shapes.
-/

namespace NameBlock

/-- Names in the block Superscripts and Subscripts. -/
def superscriptsAndSubscripts : NameBlock where
  first := 0x2070
  last := 0x209F
  rows :=
    [⟨0x2070, "SUPERSCRIPT ", "ZERO;LATIN SMALL LETTER I"⟩,
     ⟨0x2074, "SUPERSCRIPT ", "FOUR;FIVE;SIX;SEVEN;EIGHT;NINE;PLUS SIGN;MINUS;EQUALS SIGN"⟩,
     ⟨0x207D, "SUPERSCRIPT ", "LEFT PARENTHESIS;RIGHT PARENTHESIS;LATIN SMALL LETTER N"⟩,
     ⟨0x2080, "SUBSCRIPT ", "ZERO;ONE;TWO;THREE;FOUR;FIVE;SIX;SEVEN;EIGHT"⟩,
     ⟨0x2089, "SUBSCRIPT ", "NINE;PLUS SIGN;MINUS;EQUALS SIGN;LEFT PARENTHESIS;RIGHT PARENTHESIS"⟩,
     ⟨0x2090, "LATIN SUBSCRIPT SMALL LETTER ", "A;E;O;X;SCHWA;H;K;L;M;N;P;S;T"⟩]

/-- Names in the block Currency Symbols. -/
def currencySymbols : NameBlock where
  first := 0x20A0
  last := 0x20CF
  rows :=
    [⟨0x20A0, "", "EURO-CURRENCY SIGN;COLON SIGN;CRUZEIRO SIGN;FRENCH FRANC SIGN"⟩,
     ⟨0x20A4, "", "LIRA SIGN;MILL SIGN;NAIRA SIGN;PESETA SIGN;RUPEE SIGN;WON SIGN;NEW SHEQEL SIGN"⟩,
     ⟨0x20AB, "", "DONG SIGN;EURO SIGN;KIP SIGN;TUGRIK SIGN;DRACHMA SIGN;GERMAN PENNY SIGN"⟩,
     ⟨0x20B1, "", "PESO SIGN;GUARANI SIGN;AUSTRAL SIGN;HRYVNIA SIGN;CEDI SIGN;LIVRE TOURNOIS SIGN"⟩,
     ⟨0x20B7, "", "SPESMILO SIGN;TENGE SIGN;INDIAN RUPEE SIGN;TURKISH LIRA SIGN"⟩,
     ⟨0x20BB, "", "NORDIC MARK SIGN;MANAT SIGN;RUBLE SIGN;LARI SIGN;BITCOIN SIGN;SOM SIGN"⟩]

/-- Names in the block Letterlike Symbols. -/
def letterlikeSymbols : NameBlock where
  first := 0x2100
  last := 0x214F
  rows :=
    [⟨0x2100, "", "ACCOUNT OF;ADDRESSED TO THE SUBJECT;DOUBLE-STRUCK CAPITAL C;DEGREE CELSIUS"⟩,
     ⟨0x2104, "", "CENTRE LINE SYMBOL;CARE OF;CADA UNA;EULER CONSTANT;SCRUPLE;DEGREE FAHRENHEIT"⟩,
     ⟨0x210A, "", "SCRIPT SMALL G;SCRIPT CAPITAL H;BLACK-LETTER CAPITAL H;DOUBLE-STRUCK CAPITAL H"⟩,
     ⟨0x210E, "", "PLANCK CONSTANT;PLANCK CONSTANT OVER TWO PI;SCRIPT CAPITAL I"⟩,
     ⟨0x2111, "", "BLACK-LETTER CAPITAL I;SCRIPT CAPITAL L;SCRIPT SMALL L;L B BAR SYMBOL"⟩,
     ⟨0x2115, "", "DOUBLE-STRUCK CAPITAL N;NUMERO SIGN;SOUND RECORDING COPYRIGHT;SCRIPT CAPITAL P"⟩,
     ⟨0x2119, "DOUBLE-STRUCK CAPITAL ", "P;Q"⟩,
     ⟨0x211B, "", "SCRIPT CAPITAL R;BLACK-LETTER CAPITAL R;DOUBLE-STRUCK CAPITAL R"⟩,
     ⟨0x211E, "", "PRESCRIPTION TAKE;RESPONSE;SERVICE MARK;TELEPHONE SIGN;TRADE MARK SIGN"⟩,
     ⟨0x2123, "", "VERSICLE;DOUBLE-STRUCK CAPITAL Z;OUNCE SIGN;OHM SIGN;INVERTED OHM SIGN"⟩,
     ⟨0x2128, "", "BLACK-LETTER CAPITAL Z;TURNED GREEK SMALL LETTER IOTA;KELVIN SIGN"⟩,
     ⟨0x212B, "", "ANGSTROM SIGN;SCRIPT CAPITAL B;BLACK-LETTER CAPITAL C;ESTIMATED SYMBOL"⟩,
     ⟨0x212F, "SCRIPT ", "SMALL E;CAPITAL E;CAPITAL F"⟩,
     ⟨0x2132, "", "TURNED CAPITAL F;SCRIPT CAPITAL M;SCRIPT SMALL O;ALEF SYMBOL;BET SYMBOL"⟩,
     ⟨0x2137, "", "GIMEL SYMBOL;DALET SYMBOL;INFORMATION SOURCE;ROTATED CAPITAL Q;FACSIMILE SIGN"⟩,
     ⟨0x213C, "DOUBLE-STRUCK ", "SMALL PI;SMALL GAMMA;CAPITAL GAMMA;CAPITAL PI;N-ARY SUMMATION"⟩,
     ⟨0x2141, "TURNED SANS-SERIF CAPITAL ", "G;L"⟩,
     ⟨0x2143, "", "REVERSED SANS-SERIF CAPITAL L;TURNED SANS-SERIF CAPITAL Y"⟩,
     ⟨0x2145, "DOUBLE-STRUCK ITALIC ", "CAPITAL D;SMALL D;SMALL E;SMALL I;SMALL J"⟩,
     ⟨0x214A, "", "PROPERTY LINE;TURNED AMPERSAND"⟩,
     ⟨0x214C, "", "PER SIGN;AKTIESELSKAB;TURNED SMALL F;SYMBOL FOR SAMARITAN SOURCE"⟩]

/-- Names in the block Number Forms. -/
def numberForms : NameBlock where
  first := 0x2150
  last := 0x218F
  rows :=
    [⟨0x2150, "VULGAR FRACTION ", "ONE SEVENTH;ONE NINTH;ONE TENTH;ONE THIRD;TWO THIRDS;ONE FIFTH"⟩,
     ⟨0x2156, "VULGAR FRACTION ", "TWO FIFTHS;THREE FIFTHS;FOUR FIFTHS;ONE SIXTH;FIVE SIXTHS"⟩,
     ⟨0x215B, "VULGAR FRACTION ", "ONE EIGHTH;THREE EIGHTHS;FIVE EIGHTHS;SEVEN EIGHTHS"⟩,
     ⟨0x215F, "", "FRACTION NUMERATOR ONE"⟩,
     ⟨0x2160, "ROMAN NUMERAL ", "ONE;TWO;THREE;FOUR;FIVE;SIX;SEVEN;EIGHT;NINE"⟩,
     ⟨0x2169, "ROMAN NUMERAL ", "TEN;ELEVEN;TWELVE;FIFTY;ONE HUNDRED;FIVE HUNDRED;ONE THOUSAND"⟩,
     ⟨0x2170, "SMALL ROMAN NUMERAL ", "ONE;TWO;THREE;FOUR;FIVE;SIX;SEVEN;EIGHT;NINE;TEN"⟩,
     ⟨0x217A, "SMALL ROMAN NUMERAL ", "ELEVEN;TWELVE;FIFTY;ONE HUNDRED;FIVE HUNDRED;ONE THOUSAND"⟩,
     ⟨0x2180, "ROMAN NUMERAL ", "ONE THOUSAND C D;FIVE THOUSAND;TEN THOUSAND;REVERSED ONE HUNDRED"⟩,
     ⟨0x2184, "", "LATIN SMALL LETTER REVERSED C;ROMAN NUMERAL SIX LATE FORM"⟩,
     ⟨0x2186, "ROMAN NUMERAL ", "FIFTY EARLY FORM;FIFTY THOUSAND;ONE HUNDRED THOUSAND"⟩,
     ⟨0x2189, "", "VULGAR FRACTION ZERO THIRDS;TURNED DIGIT TWO;TURNED DIGIT THREE"⟩]

/-- Names in the block Miscellaneous Technical. -/
def miscellaneousTechnical : NameBlock where
  first := 0x2300
  last := 0x23FF
  rows :=
    [⟨0x2300, "", "DIAMETER SIGN;ELECTRIC ARROW;HOUSE;UP ARROWHEAD;DOWN ARROWHEAD;PROJECTIVE"⟩,
     ⟨0x2306, "", "PERSPECTIVE;WAVY LINE;LEFT CEILING;RIGHT CEILING;LEFT FLOOR;RIGHT FLOOR"⟩,
     ⟨0x230C, "BOTTOM ", "RIGHT CROP;LEFT CROP"⟩,
     ⟨0x230E, "", "TOP RIGHT CROP;TOP LEFT CROP;REVERSED NOT SIGN;SQUARE LOZENGE"⟩,
     ⟨0x2312, "", "ARC;SEGMENT;SECTOR;TELEPHONE RECORDER;POSITION INDICATOR;VIEWDATA SQUARE"⟩,
     ⟨0x2318, "", "PLACE OF INTEREST SIGN;TURNED NOT SIGN;WATCH;HOURGLASS;TOP LEFT CORNER"⟩,
     ⟨0x231D, "", "TOP RIGHT CORNER;BOTTOM LEFT CORNER;BOTTOM RIGHT CORNER;TOP HALF INTEGRAL"⟩,
     ⟨0x2321, "", "BOTTOM HALF INTEGRAL;FROWN;SMILE;UP ARROWHEAD BETWEEN TWO HORIZONTAL BARS"⟩,
     ⟨0x2325, "", "OPTION KEY;ERASE TO THE RIGHT;X IN A RECTANGLE BOX"⟩,
     ⟨0x2328, "", "KEYBOARD;LEFT-POINTING ANGLE BRACKET;RIGHT-POINTING ANGLE BRACKET"⟩,
     ⟨0x232B, "", "ERASE TO THE LEFT;BENZENE RING;CYLINDRICITY;ALL AROUND-PROFILE;SYMMETRY"⟩,
     ⟨0x2330, "", "TOTAL RUNOUT;DIMENSION ORIGIN;CONICAL TAPER;SLOPE;COUNTERBORE;COUNTERSINK"⟩,
     ⟨0x2336, "APL FUNCTIONAL SYMBOL ", "I-BEAM;SQUISH QUAD;QUAD EQUAL;QUAD DIVIDE;QUAD DIAMOND"⟩,
     ⟨0x233B, "APL FUNCTIONAL SYMBOL ", "QUAD JOT;QUAD CIRCLE;CIRCLE STILE;CIRCLE JOT;SLASH BAR"⟩,
     ⟨0x2340, "APL FUNCTIONAL SYMBOL ", "BACKSLASH BAR;QUAD SLASH;QUAD BACKSLASH;QUAD LESS-THAN"⟩,
     ⟨0x2344, "APL FUNCTIONAL SYMBOL ", "QUAD GREATER-THAN;LEFTWARDS VANE;RIGHTWARDS VANE"⟩,
     ⟨0x2347, "APL FUNCTIONAL SYMBOL QUAD ", "LEFTWARDS ARROW;RIGHTWARDS ARROW"⟩,
     ⟨0x2349, "APL FUNCTIONAL SYMBOL ", "CIRCLE BACKSLASH;DOWN TACK UNDERBAR;DELTA STILE"⟩,
     ⟨0x234C, "APL FUNCTIONAL SYMBOL ", "QUAD DOWN CARET;QUAD DELTA;DOWN TACK JOT;UPWARDS VANE"⟩,
     ⟨0x2350, "APL FUNCTIONAL SYMBOL ", "QUAD UPWARDS ARROW;UP TACK OVERBAR;DEL STILE"⟩,
     ⟨0x2353, "APL FUNCTIONAL SYMBOL ", "QUAD UP CARET;QUAD DEL;UP TACK JOT;DOWNWARDS VANE"⟩,
     ⟨0x2357, "APL FUNCTIONAL SYMBOL ", "QUAD DOWNWARDS ARROW;QUOTE UNDERBAR;DELTA UNDERBAR"⟩,
     ⟨0x235A, "APL FUNCTIONAL SYMBOL ", "DIAMOND UNDERBAR;JOT UNDERBAR;CIRCLE UNDERBAR"⟩,
     ⟨0x235D, "APL FUNCTIONAL SYMBOL ", "UP SHOE JOT;QUOTE QUAD;CIRCLE STAR;QUAD COLON"⟩,
     ⟨0x2361, "APL FUNCTIONAL SYMBOL ", "UP TACK DIAERESIS;DEL DIAERESIS;STAR DIAERESIS"⟩,
     ⟨0x2364, "APL FUNCTIONAL SYMBOL ", "JOT DIAERESIS;CIRCLE DIAERESIS;DOWN SHOE STILE"⟩,
     ⟨0x2367, "APL FUNCTIONAL SYMBOL ", "LEFT SHOE STILE;TILDE DIAERESIS;GREATER-THAN DIAERESIS"⟩,
     ⟨0x236A, "APL FUNCTIONAL SYMBOL ", "COMMA BAR;DEL TILDE;ZILDE;STILE TILDE;SEMICOLON UNDERBAR"⟩,
     ⟨0x236F, "APL FUNCTIONAL SYMBOL ", "QUAD NOT EQUAL;QUAD QUESTION;DOWN CARET TILDE"⟩,
     ⟨0x2372, "APL FUNCTIONAL SYMBOL ", "UP CARET TILDE;IOTA;RHO;OMEGA;ALPHA UNDERBAR"⟩,
     ⟨0x2377, "APL FUNCTIONAL SYMBOL ", "EPSILON UNDERBAR;IOTA UNDERBAR;OMEGA UNDERBAR;ALPHA"⟩,
     ⟨0x237B, "", "NOT CHECK MARK;RIGHT ANGLE WITH DOWNWARDS ZIGZAG ARROW"⟩,
     ⟨0x237D, "", "SHOULDERED OPEN BOX;BELL SYMBOL;VERTICAL LINE WITH MIDDLE DOT;INSERTION SYMBOL"⟩,
     ⟨0x2381, "", "CONTINUOUS UNDERLINE SYMBOL;DISCONTINUOUS UNDERLINE SYMBOL;EMPHASIS SYMBOL"⟩,
     ⟨0x2384, "", "COMPOSITION SYMBOL;WHITE SQUARE WITH CENTRE VERTICAL LINE;ENTER SYMBOL"⟩,
     ⟨0x2387, "", "ALTERNATIVE KEY SYMBOL;HELM SYMBOL;CIRCLED HORIZONTAL BAR WITH NOTCH"⟩,
     ⟨0x238A, "", "CIRCLED TRIANGLE DOWN;BROKEN CIRCLE WITH NORTHWEST ARROW"⟩,
     ⟨0x238C, "", "UNDO SYMBOL;MONOSTABLE SYMBOL;HYSTERESIS SYMBOL"⟩,
     ⟨0x238F, "OPEN-CIRCUIT-OUTPUT ", "H-TYPE SYMBOL;L-TYPE SYMBOL"⟩,
     ⟨0x2391, "PASSIVE-PULL-", "DOWN-OUTPUT SYMBOL;UP-OUTPUT SYMBOL"⟩,
     ⟨0x2393, "", "DIRECT CURRENT SYMBOL FORM TWO;SOFTWARE-FUNCTION SYMBOL"⟩,
     ⟨0x2395, "", "APL FUNCTIONAL SYMBOL QUAD;DECIMAL SEPARATOR KEY SYMBOL"⟩,
     ⟨0x2397, "", "PREVIOUS PAGE;NEXT PAGE;PRINT SCREEN SYMBOL;CLEAR SCREEN SYMBOL"⟩,
     ⟨0x239B, "LEFT PARENTHESIS ", "UPPER HOOK;EXTENSION;LOWER HOOK"⟩,
     ⟨0x239E, "RIGHT PARENTHESIS ", "UPPER HOOK;EXTENSION;LOWER HOOK"⟩,
     ⟨0x23A1, "LEFT SQUARE BRACKET ", "UPPER CORNER;EXTENSION;LOWER CORNER"⟩,
     ⟨0x23A4, "RIGHT SQUARE BRACKET ", "UPPER CORNER;EXTENSION;LOWER CORNER"⟩,
     ⟨0x23A7, "LEFT CURLY BRACKET ", "UPPER HOOK;MIDDLE PIECE;LOWER HOOK"⟩,
     ⟨0x23AA, "", "CURLY BRACKET EXTENSION"⟩,
     ⟨0x23AB, "RIGHT CURLY BRACKET ", "UPPER HOOK;MIDDLE PIECE;LOWER HOOK"⟩,
     ⟨0x23AE, "", "INTEGRAL EXTENSION"⟩,
     ⟨0x23AF, "", "HORIZONTAL LINE EXTENSION;UPPER LEFT OR LOWER RIGHT CURLY BRACKET SECTION"⟩,
     ⟨0x23B1, "", "UPPER RIGHT OR LOWER LEFT CURLY BRACKET SECTION"⟩,
     ⟨0x23B2, "", "SUMMATION TOP;SUMMATION BOTTOM;TOP SQUARE BRACKET"⟩,
     ⟨0x23B5, "BOTTOM SQUARE ", "BRACKET;BRACKET OVER TOP SQUARE BRACKET"⟩,
     ⟨0x23B7, "", "RADICAL SYMBOL BOTTOM;LEFT VERTICAL BOX LINE;RIGHT VERTICAL BOX LINE"⟩,
     ⟨0x23BA, "HORIZONTAL SCAN LINE-", "1;3;7;9"⟩,
     ⟨0x23BE, "DENTISTRY SYMBOL LIGHT VERTICAL ", "AND TOP RIGHT;AND BOTTOM RIGHT;WITH CIRCLE"⟩,
     ⟨0x23C1, "", "DENTISTRY SYMBOL LIGHT DOWN AND HORIZONTAL WITH CIRCLE"⟩,
     ⟨0x23C2, "DENTISTRY SYMBOL LIGHT ", "UP AND HORIZONTAL WITH CIRCLE;VERTICAL WITH TRIANGLE"⟩,
     ⟨0x23C4, "", "DENTISTRY SYMBOL LIGHT DOWN AND HORIZONTAL WITH TRIANGLE"⟩,
     ⟨0x23C5, "", "DENTISTRY SYMBOL LIGHT UP AND HORIZONTAL WITH TRIANGLE"⟩,
     ⟨0x23C6, "DENTISTRY SYMBOL LIGHT ", "VERTICAL AND WAVE;DOWN AND HORIZONTAL WITH WAVE"⟩,
     ⟨0x23C8, "", "DENTISTRY SYMBOL LIGHT UP AND HORIZONTAL WITH WAVE"⟩,
     ⟨0x23C9, "DENTISTRY SYMBOL LIGHT ", "DOWN AND HORIZONTAL;UP AND HORIZONTAL"⟩,
     ⟨0x23CB, "DENTISTRY SYMBOL LIGHT VERTICAL AND ", "TOP LEFT;BOTTOM LEFT"⟩,
     ⟨0x23CD, "", "SQUARE FOOT;RETURN SYMBOL;EJECT SYMBOL;VERTICAL LINE EXTENSION"⟩,
     ⟨0x23D1, "METRICAL ", "BREVE;LONG OVER SHORT;SHORT OVER LONG;LONG OVER TWO SHORTS"⟩,
     ⟨0x23D5, "METRICAL ", "TWO SHORTS OVER LONG;TWO SHORTS JOINED;TRISEME;TETRASEME;PENTASEME"⟩,
     ⟨0x23DA, "", "EARTH GROUND;FUSE;TOP PARENTHESIS;BOTTOM PARENTHESIS;TOP CURLY BRACKET"⟩,
     ⟨0x23DF, "", "BOTTOM CURLY BRACKET;TOP TORTOISE SHELL BRACKET;BOTTOM TORTOISE SHELL BRACKET"⟩,
     ⟨0x23E2, "", "WHITE TRAPEZIUM;BENZENE RING WITH CIRCLE;STRAIGHTNESS"⟩,
     ⟨0x23E5, "", "FLATNESS;AC CURRENT;ELECTRICAL INTERSECTION;DECIMAL EXPONENT SYMBOL"⟩,
     ⟨0x23E9, "BLACK ", "RIGHT-POINTING DOUBLE TRIANGLE;LEFT-POINTING DOUBLE TRIANGLE"⟩,
     ⟨0x23EB, "BLACK ", "UP-POINTING DOUBLE TRIANGLE;DOWN-POINTING DOUBLE TRIANGLE"⟩,
     ⟨0x23ED, "", "BLACK RIGHT-POINTING DOUBLE TRIANGLE WITH VERTICAL BAR"⟩,
     ⟨0x23EE, "", "BLACK LEFT-POINTING DOUBLE TRIANGLE WITH VERTICAL BAR"⟩,
     ⟨0x23EF, "", "BLACK RIGHT-POINTING TRIANGLE WITH DOUBLE VERTICAL BAR"⟩,
     ⟨0x23F0, "", "ALARM CLOCK;STOPWATCH;TIMER CLOCK;HOURGLASS WITH FLOWING SAND"⟩,
     ⟨0x23F4, "BLACK MEDIUM ", "LEFT-POINTING TRIANGLE;RIGHT-POINTING TRIANGLE"⟩,
     ⟨0x23F6, "BLACK MEDIUM ", "UP-POINTING TRIANGLE;DOWN-POINTING TRIANGLE"⟩,
     ⟨0x23F8, "", "DOUBLE VERTICAL BAR;BLACK SQUARE FOR STOP;BLACK CIRCLE FOR RECORD;POWER SYMBOL"⟩,
     ⟨0x23FC, "", "POWER ON-OFF SYMBOL;POWER ON SYMBOL;POWER SLEEP SYMBOL;OBSERVER EYE SYMBOL"⟩]

/-- Names in the block Control Pictures. -/
def controlPictures : NameBlock where
  first := 0x2400
  last := 0x243F
  rows :=
    [⟨0x2400, "SYMBOL FOR ", "NULL;START OF HEADING"⟩,
     ⟨0x2402, "SYMBOL FOR ", "START OF TEXT;END OF TEXT;END OF TRANSMISSION;ENQUIRY;ACKNOWLEDGE"⟩,
     ⟨0x2407, "SYMBOL FOR ", "BELL;BACKSPACE;HORIZONTAL TABULATION;LINE FEED;VERTICAL TABULATION"⟩,
     ⟨0x240C, "SYMBOL FOR ", "FORM FEED;CARRIAGE RETURN;SHIFT OUT;SHIFT IN;DATA LINK ESCAPE"⟩,
     ⟨0x2411, "SYMBOL FOR DEVICE CONTROL ", "ONE;TWO;THREE;FOUR"⟩,
     ⟨0x2415, "SYMBOL FOR ", "NEGATIVE ACKNOWLEDGE;SYNCHRONOUS IDLE;END OF TRANSMISSION BLOCK"⟩,
     ⟨0x2418, "SYMBOL FOR ", "CANCEL;END OF MEDIUM;SUBSTITUTE;ESCAPE;FILE SEPARATOR"⟩,
     ⟨0x241D, "SYMBOL FOR ", "GROUP SEPARATOR;RECORD SEPARATOR;UNIT SEPARATOR;SPACE;DELETE"⟩,
     ⟨0x2422, "", "BLANK SYMBOL;OPEN BOX;SYMBOL FOR NEWLINE;SYMBOL FOR DELETE FORM TWO"⟩,
     ⟨0x2426, "SYMBOL FOR ", "SUBSTITUTE FORM TWO;DELETE SQUARE CHECKER BOARD FORM"⟩,
     ⟨0x2428, "SYMBOL FOR DELETE ", "RECTANGULAR CHECKER BOARD FORM;MEDIUM SHADE FORM"⟩]

/-- Names in the block Optical Character Recognition. -/
def opticalCharacterRecognition : NameBlock where
  first := 0x2440
  last := 0x245F
  rows :=
    [⟨0x2440, "", "OCR HOOK"⟩,
     ⟨0x2441, "OCR ", "CHAIR;FORK;INVERTED FORK;BELT BUCKLE;BOW TIE;BRANCH BANK IDENTIFICATION"⟩,
     ⟨0x2447, "OCR ", "AMOUNT OF CHECK;DASH;CUSTOMER ACCOUNT NUMBER;DOUBLE BACKSLASH"⟩]

/-- Names in the block Enclosed Alphanumerics. -/
def enclosedAlphanumerics : NameBlock where
  first := 0x2460
  last := 0x24FF
  rows :=
    [⟨0x2460, "CIRCLED DIGIT ", "ONE;TWO;THREE;FOUR;FIVE;SIX;SEVEN;EIGHT;NINE"⟩,
     ⟨0x2469, "CIRCLED NUMBER ", "TEN;ELEVEN;TWELVE;THIRTEEN"⟩,
     ⟨0x246D, "CIRCLED NUMBER ", "FOURTEEN;FIFTEEN;SIXTEEN;SEVENTEEN;EIGHTEEN;NINETEEN;TWENTY"⟩,
     ⟨0x2474, "PARENTHESIZED DIGIT ", "ONE;TWO;THREE;FOUR;FIVE;SIX;SEVEN;EIGHT;NINE"⟩,
     ⟨0x247D, "PARENTHESIZED NUMBER ", "TEN;ELEVEN;TWELVE;THIRTEEN;FOURTEEN"⟩,
     ⟨0x2482, "PARENTHESIZED NUMBER ", "FIFTEEN;SIXTEEN;SEVENTEEN;EIGHTEEN;NINETEEN;TWENTY"⟩,
     ⟨0x2488, "DIGIT ", "ONE FULL STOP;TWO FULL STOP;THREE FULL STOP;FOUR FULL STOP"⟩,
     ⟨0x248C, "DIGIT ", "FIVE FULL STOP;SIX FULL STOP;SEVEN FULL STOP;EIGHT FULL STOP"⟩,
     ⟨0x2490, "", "DIGIT NINE FULL STOP;NUMBER TEN FULL STOP"⟩,
     ⟨0x2492, "NUMBER ", "ELEVEN FULL STOP;TWELVE FULL STOP;THIRTEEN FULL STOP;FOURTEEN FULL STOP"⟩,
     ⟨0x2496, "NUMBER ", "FIFTEEN FULL STOP;SIXTEEN FULL STOP;SEVENTEEN FULL STOP"⟩,
     ⟨0x2499, "NUMBER ", "EIGHTEEN FULL STOP;NINETEEN FULL STOP;TWENTY FULL STOP"⟩,
     ⟨0x249C, "PARENTHESIZED LATIN SMALL LETTER ", "A;B;C"⟩,
     ⟨0x249F, "PARENTHESIZED LATIN SMALL LETTER ", "D;E;F;G;H;I;J;K;L;M;N;O;P;Q;R;S;T;U;V;W;X;Y;Z"⟩,
     ⟨0x24B6, "", "CIRCLED LATIN CAPITAL LETTER A"⟩,
     ⟨0x24B7, "CIRCLED LATIN CAPITAL LETTER ", "B;C;D;E;F;G;H;I;J;K;L;M;N;O;P;Q;R;S;T;U;V;W;X;Y;Z"⟩,
     ⟨0x24D0, "CIRCLED LATIN SMALL LETTER ", "A;B;C;D;E;F;G;H;I;J;K;L;M;N;O;P;Q;R;S;T;U;V;W;X;Y;Z"⟩,
     ⟨0x24EA, "", "CIRCLED DIGIT ZERO"⟩,
     ⟨0x24EB, "NEGATIVE CIRCLED NUMBER ", "ELEVEN;TWELVE;THIRTEEN;FOURTEEN"⟩,
     ⟨0x24EF, "NEGATIVE CIRCLED NUMBER ", "FIFTEEN;SIXTEEN;SEVENTEEN;EIGHTEEN;NINETEEN;TWENTY"⟩,
     ⟨0x24F5, "DOUBLE CIRCLED DIGIT ", "ONE;TWO;THREE;FOUR;FIVE;SIX;SEVEN;EIGHT;NINE"⟩,
     ⟨0x24FE, "", "DOUBLE CIRCLED NUMBER TEN;NEGATIVE CIRCLED DIGIT ZERO"⟩]

/-- Names in the block Box Drawing. -/
def boxDrawing : NameBlock where
  first := 0x2500
  last := 0x257F
  rows :=
    [⟨0x2500, "BOX DRAWINGS ", "LIGHT HORIZONTAL;HEAVY HORIZONTAL"⟩,
     ⟨0x2502, "BOX DRAWINGS ", "LIGHT VERTICAL;HEAVY VERTICAL;LIGHT TRIPLE DASH HORIZONTAL"⟩,
     ⟨0x2505, "BOX DRAWINGS ", "HEAVY TRIPLE DASH HORIZONTAL;LIGHT TRIPLE DASH VERTICAL"⟩,
     ⟨0x2507, "BOX DRAWINGS ", "HEAVY TRIPLE DASH VERTICAL;LIGHT QUADRUPLE DASH HORIZONTAL"⟩,
     ⟨0x2509, "BOX DRAWINGS ", "HEAVY QUADRUPLE DASH HORIZONTAL;LIGHT QUADRUPLE DASH VERTICAL"⟩,
     ⟨0x250B, "BOX DRAWINGS ", "HEAVY QUADRUPLE DASH VERTICAL;LIGHT DOWN AND RIGHT"⟩,
     ⟨0x250D, "BOX DRAWINGS DOWN ", "LIGHT AND RIGHT HEAVY;HEAVY AND RIGHT LIGHT"⟩,
     ⟨0x250F, "BOX DRAWINGS ", "HEAVY DOWN AND RIGHT;LIGHT DOWN AND LEFT"⟩,
     ⟨0x2511, "BOX DRAWINGS DOWN ", "LIGHT AND LEFT HEAVY;HEAVY AND LEFT LIGHT"⟩,
     ⟨0x2513, "BOX DRAWINGS ", "HEAVY DOWN AND LEFT;LIGHT UP AND RIGHT;UP LIGHT AND RIGHT HEAVY"⟩,
     ⟨0x2516, "BOX DRAWINGS ", "UP HEAVY AND RIGHT LIGHT;HEAVY UP AND RIGHT;LIGHT UP AND LEFT"⟩,
     ⟨0x2519, "BOX DRAWINGS ", "UP LIGHT AND LEFT HEAVY;UP HEAVY AND LEFT LIGHT;HEAVY UP AND LEFT"⟩,
     ⟨0x251C, "BOX DRAWINGS ", "LIGHT VERTICAL AND RIGHT;VERTICAL LIGHT AND RIGHT HEAVY"⟩,
     ⟨0x251E, "BOX DRAWINGS ", "UP HEAVY AND RIGHT DOWN LIGHT;DOWN HEAVY AND RIGHT UP LIGHT"⟩,
     ⟨0x2520, "BOX DRAWINGS ", "VERTICAL HEAVY AND RIGHT LIGHT;DOWN LIGHT AND RIGHT UP HEAVY"⟩,
     ⟨0x2522, "BOX DRAWINGS ", "UP LIGHT AND RIGHT DOWN HEAVY;HEAVY VERTICAL AND RIGHT"⟩,
     ⟨0x2524, "BOX DRAWINGS ", "LIGHT VERTICAL AND LEFT;VERTICAL LIGHT AND LEFT HEAVY"⟩,
     ⟨0x2526, "BOX DRAWINGS ", "UP HEAVY AND LEFT DOWN LIGHT;DOWN HEAVY AND LEFT UP LIGHT"⟩,
     ⟨0x2528, "BOX DRAWINGS ", "VERTICAL HEAVY AND LEFT LIGHT;DOWN LIGHT AND LEFT UP HEAVY"⟩,
     ⟨0x252A, "BOX DRAWINGS ", "UP LIGHT AND LEFT DOWN HEAVY;HEAVY VERTICAL AND LEFT"⟩,
     ⟨0x252C, "BOX DRAWINGS ", "LIGHT DOWN AND HORIZONTAL;LEFT HEAVY AND RIGHT DOWN LIGHT"⟩,
     ⟨0x252E, "BOX DRAWINGS ", "RIGHT HEAVY AND LEFT DOWN LIGHT;DOWN LIGHT AND HORIZONTAL HEAVY"⟩,
     ⟨0x2530, "BOX DRAWINGS ", "DOWN HEAVY AND HORIZONTAL LIGHT;RIGHT LIGHT AND LEFT DOWN HEAVY"⟩,
     ⟨0x2532, "BOX DRAWINGS ", "LEFT LIGHT AND RIGHT DOWN HEAVY;HEAVY DOWN AND HORIZONTAL"⟩,
     ⟨0x2534, "BOX DRAWINGS ", "LIGHT UP AND HORIZONTAL;LEFT HEAVY AND RIGHT UP LIGHT"⟩,
     ⟨0x2536, "BOX DRAWINGS ", "RIGHT HEAVY AND LEFT UP LIGHT;UP LIGHT AND HORIZONTAL HEAVY"⟩,
     ⟨0x2538, "BOX DRAWINGS ", "UP HEAVY AND HORIZONTAL LIGHT;RIGHT LIGHT AND LEFT UP HEAVY"⟩,
     ⟨0x253A, "BOX DRAWINGS ", "LEFT LIGHT AND RIGHT UP HEAVY;HEAVY UP AND HORIZONTAL"⟩,
     ⟨0x253C, "BOX DRAWINGS ", "LIGHT VERTICAL AND HORIZONTAL;LEFT HEAVY AND RIGHT VERTICAL LIGHT"⟩,
     ⟨0x253E, "", "BOX DRAWINGS RIGHT HEAVY AND LEFT VERTICAL LIGHT"⟩,
     ⟨0x253F, "", "BOX DRAWINGS VERTICAL LIGHT AND HORIZONTAL HEAVY"⟩,
     ⟨0x2540, "", "BOX DRAWINGS UP HEAVY AND DOWN HORIZONTAL LIGHT"⟩,
     ⟨0x2541, "", "BOX DRAWINGS DOWN HEAVY AND UP HORIZONTAL LIGHT"⟩,
     ⟨0x2542, "", "BOX DRAWINGS VERTICAL HEAVY AND HORIZONTAL LIGHT"⟩,
     ⟨0x2543, "", "BOX DRAWINGS LEFT UP HEAVY AND RIGHT DOWN LIGHT"⟩,
     ⟨0x2544, "", "BOX DRAWINGS RIGHT UP HEAVY AND LEFT DOWN LIGHT"⟩,
     ⟨0x2545, "", "BOX DRAWINGS LEFT DOWN HEAVY AND RIGHT UP LIGHT"⟩,
     ⟨0x2546, "", "BOX DRAWINGS RIGHT DOWN HEAVY AND LEFT UP LIGHT"⟩,
     ⟨0x2547, "", "BOX DRAWINGS DOWN LIGHT AND UP HORIZONTAL HEAVY"⟩,
     ⟨0x2548, "", "BOX DRAWINGS UP LIGHT AND DOWN HORIZONTAL HEAVY"⟩,
     ⟨0x2549, "", "BOX DRAWINGS RIGHT LIGHT AND LEFT VERTICAL HEAVY"⟩,
     ⟨0x254A, "BOX DRAWINGS ", "LEFT LIGHT AND RIGHT VERTICAL HEAVY;HEAVY VERTICAL AND HORIZONTAL"⟩,
     ⟨0x254C, "BOX DRAWINGS ", "LIGHT DOUBLE DASH HORIZONTAL;HEAVY DOUBLE DASH HORIZONTAL"⟩,
     ⟨0x254E, "BOX DRAWINGS ", "LIGHT DOUBLE DASH VERTICAL;HEAVY DOUBLE DASH VERTICAL"⟩,
     ⟨0x2550, "BOX DRAWINGS ", "DOUBLE HORIZONTAL;DOUBLE VERTICAL;DOWN SINGLE AND RIGHT DOUBLE"⟩,
     ⟨0x2553, "BOX DRAWINGS ", "DOWN DOUBLE AND RIGHT SINGLE;DOUBLE DOWN AND RIGHT"⟩,
     ⟨0x2555, "BOX DRAWINGS DOWN ", "SINGLE AND LEFT DOUBLE;DOUBLE AND LEFT SINGLE"⟩,
     ⟨0x2557, "BOX DRAWINGS ", "DOUBLE DOWN AND LEFT;UP SINGLE AND RIGHT DOUBLE"⟩,
     ⟨0x2559, "BOX DRAWINGS ", "UP DOUBLE AND RIGHT SINGLE;DOUBLE UP AND RIGHT"⟩,
     ⟨0x255B, "BOX DRAWINGS UP ", "SINGLE AND LEFT DOUBLE;DOUBLE AND LEFT SINGLE"⟩,
     ⟨0x255D, "BOX DRAWINGS ", "DOUBLE UP AND LEFT;VERTICAL SINGLE AND RIGHT DOUBLE"⟩,
     ⟨0x255F, "BOX DRAWINGS ", "VERTICAL DOUBLE AND RIGHT SINGLE;DOUBLE VERTICAL AND RIGHT"⟩,
     ⟨0x2561, "BOX DRAWINGS VERTICAL ", "SINGLE AND LEFT DOUBLE;DOUBLE AND LEFT SINGLE"⟩,
     ⟨0x2563, "BOX DRAWINGS ", "DOUBLE VERTICAL AND LEFT;DOWN SINGLE AND HORIZONTAL DOUBLE"⟩,
     ⟨0x2565, "BOX DRAWINGS ", "DOWN DOUBLE AND HORIZONTAL SINGLE;DOUBLE DOWN AND HORIZONTAL"⟩,
     ⟨0x2567, "BOX DRAWINGS UP ", "SINGLE AND HORIZONTAL DOUBLE;DOUBLE AND HORIZONTAL SINGLE"⟩,
     ⟨0x2569, "BOX DRAWINGS ", "DOUBLE UP AND HORIZONTAL;VERTICAL SINGLE AND HORIZONTAL DOUBLE"⟩,
     ⟨0x256B, "", "BOX DRAWINGS VERTICAL DOUBLE AND HORIZONTAL SINGLE"⟩,
     ⟨0x256C, "", "BOX DRAWINGS DOUBLE VERTICAL AND HORIZONTAL"⟩,
     ⟨0x256D, "BOX DRAWINGS LIGHT ARC ", "DOWN AND RIGHT;DOWN AND LEFT;UP AND LEFT;UP AND RIGHT"⟩,
     ⟨0x2571, "BOX DRAWINGS LIGHT DIAGONAL UPPER ", "RIGHT TO LOWER LEFT;LEFT TO LOWER RIGHT"⟩,
     ⟨0x2573, "BOX DRAWINGS LIGHT ", "DIAGONAL CROSS;LEFT;UP;RIGHT;DOWN"⟩,
     ⟨0x2578, "BOX DRAWINGS HEAVY ", "LEFT;UP;RIGHT;DOWN"⟩,
     ⟨0x257C, "BOX DRAWINGS LIGHT ", "LEFT AND HEAVY RIGHT;UP AND HEAVY DOWN"⟩,
     ⟨0x257E, "BOX DRAWINGS HEAVY ", "LEFT AND LIGHT RIGHT;UP AND LIGHT DOWN"⟩]

/-- Names in the block Block Elements. -/
def blockElements : NameBlock where
  first := 0x2580
  last := 0x259F
  rows :=
    [⟨0x2580, "", "UPPER HALF BLOCK;LOWER ONE EIGHTH BLOCK;LOWER ONE QUARTER BLOCK"⟩,
     ⟨0x2583, "LOWER ", "THREE EIGHTHS BLOCK;HALF BLOCK;FIVE EIGHTHS BLOCK;THREE QUARTERS BLOCK"⟩,
     ⟨0x2587, "", "LOWER SEVEN EIGHTHS BLOCK;FULL BLOCK;LEFT SEVEN EIGHTHS BLOCK"⟩,
     ⟨0x258A, "LEFT ", "THREE QUARTERS BLOCK;FIVE EIGHTHS BLOCK;HALF BLOCK;THREE EIGHTHS BLOCK"⟩,
     ⟨0x258E, "", "LEFT ONE QUARTER BLOCK;LEFT ONE EIGHTH BLOCK;RIGHT HALF BLOCK;LIGHT SHADE"⟩,
     ⟨0x2592, "", "MEDIUM SHADE;DARK SHADE;UPPER ONE EIGHTH BLOCK;RIGHT ONE EIGHTH BLOCK"⟩,
     ⟨0x2596, "QUADRANT ", "LOWER LEFT;LOWER RIGHT;UPPER LEFT"⟩,
     ⟨0x2599, "QUADRANT UPPER LEFT AND LOWER ", "LEFT AND LOWER RIGHT;RIGHT"⟩,
     ⟨0x259B, "QUADRANT UPPER LEFT AND UPPER RIGHT AND LOWER ", "LEFT;RIGHT"⟩,
     ⟨0x259D, "QUADRANT UPPER ", "RIGHT;RIGHT AND LOWER LEFT;RIGHT AND LOWER LEFT AND LOWER RIGHT"⟩]

/-- Names in the block Geometric Shapes. -/
def geometricShapes : NameBlock where
  first := 0x25A0
  last := 0x25FF
  rows :=
    [⟨0x25A0, "", "BLACK SQUARE;WHITE SQUARE"⟩,
     ⟨0x25A2, "WHITE SQUARE ", "WITH ROUNDED CORNERS;CONTAINING BLACK SMALL SQUARE"⟩,
     ⟨0x25A4, "SQUARE WITH ", "HORIZONTAL FILL;VERTICAL FILL;ORTHOGONAL CROSSHATCH FILL"⟩,
     ⟨0x25A7, "SQUARE WITH UPPER ", "LEFT TO LOWER RIGHT FILL;RIGHT TO LOWER LEFT FILL"⟩,
     ⟨0x25A9, "", "SQUARE WITH DIAGONAL CROSSHATCH FILL"⟩,
     ⟨0x25AA, "", "BLACK SMALL SQUARE;WHITE SMALL SQUARE;BLACK RECTANGLE;WHITE RECTANGLE"⟩,
     ⟨0x25AE, "", "BLACK VERTICAL RECTANGLE;WHITE VERTICAL RECTANGLE;BLACK PARALLELOGRAM"⟩,
     ⟨0x25B1, "", "WHITE PARALLELOGRAM;BLACK UP-POINTING TRIANGLE;WHITE UP-POINTING TRIANGLE"⟩,
     ⟨0x25B4, "", "BLACK UP-POINTING SMALL TRIANGLE;WHITE UP-POINTING SMALL TRIANGLE"⟩,
     ⟨0x25B6, "", "BLACK RIGHT-POINTING TRIANGLE;WHITE RIGHT-POINTING TRIANGLE"⟩,
     ⟨0x25B8, "", "BLACK RIGHT-POINTING SMALL TRIANGLE;WHITE RIGHT-POINTING SMALL TRIANGLE"⟩,
     ⟨0x25BA, "", "BLACK RIGHT-POINTING POINTER;WHITE RIGHT-POINTING POINTER"⟩,
     ⟨0x25BC, "", "BLACK DOWN-POINTING TRIANGLE;WHITE DOWN-POINTING TRIANGLE"⟩,
     ⟨0x25BE, "", "BLACK DOWN-POINTING SMALL TRIANGLE;WHITE DOWN-POINTING SMALL TRIANGLE"⟩,
     ⟨0x25C0, "", "BLACK LEFT-POINTING TRIANGLE;WHITE LEFT-POINTING TRIANGLE"⟩,
     ⟨0x25C2, "", "BLACK LEFT-POINTING SMALL TRIANGLE;WHITE LEFT-POINTING SMALL TRIANGLE"⟩,
     ⟨0x25C4, "", "BLACK LEFT-POINTING POINTER;WHITE LEFT-POINTING POINTER;BLACK DIAMOND"⟩,
     ⟨0x25C7, "", "WHITE DIAMOND;WHITE DIAMOND CONTAINING BLACK SMALL DIAMOND;FISHEYE;LOZENGE"⟩,
     ⟨0x25CB, "", "WHITE CIRCLE;DOTTED CIRCLE;CIRCLE WITH VERTICAL FILL;BULLSEYE;BLACK CIRCLE"⟩,
     ⟨0x25D0, "CIRCLE WITH ", "LEFT HALF BLACK;RIGHT HALF BLACK;LOWER HALF BLACK;UPPER HALF BLACK"⟩,
     ⟨0x25D4, "CIRCLE WITH ", "UPPER RIGHT QUADRANT BLACK;ALL BUT UPPER LEFT QUADRANT BLACK"⟩,
     ⟨0x25D6, "", "LEFT HALF BLACK CIRCLE;RIGHT HALF BLACK CIRCLE"⟩,
     ⟨0x25D8, "INVERSE ", "BULLET;WHITE CIRCLE"⟩,
     ⟨0x25DA, "", "UPPER HALF INVERSE WHITE CIRCLE;LOWER HALF INVERSE WHITE CIRCLE"⟩,
     ⟨0x25DC, "UPPER ", "LEFT QUADRANT CIRCULAR ARC;RIGHT QUADRANT CIRCULAR ARC"⟩,
     ⟨0x25DE, "LOWER ", "RIGHT QUADRANT CIRCULAR ARC;LEFT QUADRANT CIRCULAR ARC"⟩,
     ⟨0x25E0, "", "UPPER HALF CIRCLE;LOWER HALF CIRCLE;BLACK LOWER RIGHT TRIANGLE"⟩,
     ⟨0x25E3, "BLACK ", "LOWER LEFT TRIANGLE;UPPER LEFT TRIANGLE;UPPER RIGHT TRIANGLE"⟩,
     ⟨0x25E6, "", "WHITE BULLET;SQUARE WITH LEFT HALF BLACK;SQUARE WITH RIGHT HALF BLACK"⟩,
     ⟨0x25E9, "SQUARE WITH ", "UPPER LEFT DIAGONAL HALF BLACK;LOWER RIGHT DIAGONAL HALF BLACK"⟩,
     ⟨0x25EB, "WHITE ", "SQUARE WITH VERTICAL BISECTING LINE;UP-POINTING TRIANGLE WITH DOT"⟩,
     ⟨0x25ED, "UP-POINTING TRIANGLE WITH ", "LEFT HALF BLACK;RIGHT HALF BLACK"⟩,
     ⟨0x25EF, "", "LARGE CIRCLE"⟩,
     ⟨0x25F0, "WHITE SQUARE WITH ", "UPPER LEFT QUADRANT;LOWER LEFT QUADRANT"⟩,
     ⟨0x25F2, "WHITE SQUARE WITH ", "LOWER RIGHT QUADRANT;UPPER RIGHT QUADRANT"⟩,
     ⟨0x25F4, "WHITE CIRCLE WITH ", "UPPER LEFT QUADRANT;LOWER LEFT QUADRANT"⟩,
     ⟨0x25F6, "WHITE CIRCLE WITH ", "LOWER RIGHT QUADRANT;UPPER RIGHT QUADRANT"⟩,
     ⟨0x25F8, "UPPER ", "LEFT TRIANGLE;RIGHT TRIANGLE"⟩,
     ⟨0x25FA, "", "LOWER LEFT TRIANGLE;WHITE MEDIUM SQUARE;BLACK MEDIUM SQUARE"⟩,
     ⟨0x25FD, "", "WHITE MEDIUM SMALL SQUARE;BLACK MEDIUM SMALL SQUARE;LOWER RIGHT TRIANGLE"⟩]

/-- Names in the block Miscellaneous Symbols. -/
def miscellaneousSymbols : NameBlock where
  first := 0x2600
  last := 0x26FF
  rows :=
    [⟨0x2600, "", "BLACK SUN WITH RAYS;CLOUD;UMBRELLA;SNOWMAN;COMET;BLACK STAR"⟩,
     ⟨0x2606, "", "WHITE STAR;LIGHTNING;THUNDERSTORM;SUN;ASCENDING NODE;DESCENDING NODE"⟩,
     ⟨0x260C, "", "CONJUNCTION;OPPOSITION;BLACK TELEPHONE;WHITE TELEPHONE;BALLOT BOX"⟩,
     ⟨0x2611, "BALLOT BOX WITH ", "CHECK;X"⟩,
     ⟨0x2613, "", "SALTIRE;UMBRELLA WITH RAIN DROPS;HOT BEVERAGE;WHITE SHOGI PIECE"⟩,
     ⟨0x2617, "", "BLACK SHOGI PIECE;SHAMROCK;REVERSED ROTATED FLORAL HEART BULLET"⟩,
     ⟨0x261A, "BLACK ", "LEFT POINTING INDEX;RIGHT POINTING INDEX"⟩,
     ⟨0x261C, "WHITE ", "LEFT POINTING INDEX;UP POINTING INDEX;RIGHT POINTING INDEX"⟩,
     ⟨0x261F, "", "WHITE DOWN POINTING INDEX;SKULL AND CROSSBONES"⟩,
     ⟨0x2621, "", "CAUTION SIGN;RADIOACTIVE SIGN;BIOHAZARD SIGN;CADUCEUS;ANKH"⟩,
     ⟨0x2626, "", "ORTHODOX CROSS;CHI RHO;CROSS OF LORRAINE;CROSS OF JERUSALEM;STAR AND CRESCENT"⟩,
     ⟨0x262B, "", "FARSI SYMBOL;ADI SHAKTI;HAMMER AND SICKLE;PEACE SYMBOL;YIN YANG"⟩,
     ⟨0x2630, "TRIGRAM FOR ", "HEAVEN;LAKE;FIRE;THUNDER;WIND;WATER;MOUNTAIN;EARTH"⟩,
     ⟨0x2638, "", "WHEEL OF DHARMA;WHITE FROWNING FACE;WHITE SMILING FACE;BLACK SMILING FACE"⟩,
     ⟨0x263C, "", "WHITE SUN WITH RAYS;FIRST QUARTER MOON;LAST QUARTER MOON;MERCURY"⟩,
     ⟨0x2640, "", "FEMALE SIGN;EARTH;MALE SIGN;JUPITER;SATURN;URANUS;NEPTUNE;PLUTO;ARIES;TAURUS"⟩,
     ⟨0x264A, "", "GEMINI;CANCER;LEO;VIRGO;LIBRA;SCORPIUS;SAGITTARIUS;CAPRICORN;AQUARIUS;PISCES"⟩,
     ⟨0x2654, "WHITE CHESS ", "KING;QUEEN;ROOK;BISHOP;KNIGHT;PAWN"⟩,
     ⟨0x265A, "BLACK CHESS ", "KING;QUEEN;ROOK;BISHOP;KNIGHT;PAWN"⟩,
     ⟨0x2660, "", "BLACK SPADE SUIT;WHITE HEART SUIT;WHITE DIAMOND SUIT"⟩,
     ⟨0x2663, "", "BLACK CLUB SUIT;WHITE SPADE SUIT;BLACK HEART SUIT;BLACK DIAMOND SUIT"⟩,
     ⟨0x2667, "", "WHITE CLUB SUIT;HOT SPRINGS;QUARTER NOTE;EIGHTH NOTE;BEAMED EIGHTH NOTES"⟩,
     ⟨0x266C, "", "BEAMED SIXTEENTH NOTES;MUSIC FLAT SIGN;MUSIC NATURAL SIGN;MUSIC SHARP SIGN"⟩,
     ⟨0x2670, "", "WEST SYRIAC CROSS;EAST SYRIAC CROSS;UNIVERSAL RECYCLING SYMBOL"⟩,
     ⟨0x2673, "RECYCLING SYMBOL FOR TYPE-", "1 PLASTICS;2 PLASTICS;3 PLASTICS"⟩,
     ⟨0x2676, "RECYCLING SYMBOL FOR TYPE-", "4 PLASTICS;5 PLASTICS;6 PLASTICS;7 PLASTICS"⟩,
     ⟨0x267A, "", "RECYCLING SYMBOL FOR GENERIC MATERIALS"⟩,
     ⟨0x267B, "", "BLACK UNIVERSAL RECYCLING SYMBOL;RECYCLED PAPER SYMBOL"⟩,
     ⟨0x267D, "", "PARTIALLY-RECYCLED PAPER SYMBOL;PERMANENT PAPER SIGN;WHEELCHAIR SYMBOL"⟩,
     ⟨0x2680, "DIE FACE-", "1;2;3;4;5;6"⟩,
     ⟨0x2686, "WHITE CIRCLE WITH ", "DOT RIGHT;TWO DOTS"⟩,
     ⟨0x2688, "BLACK CIRCLE WITH ", "WHITE DOT RIGHT;TWO WHITE DOTS"⟩,
     ⟨0x268A, "MONOGRAM FOR ", "YANG;YIN"⟩,
     ⟨0x268C, "DIGRAM FOR ", "GREATER YANG;LESSER YIN;LESSER YANG;GREATER YIN"⟩,
     ⟨0x2690, "", "WHITE FLAG;BLACK FLAG"⟩,
     ⟨0x2692, "", "HAMMER AND PICK;ANCHOR;CROSSED SWORDS;STAFF OF AESCULAPIUS;SCALES;ALEMBIC"⟩,
     ⟨0x2698, "", "FLOWER;GEAR;STAFF OF HERMES;ATOM SYMBOL;FLEUR-DE-LIS;OUTLINED WHITE STAR"⟩,
     ⟨0x269E, "THREE LINES CONVERGING ", "RIGHT;LEFT"⟩,
     ⟨0x26A0, "", "WARNING SIGN;HIGH VOLTAGE SIGN;DOUBLED FEMALE SIGN"⟩,
     ⟨0x26A3, "", "DOUBLED MALE SIGN;INTERLOCKED FEMALE AND MALE SIGN;MALE AND FEMALE SIGN"⟩,
     ⟨0x26A6, "MALE WITH STROKE ", "SIGN;AND MALE AND FEMALE SIGN"⟩,
     ⟨0x26A8, "", "VERTICAL MALE WITH STROKE SIGN;HORIZONTAL MALE WITH STROKE SIGN"⟩,
     ⟨0x26AA, "MEDIUM ", "WHITE CIRCLE;BLACK CIRCLE;SMALL WHITE CIRCLE"⟩,
     ⟨0x26AD, "", "MARRIAGE SYMBOL;DIVORCE SYMBOL;UNMARRIED PARTNERSHIP SYMBOL"⟩,
     ⟨0x26B0, "", "COFFIN;FUNERAL URN;NEUTER;CERES;PALLAS;JUNO;VESTA;CHIRON;BLACK MOON LILITH"⟩,
     ⟨0x26B9, "", "SEXTILE;SEMISEXTILE;QUINCUNX;SESQUIQUADRATE;SOCCER BALL;BASEBALL;SQUARED KEY"⟩,
     ⟨0x26C0, "WHITE DRAUGHTS ", "MAN;KING"⟩,
     ⟨0x26C2, "BLACK DRAUGHTS ", "MAN;KING"⟩,
     ⟨0x26C4, "", "SNOWMAN WITHOUT SNOW;SUN BEHIND CLOUD;RAIN;BLACK SNOWMAN"⟩,
     ⟨0x26C8, "", "THUNDER CLOUD AND RAIN;TURNED WHITE SHOGI PIECE;TURNED BLACK SHOGI PIECE"⟩,
     ⟨0x26CB, "", "WHITE DIAMOND IN SQUARE;CROSSING LANES;DISABLED CAR;OPHIUCHUS"⟩,
     ⟨0x26CF, "", "PICK;CAR SLIDING;HELMET WITH WHITE CROSS;CIRCLED CROSSING LANES;CHAINS"⟩,
     ⟨0x26D4, "", "NO ENTRY;ALTERNATE ONE-WAY LEFT WAY TRAFFIC;BLACK TWO-WAY LEFT WAY TRAFFIC"⟩,
     ⟨0x26D7, "", "WHITE TWO-WAY LEFT WAY TRAFFIC;BLACK LEFT LANE MERGE;WHITE LEFT LANE MERGE"⟩,
     ⟨0x26DA, "", "DRIVE SLOW SIGN;HEAVY WHITE DOWN-POINTING TRIANGLE;LEFT CLOSED ENTRY"⟩,
     ⟨0x26DD, "", "SQUARED SALTIRE;FALLING DIAGONAL IN WHITE CIRCLE IN BLACK SQUARE;BLACK TRUCK"⟩,
     ⟨0x26E0, "RESTRICTED LEFT ENTRY-", "1;2"⟩,
     ⟨0x26E2, "", "ASTRONOMICAL SYMBOL FOR URANUS;HEAVY CIRCLE WITH STROKE AND TWO DOTS ABOVE"⟩,
     ⟨0x26E4, "", "PENTAGRAM;RIGHT-HANDED INTERLACED PENTAGRAM"⟩,
     ⟨0x26E6, "", "LEFT-HANDED INTERLACED PENTAGRAM;INVERTED PENTAGRAM;BLACK CROSS ON SHIELD"⟩,
     ⟨0x26E9, "", "SHINTO SHRINE;CHURCH;CASTLE;HISTORIC SITE;GEAR WITHOUT HUB"⟩,
     ⟨0x26EE, "", "GEAR WITH HANDLES;MAP SYMBOL FOR LIGHTHOUSE;MOUNTAIN;UMBRELLA ON GROUND"⟩,
     ⟨0x26F2, "", "FOUNTAIN;FLAG IN HOLE;FERRY;SAILBOAT;SQUARE FOUR CORNERS;SKIER;ICE SKATE"⟩,
     ⟨0x26F9, "", "PERSON WITH BALL;TENT;JAPANESE BANK SYMBOL;HEADSTONE GRAVEYARD SYMBOL"⟩,
     ⟨0x26FD, "", "FUEL PUMP;CUP ON BLACK SQUARE;WHITE FLAG WITH HORIZONTAL MIDDLE BLACK STRIPE"⟩]

/-- Names in the block Dingbats. -/
def dingbats : NameBlock where
  first := 0x2700
  last := 0x27BF
  rows :=
    [⟨0x2700, "", "BLACK SAFETY SCISSORS;UPPER BLADE SCISSORS;BLACK SCISSORS;LOWER BLADE SCISSORS"⟩,
     ⟨0x2704, "", "WHITE SCISSORS;WHITE HEAVY CHECK MARK;TELEPHONE LOCATION SIGN"⟩,
     ⟨0x2707, "", "TAPE DRIVE;AIRPLANE;ENVELOPE;RAISED FIST;RAISED HAND;VICTORY HAND"⟩,
     ⟨0x270D, "", "WRITING HAND;LOWER RIGHT PENCIL;PENCIL;UPPER RIGHT PENCIL;WHITE NIB;BLACK NIB"⟩,
     ⟨0x2713, "", "CHECK MARK;HEAVY CHECK MARK;MULTIPLICATION X;HEAVY MULTIPLICATION X;BALLOT X"⟩,
     ⟨0x2718, "", "HEAVY BALLOT X;OUTLINED GREEK CROSS;HEAVY GREEK CROSS;OPEN CENTRE CROSS"⟩,
     ⟨0x271C, "", "HEAVY OPEN CENTRE CROSS;LATIN CROSS;SHADOWED WHITE LATIN CROSS"⟩,
     ⟨0x271F, "", "OUTLINED LATIN CROSS;MALTESE CROSS;STAR OF DAVID;FOUR TEARDROP-SPOKED ASTERISK"⟩,
     ⟨0x2723, "", "FOUR BALLOON-SPOKED ASTERISK;HEAVY FOUR BALLOON-SPOKED ASTERISK"⟩,
     ⟨0x2725, "", "FOUR CLUB-SPOKED ASTERISK;BLACK FOUR POINTED STAR;WHITE FOUR POINTED STAR"⟩,
     ⟨0x2728, "", "SPARKLES;STRESS OUTLINED WHITE STAR;CIRCLED WHITE STAR;OPEN CENTRE BLACK STAR"⟩,
     ⟨0x272C, "", "BLACK CENTRE WHITE STAR;OUTLINED BLACK STAR;HEAVY OUTLINED BLACK STAR"⟩,
     ⟨0x272F, "", "PINWHEEL STAR;SHADOWED WHITE STAR;HEAVY ASTERISK;OPEN CENTRE ASTERISK"⟩,
     ⟨0x2733, "EIGHT ", "SPOKED ASTERISK;POINTED BLACK STAR;POINTED PINWHEEL STAR"⟩,
     ⟨0x2736, "", "SIX POINTED BLACK STAR;EIGHT POINTED RECTILINEAR BLACK STAR"⟩,
     ⟨0x2738, "", "HEAVY EIGHT POINTED RECTILINEAR BLACK STAR"⟩,
     ⟨0x2739, "", "TWELVE POINTED BLACK STAR;SIXTEEN POINTED ASTERISK"⟩,
     ⟨0x273B, "", "TEARDROP-SPOKED ASTERISK;OPEN CENTRE TEARDROP-SPOKED ASTERISK"⟩,
     ⟨0x273D, "", "HEAVY TEARDROP-SPOKED ASTERISK;SIX PETALLED BLACK AND WHITE FLORETTE"⟩,
     ⟨0x273F, "", "BLACK FLORETTE;WHITE FLORETTE;EIGHT PETALLED OUTLINED BLACK FLORETTE"⟩,
     ⟨0x2742, "", "CIRCLED OPEN CENTRE EIGHT POINTED STAR;HEAVY TEARDROP-SPOKED PINWHEEL ASTERISK"⟩,
     ⟨0x2744, "", "SNOWFLAKE;TIGHT TRIFOLIATE SNOWFLAKE;HEAVY CHEVRON SNOWFLAKE;SPARKLE"⟩,
     ⟨0x2748, "", "HEAVY SPARKLE;BALLOON-SPOKED ASTERISK;EIGHT TEARDROP-SPOKED PROPELLER ASTERISK"⟩,
     ⟨0x274B, "", "HEAVY EIGHT TEARDROP-SPOKED PROPELLER ASTERISK"⟩,
     ⟨0x274C, "", "CROSS MARK;SHADOWED WHITE CIRCLE;NEGATIVE SQUARED CROSS MARK"⟩,
     ⟨0x274F, "", "LOWER RIGHT DROP-SHADOWED WHITE SQUARE;UPPER RIGHT DROP-SHADOWED WHITE SQUARE"⟩,
     ⟨0x2751, "", "LOWER RIGHT SHADOWED WHITE SQUARE;UPPER RIGHT SHADOWED WHITE SQUARE"⟩,
     ⟨0x2753, "", "BLACK QUESTION MARK ORNAMENT;WHITE QUESTION MARK ORNAMENT"⟩,
     ⟨0x2755, "", "WHITE EXCLAMATION MARK ORNAMENT;BLACK DIAMOND MINUS WHITE X"⟩,
     ⟨0x2757, "", "HEAVY EXCLAMATION MARK SYMBOL;LIGHT VERTICAL BAR;MEDIUM VERTICAL BAR"⟩,
     ⟨0x275A, "HEAVY ", "VERTICAL BAR;SINGLE TURNED COMMA QUOTATION MARK ORNAMENT"⟩,
     ⟨0x275C, "", "HEAVY SINGLE COMMA QUOTATION MARK ORNAMENT"⟩,
     ⟨0x275D, "", "HEAVY DOUBLE TURNED COMMA QUOTATION MARK ORNAMENT"⟩,
     ⟨0x275E, "", "HEAVY DOUBLE COMMA QUOTATION MARK ORNAMENT"⟩,
     ⟨0x275F, "", "HEAVY LOW SINGLE COMMA QUOTATION MARK ORNAMENT"⟩,
     ⟨0x2760, "", "HEAVY LOW DOUBLE COMMA QUOTATION MARK ORNAMENT"⟩,
     ⟨0x2761, "", "CURVED STEM PARAGRAPH SIGN ORNAMENT"⟩,
     ⟨0x2762, "HEAVY ", "EXCLAMATION MARK ORNAMENT;HEART EXCLAMATION MARK ORNAMENT;BLACK HEART"⟩,
     ⟨0x2765, "", "ROTATED HEAVY BLACK HEART BULLET;FLORAL HEART;ROTATED FLORAL HEART BULLET"⟩,
     ⟨0x2768, "MEDIUM ", "LEFT PARENTHESIS ORNAMENT;RIGHT PARENTHESIS ORNAMENT"⟩,
     ⟨0x276A, "MEDIUM FLATTENED ", "LEFT PARENTHESIS ORNAMENT;RIGHT PARENTHESIS ORNAMENT"⟩,
     ⟨0x276C, "", "MEDIUM LEFT-POINTING ANGLE BRACKET ORNAMENT"⟩,
     ⟨0x276D, "", "MEDIUM RIGHT-POINTING ANGLE BRACKET ORNAMENT"⟩,
     ⟨0x276E, "", "HEAVY LEFT-POINTING ANGLE QUOTATION MARK ORNAMENT"⟩,
     ⟨0x276F, "", "HEAVY RIGHT-POINTING ANGLE QUOTATION MARK ORNAMENT"⟩,
     ⟨0x2770, "", "HEAVY LEFT-POINTING ANGLE BRACKET ORNAMENT"⟩,
     ⟨0x2771, "", "HEAVY RIGHT-POINTING ANGLE BRACKET ORNAMENT"⟩,
     ⟨0x2772, "", "LIGHT LEFT TORTOISE SHELL BRACKET ORNAMENT"⟩,
     ⟨0x2773, "", "LIGHT RIGHT TORTOISE SHELL BRACKET ORNAMENT"⟩,
     ⟨0x2774, "MEDIUM ", "LEFT CURLY BRACKET ORNAMENT;RIGHT CURLY BRACKET ORNAMENT"⟩,
     ⟨0x2776, "DINGBAT NEGATIVE CIRCLED DIGIT ", "ONE;TWO;THREE;FOUR;FIVE;SIX;SEVEN;EIGHT;NINE"⟩,
     ⟨0x277F, "", "DINGBAT NEGATIVE CIRCLED NUMBER TEN"⟩,
     ⟨0x2780, "DINGBAT CIRCLED SANS-SERIF DIGIT ", "ONE;TWO;THREE;FOUR;FIVE;SIX;SEVEN;EIGHT;NINE"⟩,
     ⟨0x2789, "", "DINGBAT CIRCLED SANS-SERIF NUMBER TEN"⟩,
     ⟨0x278A, "DINGBAT NEGATIVE CIRCLED SANS-SERIF DIGIT ", "ONE;TWO;THREE;FOUR;FIVE;SIX;SEVEN"⟩,
     ⟨0x2791, "DINGBAT NEGATIVE CIRCLED SANS-SERIF ", "DIGIT EIGHT;DIGIT NINE;NUMBER TEN"⟩,
     ⟨0x2794, "HEAVY ", "WIDE-HEADED RIGHTWARDS ARROW;PLUS SIGN;MINUS SIGN"⟩,
     ⟨0x2797, "HEAVY ", "DIVISION SIGN;SOUTH EAST ARROW;RIGHTWARDS ARROW;NORTH EAST ARROW"⟩,
     ⟨0x279B, "", "DRAFTING POINT RIGHTWARDS ARROW"⟩,
     ⟨0x279C, "", "HEAVY ROUND-TIPPED RIGHTWARDS ARROW;TRIANGLE-HEADED RIGHTWARDS ARROW"⟩,
     ⟨0x279E, "", "HEAVY TRIANGLE-HEADED RIGHTWARDS ARROW;DASHED TRIANGLE-HEADED RIGHTWARDS ARROW"⟩,
     ⟨0x27A0, "", "HEAVY DASHED TRIANGLE-HEADED RIGHTWARDS ARROW;BLACK RIGHTWARDS ARROW"⟩,
     ⟨0x27A2, "THREE-D ", "TOP-LIGHTED RIGHTWARDS ARROWHEAD;BOTTOM-LIGHTED RIGHTWARDS ARROWHEAD"⟩,
     ⟨0x27A4, "", "BLACK RIGHTWARDS ARROWHEAD"⟩,
     ⟨0x27A5, "HEAVY BLACK CURVED ", "DOWNWARDS AND RIGHTWARDS ARROW;UPWARDS AND RIGHTWARDS ARROW"⟩,
     ⟨0x27A7, "", "SQUAT BLACK RIGHTWARDS ARROW;HEAVY CONCAVE-POINTED BLACK RIGHTWARDS ARROW"⟩,
     ⟨0x27A9, "", "RIGHT-SHADED WHITE RIGHTWARDS ARROW"⟩,
     ⟨0x27AA, "", "LEFT-SHADED WHITE RIGHTWARDS ARROW;BACK-TILTED SHADOWED WHITE RIGHTWARDS ARROW"⟩,
     ⟨0x27AC, "", "FRONT-TILTED SHADOWED WHITE RIGHTWARDS ARROW"⟩,
     ⟨0x27AD, "", "HEAVY LOWER RIGHT-SHADOWED WHITE RIGHTWARDS ARROW"⟩,
     ⟨0x27AE, "", "HEAVY UPPER RIGHT-SHADOWED WHITE RIGHTWARDS ARROW"⟩,
     ⟨0x27AF, "", "NOTCHED LOWER RIGHT-SHADOWED WHITE RIGHTWARDS ARROW"⟩,
     ⟨0x27B0, "", "CURLY LOOP;NOTCHED UPPER RIGHT-SHADOWED WHITE RIGHTWARDS ARROW"⟩,
     ⟨0x27B2, "", "CIRCLED HEAVY WHITE RIGHTWARDS ARROW;WHITE-FEATHERED RIGHTWARDS ARROW"⟩,
     ⟨0x27B4, "BLACK-FEATHERED ", "SOUTH EAST ARROW;RIGHTWARDS ARROW;NORTH EAST ARROW"⟩,
     ⟨0x27B7, "HEAVY BLACK-FEATHERED ", "SOUTH EAST ARROW;RIGHTWARDS ARROW;NORTH EAST ARROW"⟩,
     ⟨0x27BA, "", "TEARDROP-BARBED RIGHTWARDS ARROW;HEAVY TEARDROP-SHANKED RIGHTWARDS ARROW"⟩,
     ⟨0x27BC, "", "WEDGE-TAILED RIGHTWARDS ARROW;HEAVY WEDGE-TAILED RIGHTWARDS ARROW"⟩,
     ⟨0x27BE, "", "OPEN-OUTLINED RIGHTWARDS ARROW;DOUBLE CURLY LOOP"⟩]

/-- Names in the block Enclosed Alphanumeric Supplement. -/
def enclosedAlphanumericSupplement : NameBlock where
  first := 0x1F100
  last := 0x1F1FF
  rows :=
    [⟨0x1F100, "DIGIT ", "ZERO FULL STOP;ZERO COMMA;ONE COMMA;TWO COMMA;THREE COMMA"⟩,
     ⟨0x1F105, "DIGIT ", "FOUR COMMA;FIVE COMMA;SIX COMMA;SEVEN COMMA;EIGHT COMMA;NINE COMMA"⟩,
     ⟨0x1F10B, "DINGBAT ", "CIRCLED SANS-SERIF DIGIT ZERO;NEGATIVE CIRCLED SANS-SERIF DIGIT ZERO"⟩,
     ⟨0x1F10D, "", "CIRCLED ZERO WITH SLASH"⟩,
     ⟨0x1F10E, "CIRCLED ", "ANTICLOCKWISE ARROW;DOLLAR SIGN WITH OVERLAID BACKSLASH"⟩,
     ⟨0x1F110, "PARENTHESIZED LATIN CAPITAL LETTER ", "A;B;C;D;E"⟩,
     ⟨0x1F115, "PARENTHESIZED LATIN CAPITAL LETTER ", "F;G;H;I;J;K;L;M;N;O;P;Q;R;S;T;U;V;W;X;Y;Z"⟩,
     ⟨0x1F12A, "", "TORTOISE SHELL BRACKETED LATIN CAPITAL LETTER S"⟩,
     ⟨0x1F12B, "CIRCLED ITALIC LATIN CAPITAL LETTER ", "C;R"⟩,
     ⟨0x1F12D, "", "CIRCLED CD;CIRCLED WZ;COPYLEFT SYMBOL"⟩,
     ⟨0x1F130, "SQUARED LATIN CAPITAL LETTER ", "A;B;C;D;E;F;G;H;I;J;K;L;M;N;O;P;Q;R;S;T;U;V;W;X"⟩,
     ⟨0x1F148, "SQUARED ", "LATIN CAPITAL LETTER Y;LATIN CAPITAL LETTER Z;HV;MV;SD;SS;PPV;WC"⟩,
     ⟨0x1F150, "NEGATIVE CIRCLED LATIN CAPITAL LETTER ", "A;B;C;D;E;F"⟩,
     ⟨0x1F156, "NEGATIVE CIRCLED LATIN CAPITAL LETTER ", "G;H;I;J;K;L;M;N;O;P;Q;R;S;T;U;V;W;X;Y;Z"⟩,
     ⟨0x1F16A, "RAISED ", "MC SIGN;MD SIGN;MR SIGN"⟩,
     ⟨0x1F16D, "CIRCLED ", "CC;C WITH OVERLAID BACKSLASH;HUMAN FIGURE"⟩,
     ⟨0x1F170, "NEGATIVE SQUARED LATIN CAPITAL LETTER ", "A;B;C;D;E;F"⟩,
     ⟨0x1F176, "NEGATIVE SQUARED LATIN CAPITAL LETTER ", "G;H;I;J;K;L;M;N;O;P;Q;R;S;T;U;V;W;X;Y;Z"⟩,
     ⟨0x1F18A, "", "CROSSED NEGATIVE SQUARED LATIN CAPITAL LETTER P"⟩,
     ⟨0x1F18B, "NEGATIVE SQUARED ", "IC;PA;SA;AB;WC"⟩,
     ⟨0x1F190, "", "SQUARE DJ"⟩,
     ⟨0x1F191, "SQUARED ", "CL;COOL;FREE;ID;NEW;NG;OK;SOS;UP WITH EXCLAMATION MARK"⟩,
     ⟨0x1F19A, "SQUARED ", "VS;THREE D;SECOND SCREEN;TWO K;FOUR K;EIGHT K;FIVE POINT ONE"⟩,
     ⟨0x1F1A1, "SQUARED ", "SEVEN POINT ONE;TWENTY-TWO POINT TWO;SIXTY P;ONE HUNDRED TWENTY P"⟩,
     ⟨0x1F1A5, "SQUARED ", "LATIN SMALL LETTER D;HC;HDR;HI-RES;LOSSLESS;SHV;UHD;VOD"⟩,
     ⟨0x1F1AD, "", "MASK WORK SYMBOL"⟩,
     ⟨0x1F1E6, "REGIONAL INDICATOR SYMBOL LETTER ", "A;B;C;D"⟩,
     ⟨0x1F1EA, "REGIONAL INDICATOR SYMBOL LETTER ", "E;F;G;H;I;J;K;L;M;N;O;P;Q;R;S;T;U;V;W;X;Y;Z"⟩]

/-- Names in the block Geometric Shapes Extended. -/
def geometricShapesExtended : NameBlock where
  first := 0x1F780
  last := 0x1F7FF
  rows :=
    [⟨0x1F780, "", "BLACK LEFT-POINTING ISOSCELES RIGHT TRIANGLE"⟩,
     ⟨0x1F781, "", "BLACK UP-POINTING ISOSCELES RIGHT TRIANGLE"⟩,
     ⟨0x1F782, "", "BLACK RIGHT-POINTING ISOSCELES RIGHT TRIANGLE"⟩,
     ⟨0x1F783, "BLACK ", "DOWN-POINTING ISOSCELES RIGHT TRIANGLE;SLIGHTLY SMALL CIRCLE"⟩,
     ⟨0x1F785, "", "MEDIUM BOLD WHITE CIRCLE;BOLD WHITE CIRCLE"⟩,
     ⟨0x1F787, "", "HEAVY WHITE CIRCLE;VERY HEAVY WHITE CIRCLE;EXTREMELY HEAVY WHITE CIRCLE"⟩,
     ⟨0x1F78A, "", "WHITE CIRCLE CONTAINING BLACK SMALL CIRCLE;ROUND TARGET"⟩,
     ⟨0x1F78C, "BLACK ", "TINY SQUARE;SLIGHTLY SMALL SQUARE"⟩,
     ⟨0x1F78E, "", "LIGHT WHITE SQUARE;MEDIUM WHITE SQUARE;BOLD WHITE SQUARE"⟩,
     ⟨0x1F791, "", "HEAVY WHITE SQUARE;VERY HEAVY WHITE SQUARE;EXTREMELY HEAVY WHITE SQUARE"⟩,
     ⟨0x1F794, "WHITE SQUARE CONTAINING BLACK ", "VERY SMALL SQUARE;MEDIUM SQUARE"⟩,
     ⟨0x1F796, "", "SQUARE TARGET"⟩,
     ⟨0x1F797, "BLACK ", "TINY DIAMOND;VERY SMALL DIAMOND;MEDIUM SMALL DIAMOND"⟩,
     ⟨0x1F79A, "WHITE DIAMOND CONTAINING BLACK ", "VERY SMALL DIAMOND;MEDIUM DIAMOND"⟩,
     ⟨0x1F79C, "", "DIAMOND TARGET;BLACK TINY LOZENGE;BLACK VERY SMALL LOZENGE"⟩,
     ⟨0x1F79F, "", "BLACK MEDIUM SMALL LOZENGE;WHITE LOZENGE CONTAINING BLACK SMALL LOZENGE"⟩,
     ⟨0x1F7A1, "", "THIN GREEK CROSS;LIGHT GREEK CROSS;MEDIUM GREEK CROSS;BOLD GREEK CROSS"⟩,
     ⟨0x1F7A5, "", "VERY BOLD GREEK CROSS;VERY HEAVY GREEK CROSS;EXTREMELY HEAVY GREEK CROSS"⟩,
     ⟨0x1F7A8, "", "THIN SALTIRE;LIGHT SALTIRE;MEDIUM SALTIRE;BOLD SALTIRE;HEAVY SALTIRE"⟩,
     ⟨0x1F7AD, "", "VERY HEAVY SALTIRE;EXTREMELY HEAVY SALTIRE;LIGHT FIVE SPOKED ASTERISK"⟩,
     ⟨0x1F7B0, "", "MEDIUM FIVE SPOKED ASTERISK;BOLD FIVE SPOKED ASTERISK"⟩,
     ⟨0x1F7B2, "", "HEAVY FIVE SPOKED ASTERISK;VERY HEAVY FIVE SPOKED ASTERISK"⟩,
     ⟨0x1F7B4, "", "EXTREMELY HEAVY FIVE SPOKED ASTERISK;LIGHT SIX SPOKED ASTERISK"⟩,
     ⟨0x1F7B6, "", "MEDIUM SIX SPOKED ASTERISK;BOLD SIX SPOKED ASTERISK;HEAVY SIX SPOKED ASTERISK"⟩,
     ⟨0x1F7B9, "", "VERY HEAVY SIX SPOKED ASTERISK;EXTREMELY HEAVY SIX SPOKED ASTERISK"⟩,
     ⟨0x1F7BB, "", "LIGHT EIGHT SPOKED ASTERISK;MEDIUM EIGHT SPOKED ASTERISK"⟩,
     ⟨0x1F7BD, "", "BOLD EIGHT SPOKED ASTERISK;HEAVY EIGHT SPOKED ASTERISK"⟩,
     ⟨0x1F7BF, "", "VERY HEAVY EIGHT SPOKED ASTERISK;LIGHT THREE POINTED BLACK STAR"⟩,
     ⟨0x1F7C1, "", "MEDIUM THREE POINTED BLACK STAR;THREE POINTED BLACK STAR"⟩,
     ⟨0x1F7C3, "", "MEDIUM THREE POINTED PINWHEEL STAR;LIGHT FOUR POINTED BLACK STAR"⟩,
     ⟨0x1F7C5, "", "MEDIUM FOUR POINTED BLACK STAR;FOUR POINTED BLACK STAR"⟩,
     ⟨0x1F7C7, "", "MEDIUM FOUR POINTED PINWHEEL STAR;REVERSE LIGHT FOUR POINTED PINWHEEL STAR"⟩,
     ⟨0x1F7C9, "", "LIGHT FIVE POINTED BLACK STAR;HEAVY FIVE POINTED BLACK STAR"⟩,
     ⟨0x1F7CB, "", "MEDIUM SIX POINTED BLACK STAR;HEAVY SIX POINTED BLACK STAR"⟩,
     ⟨0x1F7CD, "", "SIX POINTED PINWHEEL STAR;MEDIUM EIGHT POINTED BLACK STAR"⟩,
     ⟨0x1F7CF, "", "HEAVY EIGHT POINTED BLACK STAR;VERY HEAVY EIGHT POINTED BLACK STAR"⟩,
     ⟨0x1F7D1, "", "HEAVY EIGHT POINTED PINWHEEL STAR;LIGHT TWELVE POINTED BLACK STAR"⟩,
     ⟨0x1F7D3, "HEAVY TWELVE POINTED ", "BLACK STAR;PINWHEEL STAR"⟩,
     ⟨0x1F7D5, "", "CIRCLED TRIANGLE;NEGATIVE CIRCLED TRIANGLE"⟩,
     ⟨0x1F7D7, "", "CIRCLED SQUARE;NEGATIVE CIRCLED SQUARE;NINE POINTED WHITE STAR"⟩,
     ⟨0x1F7E0, "LARGE ", "ORANGE CIRCLE;YELLOW CIRCLE"⟩,
     ⟨0x1F7E2, "LARGE ", "GREEN CIRCLE;PURPLE CIRCLE;BROWN CIRCLE;RED SQUARE;BLUE SQUARE"⟩,
     ⟨0x1F7E7, "LARGE ", "ORANGE SQUARE;YELLOW SQUARE;GREEN SQUARE;PURPLE SQUARE;BROWN SQUARE"⟩,
     ⟨0x1F7F0, "", "HEAVY EQUALS SIGN"⟩]

end NameBlock

/-- The blocks of this module. -/
def symbolBlocks : List NameBlock :=
  [.superscriptsAndSubscripts, .currencySymbols, .letterlikeSymbols, .numberForms,
   .miscellaneousTechnical, .controlPictures, .opticalCharacterRecognition,
   .enclosedAlphanumerics, .boxDrawing, .blockElements, .geometricShapes, .miscellaneousSymbols,
   .dingbats, .enclosedAlphanumericSupplement, .geometricShapesExtended]

end Text
end Scripting
