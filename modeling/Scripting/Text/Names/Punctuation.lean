import Scripting.Text.Names.Block

namespace Scripting
namespace Text

/-!
Names of punctuation, and of small, wide and invisible forms of other characters.
-/

namespace NameBlock

/-- Names in the block General Punctuation. -/
def generalPunctuation : NameBlock where
  first := 0x2000
  last := 0x206F
  rows :=
    [⟨0x2000, "", "EN QUAD;EM QUAD;EN SPACE;EM SPACE;THREE-PER-EM SPACE;FOUR-PER-EM SPACE"⟩,
     ⟨0x2006, "", "SIX-PER-EM SPACE;FIGURE SPACE;PUNCTUATION SPACE;THIN SPACE;HAIR SPACE"⟩,
     ⟨0x200B, "ZERO WIDTH ", "SPACE;NON-JOINER;JOINER"⟩,
     ⟨0x200E, "", "LEFT-TO-RIGHT MARK;RIGHT-TO-LEFT MARK;HYPHEN;NON-BREAKING HYPHEN"⟩,
     ⟨0x2012, "", "FIGURE DASH;EN DASH;EM DASH;HORIZONTAL BAR;DOUBLE VERTICAL LINE"⟩,
     ⟨0x2017, "", "DOUBLE LOW LINE;LEFT SINGLE QUOTATION MARK;RIGHT SINGLE QUOTATION MARK"⟩,
     ⟨0x201A, "SINGLE ", "LOW-9 QUOTATION MARK;HIGH-REVERSED-9 QUOTATION MARK"⟩,
     ⟨0x201C, "", "LEFT DOUBLE QUOTATION MARK;RIGHT DOUBLE QUOTATION MARK"⟩,
     ⟨0x201E, "DOUBLE ", "LOW-9 QUOTATION MARK;HIGH-REVERSED-9 QUOTATION MARK"⟩,
     ⟨0x2020, "", "DAGGER;DOUBLE DAGGER;BULLET;TRIANGULAR BULLET;ONE DOT LEADER"⟩,
     ⟨0x2025, "", "TWO DOT LEADER;HORIZONTAL ELLIPSIS;HYPHENATION POINT;LINE SEPARATOR"⟩,
     ⟨0x2029, "", "PARAGRAPH SEPARATOR;LEFT-TO-RIGHT EMBEDDING;RIGHT-TO-LEFT EMBEDDING"⟩,
     ⟨0x202C, "", "POP DIRECTIONAL FORMATTING;LEFT-TO-RIGHT OVERRIDE;RIGHT-TO-LEFT OVERRIDE"⟩,
     ⟨0x202F, "", "NARROW NO-BREAK SPACE;PER MILLE SIGN;PER TEN THOUSAND SIGN;PRIME;DOUBLE PRIME"⟩,
     ⟨0x2034, "", "TRIPLE PRIME;REVERSED PRIME;REVERSED DOUBLE PRIME;REVERSED TRIPLE PRIME;CARET"⟩,
     ⟨0x2039, "SINGLE ", "LEFT-POINTING ANGLE QUOTATION MARK;RIGHT-POINTING ANGLE QUOTATION MARK"⟩,
     ⟨0x203B, "", "REFERENCE MARK;DOUBLE EXCLAMATION MARK"⟩,
     ⟨0x203D, "", "INTERROBANG;OVERLINE;UNDERTIE;CHARACTER TIE;CARET INSERTION POINT"⟩,
     ⟨0x2042, "", "ASTERISM;HYPHEN BULLET;FRACTION SLASH;LEFT SQUARE BRACKET WITH QUILL"⟩,
     ⟨0x2046, "", "RIGHT SQUARE BRACKET WITH QUILL;DOUBLE QUESTION MARK;QUESTION EXCLAMATION MARK"⟩,
     ⟨0x2049, "", "EXCLAMATION QUESTION MARK;TIRONIAN SIGN ET;REVERSED PILCROW SIGN"⟩,
     ⟨0x204C, "BLACK ", "LEFTWARDS BULLET;RIGHTWARDS BULLET"⟩,
     ⟨0x204E, "", "LOW ASTERISK;REVERSED SEMICOLON;CLOSE UP;TWO ASTERISKS ALIGNED VERTICALLY"⟩,
     ⟨0x2052, "", "COMMERCIAL MINUS SIGN;SWUNG DASH;INVERTED UNDERTIE;FLOWER PUNCTUATION MARK"⟩,
     ⟨0x2056, "", "THREE DOT PUNCTUATION;QUADRUPLE PRIME;FOUR DOT PUNCTUATION"⟩,
     ⟨0x2059, "", "FIVE DOT PUNCTUATION;TWO DOT PUNCTUATION;FOUR DOT MARK;DOTTED CROSS;TRICOLON"⟩,
     ⟨0x205E, "", "VERTICAL FOUR DOTS;MEDIUM MATHEMATICAL SPACE;WORD JOINER;FUNCTION APPLICATION"⟩,
     ⟨0x2062, "INVISIBLE ", "TIMES;SEPARATOR;PLUS"⟩,
     ⟨0x2066, "", "LEFT-TO-RIGHT ISOLATE;RIGHT-TO-LEFT ISOLATE"⟩,
     ⟨0x2068, "", "FIRST STRONG ISOLATE;POP DIRECTIONAL ISOLATE;INHIBIT SYMMETRIC SWAPPING"⟩,
     ⟨0x206B, "", "ACTIVATE SYMMETRIC SWAPPING;INHIBIT ARABIC FORM SHAPING"⟩,
     ⟨0x206D, "", "ACTIVATE ARABIC FORM SHAPING;NATIONAL DIGIT SHAPES;NOMINAL DIGIT SHAPES"⟩]

/-- Names in the block Supplemental Punctuation. -/
def supplementalPunctuation : NameBlock where
  first := 0x2E00
  last := 0x2E7F
  rows :=
    [⟨0x2E00, "RIGHT ANGLE ", "SUBSTITUTION MARKER;DOTTED SUBSTITUTION MARKER"⟩,
     ⟨0x2E02, "", "LEFT SUBSTITUTION BRACKET;RIGHT SUBSTITUTION BRACKET"⟩,
     ⟨0x2E04, "", "LEFT DOTTED SUBSTITUTION BRACKET;RIGHT DOTTED SUBSTITUTION BRACKET"⟩,
     ⟨0x2E06, "RAISED ", "INTERPOLATION MARKER;DOTTED INTERPOLATION MARKER"⟩,
     ⟨0x2E08, "", "DOTTED TRANSPOSITION MARKER"⟩,
     ⟨0x2E09, "", "LEFT TRANSPOSITION BRACKET;RIGHT TRANSPOSITION BRACKET;RAISED SQUARE"⟩,
     ⟨0x2E0C, "", "LEFT RAISED OMISSION BRACKET;RIGHT RAISED OMISSION BRACKET;EDITORIAL CORONIS"⟩,
     ⟨0x2E0F, "", "PARAGRAPHOS;FORKED PARAGRAPHOS;REVERSED FORKED PARAGRAPHOS;HYPODIASTOLE"⟩,
     ⟨0x2E13, "", "DOTTED OBELOS;DOWNWARDS ANCORA;UPWARDS ANCORA;DOTTED RIGHT-POINTING ANGLE"⟩,
     ⟨0x2E17, "", "DOUBLE OBLIQUE HYPHEN;INVERTED INTERROBANG;PALM BRANCH;HYPHEN WITH DIAERESIS"⟩,
     ⟨0x2E1B, "", "TILDE WITH RING ABOVE;LEFT LOW PARAPHRASE BRACKET;RIGHT LOW PARAPHRASE BRACKET"⟩,
     ⟨0x2E1E, "", "TILDE WITH DOT ABOVE;TILDE WITH DOT BELOW;LEFT VERTICAL BAR WITH QUILL"⟩,
     ⟨0x2E21, "", "RIGHT VERTICAL BAR WITH QUILL;TOP LEFT HALF BRACKET;TOP RIGHT HALF BRACKET"⟩,
     ⟨0x2E24, "BOTTOM ", "LEFT HALF BRACKET;RIGHT HALF BRACKET"⟩,
     ⟨0x2E26, "", "LEFT SIDEWAYS U BRACKET;RIGHT SIDEWAYS U BRACKET;LEFT DOUBLE PARENTHESIS"⟩,
     ⟨0x2E29, "", "RIGHT DOUBLE PARENTHESIS;TWO DOTS OVER ONE DOT PUNCTUATION"⟩,
     ⟨0x2E2B, "", "ONE DOT OVER TWO DOTS PUNCTUATION;SQUARED FOUR DOT PUNCTUATION;FIVE DOT MARK"⟩,
     ⟨0x2E2E, "", "REVERSED QUESTION MARK;VERTICAL TILDE;RING POINT;WORD SEPARATOR MIDDLE DOT"⟩,
     ⟨0x2E32, "", "TURNED COMMA;RAISED DOT;RAISED COMMA;TURNED SEMICOLON;DAGGER WITH LEFT GUARD"⟩,
     ⟨0x2E37, "", "DAGGER WITH RIGHT GUARD;TURNED DAGGER;TOP HALF SECTION SIGN;TWO-EM DASH"⟩,
     ⟨0x2E3B, "", "THREE-EM DASH;STENOGRAPHIC FULL STOP;VERTICAL SIX DOTS;WIGGLY VERTICAL LINE"⟩,
     ⟨0x2E3F, "", "CAPITULUM;DOUBLE HYPHEN;REVERSED COMMA;DOUBLE LOW-REVERSED-9 QUOTATION MARK"⟩,
     ⟨0x2E43, "", "DASH WITH LEFT UPTURN;DOUBLE SUSPENSION MARK"⟩,
     ⟨0x2E45, "", "INVERTED LOW KAVYKA;INVERTED LOW KAVYKA WITH KAVYKA ABOVE;LOW KAVYKA"⟩,
     ⟨0x2E48, "", "LOW KAVYKA WITH DOT;DOUBLE STACKED COMMA;DOTTED SOLIDUS;TRIPLE DAGGER"⟩,
     ⟨0x2E4C, "", "MEDIEVAL COMMA;PARAGRAPHUS MARK;PUNCTUS ELEVATUS MARK;CORNISH VERSE DIVIDER"⟩,
     ⟨0x2E50, "CROSS PATTY WITH ", "RIGHT CROSSBAR;LEFT CROSSBAR"⟩,
     ⟨0x2E52, "", "TIRONIAN SIGN CAPITAL ET;MEDIEVAL EXCLAMATION MARK;MEDIEVAL QUESTION MARK"⟩,
     ⟨0x2E55, "", "LEFT SQUARE BRACKET WITH STROKE;RIGHT SQUARE BRACKET WITH STROKE"⟩,
     ⟨0x2E57, "", "LEFT SQUARE BRACKET WITH DOUBLE STROKE;RIGHT SQUARE BRACKET WITH DOUBLE STROKE"⟩,
     ⟨0x2E59, "TOP HALF ", "LEFT PARENTHESIS;RIGHT PARENTHESIS"⟩,
     ⟨0x2E5B, "", "BOTTOM HALF LEFT PARENTHESIS;BOTTOM HALF RIGHT PARENTHESIS;OBLIQUE HYPHEN"⟩]

/-- Names in the block Vertical Forms. -/
def verticalForms : NameBlock where
  first := 0xFE10
  last := 0xFE1F
  rows :=
    [⟨0xFE10, "PRESENTATION FORM FOR VERTICAL ", "COMMA;IDEOGRAPHIC COMMA;IDEOGRAPHIC FULL STOP"⟩,
     ⟨0xFE13, "PRESENTATION FORM FOR VERTICAL ", "COLON;SEMICOLON;EXCLAMATION MARK"⟩,
     ⟨0xFE16, "PRESENTATION FORM FOR VERTICAL ", "QUESTION MARK;LEFT WHITE LENTICULAR BRACKET"⟩,
     ⟨0xFE18, "", "PRESENTATION FORM FOR VERTICAL RIGHT WHITE LENTICULAR BRAKCET"⟩,
     ⟨0xFE19, "", "PRESENTATION FORM FOR VERTICAL HORIZONTAL ELLIPSIS"⟩]

/-- Names in the block CJK Compatibility Forms. -/
def cjkCompatibilityForms : NameBlock where
  first := 0xFE30
  last := 0xFE4F
  rows :=
    [⟨0xFE30, "PRESENTATION FORM FOR VERTICAL ", "TWO DOT LEADER;EM DASH"⟩,
     ⟨0xFE32, "PRESENTATION FORM FOR VERTICAL ", "EN DASH;LOW LINE;WAVY LOW LINE;LEFT PARENTHESIS"⟩,
     ⟨0xFE36, "PRESENTATION FORM FOR VERTICAL ", "RIGHT PARENTHESIS;LEFT CURLY BRACKET"⟩,
     ⟨0xFE38, "PRESENTATION FORM FOR VERTICAL ", "RIGHT CURLY BRACKET;LEFT TORTOISE SHELL BRACKET"⟩,
     ⟨0xFE3A, "", "PRESENTATION FORM FOR VERTICAL RIGHT TORTOISE SHELL BRACKET"⟩,
     ⟨0xFE3B, "", "PRESENTATION FORM FOR VERTICAL LEFT BLACK LENTICULAR BRACKET"⟩,
     ⟨0xFE3C, "", "PRESENTATION FORM FOR VERTICAL RIGHT BLACK LENTICULAR BRACKET"⟩,
     ⟨0xFE3D, "", "PRESENTATION FORM FOR VERTICAL LEFT DOUBLE ANGLE BRACKET"⟩,
     ⟨0xFE3E, "PRESENTATION FORM FOR VERTICAL ", "RIGHT DOUBLE ANGLE BRACKET;LEFT ANGLE BRACKET"⟩,
     ⟨0xFE40, "PRESENTATION FORM FOR VERTICAL ", "RIGHT ANGLE BRACKET;LEFT CORNER BRACKET"⟩,
     ⟨0xFE42, "PRESENTATION FORM FOR VERTICAL ", "RIGHT CORNER BRACKET;LEFT WHITE CORNER BRACKET"⟩,
     ⟨0xFE44, "", "PRESENTATION FORM FOR VERTICAL RIGHT WHITE CORNER BRACKET"⟩,
     ⟨0xFE45, "", "SESAME DOT;WHITE SESAME DOT"⟩,
     ⟨0xFE47, "PRESENTATION FORM FOR VERTICAL ", "LEFT SQUARE BRACKET;RIGHT SQUARE BRACKET"⟩,
     ⟨0xFE49, "", "DASHED OVERLINE;CENTRELINE OVERLINE;WAVY OVERLINE"⟩,
     ⟨0xFE4C, "", "DOUBLE WAVY OVERLINE;DASHED LOW LINE;CENTRELINE LOW LINE;WAVY LOW LINE"⟩]

/-- Names in the block Small Form Variants. -/
def smallFormVariants : NameBlock where
  first := 0xFE50
  last := 0xFE6F
  rows :=
    [⟨0xFE50, "SMALL ", "COMMA;IDEOGRAPHIC COMMA;FULL STOP"⟩,
     ⟨0xFE54, "SMALL ", "SEMICOLON;COLON;QUESTION MARK"⟩,
     ⟨0xFE57, "SMALL ", "EXCLAMATION MARK;EM DASH;LEFT PARENTHESIS;RIGHT PARENTHESIS"⟩,
     ⟨0xFE5B, "SMALL ", "LEFT CURLY BRACKET;RIGHT CURLY BRACKET;LEFT TORTOISE SHELL BRACKET"⟩,
     ⟨0xFE5E, "SMALL ", "RIGHT TORTOISE SHELL BRACKET;NUMBER SIGN;AMPERSAND;ASTERISK"⟩,
     ⟨0xFE62, "SMALL ", "PLUS SIGN;HYPHEN-MINUS;LESS-THAN SIGN;GREATER-THAN SIGN;EQUALS SIGN"⟩,
     ⟨0xFE68, "SMALL ", "REVERSE SOLIDUS;DOLLAR SIGN;PERCENT SIGN;COMMERCIAL AT"⟩]

/-- Names in the block Halfwidth and Fullwidth Forms. -/
def halfwidthAndFullwidthForms : NameBlock where
  first := 0xFF00
  last := 0xFFEF
  rows :=
    [⟨0xFF01, "FULLWIDTH ", "EXCLAMATION MARK;QUOTATION MARK;NUMBER SIGN;DOLLAR SIGN"⟩,
     ⟨0xFF05, "FULLWIDTH ", "PERCENT SIGN;AMPERSAND;APOSTROPHE;LEFT PARENTHESIS;RIGHT PARENTHESIS"⟩,
     ⟨0xFF0A, "FULLWIDTH ", "ASTERISK;PLUS SIGN;COMMA;HYPHEN-MINUS;FULL STOP;SOLIDUS"⟩,
     ⟨0xFF1A, "FULLWIDTH ", "COLON;SEMICOLON;LESS-THAN SIGN"⟩,
     ⟨0xFF1D, "FULLWIDTH ", "EQUALS SIGN;GREATER-THAN SIGN;QUESTION MARK;COMMERCIAL AT"⟩,
     ⟨0xFF21, "FULLWIDTH LATIN CAPITAL LETTER ", "A;B"⟩,
     ⟨0xFF23, "FULLWIDTH LATIN CAPITAL LETTER ", "C;D;E;F;G;H;I;J;K;L;M;N;O;P;Q;R;S;T;U;V;W;X;Y;Z"⟩,
     ⟨0xFF3B, "FULLWIDTH ", "LEFT SQUARE BRACKET;REVERSE SOLIDUS;RIGHT SQUARE BRACKET"⟩,
     ⟨0xFF3E, "FULLWIDTH ", "CIRCUMFLEX ACCENT;LOW LINE;GRAVE ACCENT;LATIN SMALL LETTER A"⟩,
     ⟨0xFF42, "FULLWIDTH LATIN SMALL LETTER ", "B;C;D;E;F;G;H;I;J;K;L;M;N;O;P;Q;R;S;T;U;V;W;X;Y;Z"⟩,
     ⟨0xFF5B, "FULLWIDTH ", "LEFT CURLY BRACKET;VERTICAL LINE;RIGHT CURLY BRACKET"⟩,
     ⟨0xFF5E, "FULLWIDTH ", "TILDE;LEFT WHITE PARENTHESIS;RIGHT WHITE PARENTHESIS"⟩,
     ⟨0xFF61, "HALFWIDTH ", "IDEOGRAPHIC FULL STOP;LEFT CORNER BRACKET;RIGHT CORNER BRACKET"⟩,
     ⟨0xFF64, "HALFWIDTH ", "IDEOGRAPHIC COMMA;KATAKANA MIDDLE DOT;KATAKANA LETTER WO"⟩,
     ⟨0xFF67, "HALFWIDTH KATAKANA LETTER SMALL ", "A;I;U;E;O;YA;YU;YO;TU"⟩,
     ⟨0xFF70, "", "HALFWIDTH KATAKANA-HIRAGANA PROLONGED SOUND MARK"⟩,
     ⟨0xFF71, "HALFWIDTH KATAKANA LETTER ", "A;I;U;E;O;KA;KI;KU;KE;KO"⟩,
     ⟨0xFF7B, "HALFWIDTH KATAKANA LETTER ", "SA;SI;SU;SE;SO;TA;TI;TU;TE;TO;NA;NI;NU;NE;NO;HA;HI"⟩,
     ⟨0xFF8C, "HALFWIDTH KATAKANA LETTER ", "HU;HE;HO;MA;MI;MU;ME;MO;YA;YU;YO;RA;RI;RU;RE;RO;WA;N"⟩,
     ⟨0xFF9E, "HALFWIDTH KATAKANA ", "VOICED SOUND MARK;SEMI-VOICED SOUND MARK"⟩,
     ⟨0xFFA0, "HALFWIDTH HANGUL ", "FILLER;LETTER KIYEOK;LETTER SSANGKIYEOK;LETTER KIYEOK-SIOS"⟩,
     ⟨0xFFA4, "HALFWIDTH HANGUL LETTER ", "NIEUN;NIEUN-CIEUC;NIEUN-HIEUH;TIKEUT;SSANGTIKEUT;RIEUL"⟩,
     ⟨0xFFAA, "HALFWIDTH HANGUL LETTER RIEUL-", "KIYEOK;MIEUM;PIEUP;SIOS;THIEUTH;PHIEUPH;HIEUH"⟩,
     ⟨0xFFB1, "HALFWIDTH HANGUL LETTER ", "MIEUM;PIEUP;SSANGPIEUP;PIEUP-SIOS;SIOS;SSANGSIOS;IEUNG"⟩,
     ⟨0xFFB8, "HALFWIDTH HANGUL LETTER ", "CIEUC;SSANGCIEUC;CHIEUCH;KHIEUKH;THIEUTH;PHIEUPH;HIEUH"⟩,
     ⟨0xFFC2, "HALFWIDTH HANGUL LETTER ", "A;AE;YA;YAE;EO;E"⟩,
     ⟨0xFFCA, "HALFWIDTH HANGUL LETTER ", "YEO;YE;O;WA;WAE;OE"⟩,
     ⟨0xFFD2, "HALFWIDTH HANGUL LETTER ", "YO;U;WEO;WE;WI;YU"⟩,
     ⟨0xFFDA, "HALFWIDTH HANGUL LETTER ", "EU;YI;I"⟩,
     ⟨0xFFE0, "FULLWIDTH ", "CENT SIGN;POUND SIGN;NOT SIGN;MACRON;BROKEN BAR;YEN SIGN;WON SIGN"⟩,
     ⟨0xFFE8, "HALFWIDTH ", "FORMS LIGHT VERTICAL;LEFTWARDS ARROW;UPWARDS ARROW"⟩,
     ⟨0xFFEB, "HALFWIDTH ", "RIGHTWARDS ARROW;DOWNWARDS ARROW;BLACK SQUARE;WHITE CIRCLE"⟩]

/-- Names in the block Specials. -/
def specials : NameBlock where
  first := 0xFFF0
  last := 0xFFFF
  rows :=
    [⟨0xFFF9, "INTERLINEAR ANNOTATION ", "ANCHOR;SEPARATOR;TERMINATOR"⟩,
     ⟨0xFFFC, "", "OBJECT REPLACEMENT CHARACTER;REPLACEMENT CHARACTER"⟩]

/-- Names in the block Tags. -/
def tags : NameBlock where
  first := 0xE0000
  last := 0xE007F
  rows :=
    [⟨0xE0001, "", "LANGUAGE TAG"⟩,
     ⟨0xE0020, "TAG ", "SPACE;EXCLAMATION MARK;QUOTATION MARK;NUMBER SIGN"⟩,
     ⟨0xE0024, "TAG ", "DOLLAR SIGN;PERCENT SIGN;AMPERSAND;APOSTROPHE;LEFT PARENTHESIS"⟩,
     ⟨0xE0029, "TAG ", "RIGHT PARENTHESIS;ASTERISK;PLUS SIGN;COMMA;HYPHEN-MINUS;FULL STOP;SOLIDUS"⟩,
     ⟨0xE003A, "TAG ", "COLON;SEMICOLON"⟩,
     ⟨0xE003C, "TAG ", "LESS-THAN SIGN;EQUALS SIGN;GREATER-THAN SIGN;QUESTION MARK;COMMERCIAL AT"⟩,
     ⟨0xE0041, "TAG LATIN CAPITAL LETTER ", "A;B;C;D;E;F;G;H;I;J;K;L;M;N;O;P;Q;R;S;T;U;V;W;X;Y;Z"⟩,
     ⟨0xE005B, "TAG ", "LEFT SQUARE BRACKET;REVERSE SOLIDUS"⟩,
     ⟨0xE005D, "TAG ", "RIGHT SQUARE BRACKET;CIRCUMFLEX ACCENT;LOW LINE;GRAVE ACCENT"⟩,
     ⟨0xE0061, "TAG LATIN SMALL LETTER ", "A;B;C;D;E;F;G;H;I;J;K;L;M;N;O;P;Q;R;S;T;U;V;W;X;Y;Z"⟩,
     ⟨0xE007B, "TAG ", "LEFT CURLY BRACKET;VERTICAL LINE;RIGHT CURLY BRACKET;TILDE"⟩,
     ⟨0xE007F, "", "CANCEL TAG"⟩]

end NameBlock

/-- The blocks of this module. -/
def punctuationBlocks : List NameBlock :=
  [.generalPunctuation, .supplementalPunctuation, .verticalForms, .cjkCompatibilityForms,
   .smallFormVariants, .halfwidthAndFullwidthForms, .specials, .tags]

end Text
end Scripting
