import Scripting.Text.Names.Block

namespace Scripting
namespace Text

/-!
Names of marks that combine with letters or modify them.
-/

namespace NameBlock

/-- Names in the block Spacing Modifier Letters. -/
def spacingModifierLetters : NameBlock where
  first := 0x02B0
  last := 0x02FF
  rows :=
    [⟨0x02B0, "MODIFIER LETTER SMALL ", "H;H WITH HOOK;J;R;TURNED R;TURNED R WITH HOOK"⟩,
     ⟨0x02B6, "MODIFIER LETTER ", "SMALL CAPITAL INVERTED R;SMALL W;SMALL Y;PRIME;DOUBLE PRIME"⟩,
     ⟨0x02BB, "MODIFIER LETTER ", "TURNED COMMA;APOSTROPHE;REVERSED COMMA;RIGHT HALF RING"⟩,
     ⟨0x02BF, "MODIFIER LETTER ", "LEFT HALF RING;GLOTTAL STOP;REVERSED GLOTTAL STOP"⟩,
     ⟨0x02C2, "MODIFIER LETTER ", "LEFT ARROWHEAD;RIGHT ARROWHEAD;UP ARROWHEAD;DOWN ARROWHEAD"⟩,
     ⟨0x02C6, "", "MODIFIER LETTER CIRCUMFLEX ACCENT;CARON"⟩,
     ⟨0x02C8, "MODIFIER LETTER ", "VERTICAL LINE;MACRON;ACUTE ACCENT;GRAVE ACCENT"⟩,
     ⟨0x02CC, "MODIFIER LETTER LOW ", "VERTICAL LINE;MACRON;GRAVE ACCENT;ACUTE ACCENT"⟩,
     ⟨0x02D0, "MODIFIER LETTER ", "TRIANGULAR COLON;HALF TRIANGULAR COLON;CENTRED RIGHT HALF RING"⟩,
     ⟨0x02D3, "MODIFIER LETTER ", "CENTRED LEFT HALF RING;UP TACK;DOWN TACK;PLUS SIGN;MINUS SIGN"⟩,
     ⟨0x02D8, "", "BREVE;DOT ABOVE;RING ABOVE;OGONEK;SMALL TILDE;DOUBLE ACUTE ACCENT"⟩,
     ⟨0x02DE, "MODIFIER LETTER ", "RHOTIC HOOK;CROSS ACCENT;SMALL GAMMA;SMALL L;SMALL S"⟩,
     ⟨0x02E3, "MODIFIER LETTER ", "SMALL X;SMALL REVERSED GLOTTAL STOP;EXTRA-HIGH TONE BAR"⟩,
     ⟨0x02E6, "MODIFIER LETTER ", "HIGH TONE BAR;MID TONE BAR;LOW TONE BAR;EXTRA-LOW TONE BAR"⟩,
     ⟨0x02EA, "MODIFIER LETTER ", "YIN DEPARTING TONE MARK;YANG DEPARTING TONE MARK"⟩,
     ⟨0x02EC, "MODIFIER LETTER ", "VOICING;UNASPIRATED;DOUBLE APOSTROPHE;LOW DOWN ARROWHEAD"⟩,
     ⟨0x02F0, "MODIFIER LETTER LOW ", "UP ARROWHEAD;LEFT ARROWHEAD;RIGHT ARROWHEAD;RING"⟩,
     ⟨0x02F4, "MODIFIER LETTER MIDDLE ", "GRAVE ACCENT;DOUBLE GRAVE ACCENT;DOUBLE ACUTE ACCENT"⟩,
     ⟨0x02F7, "MODIFIER LETTER ", "LOW TILDE;RAISED COLON;BEGIN HIGH TONE;END HIGH TONE"⟩,
     ⟨0x02FB, "MODIFIER LETTER ", "BEGIN LOW TONE;END LOW TONE;SHELF;OPEN SHELF;LOW LEFT ARROW"⟩]

/-- Names in the block Combining Diacritical Marks. -/
def combiningDiacriticalMarks : NameBlock where
  first := 0x0300
  last := 0x036F
  rows :=
    [⟨0x0300, "COMBINING ", "GRAVE ACCENT;ACUTE ACCENT"⟩,
     ⟨0x0302, "COMBINING ", "CIRCUMFLEX ACCENT;TILDE;MACRON;OVERLINE;BREVE;DOT ABOVE;DIAERESIS"⟩,
     ⟨0x0309, "COMBINING ", "HOOK ABOVE;RING ABOVE;DOUBLE ACUTE ACCENT;CARON;VERTICAL LINE ABOVE"⟩,
     ⟨0x030E, "COMBINING ", "DOUBLE VERTICAL LINE ABOVE;DOUBLE GRAVE ACCENT;CANDRABINDU"⟩,
     ⟨0x0311, "COMBINING ", "INVERTED BREVE;TURNED COMMA ABOVE;COMMA ABOVE;REVERSED COMMA ABOVE"⟩,
     ⟨0x0315, "COMBINING ", "COMMA ABOVE RIGHT;GRAVE ACCENT BELOW;ACUTE ACCENT BELOW"⟩,
     ⟨0x0318, "COMBINING ", "LEFT TACK BELOW;RIGHT TACK BELOW;LEFT ANGLE ABOVE;HORN"⟩,
     ⟨0x031C, "COMBINING ", "LEFT HALF RING BELOW;UP TACK BELOW;DOWN TACK BELOW;PLUS SIGN BELOW"⟩,
     ⟨0x0320, "COMBINING ", "MINUS SIGN BELOW;PALATALIZED HOOK BELOW;RETROFLEX HOOK BELOW"⟩,
     ⟨0x0323, "COMBINING ", "DOT BELOW;DIAERESIS BELOW;RING BELOW;COMMA BELOW;CEDILLA"⟩,
     ⟨0x0328, "COMBINING ", "OGONEK;VERTICAL LINE BELOW;BRIDGE BELOW;INVERTED DOUBLE ARCH BELOW"⟩,
     ⟨0x032C, "COMBINING ", "CARON BELOW;CIRCUMFLEX ACCENT BELOW;BREVE BELOW;INVERTED BREVE BELOW"⟩,
     ⟨0x0330, "COMBINING ", "TILDE BELOW;MACRON BELOW;LOW LINE;DOUBLE LOW LINE"⟩,
     ⟨0x0334, "COMBINING ", "TILDE OVERLAY;SHORT STROKE OVERLAY;LONG STROKE OVERLAY"⟩,
     ⟨0x0337, "COMBINING ", "SHORT SOLIDUS OVERLAY;LONG SOLIDUS OVERLAY;RIGHT HALF RING BELOW"⟩,
     ⟨0x033A, "COMBINING ", "INVERTED BRIDGE BELOW;SQUARE BELOW;SEAGULL BELOW;X ABOVE"⟩,
     ⟨0x033E, "COMBINING ", "VERTICAL TILDE;DOUBLE OVERLINE;GRAVE TONE MARK;ACUTE TONE MARK"⟩,
     ⟨0x0342, "COMBINING GREEK ", "PERISPOMENI;KORONIS;DIALYTIKA TONOS;YPOGEGRAMMENI"⟩,
     ⟨0x0346, "COMBINING ", "BRIDGE ABOVE;EQUALS SIGN BELOW;DOUBLE VERTICAL LINE BELOW"⟩,
     ⟨0x0349, "COMBINING ", "LEFT ANGLE BELOW;NOT TILDE ABOVE;HOMOTHETIC ABOVE"⟩,
     ⟨0x034C, "COMBINING ", "ALMOST EQUAL TO ABOVE;LEFT RIGHT ARROW BELOW;UPWARDS ARROW BELOW"⟩,
     ⟨0x034F, "COMBINING ", "GRAPHEME JOINER;RIGHT ARROWHEAD ABOVE;LEFT HALF RING ABOVE"⟩,
     ⟨0x0352, "COMBINING ", "FERMATA;X BELOW;LEFT ARROWHEAD BELOW;RIGHT ARROWHEAD BELOW"⟩,
     ⟨0x0356, "COMBINING RIGHT ", "ARROWHEAD AND UP ARROWHEAD BELOW;HALF RING ABOVE"⟩,
     ⟨0x0358, "COMBINING ", "DOT ABOVE RIGHT;ASTERISK BELOW;DOUBLE RING BELOW;ZIGZAG ABOVE"⟩,
     ⟨0x035C, "COMBINING DOUBLE ", "BREVE BELOW;BREVE;MACRON"⟩,
     ⟨0x035F, "COMBINING DOUBLE ", "MACRON BELOW;TILDE;INVERTED BREVE;RIGHTWARDS ARROW BELOW"⟩,
     ⟨0x0363, "COMBINING LATIN SMALL LETTER ", "A;E;I;O;U;C;D;H;M;R;T;V;X"⟩]

/-- Names in the block Combining Diacritical Marks Extended. -/
def combiningDiacriticalMarksExtended : NameBlock where
  first := 0x1AB0
  last := 0x1AFF
  rows :=
    [⟨0x1AB0, "COMBINING ", "DOUBLED CIRCUMFLEX ACCENT;DIAERESIS-RING;INFINITY;DOWNWARDS ARROW"⟩,
     ⟨0x1AB4, "COMBINING ", "TRIPLE DOT;X-X BELOW;WIGGLY LINE BELOW;OPEN MARK BELOW"⟩,
     ⟨0x1AB8, "COMBINING ", "DOUBLE OPEN MARK BELOW;LIGHT CENTRALIZATION STROKE BELOW"⟩,
     ⟨0x1ABA, "COMBINING ", "STRONG CENTRALIZATION STROKE BELOW;PARENTHESES ABOVE"⟩,
     ⟨0x1ABC, "COMBINING ", "DOUBLE PARENTHESES ABOVE;PARENTHESES BELOW;PARENTHESES OVERLAY"⟩,
     ⟨0x1ABF, "COMBINING LATIN SMALL LETTER ", "W BELOW;TURNED W BELOW"⟩,
     ⟨0x1AC1, "", "COMBINING LEFT PARENTHESIS ABOVE LEFT"⟩,
     ⟨0x1AC2, "COMBINING ", "RIGHT PARENTHESIS ABOVE RIGHT;LEFT PARENTHESIS BELOW LEFT"⟩,
     ⟨0x1AC4, "COMBINING ", "RIGHT PARENTHESIS BELOW RIGHT;SQUARE BRACKETS ABOVE"⟩,
     ⟨0x1AC6, "COMBINING ", "NUMBER SIGN ABOVE;INVERTED DOUBLE ARCH ABOVE;PLUS SIGN ABOVE"⟩,
     ⟨0x1AC9, "COMBINING ", "DOUBLE PLUS SIGN ABOVE;DOUBLE PLUS SIGN BELOW;TRIPLE ACUTE ACCENT"⟩,
     ⟨0x1ACC, "COMBINING LATIN SMALL LETTER INSULAR ", "G;R;T"⟩]

/-- Names in the block Combining Diacritical Marks Supplement. -/
def combiningDiacriticalMarksSupplement : NameBlock where
  first := 0x1DC0
  last := 0x1DFF
  rows :=
    [⟨0x1DC0, "COMBINING DOTTED ", "GRAVE ACCENT;ACUTE ACCENT"⟩,
     ⟨0x1DC2, "COMBINING ", "SNAKE BELOW;SUSPENSION MARK;MACRON-ACUTE"⟩,
     ⟨0x1DC5, "COMBINING ", "GRAVE-MACRON;MACRON-GRAVE;ACUTE-MACRON;GRAVE-ACUTE-GRAVE"⟩,
     ⟨0x1DC9, "COMBINING ", "ACUTE-GRAVE-ACUTE;LATIN SMALL LETTER R BELOW;BREVE-MACRON"⟩,
     ⟨0x1DCC, "COMBINING ", "MACRON-BREVE;DOUBLE CIRCUMFLEX ABOVE;OGONEK ABOVE;ZIGZAG BELOW"⟩,
     ⟨0x1DD0, "COMBINING ", "IS BELOW;UR ABOVE;US ABOVE;LATIN SMALL LETTER FLATTENED OPEN A ABOVE"⟩,
     ⟨0x1DD4, "COMBINING LATIN SMALL LETTER ", "AE;AO;AV;C CEDILLA;INSULAR D;ETH;G"⟩,
     ⟨0x1DDB, "COMBINING LATIN ", "LETTER SMALL CAPITAL G;SMALL LETTER K;SMALL LETTER L"⟩,
     ⟨0x1DDE, "COMBINING LATIN LETTER SMALL CAPITAL ", "L;M"⟩,
     ⟨0x1DE0, "COMBINING LATIN ", "SMALL LETTER N;LETTER SMALL CAPITAL N;LETTER SMALL CAPITAL R"⟩,
     ⟨0x1DE3, "COMBINING LATIN SMALL LETTER ", "R ROTUNDA;S;LONG S"⟩,
     ⟨0x1DE6, "COMBINING LATIN SMALL LETTER ", "Z;ALPHA;B;BETA;SCHWA;F;L WITH DOUBLE MIDDLE TILDE"⟩,
     ⟨0x1DED, "", "COMBINING LATIN SMALL LETTER O WITH LIGHT CENTRALIZATION STROKE"⟩,
     ⟨0x1DEE, "COMBINING LATIN SMALL LETTER ", "P;ESH;U WITH LIGHT CENTRALIZATION STROKE"⟩,
     ⟨0x1DF1, "COMBINING LATIN SMALL LETTER ", "W;A WITH DIAERESIS;O WITH DIAERESIS"⟩,
     ⟨0x1DF4, "COMBINING ", "LATIN SMALL LETTER U WITH DIAERESIS;UP TACK ABOVE"⟩,
     ⟨0x1DF6, "COMBINING KAVYKA ABOVE ", "RIGHT;LEFT"⟩,
     ⟨0x1DF8, "COMBINING ", "DOT ABOVE LEFT;WIDE INVERTED BRIDGE BELOW;DOT BELOW LEFT"⟩,
     ⟨0x1DFB, "COMBINING ", "DELETION MARK;DOUBLE INVERTED BREVE BELOW;ALMOST EQUAL TO BELOW"⟩,
     ⟨0x1DFE, "COMBINING ", "LEFT ARROWHEAD ABOVE;RIGHT ARROWHEAD AND DOWN ARROWHEAD BELOW"⟩]

/-- Names in the block Combining Diacritical Marks for Symbols. -/
def combiningDiacriticalMarksForSymbols : NameBlock where
  first := 0x20D0
  last := 0x20FF
  rows :=
    [⟨0x20D0, "COMBINING ", "LEFT HARPOON ABOVE;RIGHT HARPOON ABOVE"⟩,
     ⟨0x20D2, "COMBINING ", "LONG VERTICAL LINE OVERLAY;SHORT VERTICAL LINE OVERLAY"⟩,
     ⟨0x20D4, "COMBINING ", "ANTICLOCKWISE ARROW ABOVE;CLOCKWISE ARROW ABOVE;LEFT ARROW ABOVE"⟩,
     ⟨0x20D7, "COMBINING ", "RIGHT ARROW ABOVE;RING OVERLAY;CLOCKWISE RING OVERLAY"⟩,
     ⟨0x20DA, "COMBINING ", "ANTICLOCKWISE RING OVERLAY;THREE DOTS ABOVE;FOUR DOTS ABOVE"⟩,
     ⟨0x20DD, "COMBINING ENCLOSING ", "CIRCLE;SQUARE;DIAMOND;CIRCLE BACKSLASH"⟩,
     ⟨0x20E1, "COMBINING ", "LEFT RIGHT ARROW ABOVE;ENCLOSING SCREEN;ENCLOSING KEYCAP"⟩,
     ⟨0x20E4, "COMBINING ", "ENCLOSING UPWARD POINTING TRIANGLE;REVERSE SOLIDUS OVERLAY"⟩,
     ⟨0x20E6, "COMBINING ", "DOUBLE VERTICAL STROKE OVERLAY;ANNUITY SYMBOL"⟩,
     ⟨0x20E8, "COMBINING ", "TRIPLE UNDERDOT;WIDE BRIDGE ABOVE;LEFTWARDS ARROW OVERLAY"⟩,
     ⟨0x20EB, "COMBINING ", "LONG DOUBLE SOLIDUS OVERLAY;RIGHTWARDS HARPOON WITH BARB DOWNWARDS"⟩,
     ⟨0x20ED, "", "COMBINING LEFTWARDS HARPOON WITH BARB DOWNWARDS"⟩,
     ⟨0x20EE, "COMBINING ", "LEFT ARROW BELOW;RIGHT ARROW BELOW;ASTERISK ABOVE"⟩]

/-- Names in the block Modifier Tone Letters. -/
def modifierToneLetters : NameBlock where
  first := 0xA700
  last := 0xA71F
  rows :=
    [⟨0xA700, "MODIFIER LETTER CHINESE TONE ", "YIN PING;YANG PING;YIN SHANG"⟩,
     ⟨0xA703, "MODIFIER LETTER CHINESE TONE ", "YANG SHANG;YIN QU;YANG QU;YIN RU;YANG RU"⟩,
     ⟨0xA708, "", "MODIFIER LETTER EXTRA-HIGH DOTTED TONE BAR"⟩,
     ⟨0xA709, "MODIFIER LETTER ", "HIGH DOTTED TONE BAR;MID DOTTED TONE BAR;LOW DOTTED TONE BAR"⟩,
     ⟨0xA70C, "MODIFIER LETTER EXTRA-", "LOW DOTTED TONE BAR;HIGH DOTTED LEFT-STEM TONE BAR"⟩,
     ⟨0xA70E, "", "MODIFIER LETTER HIGH DOTTED LEFT-STEM TONE BAR"⟩,
     ⟨0xA70F, "MODIFIER LETTER ", "MID DOTTED LEFT-STEM TONE BAR;LOW DOTTED LEFT-STEM TONE BAR"⟩,
     ⟨0xA711, "MODIFIER LETTER EXTRA-", "LOW DOTTED LEFT-STEM TONE BAR;HIGH LEFT-STEM TONE BAR"⟩,
     ⟨0xA713, "MODIFIER LETTER ", "HIGH LEFT-STEM TONE BAR;MID LEFT-STEM TONE BAR"⟩,
     ⟨0xA715, "MODIFIER LETTER ", "LOW LEFT-STEM TONE BAR;EXTRA-LOW LEFT-STEM TONE BAR"⟩,
     ⟨0xA717, "MODIFIER LETTER DOT ", "VERTICAL BAR;SLASH;HORIZONTAL BAR"⟩,
     ⟨0xA71A, "", "MODIFIER LETTER LOWER RIGHT CORNER ANGLE"⟩,
     ⟨0xA71B, "MODIFIER LETTER RAISED ", "UP ARROW;DOWN ARROW;EXCLAMATION MARK"⟩,
     ⟨0xA71E, "MODIFIER LETTER ", "RAISED INVERTED EXCLAMATION MARK;LOW INVERTED EXCLAMATION MARK"⟩]

/-- Names in the block Combining Half Marks. -/
def combiningHalfMarks : NameBlock where
  first := 0xFE20
  last := 0xFE2F
  rows :=
    [⟨0xFE20, "COMBINING LIGATURE ", "LEFT HALF;RIGHT HALF"⟩,
     ⟨0xFE22, "COMBINING DOUBLE TILDE ", "LEFT HALF;RIGHT HALF"⟩,
     ⟨0xFE24, "COMBINING ", "MACRON LEFT HALF;MACRON RIGHT HALF;CONJOINING MACRON"⟩,
     ⟨0xFE27, "COMBINING LIGATURE ", "LEFT HALF BELOW;RIGHT HALF BELOW"⟩,
     ⟨0xFE29, "COMBINING ", "TILDE LEFT HALF BELOW;TILDE RIGHT HALF BELOW;MACRON LEFT HALF BELOW"⟩,
     ⟨0xFE2C, "COMBINING ", "MACRON RIGHT HALF BELOW;CONJOINING MACRON BELOW"⟩,
     ⟨0xFE2E, "COMBINING CYRILLIC TITLO ", "LEFT HALF;RIGHT HALF"⟩]

end NameBlock

/-- The blocks of this module. -/
def markBlocks : List NameBlock :=
  [.spacingModifierLetters, .combiningDiacriticalMarks, .combiningDiacriticalMarksExtended,
   .combiningDiacriticalMarksSupplement, .combiningDiacriticalMarksForSymbols,
   .modifierToneLetters, .combiningHalfMarks]

end Text
end Scripting
