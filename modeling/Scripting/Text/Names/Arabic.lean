import Scripting.Text.Names.Block

namespace Scripting
namespace Text

/-!
Names of Arabic letters, of their forms in writing, and of Arabic numbers.
-/

namespace NameBlock

/-- Names in the block Arabic. -/
def arabic : NameBlock where
  first := 0x0600
  last := 0x06FF
  rows :=
    [⟨0x0600, "ARABIC ", "NUMBER SIGN;SIGN SANAH;FOOTNOTE MARKER;SIGN SAFHA;SIGN SAMVAT"⟩,
     ⟨0x0605, "", "ARABIC NUMBER MARK ABOVE;ARABIC-INDIC CUBE ROOT;ARABIC-INDIC FOURTH ROOT"⟩,
     ⟨0x0608, "", "ARABIC RAY;ARABIC-INDIC PER MILLE SIGN;ARABIC-INDIC PER TEN THOUSAND SIGN"⟩,
     ⟨0x060B, "", "AFGHANI SIGN;ARABIC COMMA;ARABIC DATE SEPARATOR"⟩,
     ⟨0x060E, "ARABIC ", "POETIC VERSE SIGN;SIGN MISRA;SIGN SALLALLAHOU ALAYHE WASSALLAM"⟩,
     ⟨0x0611, "ARABIC SIGN ", "ALAYHE ASSALLAM;RAHMATULLAH ALAYHE;RADI ALLAHOU ANHU;TAKHALLUS"⟩,
     ⟨0x0615, "ARABIC SMALL HIGH ", "TAH;LIGATURE ALEF WITH LAM WITH YEH;ZAIN"⟩,
     ⟨0x0618, "ARABIC ", "SMALL FATHA;SMALL DAMMA;SMALL KASRA;SEMICOLON"⟩,
     ⟨0x061C, "ARABIC ", "LETTER MARK;END OF TEXT MARK;TRIPLE DOT PUNCTUATION MARK;QUESTION MARK"⟩,
     ⟨0x0620, "ARABIC LETTER ", "KASHMIRI YEH;HAMZA;ALEF WITH MADDA ABOVE"⟩,
     ⟨0x0623, "ARABIC LETTER ", "ALEF WITH HAMZA ABOVE;WAW WITH HAMZA ABOVE;ALEF WITH HAMZA BELOW"⟩,
     ⟨0x0626, "ARABIC LETTER ", "YEH WITH HAMZA ABOVE;ALEF;BEH;TEH MARBUTA;TEH;THEH;JEEM"⟩,
     ⟨0x062D, "ARABIC LETTER ", "HAH;KHAH;DAL;THAL;REH;ZAIN;SEEN;SHEEN;SAD;DAD;TAH;ZAH;AIN;GHAIN"⟩,
     ⟨0x063B, "ARABIC LETTER KEHEH WITH ", "TWO DOTS ABOVE;THREE DOTS BELOW"⟩,
     ⟨0x063D, "ARABIC LETTER FARSI YEH WITH ", "INVERTED V;TWO DOTS ABOVE;THREE DOTS ABOVE"⟩,
     ⟨0x0640, "", "ARABIC TATWEEL"⟩,
     ⟨0x0641, "ARABIC LETTER ", "FEH;QAF;KAF;LAM;MEEM;NOON;HEH;WAW;ALEF MAKSURA;YEH"⟩,
     ⟨0x064B, "ARABIC ", "FATHATAN;DAMMATAN;KASRATAN;FATHA;DAMMA;KASRA;SHADDA;SUKUN;MADDAH ABOVE"⟩,
     ⟨0x0654, "ARABIC HAMZA ", "ABOVE;BELOW"⟩,
     ⟨0x0656, "ARABIC ", "SUBSCRIPT ALEF;INVERTED DAMMA;MARK NOON GHUNNA;ZWARAKAY"⟩,
     ⟨0x065A, "ARABIC VOWEL SIGN ", "SMALL V ABOVE;INVERTED SMALL V ABOVE;DOT BELOW"⟩,
     ⟨0x065D, "ARABIC ", "REVERSED DAMMA;FATHA WITH TWO DOTS;WAVY HAMZA BELOW"⟩,
     ⟨0x066A, "ARABIC ", "PERCENT SIGN;DECIMAL SEPARATOR;THOUSANDS SEPARATOR;FIVE POINTED STAR"⟩,
     ⟨0x066E, "ARABIC LETTER ", "DOTLESS BEH;DOTLESS QAF;SUPERSCRIPT ALEF;ALEF WASLA"⟩,
     ⟨0x0672, "ARABIC LETTER ALEF WITH WAVY HAMZA ", "ABOVE;BELOW"⟩,
     ⟨0x0674, "ARABIC LETTER HIGH ", "HAMZA;HAMZA ALEF;HAMZA WAW"⟩,
     ⟨0x0677, "ARABIC LETTER ", "U WITH HAMZA ABOVE;HIGH HAMZA YEH;TTEH;TTEHEH;BEEH;TEH WITH RING"⟩,
     ⟨0x067D, "ARABIC LETTER ", "TEH WITH THREE DOTS ABOVE DOWNWARDS;PEH;TEHEH;BEHEH"⟩,
     ⟨0x0681, "ARABIC LETTER HAH WITH ", "HAMZA ABOVE;TWO DOTS VERTICAL ABOVE"⟩,
     ⟨0x0683, "ARABIC LETTER ", "NYEH;DYEH;HAH WITH THREE DOTS ABOVE;TCHEH;TCHEHEH;DDAL"⟩,
     ⟨0x0689, "ARABIC LETTER DAL WITH ", "RING;DOT BELOW;DOT BELOW AND SMALL TAH"⟩,
     ⟨0x068C, "ARABIC LETTER ", "DAHAL;DDAHAL;DUL;DAL WITH THREE DOTS ABOVE DOWNWARDS"⟩,
     ⟨0x0690, "ARABIC LETTER ", "DAL WITH FOUR DOTS ABOVE;RREH"⟩,
     ⟨0x0692, "ARABIC LETTER REH WITH ", "SMALL V;RING;DOT BELOW"⟩,
     ⟨0x0695, "ARABIC LETTER REH WITH ", "SMALL V BELOW;DOT BELOW AND DOT ABOVE;TWO DOTS ABOVE"⟩,
     ⟨0x0698, "ARABIC LETTER ", "JEH;REH WITH FOUR DOTS ABOVE;SEEN WITH DOT BELOW AND DOT ABOVE"⟩,
     ⟨0x069B, "ARABIC LETTER SEEN WITH THREE DOTS ", "BELOW;BELOW AND THREE DOTS ABOVE"⟩,
     ⟨0x069D, "ARABIC LETTER SAD WITH ", "TWO DOTS BELOW;THREE DOTS ABOVE"⟩,
     ⟨0x069F, "ARABIC LETTER ", "TAH WITH THREE DOTS ABOVE;AIN WITH THREE DOTS ABOVE;DOTLESS FEH"⟩,
     ⟨0x06A2, "ARABIC LETTER FEH WITH DOT ", "MOVED BELOW;BELOW"⟩,
     ⟨0x06A4, "ARABIC LETTER ", "VEH;FEH WITH THREE DOTS BELOW;PEHEH"⟩,
     ⟨0x06A7, "ARABIC LETTER QAF WITH ", "DOT ABOVE;THREE DOTS ABOVE"⟩,
     ⟨0x06A9, "ARABIC LETTER ", "KEHEH;SWASH KAF;KAF WITH RING;KAF WITH DOT ABOVE"⟩,
     ⟨0x06AD, "ARABIC LETTER ", "NG;KAF WITH THREE DOTS BELOW;GAF;GAF WITH RING"⟩,
     ⟨0x06B1, "ARABIC LETTER ", "NGOEH;GAF WITH TWO DOTS BELOW;GUEH;GAF WITH THREE DOTS ABOVE"⟩,
     ⟨0x06B5, "ARABIC LETTER LAM WITH ", "SMALL V;DOT ABOVE;THREE DOTS ABOVE;THREE DOTS BELOW"⟩,
     ⟨0x06B9, "ARABIC LETTER ", "NOON WITH DOT BELOW;NOON GHUNNA;RNOON"⟩,
     ⟨0x06BC, "ARABIC LETTER NOON WITH ", "RING;THREE DOTS ABOVE"⟩,
     ⟨0x06BE, "ARABIC LETTER ", "HEH DOACHASHMEE;TCHEH WITH DOT ABOVE;HEH WITH YEH ABOVE;HEH GOAL"⟩,
     ⟨0x06C2, "ARABIC LETTER ", "HEH GOAL WITH HAMZA ABOVE;TEH MARBUTA GOAL;WAW WITH RING"⟩,
     ⟨0x06C5, "ARABIC LETTER ", "KIRGHIZ OE;OE;U;YU;KIRGHIZ YU;WAW WITH TWO DOTS ABOVE"⟩,
     ⟨0x06CB, "ARABIC LETTER ", "VE;FARSI YEH;YEH WITH TAIL;YEH WITH SMALL V;WAW WITH DOT ABOVE;E"⟩,
     ⟨0x06D1, "ARABIC LETTER YEH ", "WITH THREE DOTS BELOW;BARREE;BARREE WITH HAMZA ABOVE"⟩,
     ⟨0x06D4, "ARABIC ", "FULL STOP;LETTER AE;SMALL HIGH LIGATURE SAD WITH LAM WITH ALEF MAKSURA"⟩,
     ⟨0x06D7, "", "ARABIC SMALL HIGH LIGATURE QAF WITH LAM WITH ALEF MAKSURA"⟩,
     ⟨0x06D8, "ARABIC SMALL HIGH ", "MEEM INITIAL FORM;LAM ALEF;JEEM;THREE DOTS;SEEN"⟩,
     ⟨0x06DD, "ARABIC ", "END OF AYAH;START OF RUB EL HIZB"⟩,
     ⟨0x06DF, "ARABIC SMALL HIGH ", "ROUNDED ZERO;UPRIGHT RECTANGULAR ZERO;DOTLESS HEAD OF KHAH"⟩,
     ⟨0x06E2, "ARABIC SMALL ", "HIGH MEEM ISOLATED FORM;LOW SEEN;HIGH MADDA;WAW;YEH;HIGH YEH"⟩,
     ⟨0x06E8, "ARABIC ", "SMALL HIGH NOON;PLACE OF SAJDAH;EMPTY CENTRE LOW STOP"⟩,
     ⟨0x06EB, "ARABIC ", "EMPTY CENTRE HIGH STOP;ROUNDED HIGH STOP WITH FILLED CENTRE"⟩,
     ⟨0x06ED, "ARABIC ", "SMALL LOW MEEM;LETTER DAL WITH INVERTED V;LETTER REH WITH INVERTED V"⟩,
     ⟨0x06FA, "ARABIC LETTER ", "SHEEN WITH DOT BELOW;DAD WITH DOT BELOW;GHAIN WITH DOT BELOW"⟩,
     ⟨0x06FD, "ARABIC SIGN SINDHI ", "AMPERSAND;POSTPOSITION MEN"⟩,
     ⟨0x06FF, "", "ARABIC LETTER HEH WITH INVERTED V"⟩]

/-- Names in the block Arabic Supplement. -/
def arabicSupplement : NameBlock where
  first := 0x0750
  last := 0x077F
  rows :=
    [⟨0x0750, "", "ARABIC LETTER BEH WITH THREE DOTS HORIZONTALLY BELOW"⟩,
     ⟨0x0751, "", "ARABIC LETTER BEH WITH DOT BELOW AND THREE DOTS ABOVE"⟩,
     ⟨0x0752, "", "ARABIC LETTER BEH WITH THREE DOTS POINTING UPWARDS BELOW"⟩,
     ⟨0x0753, "", "ARABIC LETTER BEH WITH THREE DOTS POINTING UPWARDS BELOW AND TWO DOTS ABOVE"⟩,
     ⟨0x0754, "", "ARABIC LETTER BEH WITH TWO DOTS BELOW AND DOT ABOVE"⟩,
     ⟨0x0755, "ARABIC LETTER BEH WITH ", "INVERTED SMALL V BELOW;SMALL V"⟩,
     ⟨0x0757, "ARABIC LETTER HAH WITH ", "TWO DOTS ABOVE;THREE DOTS POINTING UPWARDS BELOW"⟩,
     ⟨0x0759, "", "ARABIC LETTER DAL WITH TWO DOTS VERTICALLY BELOW AND SMALL TAH"⟩,
     ⟨0x075A, "", "ARABIC LETTER DAL WITH INVERTED SMALL V BELOW"⟩,
     ⟨0x075B, "ARABIC LETTER ", "REH WITH STROKE;SEEN WITH FOUR DOTS ABOVE"⟩,
     ⟨0x075D, "ARABIC LETTER AIN WITH ", "TWO DOTS ABOVE;THREE DOTS POINTING DOWNWARDS ABOVE"⟩,
     ⟨0x075F, "ARABIC LETTER ", "AIN WITH TWO DOTS VERTICALLY ABOVE;FEH WITH TWO DOTS BELOW"⟩,
     ⟨0x0761, "ARABIC LETTER ", "FEH WITH THREE DOTS POINTING UPWARDS BELOW;KEHEH WITH DOT ABOVE"⟩,
     ⟨0x0763, "ARABIC LETTER KEHEH WITH THREE DOTS ", "ABOVE;POINTING UPWARDS BELOW"⟩,
     ⟨0x0765, "ARABIC LETTER MEEM WITH DOT ", "ABOVE;BELOW"⟩,
     ⟨0x0767, "ARABIC LETTER NOON WITH ", "TWO DOTS BELOW;SMALL TAH;SMALL V"⟩,
     ⟨0x076A, "ARABIC LETTER ", "LAM WITH BAR;REH WITH TWO DOTS VERTICALLY ABOVE"⟩,
     ⟨0x076C, "ARABIC LETTER ", "REH WITH HAMZA ABOVE;SEEN WITH TWO DOTS VERTICALLY ABOVE"⟩,
     ⟨0x076E, "ARABIC LETTER HAH WITH SMALL ARABIC LETTER TAH ", "BELOW;AND TWO DOTS"⟩,
     ⟨0x0770, "", "ARABIC LETTER SEEN WITH SMALL ARABIC LETTER TAH AND TWO DOTS"⟩,
     ⟨0x0771, "", "ARABIC LETTER REH WITH SMALL ARABIC LETTER TAH AND TWO DOTS"⟩,
     ⟨0x0772, "", "ARABIC LETTER HAH WITH SMALL ARABIC LETTER TAH ABOVE"⟩,
     ⟨0x0773, "ARABIC LETTER ALEF WITH EXTENDED ARABIC-INDIC DIGIT ", "TWO ABOVE;THREE ABOVE"⟩,
     ⟨0x0775, "ARABIC LETTER FARSI YEH WITH EXTENDED ARABIC-INDIC DIGIT ", "TWO ABOVE;THREE ABOVE"⟩,
     ⟨0x0777, "", "ARABIC LETTER FARSI YEH WITH EXTENDED ARABIC-INDIC DIGIT FOUR BELOW"⟩,
     ⟨0x0778, "ARABIC LETTER WAW WITH EXTENDED ARABIC-INDIC DIGIT ", "TWO ABOVE;THREE ABOVE"⟩,
     ⟨0x077A, "", "ARABIC LETTER YEH BARREE WITH EXTENDED ARABIC-INDIC DIGIT TWO ABOVE"⟩,
     ⟨0x077B, "", "ARABIC LETTER YEH BARREE WITH EXTENDED ARABIC-INDIC DIGIT THREE ABOVE"⟩,
     ⟨0x077C, "", "ARABIC LETTER HAH WITH EXTENDED ARABIC-INDIC DIGIT FOUR BELOW"⟩,
     ⟨0x077D, "ARABIC LETTER SEEN WITH ", "EXTENDED ARABIC-INDIC DIGIT FOUR ABOVE;INVERTED V"⟩,
     ⟨0x077F, "", "ARABIC LETTER KAF WITH TWO DOTS ABOVE"⟩]

/-- Names in the block Arabic Extended-B. -/
def arabicExtendedB : NameBlock where
  first := 0x0870
  last := 0x089F
  rows :=
    [⟨0x0870, "ARABIC LETTER ALEF WITH ATTACHED ", "FATHA;TOP RIGHT FATHA"⟩,
     ⟨0x0872, "ARABIC LETTER ALEF WITH ", "RIGHT MIDDLE STROKE;LEFT MIDDLE STROKE"⟩,
     ⟨0x0874, "ARABIC LETTER ALEF WITH ATTACHED ", "KASRA;BOTTOM RIGHT KASRA"⟩,
     ⟨0x0876, "ARABIC LETTER ALEF WITH ATTACHED ", "ROUND DOT ABOVE;RIGHT ROUND DOT"⟩,
     ⟨0x0878, "ARABIC LETTER ALEF WITH ATTACHED ", "LEFT ROUND DOT;ROUND DOT BELOW"⟩,
     ⟨0x087A, "ARABIC LETTER ALEF WITH ", "DOT ABOVE;ATTACHED TOP RIGHT FATHA AND DOT ABOVE"⟩,
     ⟨0x087C, "", "ARABIC LETTER ALEF WITH RIGHT MIDDLE STROKE AND DOT ABOVE"⟩,
     ⟨0x087D, "", "ARABIC LETTER ALEF WITH ATTACHED BOTTOM RIGHT KASRA AND DOT ABOVE"⟩,
     ⟨0x087E, "", "ARABIC LETTER ALEF WITH ATTACHED TOP RIGHT FATHA AND LEFT RING"⟩,
     ⟨0x087F, "", "ARABIC LETTER ALEF WITH RIGHT MIDDLE STROKE AND LEFT RING"⟩,
     ⟨0x0880, "", "ARABIC LETTER ALEF WITH ATTACHED BOTTOM RIGHT KASRA AND LEFT RING"⟩,
     ⟨0x0881, "ARABIC LETTER ALEF WITH ATTACHED ", "RIGHT HAMZA;LEFT HAMZA"⟩,
     ⟨0x0883, "ARABIC TATWEEL WITH ", "OVERSTRUCK HAMZA;OVERSTRUCK WAW;TWO DOTS BELOW"⟩,
     ⟨0x0886, "ARABIC ", "LETTER THIN YEH;BASELINE ROUND DOT;RAISED ROUND DOT"⟩,
     ⟨0x0889, "ARABIC LETTER ", "NOON WITH INVERTED SMALL V;HAH WITH INVERTED SMALL V BELOW"⟩,
     ⟨0x088B, "ARABIC LETTER TAH WITH ", "DOT BELOW;THREE DOTS BELOW"⟩,
     ⟨0x088D, "ARABIC ", "LETTER KEHEH WITH TWO DOTS VERTICALLY BELOW;VERTICAL TAIL"⟩,
     ⟨0x0890, "ARABIC ", "POUND MARK ABOVE;PIASTRE MARK ABOVE"⟩,
     ⟨0x0897, "ARABIC ", "PEPET;SMALL HIGH WORD AL-JUZ"⟩,
     ⟨0x0899, "ARABIC SMALL LOW WORD ", "ISHMAAM;IMAALA;TASHEEL"⟩,
     ⟨0x089C, "", "ARABIC MADDA WAAJIB"⟩,
     ⟨0x089D, "ARABIC ", "SUPERSCRIPT ALEF MOKHASSAS;DOUBLED MADDA;HALF MADDA OVER MADDA"⟩]

/-- Names in the block Arabic Extended-A. -/
def arabicExtendedA : NameBlock where
  first := 0x08A0
  last := 0x08FF
  rows :=
    [⟨0x08A0, "ARABIC LETTER BEH WITH ", "SMALL V BELOW;HAMZA ABOVE"⟩,
     ⟨0x08A2, "ARABIC LETTER ", "JEEM WITH TWO DOTS ABOVE;TAH WITH TWO DOTS ABOVE"⟩,
     ⟨0x08A4, "ARABIC LETTER ", "FEH WITH DOT BELOW AND THREE DOTS ABOVE;QAF WITH DOT BELOW"⟩,
     ⟨0x08A6, "ARABIC LETTER ", "LAM WITH DOUBLE BAR;MEEM WITH THREE DOTS ABOVE"⟩,
     ⟨0x08A8, "ARABIC LETTER YEH WITH TWO DOTS BELOW AND ", "HAMZA ABOVE;DOT ABOVE"⟩,
     ⟨0x08AA, "ARABIC LETTER ", "REH WITH LOOP;WAW WITH DOT WITHIN"⟩,
     ⟨0x08AC, "ARABIC LETTER ", "ROHINGYA YEH;LOW ALEF;DAL WITH THREE DOTS BELOW"⟩,
     ⟨0x08AF, "ARABIC LETTER ", "SAD WITH THREE DOTS BELOW;GAF WITH INVERTED STROKE;STRAIGHT WAW"⟩,
     ⟨0x08B2, "ARABIC LETTER ", "ZAIN WITH INVERTED V ABOVE;AIN WITH THREE DOTS BELOW"⟩,
     ⟨0x08B4, "ARABIC LETTER ", "KAF WITH DOT BELOW;QAF WITH DOT BELOW AND NO DOTS ABOVE"⟩,
     ⟨0x08B6, "ARABIC LETTER ", "BEH WITH SMALL MEEM ABOVE;PEH WITH SMALL MEEM ABOVE"⟩,
     ⟨0x08B8, "ARABIC LETTER ", "TEH WITH SMALL TEH ABOVE;REH WITH SMALL NOON ABOVE"⟩,
     ⟨0x08BA, "ARABIC LETTER ", "YEH WITH TWO DOTS BELOW AND SMALL NOON ABOVE;AFRICAN FEH"⟩,
     ⟨0x08BC, "ARABIC LETTER ", "AFRICAN QAF;AFRICAN NOON;PEH WITH SMALL V;TEH WITH SMALL V"⟩,
     ⟨0x08C0, "ARABIC LETTER ", "TTEH WITH SMALL V;TCHEH WITH SMALL V;KEHEH WITH SMALL V"⟩,
     ⟨0x08C3, "ARABIC LETTER ", "GHAIN WITH THREE DOTS ABOVE;AFRICAN QAF WITH THREE DOTS ABOVE"⟩,
     ⟨0x08C5, "ARABIC LETTER JEEM WITH THREE DOTS ", "ABOVE;BELOW"⟩,
     ⟨0x08C7, "ARABIC LETTER ", "LAM WITH SMALL ARABIC LETTER TAH ABOVE;GRAF"⟩,
     ⟨0x08C9, "", "ARABIC SMALL FARSI YEH"⟩,
     ⟨0x08CA, "ARABIC SMALL HIGH ", "FARSI YEH;YEH BARREE WITH TWO DOTS BELOW;WORD SAH;ZAH"⟩,
     ⟨0x08CE, "ARABIC LARGE ROUND DOT ", "ABOVE;BELOW"⟩,
     ⟨0x08D0, "ARABIC ", "SUKUN BELOW;LARGE CIRCLE BELOW;LARGE ROUND DOT INSIDE CIRCLE BELOW"⟩,
     ⟨0x08D3, "ARABIC SMALL ", "LOW WAW;HIGH WORD AR-RUB;HIGH SAD"⟩,
     ⟨0x08D6, "ARABIC SMALL ", "HIGH AIN;HIGH QAF;HIGH NOON WITH KASRA;LOW NOON WITH KASRA"⟩,
     ⟨0x08DA, "ARABIC SMALL HIGH WORD ", "ATH-THALATHA;AS-SAJDA;AN-NISF;SAKTA;QIF;WAQFA"⟩,
     ⟨0x08E0, "ARABIC SMALL HIGH ", "FOOTNOTE MARKER;SIGN SAFHA"⟩,
     ⟨0x08E2, "ARABIC ", "DISPUTED END OF AYAH;TURNED DAMMA BELOW"⟩,
     ⟨0x08E4, "ARABIC CURLY ", "FATHA;DAMMA;KASRA;FATHATAN;DAMMATAN;KASRATAN"⟩,
     ⟨0x08EA, "ARABIC TONE ", "ONE DOT ABOVE;TWO DOTS ABOVE;LOOP ABOVE;ONE DOT BELOW"⟩,
     ⟨0x08EE, "ARABIC ", "TONE TWO DOTS BELOW;TONE LOOP BELOW;OPEN FATHATAN"⟩,
     ⟨0x08F1, "ARABIC ", "OPEN DAMMATAN;OPEN KASRATAN;SMALL HIGH WAW;FATHA WITH RING"⟩,
     ⟨0x08F5, "ARABIC ", "FATHA WITH DOT ABOVE;KASRA WITH DOT BELOW;LEFT ARROWHEAD ABOVE"⟩,
     ⟨0x08F8, "ARABIC ", "RIGHT ARROWHEAD ABOVE;LEFT ARROWHEAD BELOW;RIGHT ARROWHEAD BELOW"⟩,
     ⟨0x08FB, "ARABIC DOUBLE RIGHT ARROWHEAD ", "ABOVE;ABOVE WITH DOT"⟩,
     ⟨0x08FD, "ARABIC ", "RIGHT ARROWHEAD ABOVE WITH DOT;DAMMA WITH DOT;MARK SIDEWAYS NOON GHUNNA"⟩]

/-- Names in the block Arabic Presentation Forms-A. -/
def arabicPresentationFormsA : NameBlock where
  first := 0xFB50
  last := 0xFDFF
  rows :=
    [⟨0xFB50, "ARABIC LETTER ALEF WASLA ", "ISOLATED FORM;FINAL FORM"⟩,
     ⟨0xFB52, "ARABIC LETTER BEEH ", "ISOLATED FORM;FINAL FORM;INITIAL FORM;MEDIAL FORM"⟩,
     ⟨0xFB56, "ARABIC LETTER PEH ", "ISOLATED FORM;FINAL FORM;INITIAL FORM;MEDIAL FORM"⟩,
     ⟨0xFB5A, "ARABIC LETTER BEHEH ", "ISOLATED FORM;FINAL FORM;INITIAL FORM;MEDIAL FORM"⟩,
     ⟨0xFB5E, "ARABIC LETTER TTEHEH ", "ISOLATED FORM;FINAL FORM;INITIAL FORM;MEDIAL FORM"⟩,
     ⟨0xFB62, "ARABIC LETTER TEHEH ", "ISOLATED FORM;FINAL FORM;INITIAL FORM;MEDIAL FORM"⟩,
     ⟨0xFB66, "ARABIC LETTER TTEH ", "ISOLATED FORM;FINAL FORM;INITIAL FORM;MEDIAL FORM"⟩,
     ⟨0xFB6A, "ARABIC LETTER VEH ", "ISOLATED FORM;FINAL FORM;INITIAL FORM;MEDIAL FORM"⟩,
     ⟨0xFB6E, "ARABIC LETTER PEHEH ", "ISOLATED FORM;FINAL FORM;INITIAL FORM;MEDIAL FORM"⟩,
     ⟨0xFB72, "ARABIC LETTER DYEH ", "ISOLATED FORM;FINAL FORM;INITIAL FORM;MEDIAL FORM"⟩,
     ⟨0xFB76, "ARABIC LETTER NYEH ", "ISOLATED FORM;FINAL FORM;INITIAL FORM;MEDIAL FORM"⟩,
     ⟨0xFB7A, "ARABIC LETTER TCHEH ", "ISOLATED FORM;FINAL FORM;INITIAL FORM;MEDIAL FORM"⟩,
     ⟨0xFB7E, "ARABIC LETTER TCHEHEH ", "ISOLATED FORM;FINAL FORM;INITIAL FORM;MEDIAL FORM"⟩,
     ⟨0xFB82, "ARABIC LETTER ", "DDAHAL ISOLATED FORM;DDAHAL FINAL FORM;DAHAL ISOLATED FORM"⟩,
     ⟨0xFB85, "ARABIC LETTER ", "DAHAL FINAL FORM;DUL ISOLATED FORM;DUL FINAL FORM"⟩,
     ⟨0xFB88, "ARABIC LETTER ", "DDAL ISOLATED FORM;DDAL FINAL FORM;JEH ISOLATED FORM"⟩,
     ⟨0xFB8B, "ARABIC LETTER ", "JEH FINAL FORM;RREH ISOLATED FORM;RREH FINAL FORM"⟩,
     ⟨0xFB8E, "ARABIC LETTER KEHEH ", "ISOLATED FORM;FINAL FORM;INITIAL FORM;MEDIAL FORM"⟩,
     ⟨0xFB92, "ARABIC LETTER GAF ", "ISOLATED FORM;FINAL FORM;INITIAL FORM;MEDIAL FORM"⟩,
     ⟨0xFB96, "ARABIC LETTER GUEH ", "ISOLATED FORM;FINAL FORM;INITIAL FORM;MEDIAL FORM"⟩,
     ⟨0xFB9A, "ARABIC LETTER NGOEH ", "ISOLATED FORM;FINAL FORM;INITIAL FORM;MEDIAL FORM"⟩,
     ⟨0xFB9E, "ARABIC LETTER NOON GHUNNA ", "ISOLATED FORM;FINAL FORM"⟩,
     ⟨0xFBA0, "ARABIC LETTER RNOON ", "ISOLATED FORM;FINAL FORM;INITIAL FORM;MEDIAL FORM"⟩,
     ⟨0xFBA4, "ARABIC LETTER HEH WITH YEH ABOVE ", "ISOLATED FORM;FINAL FORM"⟩,
     ⟨0xFBA6, "ARABIC LETTER HEH GOAL ", "ISOLATED FORM;FINAL FORM;INITIAL FORM;MEDIAL FORM"⟩,
     ⟨0xFBAA, "", "ARABIC LETTER HEH DOACHASHMEE ISOLATED FORM"⟩,
     ⟨0xFBAB, "ARABIC LETTER HEH DOACHASHMEE ", "FINAL FORM;INITIAL FORM;MEDIAL FORM"⟩,
     ⟨0xFBAE, "ARABIC LETTER YEH BARREE ", "ISOLATED FORM;FINAL FORM"⟩,
     ⟨0xFBB0, "ARABIC LETTER YEH BARREE WITH HAMZA ABOVE ", "ISOLATED FORM;FINAL FORM"⟩,
     ⟨0xFBB2, "ARABIC SYMBOL ", "DOT ABOVE;DOT BELOW;TWO DOTS ABOVE;TWO DOTS BELOW"⟩,
     ⟨0xFBB6, "ARABIC SYMBOL THREE DOTS ", "ABOVE;BELOW"⟩,
     ⟨0xFBB8, "ARABIC SYMBOL THREE DOTS POINTING DOWNWARDS ", "ABOVE;BELOW"⟩,
     ⟨0xFBBA, "ARABIC SYMBOL ", "FOUR DOTS ABOVE;FOUR DOTS BELOW;DOUBLE VERTICAL BAR BELOW"⟩,
     ⟨0xFBBD, "ARABIC SYMBOL TWO DOTS VERTICALLY ", "ABOVE;BELOW"⟩,
     ⟨0xFBBF, "ARABIC SYMBOL ", "RING;SMALL TAH ABOVE;SMALL TAH BELOW;WASLA ABOVE"⟩,
     ⟨0xFBD3, "ARABIC LETTER NG ", "ISOLATED FORM;FINAL FORM;INITIAL FORM;MEDIAL FORM"⟩,
     ⟨0xFBD7, "ARABIC LETTER ", "U ISOLATED FORM;U FINAL FORM;OE ISOLATED FORM;OE FINAL FORM"⟩,
     ⟨0xFBDB, "ARABIC LETTER ", "YU ISOLATED FORM;YU FINAL FORM;U WITH HAMZA ABOVE ISOLATED FORM"⟩,
     ⟨0xFBDE, "ARABIC LETTER ", "VE ISOLATED FORM;VE FINAL FORM;KIRGHIZ OE ISOLATED FORM"⟩,
     ⟨0xFBE1, "ARABIC LETTER KIRGHIZ ", "OE FINAL FORM;YU ISOLATED FORM;YU FINAL FORM"⟩,
     ⟨0xFBE4, "ARABIC LETTER E ", "ISOLATED FORM;FINAL FORM;INITIAL FORM;MEDIAL FORM"⟩,
     ⟨0xFBE8, "ARABIC LETTER UIGHUR KAZAKH KIRGHIZ ALEF MAKSURA ", "INITIAL FORM;MEDIAL FORM"⟩,
     ⟨0xFBEA, "ARABIC LIGATURE YEH WITH HAMZA ABOVE WITH ALEF ", "ISOLATED FORM;FINAL FORM"⟩,
     ⟨0xFBEC, "ARABIC LIGATURE YEH WITH HAMZA ABOVE WITH AE ", "ISOLATED FORM;FINAL FORM"⟩,
     ⟨0xFBEE, "ARABIC LIGATURE YEH WITH HAMZA ABOVE WITH WAW ", "ISOLATED FORM;FINAL FORM"⟩,
     ⟨0xFBF0, "ARABIC LIGATURE YEH WITH HAMZA ABOVE WITH U ", "ISOLATED FORM;FINAL FORM"⟩,
     ⟨0xFBF2, "ARABIC LIGATURE YEH WITH HAMZA ABOVE WITH OE ", "ISOLATED FORM;FINAL FORM"⟩,
     ⟨0xFBF4, "ARABIC LIGATURE YEH WITH HAMZA ABOVE WITH YU ", "ISOLATED FORM;FINAL FORM"⟩,
     ⟨0xFBF6, "", "ARABIC LIGATURE YEH WITH HAMZA ABOVE WITH E ISOLATED FORM"⟩,
     ⟨0xFBF7, "ARABIC LIGATURE YEH WITH HAMZA ABOVE WITH E ", "FINAL FORM;INITIAL FORM"⟩,
     ⟨0xFBF9, "ARABIC LIGATURE UIGHUR KIRGHIZ YEH WITH HAMZA ABOVE WITH ",
      "ALEF MAKSURA ISOLATED FORM"⟩,
     ⟨0xFBFA, "ARABIC LIGATURE UIGHUR KIRGHIZ YEH WITH HAMZA ABOVE WITH ",
      "ALEF MAKSURA FINAL FORM"⟩,
     ⟨0xFBFB, "ARABIC LIGATURE UIGHUR KIRGHIZ YEH WITH HAMZA ABOVE WITH ",
      "ALEF MAKSURA INITIAL FORM"⟩,
     ⟨0xFBFC, "ARABIC LETTER FARSI YEH ", "ISOLATED FORM;FINAL FORM;INITIAL FORM;MEDIAL FORM"⟩,
     ⟨0xFC00, "", "ARABIC LIGATURE YEH WITH HAMZA ABOVE WITH JEEM ISOLATED FORM"⟩,
     ⟨0xFC01, "ARABIC LIGATURE YEH WITH HAMZA ABOVE WITH ", "HAH ISOLATED FORM;MEEM ISOLATED FORM"⟩,
     ⟨0xFC03, "", "ARABIC LIGATURE YEH WITH HAMZA ABOVE WITH ALEF MAKSURA ISOLATED FORM"⟩,
     ⟨0xFC04, "", "ARABIC LIGATURE YEH WITH HAMZA ABOVE WITH YEH ISOLATED FORM"⟩,
     ⟨0xFC05, "ARABIC LIGATURE BEH WITH ", "JEEM ISOLATED FORM;HAH ISOLATED FORM"⟩,
     ⟨0xFC07, "ARABIC LIGATURE BEH WITH ", "KHAH ISOLATED FORM;MEEM ISOLATED FORM"⟩,
     ⟨0xFC09, "ARABIC LIGATURE BEH WITH ", "ALEF MAKSURA ISOLATED FORM;YEH ISOLATED FORM"⟩,
     ⟨0xFC0B, "ARABIC LIGATURE TEH WITH ", "JEEM ISOLATED FORM;HAH ISOLATED FORM"⟩,
     ⟨0xFC0D, "ARABIC LIGATURE TEH WITH ", "KHAH ISOLATED FORM;MEEM ISOLATED FORM"⟩,
     ⟨0xFC0F, "ARABIC LIGATURE TEH WITH ", "ALEF MAKSURA ISOLATED FORM;YEH ISOLATED FORM"⟩,
     ⟨0xFC11, "ARABIC LIGATURE THEH WITH ", "JEEM ISOLATED FORM;MEEM ISOLATED FORM"⟩,
     ⟨0xFC13, "ARABIC LIGATURE THEH WITH ", "ALEF MAKSURA ISOLATED FORM;YEH ISOLATED FORM"⟩,
     ⟨0xFC15, "ARABIC LIGATURE JEEM WITH ", "HAH ISOLATED FORM;MEEM ISOLATED FORM"⟩,
     ⟨0xFC17, "ARABIC LIGATURE HAH WITH ", "JEEM ISOLATED FORM;MEEM ISOLATED FORM"⟩,
     ⟨0xFC19, "", "ARABIC LIGATURE KHAH WITH JEEM ISOLATED FORM"⟩,
     ⟨0xFC1A, "ARABIC LIGATURE KHAH WITH ", "HAH ISOLATED FORM;MEEM ISOLATED FORM"⟩,
     ⟨0xFC1C, "ARABIC LIGATURE SEEN WITH ", "JEEM ISOLATED FORM;HAH ISOLATED FORM"⟩,
     ⟨0xFC1E, "ARABIC LIGATURE SEEN WITH ", "KHAH ISOLATED FORM;MEEM ISOLATED FORM"⟩,
     ⟨0xFC20, "ARABIC LIGATURE SAD WITH ", "HAH ISOLATED FORM;MEEM ISOLATED FORM"⟩,
     ⟨0xFC22, "ARABIC LIGATURE DAD WITH ", "JEEM ISOLATED FORM;HAH ISOLATED FORM"⟩,
     ⟨0xFC24, "ARABIC LIGATURE DAD WITH ", "KHAH ISOLATED FORM;MEEM ISOLATED FORM"⟩,
     ⟨0xFC26, "ARABIC LIGATURE TAH WITH ", "HAH ISOLATED FORM;MEEM ISOLATED FORM"⟩,
     ⟨0xFC28, "", "ARABIC LIGATURE ZAH WITH MEEM ISOLATED FORM"⟩,
     ⟨0xFC29, "ARABIC LIGATURE AIN WITH ", "JEEM ISOLATED FORM;MEEM ISOLATED FORM"⟩,
     ⟨0xFC2B, "ARABIC LIGATURE GHAIN WITH ", "JEEM ISOLATED FORM;MEEM ISOLATED FORM"⟩,
     ⟨0xFC2D, "ARABIC LIGATURE FEH WITH ", "JEEM ISOLATED FORM;HAH ISOLATED FORM"⟩,
     ⟨0xFC2F, "ARABIC LIGATURE FEH WITH ", "KHAH ISOLATED FORM;MEEM ISOLATED FORM"⟩,
     ⟨0xFC31, "ARABIC LIGATURE FEH WITH ", "ALEF MAKSURA ISOLATED FORM;YEH ISOLATED FORM"⟩,
     ⟨0xFC33, "ARABIC LIGATURE QAF WITH ", "HAH ISOLATED FORM;MEEM ISOLATED FORM"⟩,
     ⟨0xFC35, "ARABIC LIGATURE QAF WITH ", "ALEF MAKSURA ISOLATED FORM;YEH ISOLATED FORM"⟩,
     ⟨0xFC37, "ARABIC LIGATURE KAF WITH ", "ALEF ISOLATED FORM;JEEM ISOLATED FORM"⟩,
     ⟨0xFC39, "ARABIC LIGATURE KAF WITH ", "HAH ISOLATED FORM;KHAH ISOLATED FORM"⟩,
     ⟨0xFC3B, "ARABIC LIGATURE KAF WITH ", "LAM ISOLATED FORM;MEEM ISOLATED FORM"⟩,
     ⟨0xFC3D, "ARABIC LIGATURE KAF WITH ", "ALEF MAKSURA ISOLATED FORM;YEH ISOLATED FORM"⟩,
     ⟨0xFC3F, "ARABIC LIGATURE LAM WITH ", "JEEM ISOLATED FORM;HAH ISOLATED FORM"⟩,
     ⟨0xFC41, "ARABIC LIGATURE LAM WITH ", "KHAH ISOLATED FORM;MEEM ISOLATED FORM"⟩,
     ⟨0xFC43, "ARABIC LIGATURE LAM WITH ", "ALEF MAKSURA ISOLATED FORM;YEH ISOLATED FORM"⟩,
     ⟨0xFC45, "ARABIC LIGATURE MEEM WITH ", "JEEM ISOLATED FORM;HAH ISOLATED FORM"⟩,
     ⟨0xFC47, "ARABIC LIGATURE MEEM WITH ", "KHAH ISOLATED FORM;MEEM ISOLATED FORM"⟩,
     ⟨0xFC49, "ARABIC LIGATURE MEEM WITH ", "ALEF MAKSURA ISOLATED FORM;YEH ISOLATED FORM"⟩,
     ⟨0xFC4B, "ARABIC LIGATURE NOON WITH ", "JEEM ISOLATED FORM;HAH ISOLATED FORM"⟩,
     ⟨0xFC4D, "ARABIC LIGATURE NOON WITH ", "KHAH ISOLATED FORM;MEEM ISOLATED FORM"⟩,
     ⟨0xFC4F, "ARABIC LIGATURE NOON WITH ", "ALEF MAKSURA ISOLATED FORM;YEH ISOLATED FORM"⟩,
     ⟨0xFC51, "ARABIC LIGATURE HEH WITH ", "JEEM ISOLATED FORM;MEEM ISOLATED FORM"⟩,
     ⟨0xFC53, "ARABIC LIGATURE HEH WITH ", "ALEF MAKSURA ISOLATED FORM;YEH ISOLATED FORM"⟩,
     ⟨0xFC55, "ARABIC LIGATURE YEH WITH ", "JEEM ISOLATED FORM;HAH ISOLATED FORM"⟩,
     ⟨0xFC57, "ARABIC LIGATURE YEH WITH ", "KHAH ISOLATED FORM;MEEM ISOLATED FORM"⟩,
     ⟨0xFC59, "ARABIC LIGATURE YEH WITH ", "ALEF MAKSURA ISOLATED FORM;YEH ISOLATED FORM"⟩,
     ⟨0xFC5B, "", "ARABIC LIGATURE THAL WITH SUPERSCRIPT ALEF ISOLATED FORM"⟩,
     ⟨0xFC5C, "", "ARABIC LIGATURE REH WITH SUPERSCRIPT ALEF ISOLATED FORM"⟩,
     ⟨0xFC5D, "", "ARABIC LIGATURE ALEF MAKSURA WITH SUPERSCRIPT ALEF ISOLATED FORM"⟩,
     ⟨0xFC5E, "ARABIC LIGATURE SHADDA WITH ", "DAMMATAN ISOLATED FORM;KASRATAN ISOLATED FORM"⟩,
     ⟨0xFC60, "ARABIC LIGATURE SHADDA WITH ", "FATHA ISOLATED FORM;DAMMA ISOLATED FORM"⟩,
     ⟨0xFC62, "ARABIC LIGATURE SHADDA WITH ", "KASRA ISOLATED FORM;SUPERSCRIPT ALEF ISOLATED FORM"⟩,
     ⟨0xFC64, "ARABIC LIGATURE YEH WITH HAMZA ABOVE WITH ", "REH FINAL FORM;ZAIN FINAL FORM"⟩,
     ⟨0xFC66, "ARABIC LIGATURE YEH WITH HAMZA ABOVE WITH ", "MEEM FINAL FORM;NOON FINAL FORM"⟩,
     ⟨0xFC68, "", "ARABIC LIGATURE YEH WITH HAMZA ABOVE WITH ALEF MAKSURA FINAL FORM"⟩,
     ⟨0xFC69, "", "ARABIC LIGATURE YEH WITH HAMZA ABOVE WITH YEH FINAL FORM"⟩,
     ⟨0xFC6A, "", "ARABIC LIGATURE BEH WITH REH FINAL FORM"⟩,
     ⟨0xFC6B, "ARABIC LIGATURE BEH WITH ", "ZAIN FINAL FORM;MEEM FINAL FORM;NOON FINAL FORM"⟩,
     ⟨0xFC6E, "ARABIC LIGATURE BEH WITH ", "ALEF MAKSURA FINAL FORM;YEH FINAL FORM"⟩,
     ⟨0xFC70, "ARABIC LIGATURE TEH WITH ", "REH FINAL FORM;ZAIN FINAL FORM;MEEM FINAL FORM"⟩,
     ⟨0xFC73, "ARABIC LIGATURE TEH WITH ", "NOON FINAL FORM;ALEF MAKSURA FINAL FORM"⟩,
     ⟨0xFC75, "ARABIC LIGATURE ", "TEH WITH YEH FINAL FORM;THEH WITH REH FINAL FORM"⟩,
     ⟨0xFC77, "ARABIC LIGATURE THEH WITH ", "ZAIN FINAL FORM;MEEM FINAL FORM;NOON FINAL FORM"⟩,
     ⟨0xFC7A, "ARABIC LIGATURE THEH WITH ", "ALEF MAKSURA FINAL FORM;YEH FINAL FORM"⟩,
     ⟨0xFC7C, "ARABIC LIGATURE FEH WITH ", "ALEF MAKSURA FINAL FORM;YEH FINAL FORM"⟩,
     ⟨0xFC7E, "ARABIC LIGATURE QAF WITH ", "ALEF MAKSURA FINAL FORM;YEH FINAL FORM"⟩,
     ⟨0xFC80, "ARABIC LIGATURE KAF WITH ", "ALEF FINAL FORM;LAM FINAL FORM;MEEM FINAL FORM"⟩,
     ⟨0xFC83, "ARABIC LIGATURE KAF WITH ", "ALEF MAKSURA FINAL FORM;YEH FINAL FORM"⟩,
     ⟨0xFC85, "ARABIC LIGATURE LAM WITH ", "MEEM FINAL FORM;ALEF MAKSURA FINAL FORM"⟩,
     ⟨0xFC87, "ARABIC LIGATURE ", "LAM WITH YEH FINAL FORM;MEEM WITH ALEF FINAL FORM"⟩,
     ⟨0xFC89, "ARABIC LIGATURE ", "MEEM WITH MEEM FINAL FORM;NOON WITH REH FINAL FORM"⟩,
     ⟨0xFC8B, "ARABIC LIGATURE NOON WITH ", "ZAIN FINAL FORM;MEEM FINAL FORM;NOON FINAL FORM"⟩,
     ⟨0xFC8E, "ARABIC LIGATURE NOON WITH ", "ALEF MAKSURA FINAL FORM;YEH FINAL FORM"⟩,
     ⟨0xFC90, "", "ARABIC LIGATURE ALEF MAKSURA WITH SUPERSCRIPT ALEF FINAL FORM"⟩,
     ⟨0xFC91, "ARABIC LIGATURE YEH WITH ", "REH FINAL FORM;ZAIN FINAL FORM;MEEM FINAL FORM"⟩,
     ⟨0xFC94, "ARABIC LIGATURE YEH WITH ", "NOON FINAL FORM;ALEF MAKSURA FINAL FORM"⟩,
     ⟨0xFC96, "ARABIC LIGATURE YEH WITH ", "YEH FINAL FORM;HAMZA ABOVE WITH JEEM INITIAL FORM"⟩,
     ⟨0xFC98, "ARABIC LIGATURE YEH WITH HAMZA ABOVE WITH ", "HAH INITIAL FORM;KHAH INITIAL FORM"⟩,
     ⟨0xFC9A, "ARABIC LIGATURE YEH WITH HAMZA ABOVE WITH ", "MEEM INITIAL FORM;HEH INITIAL FORM"⟩,
     ⟨0xFC9C, "ARABIC LIGATURE BEH WITH ", "JEEM INITIAL FORM;HAH INITIAL FORM"⟩,
     ⟨0xFC9E, "ARABIC LIGATURE BEH WITH ", "KHAH INITIAL FORM;MEEM INITIAL FORM;HEH INITIAL FORM"⟩,
     ⟨0xFCA1, "ARABIC LIGATURE TEH WITH ", "JEEM INITIAL FORM;HAH INITIAL FORM"⟩,
     ⟨0xFCA3, "ARABIC LIGATURE TEH WITH ", "KHAH INITIAL FORM;MEEM INITIAL FORM;HEH INITIAL FORM"⟩,
     ⟨0xFCA6, "ARABIC LIGATURE ", "THEH WITH MEEM INITIAL FORM;JEEM WITH HAH INITIAL FORM"⟩,
     ⟨0xFCA8, "ARABIC LIGATURE ", "JEEM WITH MEEM INITIAL FORM;HAH WITH JEEM INITIAL FORM"⟩,
     ⟨0xFCAA, "ARABIC LIGATURE ", "HAH WITH MEEM INITIAL FORM;KHAH WITH JEEM INITIAL FORM"⟩,
     ⟨0xFCAC, "ARABIC LIGATURE ", "KHAH WITH MEEM INITIAL FORM;SEEN WITH JEEM INITIAL FORM"⟩,
     ⟨0xFCAE, "ARABIC LIGATURE SEEN WITH ", "HAH INITIAL FORM;KHAH INITIAL FORM;MEEM INITIAL FORM"⟩,
     ⟨0xFCB1, "ARABIC LIGATURE SAD WITH ", "HAH INITIAL FORM;KHAH INITIAL FORM;MEEM INITIAL FORM"⟩,
     ⟨0xFCB4, "ARABIC LIGATURE DAD WITH ", "JEEM INITIAL FORM;HAH INITIAL FORM;KHAH INITIAL FORM"⟩,
     ⟨0xFCB7, "ARABIC LIGATURE ", "DAD WITH MEEM INITIAL FORM;TAH WITH HAH INITIAL FORM"⟩,
     ⟨0xFCB9, "ARABIC LIGATURE ", "ZAH WITH MEEM INITIAL FORM;AIN WITH JEEM INITIAL FORM"⟩,
     ⟨0xFCBB, "ARABIC LIGATURE ", "AIN WITH MEEM INITIAL FORM;GHAIN WITH JEEM INITIAL FORM"⟩,
     ⟨0xFCBD, "ARABIC LIGATURE ", "GHAIN WITH MEEM INITIAL FORM;FEH WITH JEEM INITIAL FORM"⟩,
     ⟨0xFCBF, "ARABIC LIGATURE FEH WITH ", "HAH INITIAL FORM;KHAH INITIAL FORM;MEEM INITIAL FORM"⟩,
     ⟨0xFCC2, "ARABIC LIGATURE QAF WITH ", "HAH INITIAL FORM;MEEM INITIAL FORM"⟩,
     ⟨0xFCC4, "ARABIC LIGATURE KAF WITH ", "JEEM INITIAL FORM;HAH INITIAL FORM"⟩,
     ⟨0xFCC6, "ARABIC LIGATURE KAF WITH ", "KHAH INITIAL FORM;LAM INITIAL FORM;MEEM INITIAL FORM"⟩,
     ⟨0xFCC9, "ARABIC LIGATURE LAM WITH ", "JEEM INITIAL FORM;HAH INITIAL FORM"⟩,
     ⟨0xFCCB, "ARABIC LIGATURE LAM WITH ", "KHAH INITIAL FORM;MEEM INITIAL FORM;HEH INITIAL FORM"⟩,
     ⟨0xFCCE, "ARABIC LIGATURE MEEM WITH ", "JEEM INITIAL FORM;HAH INITIAL FORM;KHAH INITIAL FORM"⟩,
     ⟨0xFCD1, "ARABIC LIGATURE ", "MEEM WITH MEEM INITIAL FORM;NOON WITH JEEM INITIAL FORM"⟩,
     ⟨0xFCD3, "ARABIC LIGATURE NOON WITH ", "HAH INITIAL FORM;KHAH INITIAL FORM;MEEM INITIAL FORM"⟩,
     ⟨0xFCD6, "ARABIC LIGATURE ", "NOON WITH HEH INITIAL FORM;HEH WITH JEEM INITIAL FORM"⟩,
     ⟨0xFCD8, "ARABIC LIGATURE HEH WITH ", "MEEM INITIAL FORM;SUPERSCRIPT ALEF INITIAL FORM"⟩,
     ⟨0xFCDA, "ARABIC LIGATURE YEH WITH ", "JEEM INITIAL FORM;HAH INITIAL FORM"⟩,
     ⟨0xFCDC, "ARABIC LIGATURE YEH WITH ", "KHAH INITIAL FORM;MEEM INITIAL FORM;HEH INITIAL FORM"⟩,
     ⟨0xFCDF, "ARABIC LIGATURE YEH WITH HAMZA ABOVE WITH ", "MEEM MEDIAL FORM;HEH MEDIAL FORM"⟩,
     ⟨0xFCE1, "ARABIC LIGATURE BEH WITH ", "MEEM MEDIAL FORM;HEH MEDIAL FORM"⟩,
     ⟨0xFCE3, "ARABIC LIGATURE TEH WITH ", "MEEM MEDIAL FORM;HEH MEDIAL FORM"⟩,
     ⟨0xFCE5, "ARABIC LIGATURE THEH WITH ", "MEEM MEDIAL FORM;HEH MEDIAL FORM"⟩,
     ⟨0xFCE7, "ARABIC LIGATURE SEEN WITH ", "MEEM MEDIAL FORM;HEH MEDIAL FORM"⟩,
     ⟨0xFCE9, "ARABIC LIGATURE SHEEN WITH ", "MEEM MEDIAL FORM;HEH MEDIAL FORM"⟩,
     ⟨0xFCEB, "ARABIC LIGATURE KAF WITH ", "LAM MEDIAL FORM;MEEM MEDIAL FORM"⟩,
     ⟨0xFCED, "ARABIC LIGATURE ", "LAM WITH MEEM MEDIAL FORM;NOON WITH MEEM MEDIAL FORM"⟩,
     ⟨0xFCEF, "ARABIC LIGATURE ", "NOON WITH HEH MEDIAL FORM;YEH WITH MEEM MEDIAL FORM"⟩,
     ⟨0xFCF1, "ARABIC LIGATURE ", "YEH WITH HEH MEDIAL FORM;SHADDA WITH FATHA MEDIAL FORM"⟩,
     ⟨0xFCF3, "ARABIC LIGATURE SHADDA WITH ", "DAMMA MEDIAL FORM;KASRA MEDIAL FORM"⟩,
     ⟨0xFCF5, "ARABIC LIGATURE TAH WITH ", "ALEF MAKSURA ISOLATED FORM;YEH ISOLATED FORM"⟩,
     ⟨0xFCF7, "ARABIC LIGATURE AIN WITH ", "ALEF MAKSURA ISOLATED FORM;YEH ISOLATED FORM"⟩,
     ⟨0xFCF9, "ARABIC LIGATURE GHAIN WITH ", "ALEF MAKSURA ISOLATED FORM;YEH ISOLATED FORM"⟩,
     ⟨0xFCFB, "ARABIC LIGATURE SEEN WITH ", "ALEF MAKSURA ISOLATED FORM;YEH ISOLATED FORM"⟩,
     ⟨0xFCFD, "ARABIC LIGATURE SHEEN WITH ", "ALEF MAKSURA ISOLATED FORM;YEH ISOLATED FORM"⟩,
     ⟨0xFCFF, "ARABIC LIGATURE HAH WITH ", "ALEF MAKSURA ISOLATED FORM;YEH ISOLATED FORM"⟩,
     ⟨0xFD01, "ARABIC LIGATURE JEEM WITH ", "ALEF MAKSURA ISOLATED FORM;YEH ISOLATED FORM"⟩,
     ⟨0xFD03, "ARABIC LIGATURE KHAH WITH ", "ALEF MAKSURA ISOLATED FORM;YEH ISOLATED FORM"⟩,
     ⟨0xFD05, "ARABIC LIGATURE SAD WITH ", "ALEF MAKSURA ISOLATED FORM;YEH ISOLATED FORM"⟩,
     ⟨0xFD07, "ARABIC LIGATURE DAD WITH ", "ALEF MAKSURA ISOLATED FORM;YEH ISOLATED FORM"⟩,
     ⟨0xFD09, "ARABIC LIGATURE SHEEN WITH ", "JEEM ISOLATED FORM;HAH ISOLATED FORM"⟩,
     ⟨0xFD0B, "ARABIC LIGATURE SHEEN WITH ", "KHAH ISOLATED FORM;MEEM ISOLATED FORM"⟩,
     ⟨0xFD0D, "ARABIC LIGATURE ", "SHEEN WITH REH ISOLATED FORM;SEEN WITH REH ISOLATED FORM"⟩,
     ⟨0xFD0F, "ARABIC LIGATURE ", "SAD WITH REH ISOLATED FORM;DAD WITH REH ISOLATED FORM"⟩,
     ⟨0xFD11, "ARABIC LIGATURE TAH WITH ", "ALEF MAKSURA FINAL FORM;YEH FINAL FORM"⟩,
     ⟨0xFD13, "ARABIC LIGATURE AIN WITH ", "ALEF MAKSURA FINAL FORM;YEH FINAL FORM"⟩,
     ⟨0xFD15, "ARABIC LIGATURE GHAIN WITH ", "ALEF MAKSURA FINAL FORM;YEH FINAL FORM"⟩,
     ⟨0xFD17, "ARABIC LIGATURE SEEN WITH ", "ALEF MAKSURA FINAL FORM;YEH FINAL FORM"⟩,
     ⟨0xFD19, "ARABIC LIGATURE SHEEN WITH ", "ALEF MAKSURA FINAL FORM;YEH FINAL FORM"⟩,
     ⟨0xFD1B, "ARABIC LIGATURE HAH WITH ", "ALEF MAKSURA FINAL FORM;YEH FINAL FORM"⟩,
     ⟨0xFD1D, "ARABIC LIGATURE JEEM WITH ", "ALEF MAKSURA FINAL FORM;YEH FINAL FORM"⟩,
     ⟨0xFD1F, "ARABIC LIGATURE KHAH WITH ", "ALEF MAKSURA FINAL FORM;YEH FINAL FORM"⟩,
     ⟨0xFD21, "ARABIC LIGATURE SAD WITH ", "ALEF MAKSURA FINAL FORM;YEH FINAL FORM"⟩,
     ⟨0xFD23, "ARABIC LIGATURE DAD WITH ", "ALEF MAKSURA FINAL FORM;YEH FINAL FORM"⟩,
     ⟨0xFD25, "ARABIC LIGATURE SHEEN WITH ", "JEEM FINAL FORM;HAH FINAL FORM"⟩,
     ⟨0xFD27, "ARABIC LIGATURE SHEEN WITH ", "KHAH FINAL FORM;MEEM FINAL FORM;REH FINAL FORM"⟩,
     ⟨0xFD2A, "ARABIC LIGATURE ", "SEEN WITH REH FINAL FORM;SAD WITH REH FINAL FORM"⟩,
     ⟨0xFD2C, "ARABIC LIGATURE ", "DAD WITH REH FINAL FORM;SHEEN WITH JEEM INITIAL FORM"⟩,
     ⟨0xFD2E, "ARABIC LIGATURE SHEEN WITH ", "HAH INITIAL FORM;KHAH INITIAL FORM"⟩,
     ⟨0xFD30, "ARABIC LIGATURE ", "SHEEN WITH MEEM INITIAL FORM;SEEN WITH HEH INITIAL FORM"⟩,
     ⟨0xFD32, "ARABIC LIGATURE ", "SHEEN WITH HEH INITIAL FORM;TAH WITH MEEM INITIAL FORM"⟩,
     ⟨0xFD34, "ARABIC LIGATURE SEEN WITH ", "JEEM MEDIAL FORM;HAH MEDIAL FORM;KHAH MEDIAL FORM"⟩,
     ⟨0xFD37, "ARABIC LIGATURE SHEEN WITH ", "JEEM MEDIAL FORM;HAH MEDIAL FORM;KHAH MEDIAL FORM"⟩,
     ⟨0xFD3A, "ARABIC LIGATURE ", "TAH WITH MEEM MEDIAL FORM;ZAH WITH MEEM MEDIAL FORM"⟩,
     ⟨0xFD3C, "ARABIC LIGATURE ALEF WITH FATHATAN ", "FINAL FORM;ISOLATED FORM"⟩,
     ⟨0xFD3E, "ORNATE ", "LEFT PARENTHESIS;RIGHT PARENTHESIS"⟩,
     ⟨0xFD40, "", "ARABIC LIGATURE RAHIMAHU ALLAAH"⟩,
     ⟨0xFD41, "ARABIC LIGATURE RADI ALLAAHU ", "ANH;ANHAA;ANHUM;ANHUMAA;ANHUNNA"⟩,
     ⟨0xFD46, "ARABIC LIGATURE ", "SALLALLAAHU ALAYHI WA-AALIH;ALAYHI AS-SALAAM;ALAYHIM AS-SALAAM"⟩,
     ⟨0xFD49, "ARABIC LIGATURE ", "ALAYHIMAA AS-SALAAM;ALAYHI AS-SALAATU WAS-SALAAM"⟩,
     ⟨0xFD4B, "ARABIC LIGATURE ", "QUDDISA SIRRAH;SALLALLAHU ALAYHI WAAALIHEE WA-SALLAM"⟩,
     ⟨0xFD4D, "ARABIC LIGATURE ", "ALAYHAA AS-SALAAM;TABAARAKA WA-TAAALAA;RAHIMAHUM ALLAAH"⟩,
     ⟨0xFD50, "ARABIC LIGATURE TEH WITH ", "JEEM WITH MEEM INITIAL FORM;HAH WITH JEEM FINAL FORM"⟩,
     ⟨0xFD52, "ARABIC LIGATURE TEH WITH HAH WITH ", "JEEM INITIAL FORM;MEEM INITIAL FORM"⟩,
     ⟨0xFD54, "", "ARABIC LIGATURE TEH WITH KHAH WITH MEEM INITIAL FORM"⟩,
     ⟨0xFD55, "", "ARABIC LIGATURE TEH WITH MEEM WITH JEEM INITIAL FORM"⟩,
     ⟨0xFD56, "ARABIC LIGATURE TEH WITH MEEM WITH ", "HAH INITIAL FORM;KHAH INITIAL FORM"⟩,
     ⟨0xFD58, "ARABIC LIGATURE JEEM WITH MEEM WITH HAH ", "FINAL FORM;INITIAL FORM"⟩,
     ⟨0xFD5A, "ARABIC LIGATURE HAH WITH MEEM WITH ", "YEH FINAL FORM;ALEF MAKSURA FINAL FORM"⟩,
     ⟨0xFD5C, "", "ARABIC LIGATURE SEEN WITH HAH WITH JEEM INITIAL FORM"⟩,
     ⟨0xFD5D, "ARABIC LIGATURE SEEN WITH JEEM WITH ", "HAH INITIAL FORM;ALEF MAKSURA FINAL FORM"⟩,
     ⟨0xFD5F, "ARABIC LIGATURE SEEN WITH MEEM WITH HAH ", "FINAL FORM;INITIAL FORM"⟩,
     ⟨0xFD61, "", "ARABIC LIGATURE SEEN WITH MEEM WITH JEEM INITIAL FORM"⟩,
     ⟨0xFD62, "ARABIC LIGATURE SEEN WITH MEEM WITH MEEM ", "FINAL FORM;INITIAL FORM"⟩,
     ⟨0xFD64, "ARABIC LIGATURE SAD WITH HAH WITH HAH ", "FINAL FORM;INITIAL FORM"⟩,
     ⟨0xFD66, "", "ARABIC LIGATURE SAD WITH MEEM WITH MEEM FINAL FORM"⟩,
     ⟨0xFD67, "ARABIC LIGATURE SHEEN WITH HAH WITH MEEM ", "FINAL FORM;INITIAL FORM"⟩,
     ⟨0xFD69, "", "ARABIC LIGATURE SHEEN WITH JEEM WITH YEH FINAL FORM"⟩,
     ⟨0xFD6A, "ARABIC LIGATURE SHEEN WITH MEEM WITH KHAH ", "FINAL FORM;INITIAL FORM"⟩,
     ⟨0xFD6C, "ARABIC LIGATURE SHEEN WITH MEEM WITH MEEM ", "FINAL FORM;INITIAL FORM"⟩,
     ⟨0xFD6E, "", "ARABIC LIGATURE DAD WITH HAH WITH ALEF MAKSURA FINAL FORM"⟩,
     ⟨0xFD6F, "ARABIC LIGATURE DAD WITH KHAH WITH MEEM ", "FINAL FORM;INITIAL FORM"⟩,
     ⟨0xFD71, "ARABIC LIGATURE TAH WITH MEEM WITH HAH ", "FINAL FORM;INITIAL FORM"⟩,
     ⟨0xFD73, "ARABIC LIGATURE TAH WITH MEEM WITH ", "MEEM INITIAL FORM;YEH FINAL FORM"⟩,
     ⟨0xFD75, "ARABIC LIGATURE AIN WITH ", "JEEM WITH MEEM FINAL FORM;MEEM WITH MEEM FINAL FORM"⟩,
     ⟨0xFD77, "ARABIC LIGATURE AIN WITH MEEM WITH ", "MEEM INITIAL FORM;ALEF MAKSURA FINAL FORM"⟩,
     ⟨0xFD79, "", "ARABIC LIGATURE GHAIN WITH MEEM WITH MEEM FINAL FORM"⟩,
     ⟨0xFD7A, "ARABIC LIGATURE GHAIN WITH MEEM WITH ", "YEH FINAL FORM;ALEF MAKSURA FINAL FORM"⟩,
     ⟨0xFD7C, "ARABIC LIGATURE FEH WITH KHAH WITH MEEM ", "FINAL FORM;INITIAL FORM"⟩,
     ⟨0xFD7E, "ARABIC LIGATURE QAF WITH MEEM WITH ", "HAH FINAL FORM;MEEM FINAL FORM"⟩,
     ⟨0xFD80, "", "ARABIC LIGATURE LAM WITH HAH WITH MEEM FINAL FORM"⟩,
     ⟨0xFD81, "ARABIC LIGATURE LAM WITH HAH WITH ", "YEH FINAL FORM;ALEF MAKSURA FINAL FORM"⟩,
     ⟨0xFD83, "ARABIC LIGATURE LAM WITH JEEM WITH JEEM ", "INITIAL FORM;FINAL FORM"⟩,
     ⟨0xFD85, "ARABIC LIGATURE LAM WITH KHAH WITH MEEM ", "FINAL FORM;INITIAL FORM"⟩,
     ⟨0xFD87, "ARABIC LIGATURE LAM WITH MEEM WITH HAH ", "FINAL FORM;INITIAL FORM"⟩,
     ⟨0xFD89, "", "ARABIC LIGATURE MEEM WITH HAH WITH JEEM INITIAL FORM"⟩,
     ⟨0xFD8A, "ARABIC LIGATURE MEEM WITH HAH WITH ", "MEEM INITIAL FORM;YEH FINAL FORM"⟩,
     ⟨0xFD8C, "ARABIC LIGATURE MEEM WITH JEEM WITH ", "HAH INITIAL FORM;MEEM INITIAL FORM"⟩,
     ⟨0xFD8E, "ARABIC LIGATURE MEEM WITH KHAH WITH ", "JEEM INITIAL FORM;MEEM INITIAL FORM"⟩,
     ⟨0xFD92, "", "ARABIC LIGATURE MEEM WITH JEEM WITH KHAH INITIAL FORM"⟩,
     ⟨0xFD93, "ARABIC LIGATURE HEH WITH MEEM WITH ", "JEEM INITIAL FORM;MEEM INITIAL FORM"⟩,
     ⟨0xFD95, "ARABIC LIGATURE NOON WITH HAH WITH ", "MEEM INITIAL FORM;ALEF MAKSURA FINAL FORM"⟩,
     ⟨0xFD97, "ARABIC LIGATURE NOON WITH JEEM WITH MEEM ", "FINAL FORM;INITIAL FORM"⟩,
     ⟨0xFD99, "", "ARABIC LIGATURE NOON WITH JEEM WITH ALEF MAKSURA FINAL FORM"⟩,
     ⟨0xFD9A, "ARABIC LIGATURE NOON WITH MEEM WITH ", "YEH FINAL FORM;ALEF MAKSURA FINAL FORM"⟩,
     ⟨0xFD9C, "ARABIC LIGATURE YEH WITH MEEM WITH MEEM ", "FINAL FORM;INITIAL FORM"⟩,
     ⟨0xFD9E, "", "ARABIC LIGATURE BEH WITH KHAH WITH YEH FINAL FORM"⟩,
     ⟨0xFD9F, "ARABIC LIGATURE TEH WITH JEEM WITH ", "YEH FINAL FORM;ALEF MAKSURA FINAL FORM"⟩,
     ⟨0xFDA1, "ARABIC LIGATURE TEH WITH KHAH WITH ", "YEH FINAL FORM;ALEF MAKSURA FINAL FORM"⟩,
     ⟨0xFDA3, "ARABIC LIGATURE TEH WITH MEEM WITH ", "YEH FINAL FORM;ALEF MAKSURA FINAL FORM"⟩,
     ⟨0xFDA5, "", "ARABIC LIGATURE JEEM WITH MEEM WITH YEH FINAL FORM"⟩,
     ⟨0xFDA6, "", "ARABIC LIGATURE JEEM WITH HAH WITH ALEF MAKSURA FINAL FORM"⟩,
     ⟨0xFDA7, "", "ARABIC LIGATURE JEEM WITH MEEM WITH ALEF MAKSURA FINAL FORM"⟩,
     ⟨0xFDA8, "", "ARABIC LIGATURE SEEN WITH KHAH WITH ALEF MAKSURA FINAL FORM"⟩,
     ⟨0xFDA9, "", "ARABIC LIGATURE SAD WITH HAH WITH YEH FINAL FORM"⟩,
     ⟨0xFDAA, "", "ARABIC LIGATURE SHEEN WITH HAH WITH YEH FINAL FORM"⟩,
     ⟨0xFDAB, "", "ARABIC LIGATURE DAD WITH HAH WITH YEH FINAL FORM"⟩,
     ⟨0xFDAC, "ARABIC LIGATURE LAM WITH ", "JEEM WITH YEH FINAL FORM;MEEM WITH YEH FINAL FORM"⟩,
     ⟨0xFDAE, "", "ARABIC LIGATURE YEH WITH HAH WITH YEH FINAL FORM"⟩,
     ⟨0xFDAF, "ARABIC LIGATURE YEH WITH ", "JEEM WITH YEH FINAL FORM;MEEM WITH YEH FINAL FORM"⟩,
     ⟨0xFDB1, "", "ARABIC LIGATURE MEEM WITH MEEM WITH YEH FINAL FORM"⟩,
     ⟨0xFDB2, "", "ARABIC LIGATURE QAF WITH MEEM WITH YEH FINAL FORM"⟩,
     ⟨0xFDB3, "", "ARABIC LIGATURE NOON WITH HAH WITH YEH FINAL FORM"⟩,
     ⟨0xFDB4, "", "ARABIC LIGATURE QAF WITH MEEM WITH HAH INITIAL FORM"⟩,
     ⟨0xFDB5, "", "ARABIC LIGATURE LAM WITH HAH WITH MEEM INITIAL FORM"⟩,
     ⟨0xFDB6, "", "ARABIC LIGATURE AIN WITH MEEM WITH YEH FINAL FORM"⟩,
     ⟨0xFDB7, "", "ARABIC LIGATURE KAF WITH MEEM WITH YEH FINAL FORM"⟩,
     ⟨0xFDB8, "", "ARABIC LIGATURE NOON WITH JEEM WITH HAH INITIAL FORM"⟩,
     ⟨0xFDB9, "", "ARABIC LIGATURE MEEM WITH KHAH WITH YEH FINAL FORM"⟩,
     ⟨0xFDBA, "", "ARABIC LIGATURE LAM WITH JEEM WITH MEEM INITIAL FORM"⟩,
     ⟨0xFDBB, "", "ARABIC LIGATURE KAF WITH MEEM WITH MEEM FINAL FORM"⟩,
     ⟨0xFDBC, "", "ARABIC LIGATURE LAM WITH JEEM WITH MEEM FINAL FORM"⟩,
     ⟨0xFDBD, "", "ARABIC LIGATURE NOON WITH JEEM WITH HAH FINAL FORM"⟩,
     ⟨0xFDBE, "", "ARABIC LIGATURE JEEM WITH HAH WITH YEH FINAL FORM"⟩,
     ⟨0xFDBF, "", "ARABIC LIGATURE HAH WITH JEEM WITH YEH FINAL FORM"⟩,
     ⟨0xFDC0, "", "ARABIC LIGATURE MEEM WITH JEEM WITH YEH FINAL FORM"⟩,
     ⟨0xFDC1, "", "ARABIC LIGATURE FEH WITH MEEM WITH YEH FINAL FORM"⟩,
     ⟨0xFDC2, "", "ARABIC LIGATURE BEH WITH HAH WITH YEH FINAL FORM"⟩,
     ⟨0xFDC3, "", "ARABIC LIGATURE KAF WITH MEEM WITH MEEM INITIAL FORM"⟩,
     ⟨0xFDC4, "", "ARABIC LIGATURE AIN WITH JEEM WITH MEEM INITIAL FORM"⟩,
     ⟨0xFDC5, "", "ARABIC LIGATURE SAD WITH MEEM WITH MEEM INITIAL FORM"⟩,
     ⟨0xFDC6, "", "ARABIC LIGATURE SEEN WITH KHAH WITH YEH FINAL FORM"⟩,
     ⟨0xFDC7, "", "ARABIC LIGATURE NOON WITH JEEM WITH YEH FINAL FORM"⟩,
     ⟨0xFDCF, "", "ARABIC LIGATURE SALAAMUHU ALAYNAA"⟩,
     ⟨0xFDF0, "", "ARABIC LIGATURE SALLA USED AS KORANIC STOP SIGN ISOLATED FORM"⟩,
     ⟨0xFDF1, "", "ARABIC LIGATURE QALA USED AS KORANIC STOP SIGN ISOLATED FORM"⟩,
     ⟨0xFDF2, "ARABIC LIGATURE ", "ALLAH ISOLATED FORM;AKBAR ISOLATED FORM;MOHAMMAD ISOLATED FORM"⟩,
     ⟨0xFDF5, "ARABIC LIGATURE ", "SALAM ISOLATED FORM;RASOUL ISOLATED FORM;ALAYHE ISOLATED FORM"⟩,
     ⟨0xFDF8, "ARABIC LIGATURE ", "WASALLAM ISOLATED FORM;SALLA ISOLATED FORM"⟩,
     ⟨0xFDFA, "ARABIC LIGATURE ", "SALLALLAHOU ALAYHE WASALLAM;JALLAJALALOUHOU"⟩,
     ⟨0xFDFC, "", "RIAL SIGN;ARABIC LIGATURE BISMILLAH AR-RAHMAN AR-RAHEEM"⟩,
     ⟨0xFDFE, "ARABIC LIGATURE ", "SUBHAANAHU WA TAAALAA;AZZA WA JALL"⟩]

/-- Names in the block Arabic Presentation Forms-B. -/
def arabicPresentationFormsB : NameBlock where
  first := 0xFE70
  last := 0xFEFF
  rows :=
    [⟨0xFE70, "ARABIC ", "FATHATAN ISOLATED FORM;TATWEEL WITH FATHATAN ABOVE"⟩,
     ⟨0xFE72, "ARABIC ", "DAMMATAN ISOLATED FORM;TAIL FRAGMENT;KASRATAN ISOLATED FORM"⟩,
     ⟨0xFE76, "ARABIC ", "FATHA ISOLATED FORM;FATHA MEDIAL FORM;DAMMA ISOLATED FORM"⟩,
     ⟨0xFE79, "ARABIC ", "DAMMA MEDIAL FORM;KASRA ISOLATED FORM;KASRA MEDIAL FORM"⟩,
     ⟨0xFE7C, "ARABIC SHADDA ", "ISOLATED FORM;MEDIAL FORM"⟩,
     ⟨0xFE7E, "ARABIC ", "SUKUN ISOLATED FORM;SUKUN MEDIAL FORM;LETTER HAMZA ISOLATED FORM"⟩,
     ⟨0xFE81, "ARABIC LETTER ALEF WITH MADDA ABOVE ", "ISOLATED FORM;FINAL FORM"⟩,
     ⟨0xFE83, "ARABIC LETTER ALEF WITH HAMZA ABOVE ", "ISOLATED FORM;FINAL FORM"⟩,
     ⟨0xFE85, "ARABIC LETTER WAW WITH HAMZA ABOVE ", "ISOLATED FORM;FINAL FORM"⟩,
     ⟨0xFE87, "ARABIC LETTER ALEF WITH HAMZA BELOW ", "ISOLATED FORM;FINAL FORM"⟩,
     ⟨0xFE89, "", "ARABIC LETTER YEH WITH HAMZA ABOVE ISOLATED FORM"⟩,
     ⟨0xFE8A, "ARABIC LETTER YEH WITH HAMZA ABOVE ", "FINAL FORM;INITIAL FORM;MEDIAL FORM"⟩,
     ⟨0xFE8D, "ARABIC LETTER ALEF ", "ISOLATED FORM;FINAL FORM"⟩,
     ⟨0xFE8F, "ARABIC LETTER BEH ", "ISOLATED FORM;FINAL FORM;INITIAL FORM;MEDIAL FORM"⟩,
     ⟨0xFE93, "ARABIC LETTER TEH MARBUTA ", "ISOLATED FORM;FINAL FORM"⟩,
     ⟨0xFE95, "ARABIC LETTER TEH ", "ISOLATED FORM;FINAL FORM;INITIAL FORM;MEDIAL FORM"⟩,
     ⟨0xFE99, "ARABIC LETTER THEH ", "ISOLATED FORM;FINAL FORM;INITIAL FORM;MEDIAL FORM"⟩,
     ⟨0xFE9D, "ARABIC LETTER JEEM ", "ISOLATED FORM;FINAL FORM;INITIAL FORM;MEDIAL FORM"⟩,
     ⟨0xFEA1, "ARABIC LETTER HAH ", "ISOLATED FORM;FINAL FORM;INITIAL FORM;MEDIAL FORM"⟩,
     ⟨0xFEA5, "ARABIC LETTER KHAH ", "ISOLATED FORM;FINAL FORM;INITIAL FORM;MEDIAL FORM"⟩,
     ⟨0xFEA9, "ARABIC LETTER ", "DAL ISOLATED FORM;DAL FINAL FORM;THAL ISOLATED FORM"⟩,
     ⟨0xFEAC, "ARABIC LETTER ", "THAL FINAL FORM;REH ISOLATED FORM;REH FINAL FORM"⟩,
     ⟨0xFEAF, "ARABIC LETTER ZAIN ", "ISOLATED FORM;FINAL FORM"⟩,
     ⟨0xFEB1, "ARABIC LETTER SEEN ", "ISOLATED FORM;FINAL FORM;INITIAL FORM;MEDIAL FORM"⟩,
     ⟨0xFEB5, "ARABIC LETTER SHEEN ", "ISOLATED FORM;FINAL FORM;INITIAL FORM;MEDIAL FORM"⟩,
     ⟨0xFEB9, "ARABIC LETTER SAD ", "ISOLATED FORM;FINAL FORM;INITIAL FORM;MEDIAL FORM"⟩,
     ⟨0xFEBD, "ARABIC LETTER DAD ", "ISOLATED FORM;FINAL FORM;INITIAL FORM;MEDIAL FORM"⟩,
     ⟨0xFEC1, "ARABIC LETTER TAH ", "ISOLATED FORM;FINAL FORM;INITIAL FORM;MEDIAL FORM"⟩,
     ⟨0xFEC5, "ARABIC LETTER ZAH ", "ISOLATED FORM;FINAL FORM;INITIAL FORM;MEDIAL FORM"⟩,
     ⟨0xFEC9, "ARABIC LETTER AIN ", "ISOLATED FORM;FINAL FORM;INITIAL FORM;MEDIAL FORM"⟩,
     ⟨0xFECD, "ARABIC LETTER GHAIN ", "ISOLATED FORM;FINAL FORM;INITIAL FORM;MEDIAL FORM"⟩,
     ⟨0xFED1, "ARABIC LETTER FEH ", "ISOLATED FORM;FINAL FORM;INITIAL FORM;MEDIAL FORM"⟩,
     ⟨0xFED5, "ARABIC LETTER QAF ", "ISOLATED FORM;FINAL FORM;INITIAL FORM;MEDIAL FORM"⟩,
     ⟨0xFED9, "ARABIC LETTER KAF ", "ISOLATED FORM;FINAL FORM;INITIAL FORM;MEDIAL FORM"⟩,
     ⟨0xFEDD, "ARABIC LETTER LAM ", "ISOLATED FORM;FINAL FORM;INITIAL FORM;MEDIAL FORM"⟩,
     ⟨0xFEE1, "ARABIC LETTER MEEM ", "ISOLATED FORM;FINAL FORM;INITIAL FORM;MEDIAL FORM"⟩,
     ⟨0xFEE5, "ARABIC LETTER NOON ", "ISOLATED FORM;FINAL FORM;INITIAL FORM;MEDIAL FORM"⟩,
     ⟨0xFEE9, "ARABIC LETTER HEH ", "ISOLATED FORM;FINAL FORM;INITIAL FORM;MEDIAL FORM"⟩,
     ⟨0xFEED, "ARABIC LETTER WAW ", "ISOLATED FORM;FINAL FORM"⟩,
     ⟨0xFEEF, "ARABIC LETTER ALEF MAKSURA ", "ISOLATED FORM;FINAL FORM"⟩,
     ⟨0xFEF1, "ARABIC LETTER YEH ", "ISOLATED FORM;FINAL FORM;INITIAL FORM;MEDIAL FORM"⟩,
     ⟨0xFEF5, "ARABIC LIGATURE LAM WITH ALEF WITH MADDA ABOVE ", "ISOLATED FORM;FINAL FORM"⟩,
     ⟨0xFEF7, "ARABIC LIGATURE LAM WITH ALEF WITH HAMZA ABOVE ", "ISOLATED FORM;FINAL FORM"⟩,
     ⟨0xFEF9, "ARABIC LIGATURE LAM WITH ALEF WITH HAMZA BELOW ", "ISOLATED FORM;FINAL FORM"⟩,
     ⟨0xFEFB, "ARABIC LIGATURE LAM WITH ALEF ", "ISOLATED FORM;FINAL FORM"⟩,
     ⟨0xFEFF, "", "ZERO WIDTH NO-BREAK SPACE"⟩]

/-- Names in the block Rumi Numeral Symbols. -/
def rumiNumeralSymbols : NameBlock where
  first := 0x10E60
  last := 0x10E7F
  rows :=
    [⟨0x10E60, "RUMI DIGIT ", "ONE;TWO;THREE;FOUR;FIVE;SIX;SEVEN;EIGHT;NINE"⟩,
     ⟨0x10E69, "RUMI NUMBER ", "TEN;TWENTY;THIRTY;FORTY;FIFTY;SIXTY;SEVENTY"⟩,
     ⟨0x10E70, "RUMI NUMBER ", "EIGHTY;NINETY;ONE HUNDRED;TWO HUNDRED;THREE HUNDRED;FOUR HUNDRED"⟩,
     ⟨0x10E76, "RUMI NUMBER ", "FIVE HUNDRED;SIX HUNDRED;SEVEN HUNDRED;EIGHT HUNDRED;NINE HUNDRED"⟩,
     ⟨0x10E7B, "RUMI FRACTION ", "ONE HALF;ONE QUARTER;ONE THIRD;TWO THIRDS"⟩]

/-- Names in the block Arabic Extended-C. -/
def arabicExtendedC : NameBlock where
  first := 0x10EC0
  last := 0x10EFF
  rows :=
    [⟨0x10EC2, "", "ARABIC LETTER DAL WITH TWO DOTS VERTICALLY BELOW"⟩,
     ⟨0x10EC3, "", "ARABIC LETTER TAH WITH TWO DOTS VERTICALLY BELOW"⟩,
     ⟨0x10EC4, "", "ARABIC LETTER KAF WITH TWO DOTS VERTICALLY BELOW"⟩,
     ⟨0x10EFC, "", "ARABIC COMBINING ALEF OVERLAY"⟩,
     ⟨0x10EFD, "ARABIC SMALL LOW WORD ", "SAKTA;QASR;MADDA"⟩]

/-- Names in the block Indic Siyaq Numbers. -/
def indicSiyaqNumbers : NameBlock where
  first := 0x1EC70
  last := 0x1ECBF
  rows :=
    [⟨0x1EC71, "INDIC SIYAQ NUMBER ", "ONE;TWO;THREE;FOUR;FIVE;SIX;SEVEN;EIGHT;NINE;TEN;TWENTY"⟩,
     ⟨0x1EC7C, "INDIC SIYAQ NUMBER ", "THIRTY;FORTY;FIFTY;SIXTY;SEVENTY;EIGHTY;NINETY;ONE HUNDRED"⟩,
     ⟨0x1EC84, "INDIC SIYAQ NUMBER ", "TWO HUNDRED;THREE HUNDRED;FOUR HUNDRED;FIVE HUNDRED"⟩,
     ⟨0x1EC88, "INDIC SIYAQ NUMBER ", "SIX HUNDRED;SEVEN HUNDRED;EIGHT HUNDRED;NINE HUNDRED"⟩,
     ⟨0x1EC8C, "INDIC SIYAQ NUMBER ", "ONE THOUSAND;TWO THOUSAND;THREE THOUSAND;FOUR THOUSAND"⟩,
     ⟨0x1EC90, "INDIC SIYAQ NUMBER ", "FIVE THOUSAND;SIX THOUSAND;SEVEN THOUSAND;EIGHT THOUSAND"⟩,
     ⟨0x1EC94, "INDIC SIYAQ NUMBER ", "NINE THOUSAND;TEN THOUSAND;TWENTY THOUSAND;THIRTY THOUSAND"⟩,
     ⟨0x1EC98, "INDIC SIYAQ NUMBER ", "FORTY THOUSAND;FIFTY THOUSAND;SIXTY THOUSAND"⟩,
     ⟨0x1EC9B, "INDIC SIYAQ NUMBER ", "SEVENTY THOUSAND;EIGHTY THOUSAND;NINETY THOUSAND;LAKH"⟩,
     ⟨0x1EC9F, "INDIC SIYAQ ", "NUMBER LAKHAN;LAKH MARK;NUMBER KAROR;NUMBER KARORAN"⟩,
     ⟨0x1ECA3, "INDIC SIYAQ NUMBER PREFIXED ", "ONE;TWO;THREE;FOUR;FIVE;SIX;SEVEN;EIGHT;NINE"⟩,
     ⟨0x1ECAC, "INDIC SIYAQ ", "PLACEHOLDER;FRACTION ONE QUARTER"⟩,
     ⟨0x1ECAE, "INDIC SIYAQ ", "FRACTION ONE HALF;FRACTION THREE QUARTERS;RUPEE MARK"⟩,
     ⟨0x1ECB1, "INDIC SIYAQ NUMBER ALTERNATE ", "ONE;TWO;TEN THOUSAND"⟩,
     ⟨0x1ECB4, "", "INDIC SIYAQ ALTERNATE LAKH MARK"⟩]

/-- Names in the block Ottoman Siyaq Numbers. -/
def ottomanSiyaqNumbers : NameBlock where
  first := 0x1ED00
  last := 0x1ED4F
  rows :=
    [⟨0x1ED01, "OTTOMAN SIYAQ NUMBER ", "ONE;TWO;THREE;FOUR;FIVE;SIX;SEVEN"⟩,
     ⟨0x1ED08, "OTTOMAN SIYAQ NUMBER ", "EIGHT;NINE;TEN;TWENTY;THIRTY;FORTY;FIFTY;SIXTY;SEVENTY"⟩,
     ⟨0x1ED11, "OTTOMAN SIYAQ NUMBER ", "EIGHTY;NINETY;ONE HUNDRED;TWO HUNDRED;THREE HUNDRED"⟩,
     ⟨0x1ED16, "OTTOMAN SIYAQ NUMBER ", "FOUR HUNDRED;FIVE HUNDRED;SIX HUNDRED;SEVEN HUNDRED"⟩,
     ⟨0x1ED1A, "OTTOMAN SIYAQ NUMBER ", "EIGHT HUNDRED;NINE HUNDRED;ONE THOUSAND;TWO THOUSAND"⟩,
     ⟨0x1ED1E, "OTTOMAN SIYAQ NUMBER ", "THREE THOUSAND;FOUR THOUSAND;FIVE THOUSAND;SIX THOUSAND"⟩,
     ⟨0x1ED22, "OTTOMAN SIYAQ NUMBER ", "SEVEN THOUSAND;EIGHT THOUSAND;NINE THOUSAND;TEN THOUSAND"⟩,
     ⟨0x1ED26, "OTTOMAN SIYAQ NUMBER ", "TWENTY THOUSAND;THIRTY THOUSAND;FORTY THOUSAND"⟩,
     ⟨0x1ED29, "OTTOMAN SIYAQ NUMBER ", "FIFTY THOUSAND;SIXTY THOUSAND;SEVENTY THOUSAND"⟩,
     ⟨0x1ED2C, "OTTOMAN SIYAQ ", "NUMBER EIGHTY THOUSAND;NUMBER NINETY THOUSAND;MARRATAN"⟩,
     ⟨0x1ED2F, "OTTOMAN SIYAQ ALTERNATE NUMBER ", "TWO;THREE;FOUR"⟩,
     ⟨0x1ED32, "OTTOMAN SIYAQ ALTERNATE NUMBER ", "FIVE;SIX;SEVEN;EIGHT;NINE;TEN;FOUR HUNDRED"⟩,
     ⟨0x1ED39, "OTTOMAN SIYAQ ALTERNATE NUMBER ", "SIX HUNDRED;TWO THOUSAND;TEN THOUSAND"⟩,
     ⟨0x1ED3C, "OTTOMAN SIYAQ FRACTION ONE ", "HALF;SIXTH"⟩]

/-- Names in the block Arabic Mathematical Alphabetic Symbols. -/
def arabicMathematicalAlphabeticSymbols : NameBlock where
  first := 0x1EE00
  last := 0x1EEFF
  rows :=
    [⟨0x1EE00, "ARABIC MATHEMATICAL ", "ALEF;BEH;JEEM;DAL"⟩,
     ⟨0x1EE05, "ARABIC MATHEMATICAL ", "WAW;ZAIN;HAH;TAH;YEH;KAF;LAM;MEEM;NOON;SEEN;AIN"⟩,
     ⟨0x1EE10, "ARABIC MATHEMATICAL ", "FEH;SAD;QAF;REH;SHEEN;TEH;THEH;KHAH;THAL;DAD;ZAH;GHAIN"⟩,
     ⟨0x1EE1C, "ARABIC MATHEMATICAL DOTLESS ", "BEH;NOON;FEH;QAF"⟩,
     ⟨0x1EE21, "ARABIC MATHEMATICAL INITIAL ", "BEH;JEEM"⟩,
     ⟨0x1EE24, "", "ARABIC MATHEMATICAL INITIAL HEH"⟩,
     ⟨0x1EE27, "", "ARABIC MATHEMATICAL INITIAL HAH"⟩,
     ⟨0x1EE29, "ARABIC MATHEMATICAL INITIAL ", "YEH;KAF;LAM;MEEM;NOON;SEEN;AIN;FEH;SAD;QAF"⟩,
     ⟨0x1EE34, "ARABIC MATHEMATICAL INITIAL ", "SHEEN;TEH;THEH;KHAH"⟩,
     ⟨0x1EE39, "", "ARABIC MATHEMATICAL INITIAL DAD"⟩,
     ⟨0x1EE3B, "", "ARABIC MATHEMATICAL INITIAL GHAIN"⟩,
     ⟨0x1EE42, "", "ARABIC MATHEMATICAL TAILED JEEM"⟩,
     ⟨0x1EE47, "", "ARABIC MATHEMATICAL TAILED HAH"⟩,
     ⟨0x1EE49, "", "ARABIC MATHEMATICAL TAILED YEH"⟩,
     ⟨0x1EE4B, "", "ARABIC MATHEMATICAL TAILED LAM"⟩,
     ⟨0x1EE4D, "ARABIC MATHEMATICAL TAILED ", "NOON;SEEN;AIN"⟩,
     ⟨0x1EE51, "ARABIC MATHEMATICAL TAILED ", "SAD;QAF"⟩,
     ⟨0x1EE54, "", "ARABIC MATHEMATICAL TAILED SHEEN"⟩,
     ⟨0x1EE57, "", "ARABIC MATHEMATICAL TAILED KHAH"⟩,
     ⟨0x1EE59, "", "ARABIC MATHEMATICAL TAILED DAD"⟩,
     ⟨0x1EE5B, "", "ARABIC MATHEMATICAL TAILED GHAIN"⟩,
     ⟨0x1EE5D, "", "ARABIC MATHEMATICAL TAILED DOTLESS NOON"⟩,
     ⟨0x1EE5F, "", "ARABIC MATHEMATICAL TAILED DOTLESS QAF"⟩,
     ⟨0x1EE61, "ARABIC MATHEMATICAL STRETCHED ", "BEH;JEEM"⟩,
     ⟨0x1EE64, "", "ARABIC MATHEMATICAL STRETCHED HEH"⟩,
     ⟨0x1EE67, "ARABIC MATHEMATICAL STRETCHED ", "HAH;TAH;YEH;KAF"⟩,
     ⟨0x1EE6C, "ARABIC MATHEMATICAL STRETCHED ", "MEEM;NOON;SEEN;AIN;FEH;SAD;QAF"⟩,
     ⟨0x1EE74, "ARABIC MATHEMATICAL STRETCHED ", "SHEEN;TEH;THEH;KHAH"⟩,
     ⟨0x1EE79, "ARABIC MATHEMATICAL STRETCHED ", "DAD;ZAH;GHAIN;DOTLESS BEH"⟩,
     ⟨0x1EE7E, "", "ARABIC MATHEMATICAL STRETCHED DOTLESS FEH"⟩,
     ⟨0x1EE80, "ARABIC MATHEMATICAL LOOPED ", "ALEF;BEH;JEEM;DAL;HEH;WAW;ZAIN;HAH;TAH;YEH"⟩,
     ⟨0x1EE8B, "ARABIC MATHEMATICAL LOOPED ", "LAM;MEEM;NOON;SEEN;AIN;FEH"⟩,
     ⟨0x1EE91, "ARABIC MATHEMATICAL LOOPED ", "SAD;QAF;REH;SHEEN;TEH;THEH;KHAH;THAL;DAD;ZAH;GHAIN"⟩,
     ⟨0x1EEA1, "ARABIC MATHEMATICAL DOUBLE-STRUCK ", "BEH;JEEM;DAL"⟩,
     ⟨0x1EEA5, "ARABIC MATHEMATICAL DOUBLE-STRUCK ", "WAW;ZAIN;HAH;TAH;YEH"⟩,
     ⟨0x1EEAB, "ARABIC MATHEMATICAL DOUBLE-STRUCK ", "LAM;MEEM;NOON;SEEN;AIN;FEH;SAD;QAF"⟩,
     ⟨0x1EEB3, "ARABIC MATHEMATICAL DOUBLE-STRUCK ", "REH;SHEEN;TEH;THEH;KHAH;THAL;DAD;ZAH;GHAIN"⟩,
     ⟨0x1EEF0, "ARABIC MATHEMATICAL OPERATOR ", "MEEM WITH HAH WITH TATWEEL;HAH WITH DAL"⟩]

end NameBlock

/-- The blocks of this module. -/
def arabicBlocks : List NameBlock :=
  [.arabic, .arabicSupplement, .arabicExtendedB, .arabicExtendedA, .arabicPresentationFormsA,
   .arabicPresentationFormsB, .rumiNumeralSymbols, .arabicExtendedC, .indicSiyaqNumbers,
   .ottomanSiyaqNumbers, .arabicMathematicalAlphabeticSymbols]

end Text
end Scripting
