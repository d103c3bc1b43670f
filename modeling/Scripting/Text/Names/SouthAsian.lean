import Scripting.Text.Names.Block

namespace Scripting
namespace Text

/-!
Names of letters of the scripts of South Asia and of Tibet.
-/

namespace NameBlock

/-- Names in the block Devanagari. -/
def devanagari : NameBlock where
  first := 0x0900
  last := 0x097F
  rows :=
    [⟨0x0900, "DEVANAGARI SIGN ", "INVERTED CANDRABINDU;CANDRABINDU;ANUSVARA;VISARGA"⟩,
     ⟨0x0904, "DEVANAGARI LETTER ", "SHORT A;A;AA;I;II;U;UU;VOCALIC R;VOCALIC L"⟩,
     ⟨0x090D, "DEVANAGARI LETTER ", "CANDRA E;SHORT E;E;AI;CANDRA O;SHORT O;O;AU;KA;KHA;GA;GHA"⟩,
     ⟨0x0919, "DEVANAGARI LETTER ", "NGA;CA;CHA;JA;JHA;NYA;TTA;TTHA;DDA;DDHA;NNA;TA;THA;DA;DHA;NA"⟩,
     ⟨0x0929, "DEVANAGARI LETTER ", "NNNA;PA;PHA;BA;BHA;MA;YA;RA;RRA;LA;LLA;LLLA;VA;SHA;SSA;SA;HA"⟩,
     ⟨0x093A, "DEVANAGARI ", "VOWEL SIGN OE;VOWEL SIGN OOE;SIGN NUKTA;SIGN AVAGRAHA"⟩,
     ⟨0x093E, "DEVANAGARI VOWEL SIGN ", "AA;I;II;U;UU;VOCALIC R"⟩,
     ⟨0x0944, "DEVANAGARI VOWEL SIGN ", "VOCALIC RR;CANDRA E;SHORT E;E;AI;CANDRA O;SHORT O;O;AU"⟩,
     ⟨0x094D, "DEVANAGARI ", "SIGN VIRAMA;VOWEL SIGN PRISHTHAMATRA E;VOWEL SIGN AW;OM"⟩,
     ⟨0x0951, "DEVANAGARI ", "STRESS SIGN UDATTA;STRESS SIGN ANUDATTA;GRAVE ACCENT;ACUTE ACCENT"⟩,
     ⟨0x0955, "DEVANAGARI VOWEL SIGN ", "CANDRA LONG E;UE;UUE"⟩,
     ⟨0x0958, "DEVANAGARI LETTER ", "QA;KHHA;GHHA;ZA;DDDHA;RHA;FA;YYA;VOCALIC RR;VOCALIC LL"⟩,
     ⟨0x0962, "DEVANAGARI ", "VOWEL SIGN VOCALIC L;VOWEL SIGN VOCALIC LL;DANDA;DOUBLE DANDA"⟩,
     ⟨0x0970, "DEVANAGARI ", "ABBREVIATION SIGN;SIGN HIGH SPACING DOT"⟩,
     ⟨0x0972, "DEVANAGARI LETTER ", "CANDRA A;OE;OOE;AW;UE"⟩,
     ⟨0x0977, "DEVANAGARI LETTER ", "UUE;MARWARI DDA;ZHA;HEAVY YA;GGA;JJA;GLOTTAL STOP;DDDA;BBA"⟩]

/-- Names in the block Bengali. -/
def bengali : NameBlock where
  first := 0x0980
  last := 0x09FF
  rows :=
    [⟨0x0980, "BENGALI ", "ANJI;SIGN CANDRABINDU;SIGN ANUSVARA;SIGN VISARGA"⟩,
     ⟨0x0985, "BENGALI LETTER ", "A;AA;I;II;U;UU;VOCALIC R;VOCALIC L"⟩,
     ⟨0x098F, "BENGALI LETTER ", "E;AI"⟩,
     ⟨0x0993, "BENGALI LETTER ", "O;AU;KA;KHA;GA;GHA"⟩,
     ⟨0x0999, "BENGALI LETTER ", "NGA;CA;CHA;JA;JHA;NYA;TTA;TTHA;DDA;DDHA;NNA;TA;THA;DA;DHA;NA"⟩,
     ⟨0x09AA, "BENGALI LETTER ", "PA;PHA;BA;BHA;MA;YA;RA"⟩,
     ⟨0x09B2, "", "BENGALI LETTER LA"⟩,
     ⟨0x09B6, "BENGALI LETTER ", "SHA;SSA;SA;HA"⟩,
     ⟨0x09BC, "BENGALI SIGN ", "NUKTA;AVAGRAHA"⟩,
     ⟨0x09BE, "BENGALI VOWEL SIGN ", "AA;I;II;U;UU;VOCALIC R;VOCALIC RR"⟩,
     ⟨0x09C7, "BENGALI VOWEL SIGN ", "E;AI"⟩,
     ⟨0x09CB, "BENGALI ", "VOWEL SIGN O;VOWEL SIGN AU;SIGN VIRAMA;LETTER KHANDA TA"⟩,
     ⟨0x09D7, "", "BENGALI AU LENGTH MARK"⟩,
     ⟨0x09DC, "BENGALI LETTER ", "RRA;RHA"⟩,
     ⟨0x09DF, "BENGALI LETTER ", "YYA;VOCALIC RR;VOCALIC LL"⟩,
     ⟨0x09E2, "BENGALI VOWEL SIGN VOCALIC ", "L;LL"⟩,
     ⟨0x09F0, "BENGALI LETTER RA WITH ", "MIDDLE DIAGONAL;LOWER DIAGONAL"⟩,
     ⟨0x09F2, "BENGALI RUPEE ", "MARK;SIGN"⟩,
     ⟨0x09F4, "BENGALI CURRENCY NUMERATOR ", "ONE;TWO;THREE;FOUR;ONE LESS THAN THE DENOMINATOR"⟩,
     ⟨0x09F9, "", "BENGALI CURRENCY DENOMINATOR SIXTEEN"⟩,
     ⟨0x09FA, "BENGALI ", "ISSHAR;GANDA MARK;LETTER VEDIC ANUSVARA;ABBREVIATION SIGN;SANDHI MARK"⟩]

/-- Names in the block Gurmukhi. -/
def gurmukhi : NameBlock where
  first := 0x0A00
  last := 0x0A7F
  rows :=
    [⟨0x0A01, "GURMUKHI SIGN ", "ADAK BINDI;BINDI;VISARGA"⟩,
     ⟨0x0A05, "GURMUKHI LETTER ", "A;AA;I;II;U;UU"⟩,
     ⟨0x0A0F, "GURMUKHI LETTER ", "EE;AI"⟩,
     ⟨0x0A13, "GURMUKHI LETTER ", "OO;AU;KA;KHA;GA;GHA"⟩,
     ⟨0x0A19, "GURMUKHI LETTER ", "NGA;CA;CHA;JA;JHA;NYA;TTA;TTHA;DDA;DDHA;NNA;TA;THA;DA;DHA;NA"⟩,
     ⟨0x0A2A, "GURMUKHI LETTER ", "PA;PHA;BA;BHA;MA;YA;RA"⟩,
     ⟨0x0A32, "GURMUKHI LETTER ", "LA;LLA"⟩,
     ⟨0x0A35, "GURMUKHI LETTER ", "VA;SHA"⟩,
     ⟨0x0A38, "GURMUKHI LETTER ", "SA;HA"⟩,
     ⟨0x0A3C, "", "GURMUKHI SIGN NUKTA"⟩,
     ⟨0x0A3E, "GURMUKHI VOWEL SIGN ", "AA;I;II;U;UU"⟩,
     ⟨0x0A47, "GURMUKHI VOWEL SIGN ", "EE;AI"⟩,
     ⟨0x0A4B, "GURMUKHI ", "VOWEL SIGN OO;VOWEL SIGN AU;SIGN VIRAMA"⟩,
     ⟨0x0A51, "", "GURMUKHI SIGN UDAAT"⟩,
     ⟨0x0A59, "GURMUKHI LETTER ", "KHHA;GHHA;ZA;RRA"⟩,
     ⟨0x0A5E, "", "GURMUKHI LETTER FA"⟩,
     ⟨0x0A70, "GURMUKHI ", "TIPPI;ADDAK;IRI;URA;EK ONKAR;SIGN YAKASH;ABBREVIATION SIGN"⟩]

/-- Names in the block Gujarati. -/
def gujarati : NameBlock where
  first := 0x0A80
  last := 0x0AFF
  rows :=
    [⟨0x0A81, "GUJARATI SIGN ", "CANDRABINDU;ANUSVARA;VISARGA"⟩,
     ⟨0x0A85, "GUJARATI LETTER ", "A;AA;I;II;U;UU;VOCALIC R;VOCALIC L"⟩,
     ⟨0x0A8D, "", "GUJARATI VOWEL CANDRA E"⟩,
     ⟨0x0A8F, "GUJARATI ", "LETTER E;LETTER AI;VOWEL CANDRA O"⟩,
     ⟨0x0A93, "GUJARATI LETTER ", "O;AU;KA;KHA;GA;GHA"⟩,
     ⟨0x0A99, "GUJARATI LETTER ", "NGA;CA;CHA;JA;JHA;NYA;TTA;TTHA;DDA;DDHA;NNA;TA;THA;DA;DHA;NA"⟩,
     ⟨0x0AAA, "GUJARATI LETTER ", "PA;PHA;BA;BHA;MA;YA;RA"⟩,
     ⟨0x0AB2, "GUJARATI LETTER ", "LA;LLA"⟩,
     ⟨0x0AB5, "GUJARATI LETTER ", "VA;SHA;SSA;SA;HA"⟩,
     ⟨0x0ABC, "GUJARATI SIGN ", "NUKTA;AVAGRAHA"⟩,
     ⟨0x0ABE, "GUJARATI VOWEL SIGN ", "AA;I;II;U;UU;VOCALIC R;VOCALIC RR;CANDRA E"⟩,
     ⟨0x0AC7, "GUJARATI VOWEL SIGN ", "E;AI;CANDRA O"⟩,
     ⟨0x0ACB, "GUJARATI ", "VOWEL SIGN O;VOWEL SIGN AU;SIGN VIRAMA"⟩,
     ⟨0x0AD0, "", "GUJARATI OM"⟩,
     ⟨0x0AE0, "GUJARATI LETTER VOCALIC ", "RR;LL"⟩,
     ⟨0x0AE2, "GUJARATI VOWEL SIGN VOCALIC ", "L;LL"⟩,
     ⟨0x0AF0, "GUJARATI ", "ABBREVIATION SIGN;RUPEE SIGN"⟩,
     ⟨0x0AF9, "GUJARATI ", "LETTER ZHA;SIGN SUKUN;SIGN SHADDA;SIGN MADDAH"⟩,
     ⟨0x0AFD, "GUJARATI SIGN ", "THREE-DOT NUKTA ABOVE;CIRCLE NUKTA ABOVE;TWO-CIRCLE NUKTA ABOVE"⟩]

/-- Names in the block Oriya. -/
def oriya : NameBlock where
  first := 0x0B00
  last := 0x0B7F
  rows :=
    [⟨0x0B01, "ORIYA SIGN ", "CANDRABINDU;ANUSVARA;VISARGA"⟩,
     ⟨0x0B05, "ORIYA LETTER ", "A;AA;I;II;U;UU;VOCALIC R;VOCALIC L"⟩,
     ⟨0x0B0F, "ORIYA LETTER ", "E;AI"⟩,
     ⟨0x0B13, "ORIYA LETTER ", "O;AU;KA;KHA;GA"⟩,
     ⟨0x0B18, "ORIYA LETTER ", "GHA;NGA;CA;CHA;JA;JHA;NYA;TTA;TTHA;DDA;DDHA;NNA;TA;THA;DA;DHA;NA"⟩,
     ⟨0x0B2A, "ORIYA LETTER ", "PA;PHA;BA;BHA;MA;YA;RA"⟩,
     ⟨0x0B32, "ORIYA LETTER ", "LA;LLA"⟩,
     ⟨0x0B35, "ORIYA LETTER ", "VA;SHA;SSA;SA;HA"⟩,
     ⟨0x0B3C, "ORIYA SIGN ", "NUKTA;AVAGRAHA"⟩,
     ⟨0x0B3E, "ORIYA VOWEL SIGN ", "AA;I;II;U;UU;VOCALIC R;VOCALIC RR"⟩,
     ⟨0x0B47, "ORIYA VOWEL SIGN ", "E;AI"⟩,
     ⟨0x0B4B, "ORIYA ", "VOWEL SIGN O;VOWEL SIGN AU;SIGN VIRAMA"⟩,
     ⟨0x0B55, "ORIYA ", "SIGN OVERLINE;AI LENGTH MARK;AU LENGTH MARK"⟩,
     ⟨0x0B5C, "ORIYA LETTER ", "RRA;RHA"⟩,
     ⟨0x0B5F, "ORIYA LETTER ", "YYA;VOCALIC RR;VOCALIC LL"⟩,
     ⟨0x0B62, "ORIYA VOWEL SIGN VOCALIC ", "L;LL"⟩,
     ⟨0x0B70, "ORIYA ", "ISSHAR;LETTER WA;FRACTION ONE QUARTER;FRACTION ONE HALF"⟩,
     ⟨0x0B74, "ORIYA FRACTION ", "THREE QUARTERS;ONE SIXTEENTH;ONE EIGHTH;THREE SIXTEENTHS"⟩]

/-- Names in the block Tamil. -/
def tamil : NameBlock where
  first := 0x0B80
  last := 0x0BFF
  rows :=
    [⟨0x0B82, "TAMIL SIGN ", "ANUSVARA;VISARGA"⟩,
     ⟨0x0B85, "TAMIL LETTER ", "A;AA;I;II;U;UU"⟩,
     ⟨0x0B8E, "TAMIL LETTER ", "E;EE;AI"⟩,
     ⟨0x0B92, "TAMIL LETTER ", "O;OO;AU;KA"⟩,
     ⟨0x0B99, "TAMIL LETTER ", "NGA;CA"⟩,
     ⟨0x0B9C, "", "TAMIL LETTER JA"⟩,
     ⟨0x0B9E, "TAMIL LETTER ", "NYA;TTA"⟩,
     ⟨0x0BA3, "TAMIL LETTER ", "NNA;TA"⟩,
     ⟨0x0BA8, "TAMIL LETTER ", "NA;NNNA;PA"⟩,
     ⟨0x0BAE, "TAMIL LETTER ", "MA;YA;RA;RRA;LA;LLA;LLLA;VA;SHA;SSA;SA;HA"⟩,
     ⟨0x0BBE, "TAMIL VOWEL SIGN ", "AA;I;II;U;UU"⟩,
     ⟨0x0BC6, "TAMIL VOWEL SIGN ", "E;EE;AI"⟩,
     ⟨0x0BCA, "TAMIL ", "VOWEL SIGN O;VOWEL SIGN OO;VOWEL SIGN AU;SIGN VIRAMA"⟩,
     ⟨0x0BD0, "", "TAMIL OM"⟩,
     ⟨0x0BD7, "", "TAMIL AU LENGTH MARK"⟩,
     ⟨0x0BF0, "TAMIL ", "NUMBER TEN;NUMBER ONE HUNDRED;NUMBER ONE THOUSAND;DAY SIGN;MONTH SIGN"⟩,
     ⟨0x0BF5, "TAMIL ", "YEAR SIGN;DEBIT SIGN;CREDIT SIGN;AS ABOVE SIGN;RUPEE SIGN;NUMBER SIGN"⟩]

/-- Names in the block Telugu. -/
def telugu : NameBlock where
  first := 0x0C00
  last := 0x0C7F
  rows :=
    [⟨0x0C00, "", "TELUGU SIGN COMBINING CANDRABINDU ABOVE"⟩,
     ⟨0x0C01, "TELUGU SIGN ", "CANDRABINDU;ANUSVARA;VISARGA;COMBINING ANUSVARA ABOVE"⟩,
     ⟨0x0C05, "TELUGU LETTER ", "A;AA;I;II;U;UU;VOCALIC R;VOCALIC L"⟩,
     ⟨0x0C0E, "TELUGU LETTER ", "E;EE;AI"⟩,
     ⟨0x0C12, "TELUGU LETTER ", "O;OO;AU;KA;KHA;GA"⟩,
     ⟨0x0C18, "TELUGU LETTER ", "GHA;NGA;CA;CHA;JA;JHA;NYA;TTA;TTHA;DDA;DDHA;NNA;TA;THA;DA;DHA;NA"⟩,
     ⟨0x0C2A, "TELUGU LETTER ", "PA;PHA;BA;BHA;MA;YA;RA;RRA;LA;LLA;LLLA;VA;SHA;SSA;SA;HA"⟩,
     ⟨0x0C3C, "TELUGU SIGN ", "NUKTA;AVAGRAHA"⟩,
     ⟨0x0C3E, "TELUGU VOWEL SIGN ", "AA;I;II;U;UU;VOCALIC R;VOCALIC RR"⟩,
     ⟨0x0C46, "TELUGU VOWEL SIGN ", "E;EE;AI"⟩,
     ⟨0x0C4A, "TELUGU ", "VOWEL SIGN O;VOWEL SIGN OO;VOWEL SIGN AU;SIGN VIRAMA"⟩,
     ⟨0x0C55, "TELUGU ", "LENGTH MARK;AI LENGTH MARK"⟩,
     ⟨0x0C58, "TELUGU LETTER ", "TSA;DZA;RRRA"⟩,
     ⟨0x0C5D, "", "TELUGU LETTER NAKAARA POLLU"⟩,
     ⟨0x0C60, "TELUGU LETTER VOCALIC ", "RR;LL"⟩,
     ⟨0x0C62, "TELUGU VOWEL SIGN VOCALIC ", "L;LL"⟩,
     ⟨0x0C77, "", "TELUGU SIGN SIDDHAM"⟩,
     ⟨0x0C78, "TELUGU FRACTION DIGIT ", "ZERO FOR ODD POWERS OF FOUR;ONE FOR ODD POWERS OF FOUR"⟩,
     ⟨0x0C7A, "TELUGU FRACTION DIGIT ", "TWO FOR ODD POWERS OF FOUR;THREE FOR ODD POWERS OF FOUR"⟩,
     ⟨0x0C7C, "TELUGU FRACTION DIGIT ", "ONE FOR EVEN POWERS OF FOUR;TWO FOR EVEN POWERS OF FOUR"⟩,
     ⟨0x0C7E, "TELUGU ", "FRACTION DIGIT THREE FOR EVEN POWERS OF FOUR;SIGN TUUMU"⟩]

/-- Names in the block Kannada. -/
def kannada : NameBlock where
  first := 0x0C80
  last := 0x0CFF
  rows :=
    [⟨0x0C80, "KANNADA SIGN ", "SPACING CANDRABINDU;CANDRABINDU;ANUSVARA;VISARGA;SIDDHAM"⟩,
     ⟨0x0C85, "KANNADA LETTER ", "A;AA;I;II;U;UU;VOCALIC R;VOCALIC L"⟩,
     ⟨0x0C8E, "KANNADA LETTER ", "E;EE;AI"⟩,
     ⟨0x0C92, "KANNADA LETTER ", "O;OO;AU;KA;KHA;GA;GHA"⟩,
     ⟨0x0C99, "KANNADA LETTER ", "NGA;CA;CHA;JA;JHA;NYA;TTA;TTHA;DDA;DDHA;NNA;TA;THA;DA;DHA;NA"⟩,
     ⟨0x0CAA, "KANNADA LETTER ", "PA;PHA;BA;BHA;MA;YA;RA;RRA;LA;LLA"⟩,
     ⟨0x0CB5, "KANNADA LETTER ", "VA;SHA;SSA;SA;HA"⟩,
     ⟨0x0CBC, "KANNADA SIGN ", "NUKTA;AVAGRAHA"⟩,
     ⟨0x0CBE, "KANNADA VOWEL SIGN ", "AA;I;II;U;UU;VOCALIC R;VOCALIC RR"⟩,
     ⟨0x0CC6, "KANNADA VOWEL SIGN ", "E;EE;AI"⟩,
     ⟨0x0CCA, "KANNADA ", "VOWEL SIGN O;VOWEL SIGN OO;VOWEL SIGN AU;SIGN VIRAMA"⟩,
     ⟨0x0CD5, "KANNADA ", "LENGTH MARK;AI LENGTH MARK"⟩,
     ⟨0x0CDD, "KANNADA LETTER ", "NAKAARA POLLU;FA"⟩,
     ⟨0x0CE0, "KANNADA LETTER VOCALIC ", "RR;LL"⟩,
     ⟨0x0CE2, "KANNADA VOWEL SIGN VOCALIC ", "L;LL"⟩,
     ⟨0x0CF1, "KANNADA SIGN ", "JIHVAMULIYA;UPADHMANIYA;COMBINING ANUSVARA ABOVE RIGHT"⟩]

/-- Names in the block Malayalam. -/
def malayalam : NameBlock where
  first := 0x0D00
  last := 0x0D7F
  rows :=
    [⟨0x0D00, "MALAYALAM SIGN ", "COMBINING ANUSVARA ABOVE;CANDRABINDU;ANUSVARA;VISARGA"⟩,
     ⟨0x0D04, "MALAYALAM LETTER ", "VEDIC ANUSVARA;A;AA;I;II;U;UU;VOCALIC R;VOCALIC L"⟩,
     ⟨0x0D0E, "MALAYALAM LETTER ", "E;EE;AI"⟩,
     ⟨0x0D12, "MALAYALAM LETTER ", "O;OO;AU;KA;KHA;GA;GHA;NGA"⟩,
     ⟨0x0D1A, "MALAYALAM LETTER ", "CA;CHA;JA;JHA;NYA;TTA;TTHA;DDA;DDHA;NNA;TA;THA;DA;DHA;NA;NNNA"⟩,
     ⟨0x0D2A, "MALAYALAM LETTER ", "PA;PHA;BA;BHA;MA;YA;RA;RRA;LA;LLA;LLLA;VA;SHA;SSA;SA;HA;TTTA"⟩,
     ⟨0x0D3B, "MALAYALAM SIGN ", "VERTICAL BAR VIRAMA;CIRCULAR VIRAMA;AVAGRAHA"⟩,
     ⟨0x0D3E, "MALAYALAM VOWEL SIGN ", "AA;I;II;U;UU;VOCALIC R;VOCALIC RR"⟩,
     ⟨0x0D46, "MALAYALAM VOWEL SIGN ", "E;EE;AI"⟩,
     ⟨0x0D4A, "MALAYALAM VOWEL SIGN ", "O;OO;AU"⟩,
     ⟨0x0D4D, "MALAYALAM ", "SIGN VIRAMA;LETTER DOT REPH;SIGN PARA"⟩,
     ⟨0x0D54, "MALAYALAM ", "LETTER CHILLU M;LETTER CHILLU Y;LETTER CHILLU LLL;AU LENGTH MARK"⟩,
     ⟨0x0D58, "MALAYALAM FRACTION ", "ONE ONE-HUNDRED-AND-SIXTIETH;ONE FORTIETH;THREE EIGHTIETHS"⟩,
     ⟨0x0D5B, "MALAYALAM FRACTION ", "ONE TWENTIETH;ONE TENTH;THREE TWENTIETHS;ONE FIFTH"⟩,
     ⟨0x0D5F, "MALAYALAM LETTER ", "ARCHAIC II;VOCALIC RR;VOCALIC LL"⟩,
     ⟨0x0D62, "MALAYALAM VOWEL SIGN VOCALIC ", "L;LL"⟩,
     ⟨0x0D70, "MALAYALAM NUMBER ", "TEN;ONE HUNDRED;ONE THOUSAND"⟩,
     ⟨0x0D73, "MALAYALAM FRACTION ", "ONE QUARTER;ONE HALF;THREE QUARTERS;ONE SIXTEENTH"⟩,
     ⟨0x0D77, "MALAYALAM ", "FRACTION ONE EIGHTH;FRACTION THREE SIXTEENTHS;DATE MARK"⟩,
     ⟨0x0D7A, "MALAYALAM LETTER CHILLU ", "NN;N;RR;L;LL;K"⟩]

/-- Names in the block Sinhala. -/
def sinhala : NameBlock where
  first := 0x0D80
  last := 0x0DFF
  rows :=
    [⟨0x0D81, "SINHALA SIGN ", "CANDRABINDU;ANUSVARAYA;VISARGAYA"⟩,
     ⟨0x0D85, "SINHALA LETTER ", "AYANNA;AAYANNA;AEYANNA;AEEYANNA"⟩,
     ⟨0x0D89, "SINHALA LETTER ", "IYANNA;IIYANNA;UYANNA;UUYANNA;IRUYANNA;IRUUYANNA;ILUYANNA"⟩,
     ⟨0x0D90, "SINHALA LETTER ", "ILUUYANNA;EYANNA;EEYANNA;AIYANNA;OYANNA;OOYANNA;AUYANNA"⟩,
     ⟨0x0D9A, "", "SINHALA LETTER ALPAPRAANA KAYANNA"⟩,
     ⟨0x0D9B, "SINHALA LETTER ", "MAHAAPRAANA KAYANNA;ALPAPRAANA GAYANNA;MAHAAPRAANA GAYANNA"⟩,
     ⟨0x0D9E, "SINHALA LETTER ", "KANTAJA NAASIKYAYA;SANYAKA GAYANNA;ALPAPRAANA CAYANNA"⟩,
     ⟨0x0DA1, "SINHALA LETTER ", "MAHAAPRAANA CAYANNA;ALPAPRAANA JAYANNA;MAHAAPRAANA JAYANNA"⟩,
     ⟨0x0DA4, "SINHALA LETTER TAALUJA ", "NAASIKYAYA;SANYOOGA NAAKSIKYAYA"⟩,
     ⟨0x0DA6, "SINHALA LETTER ", "SANYAKA JAYANNA;ALPAPRAANA TTAYANNA;MAHAAPRAANA TTAYANNA"⟩,
     ⟨0x0DA9, "SINHALA LETTER ", "ALPAPRAANA DDAYANNA;MAHAAPRAANA DDAYANNA;MUURDHAJA NAYANNA"⟩,
     ⟨0x0DAC, "SINHALA LETTER ", "SANYAKA DDAYANNA;ALPAPRAANA TAYANNA;MAHAAPRAANA TAYANNA"⟩,
     ⟨0x0DAF, "SINHALA LETTER ", "ALPAPRAANA DAYANNA;MAHAAPRAANA DAYANNA;DANTAJA NAYANNA"⟩,
     ⟨0x0DB3, "", "SINHALA LETTER SANYAKA DAYANNA"⟩,
     ⟨0x0DB4, "SINHALA LETTER ", "ALPAPRAANA PAYANNA;MAHAAPRAANA PAYANNA;ALPAPRAANA BAYANNA"⟩,
     ⟨0x0DB7, "SINHALA LETTER ", "MAHAAPRAANA BAYANNA;MAYANNA;AMBA BAYANNA;YAYANNA;RAYANNA"⟩,
     ⟨0x0DBD, "", "SINHALA LETTER DANTAJA LAYANNA"⟩,
     ⟨0x0DC0, "SINHALA LETTER ", "VAYANNA;TAALUJA SAYANNA;MUURDHAJA SAYANNA"⟩,
     ⟨0x0DC3, "SINHALA LETTER ", "DANTAJA SAYANNA;HAYANNA;MUURDHAJA LAYANNA;FAYANNA"⟩,
     ⟨0x0DCA, "", "SINHALA SIGN AL-LAKUNA"⟩,
     ⟨0x0DCF, "SINHALA VOWEL SIGN ", "AELA-PILLA;KETTI AEDA-PILLA;DIGA AEDA-PILLA"⟩,
     ⟨0x0DD2, "SINHALA VOWEL SIGN ", "KETTI IS-PILLA;DIGA IS-PILLA;KETTI PAA-PILLA"⟩,
     ⟨0x0DD6, "", "SINHALA VOWEL SIGN DIGA PAA-PILLA"⟩,
     ⟨0x0DD8, "SINHALA VOWEL SIGN ", "GAETTA-PILLA;KOMBUVA;DIGA KOMBUVA;KOMBU DEKA"⟩,
     ⟨0x0DDC, "SINHALA VOWEL SIGN KOMBUVA HAA ", "AELA-PILLA;DIGA AELA-PILLA;GAYANUKITTA"⟩,
     ⟨0x0DDF, "", "SINHALA VOWEL SIGN GAYANUKITTA"⟩,
     ⟨0x0DF2, "SINHALA VOWEL SIGN DIGA ", "GAETTA-PILLA;GAYANUKITTA"⟩,
     ⟨0x0DF4, "", "SINHALA PUNCTUATION KUNDDALIYA"⟩]

/-- Names in the block Tibetan. -/
def tibetan : NameBlock where
  first := 0x0F00
  last := 0x0FFF
  rows :=
    [⟨0x0F00, "", "TIBETAN SYLLABLE OM"⟩,
     ⟨0x0F01, "TIBETAN MARK GTER YIG MGO ", "TRUNCATED A;-UM RNAM BCAD MA;-UM GTER TSHEG MA"⟩,
     ⟨0x0F04, "TIBETAN MARK ", "INITIAL YIG MGO MDUN MA;CLOSING YIG MGO SGAB MA"⟩,
     ⟨0x0F06, "TIBETAN MARK ", "CARET YIG MGO PHUR SHAD MA;YIG MGO TSHEG SHAD MA"⟩,
     ⟨0x0F08, "TIBETAN MARK ", "SBRUL SHAD;BSKUR YIG MGO;BKA- SHOG YIG MGO;INTERSYLLABIC TSHEG"⟩,
     ⟨0x0F0C, "TIBETAN MARK ", "DELIMITER TSHEG BSTAR;SHAD;NYIS SHAD;TSHEG SHAD;NYIS TSHEG SHAD"⟩,
     ⟨0x0F11, "TIBETAN MARK ", "RIN CHEN SPUNGS SHAD;RGYA GRAM SHAD;CARET -DZUD RTAGS ME LONG CAN"⟩,
     ⟨0x0F14, "TIBETAN ", "MARK GTER TSHEG;LOGOTYPE SIGN CHAD RTAGS;LOGOTYPE SIGN LHAG RTAGS"⟩,
     ⟨0x0F17, "TIBETAN ASTROLOGICAL SIGN ", "SGRA GCAN -CHAR RTAGS;-KHYUD PA;SDONG TSHUGS"⟩,
     ⟨0x0F1A, "TIBETAN SIGN RDEL DKAR ", "GCIG;GNYIS;GSUM"⟩,
     ⟨0x0F1D, "TIBETAN SIGN RDEL ", "NAG GCIG;NAG GNYIS;DKAR RDEL NAG"⟩,
     ⟨0x0F2A, "TIBETAN DIGIT HALF ", "ONE;TWO;THREE;FOUR;FIVE;SIX;SEVEN;EIGHT;NINE;ZERO"⟩,
     ⟨0x0F34, "TIBETAN MARK ", "BSDUS RTAGS;NGAS BZUNG NYI ZLA;CARET -DZUD RTAGS BZHI MIG CAN"⟩,
     ⟨0x0F37, "TIBETAN MARK ", "NGAS BZUNG SGOR RTAGS;CHE MGO;TSA -PHRU"⟩,
     ⟨0x0F3A, "TIBETAN MARK ", "GUG RTAGS GYON;GUG RTAGS GYAS;ANG KHANG GYON;ANG KHANG GYAS"⟩,
     ⟨0x0F3E, "TIBETAN SIGN ", "YAR TSHES;MAR TSHES"⟩,
     ⟨0x0F40, "TIBETAN LETTER ", "KA;KHA;GA;GHA;NGA;CA;CHA;JA"⟩,
     ⟨0x0F49, "TIBETAN LETTER ", "NYA;TTA;TTHA;DDA"⟩,
     ⟨0x0F4D, "TIBETAN LETTER ", "DDHA;NNA;TA;THA;DA;DHA;NA;PA;PHA;BA;BHA;MA;TSA;TSHA;DZA;DZHA;WA"⟩,
     ⟨0x0F5E, "TIBETAN LETTER ", "ZHA;ZA;-A;YA;RA;LA;SHA;SSA;SA;HA;A;KSSA;FIXED-FORM RA;KKA;RRA"⟩,
     ⟨0x0F71, "TIBETAN VOWEL SIGN ", "AA;I;II;U;UU;VOCALIC R;VOCALIC RR;VOCALIC L;VOCALIC LL;E;EE"⟩,
     ⟨0x0F7C, "TIBETAN ", "VOWEL SIGN O;VOWEL SIGN OO;SIGN RJES SU NGA RO;SIGN RNAM BCAD"⟩,
     ⟨0x0F80, "TIBETAN VOWEL SIGN REVERSED ", "I;II"⟩,
     ⟨0x0F82, "TIBETAN ", "SIGN NYI ZLA NAA DA;SIGN SNA LDAN;MARK HALANTA;MARK PALUTA"⟩,
     ⟨0x0F86, "TIBETAN SIGN ", "LCI RTAGS;YANG RTAGS;LCE TSA CAN"⟩,
     ⟨0x0F89, "TIBETAN SIGN ", "MCHU CAN;GRU CAN RGYINGS;GRU MED RGYINGS;INVERTED MCHU CAN"⟩,
     ⟨0x0F8D, "TIBETAN SUBJOINED SIGN ", "LCE TSA CAN;MCHU CAN;INVERTED MCHU CAN"⟩,
     ⟨0x0F90, "TIBETAN SUBJOINED LETTER ", "KA;KHA;GA;GHA;NGA;CA;CHA;JA"⟩,
     ⟨0x0F99, "TIBETAN SUBJOINED LETTER ", "NYA;TTA;TTHA;DDA"⟩,
     ⟨0x0F9D, "TIBETAN SUBJOINED LETTER ", "DDHA;NNA;TA;THA;DA;DHA;NA;PA;PHA;BA;BHA;MA;TSA;TSHA"⟩,
     ⟨0x0FAB, "TIBETAN SUBJOINED LETTER ", "DZA;DZHA;WA;ZHA;ZA;-A;YA;RA;LA;SHA;SSA;SA;HA;A;KSSA"⟩,
     ⟨0x0FBA, "TIBETAN SUBJOINED LETTER FIXED-FORM ", "WA;YA;RA"⟩,
     ⟨0x0FBE, "TIBETAN KU RU ", "KHA;KHA BZHI MIG CAN"⟩,
     ⟨0x0FC0, "TIBETAN CANTILLATION SIGN ", "HEAVY BEAT;LIGHT BEAT;CANG TE-U;SBUB -CHAL"⟩,
     ⟨0x0FC4, "TIBETAN SYMBOL ", "DRIL BU;RDO RJE;PADMA GDAN;RDO RJE RGYA GRAM;PHUR PA;NOR BU"⟩,
     ⟨0x0FCA, "TIBETAN SYMBOL NOR BU ", "NYIS -KHYIL;GSUM -KHYIL;BZHI -KHYIL"⟩,
     ⟨0x0FCE, "TIBETAN SIGN RDEL NAG ", "RDEL DKAR;GSUM"⟩,
     ⟨0x0FD0, "TIBETAN MARK ", "BSKA- SHOG GI MGO RGYAN;MNYAM YIG GI MGO RGYAN"⟩,
     ⟨0x0FD2, "TIBETAN MARK ", "NYIS TSHEG;INITIAL BRDA RNYING YIG MGO MDUN MA"⟩,
     ⟨0x0FD4, "", "TIBETAN MARK CLOSING BRDA RNYING YIG MGO SGAB MA"⟩,
     ⟨0x0FD5, "", "RIGHT-FACING SVASTI SIGN;LEFT-FACING SVASTI SIGN"⟩,
     ⟨0x0FD7, "", "RIGHT-FACING SVASTI SIGN WITH DOTS;LEFT-FACING SVASTI SIGN WITH DOTS"⟩,
     ⟨0x0FD9, "TIBETAN MARK ", "LEADING MCHAN RTAGS;TRAILING MCHAN RTAGS"⟩]

/-- Names in the block Limbu. -/
def limbu : NameBlock where
  first := 0x1900
  last := 0x194F
  rows :=
    [⟨0x1900, "", "LIMBU VOWEL-CARRIER LETTER"⟩,
     ⟨0x1901, "LIMBU LETTER ", "KA;KHA;GA;GHA;NGA;CA;CHA;JA;JHA;YAN;TA"⟩,
     ⟨0x190C, "LIMBU LETTER ", "THA;DA;DHA;NA;PA;PHA;BA;BHA;MA;YA;RA;LA;WA;SHA;SSA;SA;HA;GYAN;TRA"⟩,
     ⟨0x1920, "LIMBU VOWEL SIGN ", "A;I;U;EE;AI;OO;AU;E;O"⟩,
     ⟨0x1929, "LIMBU SUBJOINED LETTER ", "YA;RA;WA"⟩,
     ⟨0x1930, "LIMBU SMALL LETTER ", "KA;NGA;ANUSVARA;TA;NA;PA;MA;RA;LA"⟩,
     ⟨0x1939, "LIMBU SIGN ", "MUKPHRENG;KEMPHRENG;SA-I"⟩,
     ⟨0x1940, "", "LIMBU SIGN LOO"⟩,
     ⟨0x1944, "LIMBU ", "EXCLAMATION MARK;QUESTION MARK"⟩]

/-- Names in the block Lepcha. -/
def lepcha : NameBlock where
  first := 0x1C00
  last := 0x1C4F
  rows :=
    [⟨0x1C00, "LEPCHA LETTER ", "KA;KLA;KHA;GA;GLA;NGA;CA;CHA;JA;NYA;TA;THA;DA;NA;PA;PLA;PHA"⟩,
     ⟨0x1C11, "LEPCHA LETTER ", "FA;FLA;BA;BLA;MA;MLA;TSA;TSHA;DZA;YA;RA;LA;HA;HLA;VA;SA;SHA;WA;A"⟩,
     ⟨0x1C24, "LEPCHA SUBJOINED LETTER ", "YA;RA"⟩,
     ⟨0x1C26, "LEPCHA VOWEL SIGN ", "AA;I;O;OO;U;UU;E"⟩,
     ⟨0x1C2D, "LEPCHA CONSONANT SIGN ", "K;M;L;N;P;R;T;NYIN-DO;KANG"⟩,
     ⟨0x1C36, "LEPCHA SIGN ", "RAN;NUKTA"⟩,
     ⟨0x1C3B, "LEPCHA PUNCTUATION ", "TA-ROL;NYET THYOOM TA-ROL;CER-WA;TSHOOK CER-WA;TSHOOK"⟩,
     ⟨0x1C4D, "LEPCHA LETTER ", "TTA;TTHA;DDA"⟩]

/-- Names in the block Ol Chiki. -/
def olChiki : NameBlock where
  first := 0x1C50
  last := 0x1C7F
  rows :=
    [⟨0x1C5A, "OL CHIKI LETTER ", "LA;AT;AG;ANG;AL;LAA;AAK;AAJ;AAM;AAW;LI"⟩,
     ⟨0x1C65, "OL CHIKI LETTER ", "IS;IH;INY;IR;LU;UC;UD;UNN;UY;LE;EP;EDD;EN;ERR;LO;OTT;OB;OV;OH"⟩,
     ⟨0x1C78, "OL CHIKI ", "MU TTUDDAG;GAAHLAA TTUDDAAG;MU-GAAHLAA TTUDDAAG;RELAA;PHAARKAA;AHAD"⟩,
     ⟨0x1C7E, "OL CHIKI PUNCTUATION ", "MUCAAD;DOUBLE MUCAAD"⟩]

/-- Names in the block Vedic Extensions. -/
def vedicExtensions : NameBlock where
  first := 0x1CD0
  last := 0x1CFF
  rows :=
    [⟨0x1CD0, "VEDIC TONE ", "KARSHANA;SHARA;PRENKHA"⟩,
     ⟨0x1CD3, "VEDIC SIGN ", "NIHSHVASA;YAJURVEDIC MIDLINE SVARITA"⟩,
     ⟨0x1CD5, "VEDIC TONE YAJURVEDIC ", "AGGRAVATED INDEPENDENT SVARITA;INDEPENDENT SVARITA"⟩,
     ⟨0x1CD7, "VEDIC TONE ", "YAJURVEDIC KATHAKA INDEPENDENT SVARITA;CANDRA BELOW"⟩,
     ⟨0x1CD9, "VEDIC TONE ", "YAJURVEDIC KATHAKA INDEPENDENT SVARITA SCHROEDER;DOUBLE SVARITA"⟩,
     ⟨0x1CDB, "VEDIC TONE ", "TRIPLE SVARITA;KATHAKA ANUDATTA;DOT BELOW;TWO DOTS BELOW"⟩,
     ⟨0x1CDF, "VEDIC TONE ", "THREE DOTS BELOW;RIGVEDIC KASHMIRI INDEPENDENT SVARITA"⟩,
     ⟨0x1CE1, "", "VEDIC TONE ATHARVAVEDIC INDEPENDENT SVARITA"⟩,
     ⟨0x1CE2, "VEDIC SIGN ", "VISARGA SVARITA;VISARGA UDATTA;REVERSED VISARGA UDATTA"⟩,
     ⟨0x1CE5, "VEDIC SIGN ", "VISARGA ANUDATTA;REVERSED VISARGA ANUDATTA;VISARGA UDATTA WITH TAIL"⟩,
     ⟨0x1CE8, "VEDIC SIGN ", "VISARGA ANUDATTA WITH TAIL;ANUSVARA ANTARGOMUKHA"⟩,
     ⟨0x1CEA, "VEDIC SIGN ANUSVARA ", "BAHIRGOMUKHA;VAMAGOMUKHA;VAMAGOMUKHA WITH TAIL"⟩,
     ⟨0x1CED, "VEDIC SIGN ", "TIRYAK;HEXIFORM LONG ANUSVARA;LONG ANUSVARA;RTHANG LONG ANUSVARA"⟩,
     ⟨0x1CF1, "VEDIC SIGN ", "ANUSVARA UBHAYATO MUKHA;ARDHAVISARGA;ROTATED ARDHAVISARGA"⟩,
     ⟨0x1CF4, "VEDIC ", "TONE CANDRA ABOVE;SIGN JIHVAMULIYA;SIGN UPADHMANIYA;SIGN ATIKRAMA"⟩,
     ⟨0x1CF8, "VEDIC ", "TONE RING ABOVE;TONE DOUBLE RING ABOVE;SIGN DOUBLE ANUSVARA ANTARGOMUKHA"⟩]

/-- Names in the block Syloti Nagri. -/
def sylotiNagri : NameBlock where
  first := 0xA800
  last := 0xA82F
  rows :=
    [⟨0xA800, "SYLOTI NAGRI LETTER ", "A;I"⟩,
     ⟨0xA802, "SYLOTI NAGRI ", "SIGN DVISVARA;LETTER U;LETTER E;LETTER O;SIGN HASANTA"⟩,
     ⟨0xA807, "SYLOTI NAGRI ", "LETTER KO;LETTER KHO;LETTER GO;LETTER GHO;SIGN ANUSVARA"⟩,
     ⟨0xA80C, "SYLOTI NAGRI LETTER ", "CO;CHO;JO;JHO;TTO;TTHO"⟩,
     ⟨0xA812, "SYLOTI NAGRI LETTER ", "DDO;DDHO;TO;THO;DO;DHO;NO;PO;PHO;BO;BHO;MO;RO;LO;RRO;SO;HO"⟩,
     ⟨0xA823, "SYLOTI NAGRI VOWEL SIGN ", "A;I;U;E;OO"⟩,
     ⟨0xA828, "SYLOTI NAGRI POETRY MARK-", "1;2;3;4"⟩,
     ⟨0xA82C, "", "SYLOTI NAGRI SIGN ALTERNATE HASANTA"⟩]

/-- Names in the block Common Indic Number Forms. -/
def commonIndicNumberForms : NameBlock where
  first := 0xA830
  last := 0xA83F
  rows :=
    [⟨0xA830, "NORTH INDIC FRACTION ONE ", "QUARTER;HALF"⟩,
     ⟨0xA832, "NORTH INDIC FRACTION ", "THREE QUARTERS;ONE SIXTEENTH;ONE EIGHTH;THREE SIXTEENTHS"⟩,
     ⟨0xA836, "NORTH INDIC ", "QUARTER MARK;PLACEHOLDER MARK;RUPEE MARK;QUANTITY MARK"⟩]

/-- Names in the block Saurashtra. -/
def saurashtra : NameBlock where
  first := 0xA880
  last := 0xA8DF
  rows :=
    [⟨0xA880, "SAURASHTRA SIGN ", "ANUSVARA;VISARGA"⟩,
     ⟨0xA882, "SAURASHTRA LETTER ", "A;AA;I;II;U"⟩,
     ⟨0xA887, "SAURASHTRA LETTER ", "UU;VOCALIC R;VOCALIC RR;VOCALIC L;VOCALIC LL;E;EE;AI;O;OO;AU"⟩,
     ⟨0xA892, "SAURASHTRA LETTER ", "KA;KHA;GA;GHA;NGA;CA;CHA;JA;JHA;NYA;TTA;TTHA;DDA;DDHA;NNA;TA"⟩,
     ⟨0xA8A2, "SAURASHTRA LETTER ", "THA;DA;DHA;NA;PA;PHA;BA;BHA;MA;YA;RA;LA;VA;SHA;SSA;SA;HA;LLA"⟩,
     ⟨0xA8B4, "", "SAURASHTRA CONSONANT SIGN HAARU"⟩,
     ⟨0xA8B5, "SAURASHTRA VOWEL SIGN ", "AA;I;II;U;UU;VOCALIC R"⟩,
     ⟨0xA8BB, "SAURASHTRA VOWEL SIGN ", "VOCALIC RR;VOCALIC L;VOCALIC LL;E;EE;AI;O;OO;AU"⟩,
     ⟨0xA8C4, "SAURASHTRA SIGN ", "VIRAMA;CANDRABINDU"⟩,
     ⟨0xA8CE, "SAURASHTRA ", "DANDA;DOUBLE DANDA"⟩]

/-- Names in the block Devanagari Extended. -/
def devanagariExtended : NameBlock where
  first := 0xA8E0
  last := 0xA8FF
  rows :=
    [⟨0xA8EA, "COMBINING DEVANAGARI LETTER ", "A;U;KA;NA;PA;RA;VI"⟩,
     ⟨0xA8F1, "", "COMBINING DEVANAGARI SIGN AVAGRAHA;DEVANAGARI SIGN SPACING CANDRABINDU"⟩,
     ⟨0xA8F3, "DEVANAGARI SIGN ", "CANDRABINDU VIRAMA;DOUBLE CANDRABINDU VIRAMA"⟩,
     ⟨0xA8F5, "DEVANAGARI SIGN CANDRABINDU ", "TWO;THREE;AVAGRAHA"⟩,
     ⟨0xA8F8, "DEVANAGARI ", "SIGN PUSHPIKA;GAP FILLER"⟩,
     ⟨0xA8FA, "DEVANAGARI ", "CARET;HEADSTROKE;SIGN SIDDHAM;JAIN OM;LETTER AY;VOWEL SIGN AY"⟩]

/-- Names in the block Meetei Mayek Extensions. -/
def meeteiMayekExtensions : NameBlock where
  first := 0xAAE0
  last := 0xAAFF
  rows :=
    [⟨0xAAE0, "MEETEI MAYEK LETTER ", "E;O;CHA;NYA;TTA;TTHA;DDA;DDHA;NNA;SHA;SSA"⟩,
     ⟨0xAAEB, "MEETEI MAYEK VOWEL SIGN ", "II;UU;AAI;AU;AAU"⟩,
     ⟨0xAAF0, "MEETEI MAYEK ", "CHEIKHAN;AHANG KHUDAM;ANJI;SYLLABLE REPETITION MARK"⟩,
     ⟨0xAAF4, "MEETEI MAYEK ", "WORD REPETITION MARK;VOWEL SIGN VISARGA;VIRAMA"⟩]

/-- Names in the block Meetei Mayek. -/
def meeteiMayek : NameBlock where
  first := 0xABC0
  last := 0xABFF
  rows :=
    [⟨0xABC0, "MEETEI MAYEK LETTER ", "KOK;SAM;LAI;MIT;PA;NA;CHIL;TIL"⟩,
     ⟨0xABC8, "MEETEI MAYEK LETTER ", "KHOU;NGOU;THOU;WAI;YANG;HUK;UN;I;PHAM;ATIYA;GOK;JHAM;RAI"⟩,
     ⟨0xABD5, "MEETEI MAYEK LETTER ", "BA;JIL;DIL;GHOU;DHOU;BHAM;KOK LONSUM;LAI LONSUM;MIT LONSUM"⟩,
     ⟨0xABDE, "MEETEI MAYEK LETTER ", "PA LONSUM;NA LONSUM;TIL LONSUM;NGOU LONSUM;I LONSUM"⟩,
     ⟨0xABE3, "MEETEI MAYEK VOWEL SIGN ", "ONAP;INAP;ANAP;YENAP;SOUNAP;UNAP;CHEINAP;NUNG"⟩,
     ⟨0xABEB, "MEETEI MAYEK ", "CHEIKHEI;LUM IYEK;APUN IYEK"⟩]

/-- Names in the block Kharoshthi. -/
def kharoshthi : NameBlock where
  first := 0x10A00
  last := 0x10A5F
  rows :=
    [⟨0x10A00, "KHAROSHTHI ", "LETTER A;VOWEL SIGN I;VOWEL SIGN U;VOWEL SIGN VOCALIC R"⟩,
     ⟨0x10A05, "KHAROSHTHI VOWEL SIGN ", "E;O"⟩,
     ⟨0x10A0C, "KHAROSHTHI ", "VOWEL LENGTH MARK;SIGN DOUBLE RING BELOW;SIGN ANUSVARA"⟩,
     ⟨0x10A0F, "KHAROSHTHI ", "SIGN VISARGA;LETTER KA;LETTER KHA;LETTER GA;LETTER GHA"⟩,
     ⟨0x10A15, "KHAROSHTHI LETTER ", "CA;CHA;JA"⟩,
     ⟨0x10A19, "KHAROSHTHI LETTER ", "NYA;TTA;TTHA;DDA;DDHA;NNA;TA;THA;DA;DHA;NA;PA;PHA"⟩,
     ⟨0x10A26, "KHAROSHTHI LETTER ", "BA;BHA;MA;YA;RA;LA;VA;SHA;SSA;SA;ZA;HA;KKA;TTTHA;TTTA;VHA"⟩,
     ⟨0x10A38, "KHAROSHTHI SIGN ", "BAR ABOVE;CAUDA;DOT BELOW"⟩,
     ⟨0x10A3F, "KHAROSHTHI ", "VIRAMA;DIGIT ONE;DIGIT TWO;DIGIT THREE;DIGIT FOUR"⟩,
     ⟨0x10A44, "KHAROSHTHI NUMBER ", "TEN;TWENTY;ONE HUNDRED;ONE THOUSAND"⟩,
     ⟨0x10A48, "", "KHAROSHTHI FRACTION ONE HALF"⟩,
     ⟨0x10A50, "KHAROSHTHI PUNCTUATION ", "DOT;SMALL CIRCLE;CIRCLE"⟩,
     ⟨0x10A53, "KHAROSHTHI PUNCTUATION ", "CRESCENT BAR;MANGALAM;LOTUS;DANDA;DOUBLE DANDA;LINES"⟩]

/-- Names in the block Hanifi Rohingya. -/
def hanifiRohingya : NameBlock where
  first := 0x10D00
  last := 0x10D3F
  rows :=
    [⟨0x10D00, "HANIFI ROHINGYA LETTER ", "A;BA;PA;TA;TTA;JA;CA;HA;KHA;FA;DA;DDA;RA;RRA;ZA;SA"⟩,
     ⟨0x10D10, "HANIFI ROHINGYA LETTER ", "SHA;KA;GA;LA;MA;NA;WA;KINNA WA;YA;KINNA YA;NGA;NYA;VA"⟩,
     ⟨0x10D1D, "HANIFI ROHINGYA VOWEL ", "A;I;U;E;O"⟩,
     ⟨0x10D22, "HANIFI ROHINGYA MARK ", "SAKIN;NA KHONNA"⟩,
     ⟨0x10D24, "HANIFI ROHINGYA SIGN ", "HARBAHAY;TAHALA;TANA;TASSI"⟩]

/-- Names in the block Brahmi. -/
def brahmi : NameBlock where
  first := 0x11000
  last := 0x1107F
  rows :=
    [⟨0x11000, "BRAHMI SIGN ", "CANDRABINDU;ANUSVARA;VISARGA;JIHVAMULIYA;UPADHMANIYA"⟩,
     ⟨0x11005, "BRAHMI LETTER ", "A;AA;I;II;U;UU;VOCALIC R;VOCALIC RR;VOCALIC L;VOCALIC LL;E;AI"⟩,
     ⟨0x11011, "BRAHMI LETTER ", "O;AU;KA;KHA;GA;GHA;NGA;CA;CHA;JA;JHA;NYA;TTA;TTHA;DDA;DDHA;NNA"⟩,
     ⟨0x11022, "BRAHMI LETTER ", "TA;THA;DA;DHA;NA;PA;PHA;BA;BHA;MA;YA;RA;LA;VA;SHA;SSA;SA;HA;LLA"⟩,
     ⟨0x11035, "BRAHMI LETTER OLD TAMIL ", "LLLA;RRA;NNNA"⟩,
     ⟨0x11038, "BRAHMI VOWEL SIGN ", "AA;BHATTIPROLU AA;I"⟩,
     ⟨0x1103B, "BRAHMI VOWEL SIGN ", "II;U;UU;VOCALIC R;VOCALIC RR;VOCALIC L;VOCALIC LL;E;AI;O;AU"⟩,
     ⟨0x11046, "BRAHMI ", "VIRAMA;DANDA;DOUBLE DANDA"⟩,
     ⟨0x11049, "BRAHMI PUNCTUATION ", "DOT;DOUBLE DOT;LINE;CRESCENT BAR;LOTUS"⟩,
     ⟨0x11052, "BRAHMI NUMBER ", "ONE;TWO;THREE;FOUR;FIVE;SIX;SEVEN;EIGHT"⟩,
     ⟨0x1105A, "BRAHMI NUMBER ", "NINE;TEN;TWENTY;THIRTY;FORTY;FIFTY;SIXTY;SEVENTY;EIGHTY;NINETY"⟩,
     ⟨0x11064, "BRAHMI NUMBER ONE ", "HUNDRED;THOUSAND"⟩,
     ⟨0x11070, "", "BRAHMI SIGN OLD TAMIL VIRAMA"⟩,
     ⟨0x11071, "BRAHMI LETTER OLD TAMIL SHORT ", "E;O"⟩,
     ⟨0x11073, "BRAHMI VOWEL SIGN OLD TAMIL SHORT ", "E;O"⟩,
     ⟨0x11075, "", "BRAHMI LETTER OLD TAMIL LLA"⟩,
     ⟨0x1107F, "", "BRAHMI NUMBER JOINER"⟩]

/-- Names in the block Kaithi. -/
def kaithi : NameBlock where
  first := 0x11080
  last := 0x110CF
  rows :=
    [⟨0x11080, "KAITHI SIGN ", "CANDRABINDU;ANUSVARA;VISARGA"⟩,
     ⟨0x11083, "KAITHI LETTER ", "A;AA;I;II;U;UU;E;AI;O;AU"⟩,
     ⟨0x1108D, "KAITHI LETTER ", "KA;KHA;GA;GHA;NGA;CA;CHA;JA;JHA;NYA;TTA;TTHA;DDA;DDDHA;DDHA;RHA"⟩,
     ⟨0x1109D, "KAITHI LETTER ", "NNA;TA;THA;DA;DHA;NA;PA;PHA;BA;BHA;MA;YA;RA;LA;VA;SHA;SSA;SA;HA"⟩,
     ⟨0x110B0, "KAITHI VOWEL SIGN ", "AA;I;II;U;UU;E;AI;O;AU"⟩,
     ⟨0x110B9, "KAITHI SIGN ", "VIRAMA;NUKTA"⟩,
     ⟨0x110BB, "KAITHI ", "ABBREVIATION SIGN;ENUMERATION SIGN;NUMBER SIGN;SECTION MARK"⟩,
     ⟨0x110BF, "KAITHI ", "DOUBLE SECTION MARK;DANDA;DOUBLE DANDA;VOWEL SIGN VOCALIC R"⟩,
     ⟨0x110CD, "", "KAITHI NUMBER SIGN ABOVE"⟩]

/-- Names in the block Sora Sompeng. -/
def soraSompeng : NameBlock where
  first := 0x110D0
  last := 0x110FF
  rows :=
    [⟨0x110D0, "SORA SOMPENG LETTER ", "SAH;TAH;BAH;CAH;DAH;GAH;MAH;NGAH;LAH;NAH"⟩,
     ⟨0x110DA, "SORA SOMPENG LETTER ", "VAH;PAH;YAH;RAH;HAH;KAH;JAH;NYAH;AH;EEH;IH;UH;OH;EH;MAE"⟩]

/-- Names in the block Chakma. -/
def chakma : NameBlock where
  first := 0x11100
  last := 0x1114F
  rows :=
    [⟨0x11100, "CHAKMA SIGN ", "CANDRABINDU;ANUSVARA;VISARGA"⟩,
     ⟨0x11103, "CHAKMA LETTER ", "AA;I;U;E;KAA;KHAA;GAA;GHAA"⟩,
     ⟨0x1110B, "CHAKMA LETTER ", "NGAA;CAA;CHAA;JAA;JHAA;NYAA;TTAA;TTHAA;DDAA;DDHAA;NNAA;TAA;THAA"⟩,
     ⟨0x11118, "CHAKMA LETTER ", "DAA;DHAA;NAA;PAA;PHAA;BAA;BHAA;MAA;YYAA;YAA;RAA;LAA;WAA;SAA;HAA"⟩,
     ⟨0x11127, "CHAKMA VOWEL SIGN ", "A;I;II;U;UU;E;AI;O;AU;OI"⟩,
     ⟨0x11131, "CHAKMA ", "O MARK;AU MARK;VIRAMA;MAAYYAA"⟩,
     ⟨0x11140, "CHAKMA ", "SECTION MARK;DANDA;DOUBLE DANDA"⟩,
     ⟨0x11143, "CHAKMA ", "QUESTION MARK;LETTER LHAA;VOWEL SIGN AA;VOWEL SIGN EI;LETTER VAA"⟩]

/-- Names in the block Mahajani. -/
def mahajani : NameBlock where
  first := 0x11150
  last := 0x1117F
  rows :=
    [⟨0x11150, "MAHAJANI LETTER ", "A;I;U;E;O;KA;KHA;GA;GHA;CA;CHA;JA;JHA;NYA;TTA;TTHA;DDA"⟩,
     ⟨0x11161, "MAHAJANI LETTER ", "DDHA;NNA;TA;THA;DA;DHA;NA;PA;PHA;BA;BHA;MA;RA;LA;VA;SA;HA;RRA"⟩,
     ⟨0x11173, "MAHAJANI ", "SIGN NUKTA;ABBREVIATION SIGN;SECTION MARK;LIGATURE SHRI"⟩]

/-- Names in the block Sharada. -/
def sharada : NameBlock where
  first := 0x11180
  last := 0x111DF
  rows :=
    [⟨0x11180, "SHARADA ", "SIGN CANDRABINDU;SIGN ANUSVARA;SIGN VISARGA;LETTER A;LETTER AA"⟩,
     ⟨0x11185, "SHARADA LETTER ", "I;II;U;UU;VOCALIC R;VOCALIC RR;VOCALIC L;VOCALIC LL;E;AI;O;AU"⟩,
     ⟨0x11191, "SHARADA LETTER ", "KA;KHA;GA;GHA;NGA;CA;CHA;JA;JHA;NYA;TTA;TTHA;DDA;DDHA;NNA;TA"⟩,
     ⟨0x111A1, "SHARADA LETTER ", "THA;DA;DHA;NA;PA;PHA;BA;BHA;MA;YA;RA;LA;LLA;VA;SHA;SSA;SA;HA"⟩,
     ⟨0x111B3, "SHARADA VOWEL SIGN ", "AA;I;II"⟩,
     ⟨0x111B6, "SHARADA VOWEL SIGN ", "U;UU;VOCALIC R;VOCALIC RR;VOCALIC L;VOCALIC LL;E;AI;O;AU"⟩,
     ⟨0x111C0, "SHARADA SIGN ", "VIRAMA;AVAGRAHA;JIHVAMULIYA;UPADHMANIYA"⟩,
     ⟨0x111C4, "SHARADA ", "OM;DANDA;DOUBLE DANDA;ABBREVIATION SIGN;SEPARATOR"⟩,
     ⟨0x111C9, "SHARADA ", "SANDHI MARK;SIGN NUKTA;VOWEL MODIFIER MARK;EXTRA SHORT VOWEL MARK"⟩,
     ⟨0x111CD, "SHARADA ", "SUTRA MARK;VOWEL SIGN PRISHTHAMATRA E;SIGN INVERTED CANDRABINDU"⟩,
     ⟨0x111DA, "SHARADA ", "EKAM;SIGN SIDDHAM;HEADSTROKE;CONTINUATION SIGN"⟩,
     ⟨0x111DE, "SHARADA SECTION MARK-", "1;2"⟩]

/-- Names in the block Sinhala Archaic Numbers. -/
def sinhalaArchaicNumbers : NameBlock where
  first := 0x111E0
  last := 0x111FF
  rows :=
    [⟨0x111E1, "SINHALA ARCHAIC DIGIT ", "ONE;TWO;THREE;FOUR;FIVE;SIX;SEVEN;EIGHT;NINE"⟩,
     ⟨0x111EA, "SINHALA ARCHAIC NUMBER ", "TEN;TWENTY;THIRTY;FORTY;FIFTY"⟩,
     ⟨0x111EF, "SINHALA ARCHAIC NUMBER ", "SIXTY;SEVENTY;EIGHTY;NINETY;ONE HUNDRED;ONE THOUSAND"⟩]

/-- Names in the block Khojki. -/
def khojki : NameBlock where
  first := 0x11200
  last := 0x1124F
  rows :=
    [⟨0x11200, "KHOJKI LETTER ", "A;AA;I;U;E;AI;O;AU;KA;KHA;GA;GGA;GHA;NGA;CA;CHA;JA;JJA"⟩,
     ⟨0x11213, "KHOJKI LETTER ", "NYA;TTA;TTHA;DDA;DDHA;NNA;TA"⟩,
     ⟨0x1121A, "KHOJKI LETTER ", "THA;DA;DDDA;DHA;NA;PA;PHA;BA;BBA;BHA;MA;YA;RA;LA;VA;SA;HA;LLA"⟩,
     ⟨0x1122C, "KHOJKI VOWEL SIGN ", "AA;I;II;U;E;AI;O;AU"⟩,
     ⟨0x11234, "KHOJKI ", "SIGN ANUSVARA;SIGN VIRAMA;SIGN NUKTA;SIGN SHADDA;DANDA;DOUBLE DANDA"⟩,
     ⟨0x1123A, "KHOJKI ", "WORD SEPARATOR;SECTION MARK;DOUBLE SECTION MARK;ABBREVIATION SIGN"⟩,
     ⟨0x1123E, "KHOJKI ", "SIGN SUKUN;LETTER QA;LETTER SHORT I;VOWEL SIGN VOCALIC R"⟩]

/-- Names in the block Multani. -/
def multani : NameBlock where
  first := 0x11280
  last := 0x112AF
  rows :=
    [⟨0x11280, "MULTANI LETTER ", "A;I;U;E;KA;KHA;GA"⟩,
     ⟨0x11288, "", "MULTANI LETTER GHA"⟩,
     ⟨0x1128A, "MULTANI LETTER ", "CA;CHA;JA;JJA"⟩,
     ⟨0x1128F, "MULTANI LETTER ", "NYA;TTA;TTHA;DDA;DDDA;DDHA;NNA;TA;THA;DA;DHA;NA;PA;PHA;BA"⟩,
     ⟨0x1129F, "MULTANI LETTER ", "BHA;MA;YA;RA;LA;VA;SA;HA;RRA;RHA"⟩,
     ⟨0x112A9, "", "MULTANI SECTION MARK"⟩]

/-- Names in the block Khudawadi. -/
def khudawadi : NameBlock where
  first := 0x112B0
  last := 0x112FF
  rows :=
    [⟨0x112B0, "KHUDAWADI LETTER ", "A;AA;I;II;U;UU;E;AI;O;AU;KA;KHA;GA;GGA"⟩,
     ⟨0x112BE, "KHUDAWADI LETTER ", "GHA;NGA;CA;CHA;JA;JJA;JHA;NYA;TTA;TTHA;DDA;DDDA;RRA;DDHA;NNA"⟩,
     ⟨0x112CD, "KHUDAWADI LETTER ", "TA;THA;DA;DHA;NA;PA;PHA;BA;BBA;BHA;MA;YA;RA;LA;VA;SHA;SA;HA"⟩,
     ⟨0x112DF, "", "KHUDAWADI SIGN ANUSVARA"⟩,
     ⟨0x112E0, "KHUDAWADI VOWEL SIGN ", "AA;I;II;U;UU;E;AI;O;AU"⟩,
     ⟨0x112E9, "KHUDAWADI SIGN ", "NUKTA;VIRAMA"⟩]

/-- Names in the block Grantha. -/
def grantha : NameBlock where
  first := 0x11300
  last := 0x1137F
  rows :=
    [⟨0x11300, "GRANTHA SIGN ", "COMBINING ANUSVARA ABOVE;CANDRABINDU;ANUSVARA;VISARGA"⟩,
     ⟨0x11305, "GRANTHA LETTER ", "A;AA;I;II;U;UU;VOCALIC R;VOCALIC L"⟩,
     ⟨0x1130F, "GRANTHA LETTER ", "EE;AI"⟩,
     ⟨0x11313, "GRANTHA LETTER ", "OO;AU;KA;KHA;GA;GHA"⟩,
     ⟨0x11319, "GRANTHA LETTER ", "NGA;CA;CHA;JA;JHA;NYA;TTA;TTHA;DDA;DDHA;NNA;TA;THA;DA;DHA;NA"⟩,
     ⟨0x1132A, "GRANTHA LETTER ", "PA;PHA;BA;BHA;MA;YA;RA"⟩,
     ⟨0x11332, "GRANTHA LETTER ", "LA;LLA"⟩,
     ⟨0x11335, "GRANTHA LETTER ", "VA;SHA;SSA;SA;HA"⟩,
     ⟨0x1133B, "", "COMBINING BINDU BELOW;GRANTHA SIGN NUKTA;GRANTHA SIGN AVAGRAHA"⟩,
     ⟨0x1133E, "GRANTHA VOWEL SIGN ", "AA;I;II;U;UU;VOCALIC R;VOCALIC RR"⟩,
     ⟨0x11347, "GRANTHA VOWEL SIGN ", "EE;AI"⟩,
     ⟨0x1134B, "GRANTHA ", "VOWEL SIGN OO;VOWEL SIGN AU;SIGN VIRAMA"⟩,
     ⟨0x11350, "", "GRANTHA OM"⟩,
     ⟨0x11357, "", "GRANTHA AU LENGTH MARK"⟩,
     ⟨0x1135D, "", "GRANTHA SIGN PLUTA"⟩,
     ⟨0x1135E, "GRANTHA LETTER ", "VEDIC ANUSVARA;VEDIC DOUBLE ANUSVARA;VOCALIC RR;VOCALIC LL"⟩,
     ⟨0x11362, "GRANTHA VOWEL SIGN VOCALIC ", "L;LL"⟩,
     ⟨0x11366, "COMBINING GRANTHA DIGIT ", "ZERO;ONE;TWO;THREE;FOUR;FIVE;SIX"⟩,
     ⟨0x11370, "COMBINING GRANTHA LETTER ", "A;KA;NA;VI;PA"⟩]

/-- Names in the block Tulu-Tigalari. -/
def tuluTigalari : NameBlock where
  first := 0x11380
  last := 0x113FF
  rows :=
    [⟨0x11380, "TULU-TIGALARI LETTER ", "A;AA;I;II;U;UU;VOCALIC R;VOCALIC RR;VOCALIC L;VOCALIC LL"⟩,
     ⟨0x1138B, "", "TULU-TIGALARI LETTER EE"⟩,
     ⟨0x1138E, "", "TULU-TIGALARI LETTER AI"⟩,
     ⟨0x11390, "TULU-TIGALARI LETTER ", "OO;AU;KA;KHA;GA;GHA;NGA"⟩,
     ⟨0x11397, "TULU-TIGALARI LETTER ", "CA;CHA;JA;JHA;NYA;TTA;TTHA;DDA;DDHA;NNA;TA;THA;DA;DHA;NA"⟩,
     ⟨0x113A6, "TULU-TIGALARI LETTER ", "PA;PHA;BA;BHA;MA;YA;RA;LA;VA;SHA;SSA;SA;HA;LLA;RRA;LLLA"⟩,
     ⟨0x113B7, "TULU-TIGALARI ", "SIGN AVAGRAHA;VOWEL SIGN AA"⟩,
     ⟨0x113B9, "TULU-TIGALARI VOWEL SIGN ", "I;II;U;UU;VOCALIC R;VOCALIC RR;VOCALIC L;VOCALIC LL"⟩,
     ⟨0x113C2, "", "TULU-TIGALARI VOWEL SIGN EE"⟩,
     ⟨0x113C5, "", "TULU-TIGALARI VOWEL SIGN AI"⟩,
     ⟨0x113C7, "TULU-TIGALARI VOWEL SIGN ", "OO;AU"⟩,
     ⟨0x113C9, "TULU-TIGALARI ", "AU LENGTH MARK;SIGN CANDRA ANUNASIKA"⟩,
     ⟨0x113CC, "TULU-TIGALARI SIGN ", "ANUSVARA;VISARGA;VIRAMA;LOOPED VIRAMA"⟩,
     ⟨0x113D0, "TULU-TIGALARI ", "CONJOINER;REPHA;GEMINATION MARK;SIGN PLUTA;DANDA;DOUBLE DANDA"⟩,
     ⟨0x113D7, "TULU-TIGALARI SIGN ", "OM PUSHPIKA;SHRII PUSHPIKA"⟩,
     ⟨0x113E1, "TULU-TIGALARI VEDIC TONE ", "SVARITA;ANUDATTA"⟩]

/-- Names in the block Newa. -/
def newa : NameBlock where
  first := 0x11400
  last := 0x1147F
  rows :=
    [⟨0x11400, "NEWA LETTER ", "A;AA;I;II;U;UU"⟩,
     ⟨0x11406, "NEWA LETTER ", "VOCALIC R;VOCALIC RR;VOCALIC L;VOCALIC LL;E;AI;O;AU;KA;KHA;GA;GHA"⟩,
     ⟨0x11412, "NEWA LETTER ", "NGA;NGHA;CA;CHA;JA;JHA;NYA;NYHA;TTA;TTHA;DDA;DDHA;NNA;TA;THA;DA"⟩,
     ⟨0x11422, "NEWA LETTER ", "DHA;NA;NHA;PA;PHA;BA;BHA;MA;MHA;YA;RA;RHA;LA;LHA;WA;SHA;SSA;SA;HA"⟩,
     ⟨0x11435, "", "NEWA VOWEL SIGN AA"⟩,
     ⟨0x11436, "NEWA VOWEL SIGN ", "I;II;U;UU;VOCALIC R;VOCALIC RR;VOCALIC L;VOCALIC LL;E;AI;O;AU"⟩,
     ⟨0x11442, "NEWA SIGN ", "VIRAMA;CANDRABINDU;ANUSVARA;VISARGA;NUKTA;AVAGRAHA;FINAL ANUSVARA"⟩,
     ⟨0x11449, "NEWA ", "OM;SIDDHI;DANDA;DOUBLE DANDA;COMMA;GAP FILLER;ABBREVIATION SIGN"⟩,
     ⟨0x1145A, "NEWA ", "DOUBLE COMMA;PLACEHOLDER MARK"⟩,
     ⟨0x1145D, "NEWA ", "INSERTION SIGN;SANDHI MARK;LETTER VEDIC ANUSVARA"⟩,
     ⟨0x11460, "NEWA SIGN ", "JIHVAMULIYA;UPADHMANIYA"⟩]

/-- Names in the block Tirhuta. -/
def tirhuta : NameBlock where
  first := 0x11480
  last := 0x114DF
  rows :=
    [⟨0x11480, "", "TIRHUTA ANJI"⟩,
     ⟨0x11481, "TIRHUTA LETTER ", "A;AA;I;II;U;UU;VOCALIC R;VOCALIC RR;VOCALIC L;VOCALIC LL;E;AI"⟩,
     ⟨0x1148D, "TIRHUTA LETTER ", "O;AU;KA;KHA;GA;GHA;NGA;CA;CHA;JA;JHA;NYA;TTA;TTHA;DDA;DDHA;NNA"⟩,
     ⟨0x1149E, "TIRHUTA LETTER ", "TA;THA;DA;DHA;NA;PA;PHA;BA;BHA;MA;YA;RA;LA;VA;SHA;SSA;SA;HA"⟩,
     ⟨0x114B0, "TIRHUTA VOWEL SIGN ", "AA;I;II;U;UU;VOCALIC R"⟩,
     ⟨0x114B6, "TIRHUTA VOWEL SIGN ", "VOCALIC RR;VOCALIC L;VOCALIC LL;E;SHORT E;AI;O;SHORT O;AU"⟩,
     ⟨0x114BF, "TIRHUTA SIGN ", "CANDRABINDU;ANUSVARA;VISARGA;VIRAMA;NUKTA;AVAGRAHA"⟩,
     ⟨0x114C5, "TIRHUTA ", "GVANG;ABBREVIATION SIGN;OM"⟩]

/-- Names in the block Siddham. -/
def siddham : NameBlock where
  first := 0x11580
  last := 0x115FF
  rows :=
    [⟨0x11580, "SIDDHAM LETTER ", "A;AA;I;II;U;UU;VOCALIC R;VOCALIC RR;VOCALIC L;VOCALIC LL;E;AI"⟩,
     ⟨0x1158C, "SIDDHAM LETTER ", "O;AU;KA;KHA;GA;GHA;NGA;CA;CHA;JA;JHA;NYA;TTA;TTHA;DDA;DDHA;NNA"⟩,
     ⟨0x1159D, "SIDDHAM LETTER ", "TA;THA;DA;DHA;NA;PA;PHA;BA;BHA;MA;YA;RA;LA;VA;SHA;SSA;SA;HA"⟩,
     ⟨0x115AF, "SIDDHAM VOWEL SIGN ", "AA;I;II;U;UU;VOCALIC R;VOCALIC RR"⟩,
     ⟨0x115B8, "SIDDHAM VOWEL SIGN ", "E;AI;O;AU"⟩,
     ⟨0x115BC, "SIDDHAM SIGN ", "CANDRABINDU;ANUSVARA;VISARGA;VIRAMA;NUKTA;SIDDHAM"⟩,
     ⟨0x115C2, "SIDDHAM ", "DANDA;DOUBLE DANDA;SEPARATOR DOT;SEPARATOR BAR"⟩,
     ⟨0x115C6, "SIDDHAM REPETITION MARK-", "1;2;3"⟩,
     ⟨0x115C9, "", "SIDDHAM END OF TEXT MARK"⟩,
     ⟨0x115CA, "SIDDHAM SECTION MARK WITH TRIDENT AND ", "U-SHAPED ORNAMENTS;DOTTED CRESCENTS"⟩,
     ⟨0x115CC, "", "SIDDHAM SECTION MARK WITH RAYS AND DOTTED CRESCENTS"⟩,
     ⟨0x115CD, "SIDDHAM SECTION MARK WITH RAYS AND DOTTED ", "DOUBLE CRESCENTS;TRIPLE CRESCENTS"⟩,
     ⟨0x115CF, "SIDDHAM SECTION MARK DOUBLE ", "RING;RING WITH RAYS"⟩,
     ⟨0x115D1, "SIDDHAM SECTION MARK WITH ", "DOUBLE CRESCENTS;TRIPLE CRESCENTS"⟩,
     ⟨0x115D3, "SIDDHAM SECTION MARK WITH ", "QUADRUPLE CRESCENTS;SEPTUPLE CRESCENTS"⟩,
     ⟨0x115D5, "SIDDHAM SECTION MARK WITH CIRCLES AND ", "RAYS;TWO ENCLOSURES;FOUR ENCLOSURES"⟩,
     ⟨0x115D8, "", "SIDDHAM LETTER THREE-CIRCLE ALTERNATE I"⟩,
     ⟨0x115D9, "SIDDHAM LETTER ", "TWO-CIRCLE ALTERNATE I;TWO-CIRCLE ALTERNATE II;ALTERNATE U"⟩,
     ⟨0x115DC, "SIDDHAM VOWEL SIGN ALTERNATE ", "U;UU"⟩]

/-- Names in the block Modi. -/
def modi : NameBlock where
  first := 0x11600
  last := 0x1165F
  rows :=
    [⟨0x11600, "MODI LETTER ", "A;AA;I;II;U;UU;VOCALIC R;VOCALIC RR;VOCALIC L;VOCALIC LL;E"⟩,
     ⟨0x1160B, "MODI LETTER ", "AI;O;AU;KA;KHA;GA;GHA;NGA;CA;CHA;JA;JHA;NYA;TTA;TTHA;DDA;DDHA;NNA"⟩,
     ⟨0x1161D, "MODI LETTER ", "TA;THA;DA;DHA;NA;PA;PHA;BA;BHA;MA;YA;RA;LA;VA;SHA;SSA;SA;HA;LLA"⟩,
     ⟨0x11630, "MODI VOWEL SIGN ", "AA;I;II;U;UU;VOCALIC R;VOCALIC RR;VOCALIC L;VOCALIC LL;E;AI;O"⟩,
     ⟨0x1163C, "MODI ", "VOWEL SIGN AU;SIGN ANUSVARA;SIGN VISARGA;SIGN VIRAMA"⟩,
     ⟨0x11640, "MODI ", "SIGN ARDHACANDRA;DANDA;DOUBLE DANDA;ABBREVIATION SIGN;SIGN HUVA"⟩]

/-- Names in the block Takri. -/
def takri : NameBlock where
  first := 0x11680
  last := 0x116CF
  rows :=
    [⟨0x11680, "TAKRI LETTER ", "A;AA;I;II;U;UU;E;AI;O;AU;KA;KHA;GA;GHA;NGA;CA;CHA;JA;JHA;NYA;TTA"⟩,
     ⟨0x11695, "TAKRI LETTER ", "TTHA;DDA;DDHA;NNA;TA;THA;DA;DHA;NA;PA;PHA;BA;BHA;MA;YA;RA;LA;VA"⟩,
     ⟨0x116A7, "TAKRI ", "LETTER SHA;LETTER SA;LETTER HA;LETTER RRA;SIGN ANUSVARA;SIGN VISARGA"⟩,
     ⟨0x116AD, "TAKRI VOWEL SIGN ", "AA;I;II;U;UU;E;AI;O;AU"⟩,
     ⟨0x116B6, "TAKRI ", "SIGN VIRAMA;SIGN NUKTA;LETTER ARCHAIC KHA;ABBREVIATION SIGN"⟩]

/-- Names in the block Ahom. -/
def ahom : NameBlock where
  first := 0x11700
  last := 0x1174F
  rows :=
    [⟨0x11700, "AHOM LETTER ", "KA;KHA;NGA;NA;TA;ALTERNATE TA;PA;PHA;BA;MA;JA;CHA;THA"⟩,
     ⟨0x1170D, "AHOM LETTER ", "RA;LA;SA;NYA;HA;A;DA;DHA;GA;ALTERNATE GA;GHA;BHA;JHA;ALTERNATE BA"⟩,
     ⟨0x1171D, "AHOM CONSONANT SIGN MEDIAL ", "LA;RA;LIGATING RA"⟩,
     ⟨0x11720, "AHOM VOWEL SIGN ", "A;AA;I;II;U;UU;E;AW;O;AI;AM"⟩,
     ⟨0x1172B, "", "AHOM SIGN KILLER"⟩,
     ⟨0x1173A, "AHOM NUMBER ", "TEN;TWENTY"⟩,
     ⟨0x1173C, "AHOM ", "SIGN SMALL SECTION;SIGN SECTION;SIGN RULAI;SYMBOL VI"⟩,
     ⟨0x11740, "AHOM LETTER ", "CA;TTA;TTHA;DDA;DDHA;NNA;LLA"⟩]

/-- Names in the block Dogra. -/
def dogra : NameBlock where
  first := 0x11800
  last := 0x1184F
  rows :=
    [⟨0x11800, "DOGRA LETTER ", "A;AA;I;II;U;UU;E;AI"⟩,
     ⟨0x11808, "DOGRA LETTER ", "O;AU;KA;KHA;GA;GHA;NGA;CA;CHA;JA;JHA;NYA;TTA;TTHA;DDA;DDHA;NNA"⟩,
     ⟨0x11819, "DOGRA LETTER ", "TA;THA;DA;DHA;NA;PA;PHA;BA;BHA;MA;YA;RA;LA;VA;SHA;SSA;SA;HA;RRA"⟩,
     ⟨0x1182C, "DOGRA VOWEL SIGN ", "AA;I;II;U;UU;VOCALIC R;VOCALIC RR;E;AI;O;AU"⟩,
     ⟨0x11837, "DOGRA ", "SIGN ANUSVARA;SIGN VISARGA;SIGN VIRAMA;SIGN NUKTA;ABBREVIATION SIGN"⟩]

/-- Names in the block Warang Citi. -/
def warangCiti : NameBlock where
  first := 0x118A0
  last := 0x118FF
  rows :=
    [⟨0x118A0, "WARANG CITI CAPITAL LETTER ", "NGAA;A;WI;YU;YA"⟩,
     ⟨0x118A5, "WARANG CITI CAPITAL LETTER ", "YO;II;UU;E;O;ANG;GA;KO;ENY;YUJ;UC;ENN;ODD;TTE;NUNG"⟩,
     ⟨0x118B4, "WARANG CITI CAPITAL LETTER ", "DA;AT;AM;BU;PU;HIYO;HOLO;HORR;HAR;SSUU;SII;VIYO"⟩,
     ⟨0x118C0, "WARANG CITI SMALL LETTER ", "NGAA;A;WI"⟩,
     ⟨0x118C3, "WARANG CITI SMALL LETTER ", "YU;YA;YO;II;UU;E;O;ANG;GA;KO;ENY;YUJ;UC;ENN;ODD;TTE"⟩,
     ⟨0x118D3, "WARANG CITI SMALL LETTER ", "NUNG;DA;AT;AM;BU;PU;HIYO;HOLO;HORR;HAR;SSUU;SII;VIYO"⟩,
     ⟨0x118EA, "WARANG CITI NUMBER ", "TEN;TWENTY;THIRTY;FORTY;FIFTY;SIXTY;SEVENTY;EIGHTY;NINETY"⟩,
     ⟨0x118FF, "", "WARANG CITI OM"⟩]

/-- Names in the block Dives Akuru. -/
def divesAkuru : NameBlock where
  first := 0x11900
  last := 0x1195F
  rows :=
    [⟨0x11900, "DIVES AKURU LETTER ", "A;AA;I;II;U;UU;E"⟩,
     ⟨0x11909, "", "DIVES AKURU LETTER O"⟩,
     ⟨0x1190C, "DIVES AKURU LETTER ", "KA;KHA;GA;GHA;NGA;CA;CHA;JA"⟩,
     ⟨0x11915, "DIVES AKURU LETTER ", "NYA;TTA"⟩,
     ⟨0x11918, "DIVES AKURU LETTER ", "DDA;DDHA;NNA;TA;THA;DA;DHA"⟩,
     ⟨0x1191F, "DIVES AKURU LETTER ", "NA;PA;PHA;BA;BHA;MA;YA;YYA;RA;LA;VA;SHA;SSA;SA;HA;LLA;ZA"⟩,
     ⟨0x11930, "DIVES AKURU VOWEL SIGN ", "AA;I;II;U;UU;E"⟩,
     ⟨0x11937, "DIVES AKURU VOWEL SIGN ", "AI;O"⟩,
     ⟨0x1193B, "DIVES AKURU SIGN ", "ANUSVARA;CANDRABINDU;HALANTA"⟩,
     ⟨0x1193E, "DIVES AKURU ", "VIRAMA;PREFIXED NASAL SIGN;MEDIAL YA;INITIAL RA"⟩,
     ⟨0x11942, "DIVES AKURU ", "MEDIAL RA;SIGN NUKTA;DOUBLE DANDA;GAP FILLER;END OF TEXT MARK"⟩]

/-- Names in the block Nandinagari. -/
def nandinagari : NameBlock where
  first := 0x119A0
  last := 0x119FF
  rows :=
    [⟨0x119A0, "NANDINAGARI LETTER ", "A;AA;I;II;U;UU;VOCALIC R;VOCALIC RR"⟩,
     ⟨0x119AA, "NANDINAGARI LETTER ", "E;AI;O;AU;KA;KHA;GA"⟩,
     ⟨0x119B1, "NANDINAGARI LETTER ", "GHA;NGA;CA;CHA;JA;JHA;NYA;TTA;TTHA;DDA;DDHA;NNA;TA;THA;DA"⟩,
     ⟨0x119C0, "NANDINAGARI LETTER ", "DHA;NA;PA;PHA;BA;BHA;MA;YA;RA;LA;VA;SHA;SSA;SA;HA;LLA;RRA"⟩,
     ⟨0x119D1, "NANDINAGARI VOWEL SIGN ", "AA;I;II;U;UU;VOCALIC R;VOCALIC RR"⟩,
     ⟨0x119DA, "NANDINAGARI VOWEL SIGN ", "E;AI;O;AU"⟩,
     ⟨0x119DE, "NANDINAGARI SIGN ", "ANUSVARA;VISARGA;VIRAMA;AVAGRAHA;SIDDHAM"⟩,
     ⟨0x119E3, "NANDINAGARI ", "HEADSTROKE;VOWEL SIGN PRISHTHAMATRA E"⟩]

/-- Names in the block Devanagari Extended-A. -/
def devanagariExtendedA : NameBlock where
  first := 0x11B00
  last := 0x11B5F
  rows :=
    [⟨0x11B00, "DEVANAGARI HEAD ", "MARK;MARK WITH HEADSTROKE"⟩,
     ⟨0x11B02, "DEVANAGARI SIGN ", "BHALE;BHALE WITH HOOK;EXTENDED BHALE;EXTENDED BHALE WITH HOOK"⟩,
     ⟨0x11B06, "DEVANAGARI SIGN WESTERN ", "FIVE-LIKE BHALE;NINE-LIKE BHALE"⟩,
     ⟨0x11B08, "DEVANAGARI SIGN ", "REVERSED NINE-LIKE BHALE;MINDU"⟩]

/-- Names in the block Sunuwar. -/
def sunuwar : NameBlock where
  first := 0x11BC0
  last := 0x11BFF
  rows :=
    [⟨0x11BC0, "SUNUWAR LETTER ", "DEVI;TASLA;EKO;IMAR;REU;UTTHI;KIK;MA;APPHO;PIP"⟩,
     ⟨0x11BCA, "SUNUWAR LETTER ", "GIL;HAMSO;CARMI;NAH;BUR;JYAH;LOACHA;OTTHI;SHYELE;VARCA;YAT;AVA"⟩,
     ⟨0x11BD6, "SUNUWAR LETTER ", "AAL;DONGA;THARI;PHAR;NGAR;KHA;SHYER;CHELAP;TENTU;THELE;KLOKO"⟩,
     ⟨0x11BE1, "", "SUNUWAR SIGN PVO"⟩]

/-- Names in the block Bhaiksuki. -/
def bhaiksuki : NameBlock where
  first := 0x11C00
  last := 0x11C6F
  rows :=
    [⟨0x11C00, "BHAIKSUKI LETTER ", "A;AA;I;II;U;UU;VOCALIC R;VOCALIC RR;VOCALIC L"⟩,
     ⟨0x11C0A, "BHAIKSUKI LETTER ", "E;AI;O"⟩,
     ⟨0x11C0D, "BHAIKSUKI LETTER ", "AU;KA;KHA;GA;GHA;NGA;CA;CHA;JA;JHA;NYA;TTA;TTHA;DDA;DDHA;NNA"⟩,
     ⟨0x11C1D, "BHAIKSUKI LETTER ", "TA;THA;DA;DHA;NA;PA;PHA;BA;BHA;MA;YA;RA;LA;VA;SHA;SSA;SA;HA"⟩,
     ⟨0x11C2F, "BHAIKSUKI VOWEL SIGN ", "AA;I;II;U;UU;VOCALIC R;VOCALIC RR;VOCALIC L"⟩,
     ⟨0x11C38, "BHAIKSUKI VOWEL SIGN ", "E;AI;O;AU"⟩,
     ⟨0x11C3C, "BHAIKSUKI SIGN ", "CANDRABINDU;ANUSVARA;VISARGA;VIRAMA;AVAGRAHA"⟩,
     ⟨0x11C41, "BHAIKSUKI ", "DANDA;DOUBLE DANDA;WORD SEPARATOR;GAP FILLER-1;GAP FILLER-2"⟩,
     ⟨0x11C5A, "BHAIKSUKI NUMBER ", "ONE;TWO;THREE;FOUR;FIVE;SIX;SEVEN;EIGHT;NINE"⟩,
     ⟨0x11C63, "BHAIKSUKI NUMBER ", "TEN;TWENTY;THIRTY;FORTY;FIFTY;SIXTY;SEVENTY;EIGHTY;NINETY"⟩,
     ⟨0x11C6C, "", "BHAIKSUKI HUNDREDS UNIT MARK"⟩]

/-- Names in the block Marchen. -/
def marchen : NameBlock where
  first := 0x11C70
  last := 0x11CBF
  rows :=
    [⟨0x11C70, "MARCHEN ", "HEAD MARK;MARK SHAD"⟩,
     ⟨0x11C72, "MARCHEN LETTER ", "KA;KHA;GA;NGA;CA;CHA;JA;NYA;TA;THA;DA"⟩,
     ⟨0x11C7D, "MARCHEN LETTER ", "NA;PA;PHA;BA;MA;TSA;TSHA;DZA;WA;ZHA;ZA;-A;YA;RA;LA;SHA;SA;HA;A"⟩,
     ⟨0x11C92, "MARCHEN SUBJOINED LETTER ", "KA;KHA;GA;NGA;CA;CHA;JA"⟩,
     ⟨0x11C99, "MARCHEN SUBJOINED LETTER ", "NYA;TA;THA;DA;NA;PA;PHA;BA;MA;TSA;TSHA;DZA;WA;ZHA;ZA"⟩,
     ⟨0x11CA9, "MARCHEN SUBJOINED LETTER ", "YA;RA;LA;SHA;SA;HA;A"⟩,
     ⟨0x11CB0, "MARCHEN VOWEL SIGN ", "AA;I;U;E;O"⟩,
     ⟨0x11CB5, "MARCHEN SIGN ", "ANUSVARA;CANDRABINDU"⟩]

/-- Names in the block Masaram Gondi. -/
def masaramGondi : NameBlock where
  first := 0x11D00
  last := 0x11D5F
  rows :=
    [⟨0x11D00, "MASARAM GONDI LETTER ", "A;AA;I;II;U;UU;E"⟩,
     ⟨0x11D08, "MASARAM GONDI LETTER ", "AI;O"⟩,
     ⟨0x11D0B, "MASARAM GONDI LETTER ", "AU;KA;KHA;GA;GHA;NGA;CA;CHA"⟩,
     ⟨0x11D13, "MASARAM GONDI LETTER ", "JA;JHA;NYA;TTA;TTHA;DDA;DDHA;NNA;TA;THA;DA;DHA;NA;PA;PHA"⟩,
     ⟨0x11D22, "MASARAM GONDI LETTER ", "BA;BHA;MA;YA;RA;LA;VA;SHA;SSA;SA;HA;LLA;KSSA;JNYA;TRA"⟩,
     ⟨0x11D31, "MASARAM GONDI VOWEL SIGN ", "AA;I;II;U;UU;VOCALIC R"⟩,
     ⟨0x11D3A, "", "MASARAM GONDI VOWEL SIGN E"⟩,
     ⟨0x11D3C, "MASARAM GONDI VOWEL SIGN ", "AI;O"⟩,
     ⟨0x11D3F, "MASARAM GONDI ", "VOWEL SIGN AU;SIGN ANUSVARA;SIGN VISARGA"⟩,
     ⟨0x11D42, "MASARAM GONDI ", "SIGN NUKTA;SIGN CANDRA;SIGN HALANTA;VIRAMA;REPHA;RA-KARA"⟩]

/-- Names in the block Gunjala Gondi. -/
def gunjalaGondi : NameBlock where
  first := 0x11D60
  last := 0x11DAF
  rows :=
    [⟨0x11D60, "GUNJALA GONDI LETTER ", "A;AA;I;II;U;UU"⟩,
     ⟨0x11D67, "GUNJALA GONDI LETTER ", "EE;AI"⟩,
     ⟨0x11D6A, "GUNJALA GONDI LETTER ", "OO;AU;YA;VA;BA;BHA;MA;KA;KHA;TA;THA;LA;GA;GHA;DA;DHA;NA"⟩,
     ⟨0x11D7B, "GUNJALA GONDI LETTER ", "CA;CHA;TTA;TTHA;LLA;JA;JHA;DDA;DDHA;NGA;PA;PHA;HA;RA;SA"⟩,
     ⟨0x11D8A, "GUNJALA GONDI VOWEL SIGN ", "AA;I;II;U;UU"⟩,
     ⟨0x11D90, "GUNJALA GONDI VOWEL SIGN ", "EE;AI"⟩,
     ⟨0x11D93, "GUNJALA GONDI VOWEL SIGN ", "OO;AU"⟩,
     ⟨0x11D95, "GUNJALA GONDI ", "SIGN ANUSVARA;SIGN VISARGA;VIRAMA;OM"⟩]

/-- Names in the block Tamil Supplement. -/
def tamilSupplement : NameBlock where
  first := 0x11FC0
  last := 0x11FFF
  rows :=
    [⟨0x11FC0, "TAMIL FRACTION ONE ", "THREE-HUNDRED-AND-TWENTIETH;ONE-HUNDRED-AND-SIXTIETH"⟩,
     ⟨0x11FC2, "TAMIL FRACTION ONE ", "EIGHTIETH;SIXTY-FOURTH;FORTIETH;THIRTY-SECOND"⟩,
     ⟨0x11FC6, "TAMIL FRACTION THREE ", "EIGHTIETHS;SIXTY-FOURTHS"⟩,
     ⟨0x11FC8, "TAMIL FRACTION ONE ", "TWENTIETH;SIXTEENTH-1;SIXTEENTH-2;TENTH;EIGHTH"⟩,
     ⟨0x11FCD, "TAMIL FRACTION ", "THREE TWENTIETHS;THREE SIXTEENTHS;ONE FIFTH;ONE QUARTER"⟩,
     ⟨0x11FD1, "TAMIL FRACTION ", "ONE HALF-1;ONE HALF-2;THREE QUARTERS;DOWNSCALING FACTOR KIIZH"⟩,
     ⟨0x11FD5, "TAMIL SIGN ", "NEL;CEVITU;AAZHAAKKU;UZHAKKU;MUUVUZHAKKU;KURUNI"⟩,
     ⟨0x11FDB, "TAMIL SIGN ", "PATHAKKU;MUKKURUNI;KAACU;PANAM;PON;VARAAKAN;PAARAM;KUZHI;VELI"⟩,
     ⟨0x11FE4, "TAMIL ", "WET CULTIVATION SIGN;DRY CULTIVATION SIGN;LAND SIGN;SALT PAN SIGN"⟩,
     ⟨0x11FE8, "TAMIL TRADITIONAL ", "CREDIT SIGN;NUMBER SIGN"⟩,
     ⟨0x11FEA, "TAMIL ", "CURRENT SIGN;AND ODD SIGN;SPENT SIGN;TOTAL SIGN"⟩,
     ⟨0x11FEE, "TAMIL ", "IN POSSESSION SIGN;STARTING FROM SIGN;SIGN MUTHALIYA;SIGN VAKAIYARAA"⟩,
     ⟨0x11FFF, "", "TAMIL PUNCTUATION END OF TEXT"⟩]

/-- Names in the block Gurung Khema. -/
def gurungKhema : NameBlock where
  first := 0x16100
  last := 0x1613F
  rows :=
    [⟨0x16100, "GURUNG KHEMA LETTER ", "A;KA;KHA;GA;GHA;NGA;CA;CHA;JA;JHA;HA;TTA;TTHA"⟩,
     ⟨0x1610D, "GURUNG KHEMA LETTER ", "DDA;DDHA;VA;TA;THA;DA;DHA;NA;PA;PHA;BA;BHA;MA;YA;RA;LA;SA"⟩,
     ⟨0x1611E, "GURUNG KHEMA VOWEL SIGN ", "AA;I;II;U;UU;E;EE;AI;O;OO;AU"⟩,
     ⟨0x16129, "", "GURUNG KHEMA VOWEL LENGTH MARK"⟩,
     ⟨0x1612A, "GURUNG KHEMA CONSONANT SIGN MEDIAL ", "YA;VA;HA"⟩,
     ⟨0x1612D, "GURUNG KHEMA ", "SIGN ANUSVARA;CONSONANT SIGN MEDIAL RA;SIGN THOLHOMA"⟩]

/-- Names in the block Mro. -/
def mro : NameBlock where
  first := 0x16A40
  last := 0x16A6F
  rows :=
    [⟨0x16A40, "MRO LETTER ", "TA;NGI;YO;MIM;BA;DA;A;PHI;KHAI;HAO;DAI;CHU"⟩,
     ⟨0x16A4C, "MRO LETTER ", "KEAAE;OL;MAEM;NIN;PA;OO;O;RO;SHI;THEA;EA;WA;E;KO;LAN;LA;HAI;RI;TEK"⟩,
     ⟨0x16A6E, "MRO ", "DANDA;DOUBLE DANDA"⟩]

/-- Names in the block Tangsa. -/
def tangsa : NameBlock where
  first := 0x16A70
  last := 0x16ACF
  rows :=
    [⟨0x16A70, "TANGSA LETTER ", "OZ;OC;OQ;OX;AZ;AC;AQ;AX;VZ;VC;VQ;VX;EZ;EC;EQ;EX;IZ"⟩,
     ⟨0x16A81, "TANGSA LETTER ", "IC;IQ;IX;UZ;UC;UQ;UX;AWZ;AWC;AWQ;AWX;UIZ;UIC;UIQ;UIX;FINAL NG"⟩,
     ⟨0x16A91, "TANGSA LETTER ", "LONG UEX;SHORT UEZ;SHORT AWX;UEC;UEZ;UEQ;UEX;UIUZ;UIUC;UIUQ"⟩,
     ⟨0x16A9B, "TANGSA LETTER ", "UIUX;MZ;MC;MQ;MX;KA;KHA;GA;NGA;SA;YA;WA;PA;NYA;PHA;BA;MA;NA"⟩,
     ⟨0x16AAD, "TANGSA LETTER ", "HA;LA;HTA;TA;DA;RA;NHA;SHA;CA;TSA;GHA;HTTA;THA;XA;FA;DHA;CHA;ZA"⟩]

/-- Names in the block Kirat Rai. -/
def kiratRai : NameBlock where
  first := 0x16D40
  last := 0x16D7F
  rows :=
    [⟨0x16D40, "KIRAT RAI SIGN ", "ANUSVARA;TONPI;VISARGA"⟩,
     ⟨0x16D43, "KIRAT RAI LETTER ", "A;KA;KHA;GA;GHA;NGA;CA;CHA;JA;JHA;NYA;TTA;TTHA;DDA"⟩,
     ⟨0x16D51, "KIRAT RAI LETTER ", "DDHA;TA;THA;DA;DHA;NA;PA;PHA;BA;BHA;MA;YA;RA;LA;VA;SA;SHA;HA"⟩,
     ⟨0x16D63, "KIRAT RAI VOWEL SIGN ", "AA;I;U;UE;E;AI;O;AU"⟩,
     ⟨0x16D6B, "KIRAT RAI ", "SIGN VIRAMA;SIGN SAAT;SIGN YUPI;DANDA;DOUBLE DANDA"⟩]

/-- Names in the block Toto. -/
def toto : NameBlock where
  first := 0x1E290
  last := 0x1E2BF
  rows :=
    [⟨0x1E290, "TOTO LETTER ", "PA;BA;TA;DA;KA;GA;MA;NA;NGA;SA;CHA;YA;WA;JA;HA;RA;LA;I;BREATHY I"⟩,
     ⟨0x1E2A3, "TOTO LETTER ", "IU;BREATHY IU;U;E;BREATHY E;EO;BREATHY EO;O;AE;BREATHY AE;A"⟩,
     ⟨0x1E2AE, "", "TOTO SIGN RISING TONE"⟩]

/-- Names in the block Wancho. -/
def wancho : NameBlock where
  first := 0x1E2C0
  last := 0x1E2FF
  rows :=
    [⟨0x1E2C0, "WANCHO LETTER ", "AA;A;BA;CA;DA;GA;YA"⟩,
     ⟨0x1E2C7, "WANCHO LETTER ", "PHA;LA;NA;PA;TA;THA;FA;SA;SHA;JA;ZA;WA;VA;KA;O;AU;RA;MA;KHA;HA"⟩,
     ⟨0x1E2DB, "WANCHO LETTER ", "E;I;NGA;U;LLHA;TSA;TRA;ONG;AANG;ANG;ING;ON;EN;AAN;NYA;UEN;YIH"⟩,
     ⟨0x1E2EC, "WANCHO TONE ", "TUP;TUPNI;KOI;KOINI"⟩,
     ⟨0x1E2FF, "", "WANCHO NGUN SIGN"⟩]

/-- Names in the block Nag Mundari. -/
def nagMundari : NameBlock where
  first := 0x1E4D0
  last := 0x1E4FF
  rows :=
    [⟨0x1E4D0, "NAG MUNDARI LETTER ", "O;OP;OL;OY;ONG;A;AJ;AB"⟩,
     ⟨0x1E4D8, "NAG MUNDARI LETTER ", "ANY;AH;I;IS;IDD;IT;IH;U;UC;UD;UK;UR;E;ENN;EG;EM;EN;ETT;ELL"⟩,
     ⟨0x1E4EB, "NAG MUNDARI SIGN ", "OJOD;MUHOR;TOYOR;IKIR;SUTUH"⟩]

/-- Names in the block Ol Onal. -/
def olOnal : NameBlock where
  first := 0x1E5D0
  last := 0x1E5FF
  rows :=
    [⟨0x1E5D0, "OL ONAL LETTER ", "O;OM;ONG;ORR;OO;OY;A;AD;AB;AH"⟩,
     ⟨0x1E5DA, "OL ONAL LETTER ", "AL;AW;I;IT;IP;ITT;ID;IN;U;UK;UDD;UJ;UNY;UR;E;ES;EH;EC;ENN;EG"⟩,
     ⟨0x1E5EE, "OL ONAL SIGN ", "MU;IKIR;HODDOND"⟩,
     ⟨0x1E5FF, "", "OL ONAL ABBREVIATION SIGN"⟩]

end NameBlock

/-- The blocks of this module. -/
def southAsianBlocks : List NameBlock :=
  [.devanagari, .bengali, .gurmukhi, .gujarati, .oriya, .tamil, .telugu, .kannada, .malayalam,
   .sinhala, .tibetan, .limbu, .lepcha, .olChiki, .vedicExtensions, .sylotiNagri,
   .commonIndicNumberForms, .saurashtra, .devanagariExtended, .meeteiMayekExtensions,
   .meeteiMayek, .kharoshthi, .hanifiRohingya, .brahmi, .kaithi, .soraSompeng, .chakma,
   .mahajani, .sharada, .sinhalaArchaicNumbers, .khojki, .multani, .khudawadi, .grantha,
   .tuluTigalari, .newa, .tirhuta, .siddham, .modi, .takri, .ahom, .dogra, .warangCiti,
   .divesAkuru, .nandinagari, .devanagariExtendedA, .sunuwar, .bhaiksuki, .marchen,
   .masaramGondi, .gunjalaGondi, .tamilSupplement, .gurungKhema, .mro, .tangsa, .kiratRai, .toto,
   .wancho, .nagMundari, .olOnal]

end Text
end Scripting
