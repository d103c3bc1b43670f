import Scripting.Text.Names.Block

namespace Scripting
namespace Text

/-!
Names of letters of the scripts of Africa and of the Americas.
-/

namespace NameBlock

/-- Names in the block NKo. -/
def nko : NameBlock where
  first := 0x07C0
  last := 0x07FF
  rows :=
    [⟨0x07CA, "NKO LETTER ", "A;EE;I;E;U;OO;O;DAGBASINNA;N;BA;PA;TA;JA;CHA;DA;RA;RRA;SA;GBA;FA;KA"⟩,
     ⟨0x07DF, "NKO LETTER ", "LA;NA WOLOSO;MA;NYA;NA;HA;WA;YA;NYA WOLOSO;JONA JA;JONA CHA;JONA RA"⟩,
     ⟨0x07EB, "NKO COMBINING SHORT ", "HIGH TONE;LOW TONE;RISING TONE"⟩,
     ⟨0x07EE, "NKO COMBINING LONG ", "DESCENDING TONE;HIGH TONE;LOW TONE;RISING TONE"⟩,
     ⟨0x07F2, "NKO COMBINING ", "NASALIZATION MARK;DOUBLE DOT ABOVE"⟩,
     ⟨0x07F4, "NKO ", "HIGH TONE APOSTROPHE;LOW TONE APOSTROPHE"⟩,
     ⟨0x07F6, "NKO ", "SYMBOL OO DENNEN;SYMBOL GBAKURUNEN;COMMA;EXCLAMATION MARK;LAJANYALAN"⟩,
     ⟨0x07FD, "NKO ", "DANTAYALAN;DOROME SIGN;TAMAN SIGN"⟩]

/-- Names in the block Ethiopic. -/
def ethiopic : NameBlock where
  first := 0x1200
  last := 0x137F
  rows :=
    [⟨0x1200, "ETHIOPIC SYLLABLE ", "HA;HU;HI;HAA;HEE;HE;HO;HOA;LA;LU;LI"⟩,
     ⟨0x120B, "ETHIOPIC SYLLABLE ", "LAA;LEE;LE;LO;LWA;HHA;HHU;HHI;HHAA;HHEE;HHE;HHO;HHWA;MA;MU"⟩,
     ⟨0x121A, "ETHIOPIC SYLLABLE ", "MI;MAA;MEE;ME;MO;MWA;SZA;SZU;SZI;SZAA;SZEE;SZE;SZO;SZWA;RA"⟩,
     ⟨0x1229, "ETHIOPIC SYLLABLE ", "RU;RI;RAA;REE;RE;RO;RWA;SA;SU;SI;SAA;SEE;SE;SO;SWA;SHA;SHU"⟩,
     ⟨0x123A, "ETHIOPIC SYLLABLE ", "SHI;SHAA;SHEE;SHE;SHO;SHWA;QA;QU;QI;QAA;QEE;QE;QO;QOA;QWA"⟩,
     ⟨0x124A, "ETHIOPIC SYLLABLE ", "QWI;QWAA;QWEE;QWE"⟩,
     ⟨0x1250, "ETHIOPIC SYLLABLE ", "QHA;QHU;QHI;QHAA;QHEE;QHE;QHO"⟩,
     ⟨0x1258, "", "ETHIOPIC SYLLABLE QHWA"⟩,
     ⟨0x125A, "ETHIOPIC SYLLABLE ", "QHWI;QHWAA;QHWEE;QHWE"⟩,
     ⟨0x1260, "ETHIOPIC SYLLABLE ", "BA;BU;BI;BAA;BEE;BE"⟩,
     ⟨0x1266, "ETHIOPIC SYLLABLE ", "BO;BWA;VA;VU;VI;VAA;VEE;VE;VO;VWA;TA;TU;TI;TAA;TEE;TE;TO;TWA"⟩,
     ⟨0x1278, "ETHIOPIC SYLLABLE ", "CA;CU;CI;CAA;CEE;CE;CO;CWA;XA;XU;XI;XAA;XEE;XE;XO;XOA;XWA"⟩,
     ⟨0x128A, "ETHIOPIC SYLLABLE ", "XWI;XWAA;XWEE;XWE"⟩,
     ⟨0x1290, "", "ETHIOPIC SYLLABLE NA"⟩,
     ⟨0x1291, "ETHIOPIC SYLLABLE ", "NU;NI;NAA;NEE;NE;NO;NWA;NYA;NYU;NYI;NYAA;NYEE;NYE;NYO;NYWA"⟩,
     ⟨0x12A0, "ETHIOPIC SYLLABLE GLOTTAL ", "A;U;I;AA;EE;E;O;WA"⟩,
     ⟨0x12A8, "ETHIOPIC SYLLABLE ", "KA;KU;KI;KAA;KEE;KE;KO;KOA;KWA"⟩,
     ⟨0x12B2, "ETHIOPIC SYLLABLE ", "KWI;KWAA;KWEE;KWE"⟩,
     ⟨0x12B8, "ETHIOPIC SYLLABLE ", "KXA;KXU;KXI;KXAA;KXEE;KXE;KXO"⟩,
     ⟨0x12C0, "", "ETHIOPIC SYLLABLE KXWA"⟩,
     ⟨0x12C2, "ETHIOPIC SYLLABLE ", "KXWI;KXWAA;KXWEE;KXWE"⟩,
     ⟨0x12C8, "ETHIOPIC SYLLABLE ", "WA;WU;WI;WAA;WEE;WE;WO;WOA"⟩,
     ⟨0x12D0, "ETHIOPIC SYLLABLE PHARYNGEAL ", "A;U;I;AA;EE;E;O"⟩,
     ⟨0x12D8, "ETHIOPIC SYLLABLE ", "ZA;ZU;ZI;ZAA;ZEE;ZE;ZO;ZWA;ZHA"⟩,
     ⟨0x12E1, "ETHIOPIC SYLLABLE ", "ZHU;ZHI;ZHAA;ZHEE;ZHE;ZHO;ZHWA;YA;YU;YI;YAA;YEE;YE;YO;YOA;DA"⟩,
     ⟨0x12F1, "ETHIOPIC SYLLABLE ", "DU;DI;DAA;DEE;DE;DO;DWA;DDA;DDU;DDI;DDAA;DDEE;DDE;DDO;DDWA"⟩,
     ⟨0x1300, "ETHIOPIC SYLLABLE ", "JA;JU;JI;JAA;JEE;JE;JO;JWA;GA;GU;GI;GAA;GEE;GE;GO;GOA;GWA"⟩,
     ⟨0x1312, "ETHIOPIC SYLLABLE ", "GWI;GWAA;GWEE;GWE"⟩,
     ⟨0x1318, "ETHIOPIC SYLLABLE ", "GGA;GGU;GGI;GGAA;GGEE;GGE;GGO;GGWAA"⟩,
     ⟨0x1320, "ETHIOPIC SYLLABLE ", "THA;THU;THI;THAA;THEE;THE;THO;THWA;CHA;CHU;CHI;CHAA;CHEE;CHE"⟩,
     ⟨0x132E, "ETHIOPIC SYLLABLE ", "CHO;CHWA;PHA;PHU;PHI;PHAA;PHEE;PHE;PHO;PHWA;TSA;TSU;TSI;TSAA"⟩,
     ⟨0x133C, "ETHIOPIC SYLLABLE ", "TSEE;TSE;TSO;TSWA;TZA;TZU;TZI;TZAA;TZEE;TZE;TZO;TZOA;FA;FU"⟩,
     ⟨0x134A, "ETHIOPIC SYLLABLE ", "FI;FAA;FEE;FE;FO;FWA;PA;PU;PI;PAA;PEE;PE;PO;PWA;RYA;MYA;FYA"⟩,
     ⟨0x135D, "ETHIOPIC COMBINING ", "GEMINATION AND VOWEL LENGTH MARK;VOWEL LENGTH MARK"⟩,
     ⟨0x135F, "ETHIOPIC ", "COMBINING GEMINATION MARK;SECTION MARK;WORDSPACE;FULL STOP"⟩,
     ⟨0x1363, "ETHIOPIC ", "COMMA;SEMICOLON;COLON;PREFACE COLON;QUESTION MARK;PARAGRAPH SEPARATOR"⟩,
     ⟨0x1369, "ETHIOPIC DIGIT ", "ONE;TWO;THREE;FOUR;FIVE;SIX;SEVEN;EIGHT;NINE"⟩,
     ⟨0x1372, "ETHIOPIC NUMBER ", "TEN;TWENTY;THIRTY"⟩,
     ⟨0x1375, "ETHIOPIC NUMBER ", "FORTY;FIFTY;SIXTY;SEVENTY;EIGHTY;NINETY;HUNDRED;TEN THOUSAND"⟩]

/-- Names in the block Ethiopic Supplement. -/
def ethiopicSupplement : NameBlock where
  first := 0x1380
  last := 0x139F
  rows :=
    [⟨0x1380, "ETHIOPIC SYLLABLE ", "SEBATBEIT MWA;MWI;MWEE;MWE;SEBATBEIT BWA;BWI;BWEE"⟩,
     ⟨0x1387, "ETHIOPIC SYLLABLE ", "BWE;SEBATBEIT FWA;FWI;FWEE;FWE;SEBATBEIT PWA;PWI;PWEE;PWE"⟩,
     ⟨0x1390, "ETHIOPIC TONAL MARK ", "YIZET;DERET;RIKRIK"⟩,
     ⟨0x1393, "ETHIOPIC TONAL MARK ", "SHORT RIKRIK;DIFAT;KENAT;CHIRET;HIDET;DERET-HIDET;KURT"⟩]

/-- Names in the block Cherokee. -/
def cherokee : NameBlock where
  first := 0x13A0
  last := 0x13FF
  rows :=
    [⟨0x13A0, "CHEROKEE LETTER ", "A;E;I;O;U;V;GA;KA;GE;GI"⟩,
     ⟨0x13AA, "CHEROKEE LETTER ", "GO;GU;GV;HA;HE;HI;HO;HU;HV;LA;LE;LI;LO;LU;LV;MA;ME;MI;MO;MU;NA"⟩,
     ⟨0x13BF, "CHEROKEE LETTER ", "HNA;NAH;NE;NI;NO;NU;NV;QUA;QUE;QUI;QUO;QUU;QUV;SA;S;SE;SI;SO"⟩,
     ⟨0x13D1, "CHEROKEE LETTER ", "SU;SV;DA;TA;DE;TE;DI;TI;DO;DU;DV;DLA;TLA;TLE;TLI;TLO;TLU;TLV"⟩,
     ⟨0x13E3, "CHEROKEE LETTER ", "TSA;TSE;TSI;TSO;TSU;TSV;WA;WE;WI;WO;WU;WV;YA;YE;YI;YO;YU;YV;MV"⟩,
     ⟨0x13F8, "CHEROKEE SMALL LETTER ", "YE;YI;YO;YU;YV;MV"⟩]

/-- Names in the block Unified Canadian Aboriginal Syllabics. -/
def unifiedCanadianAboriginalSyllabics : NameBlock where
  first := 0x1400
  last := 0x167F
  rows :=
    [⟨0x1400, "CANADIAN SYLLABICS ", "HYPHEN;E;AAI;I;II;O;OO;Y-CREE OO;CARRIER EE;CARRIER I"⟩,
     ⟨0x140A, "CANADIAN SYLLABICS ", "A;AA;WE;WEST-CREE WE;WI;WEST-CREE WI;WII;WEST-CREE WII;WO"⟩,
     ⟨0x1413, "CANADIAN SYLLABICS ", "WEST-CREE WO;WOO;WEST-CREE WOO;NASKAPI WOO;WA;WEST-CREE WA"⟩,
     ⟨0x1419, "CANADIAN SYLLABICS ", "WAA;WEST-CREE WAA;NASKAPI WAA;AI;Y-CREE W;GLOTTAL STOP"⟩,
     ⟨0x141F, "CANADIAN SYLLABICS FINAL ", "ACUTE;GRAVE"⟩,
     ⟨0x1421, "CANADIAN SYLLABICS FINAL ", "BOTTOM HALF RING;TOP HALF RING;RIGHT HALF RING;RING"⟩,
     ⟨0x1425, "CANADIAN SYLLABICS FINAL DOUBLE ", "ACUTE;SHORT VERTICAL STROKES"⟩,
     ⟨0x1427, "CANADIAN SYLLABICS FINAL ", "MIDDLE DOT;SHORT HORIZONTAL STROKE;PLUS;DOWN TACK"⟩,
     ⟨0x142B, "CANADIAN SYLLABICS ", "EN;IN;ON;AN;PE;PAAI;PI;PII;PO;POO"⟩,
     ⟨0x1435, "CANADIAN SYLLABICS ", "Y-CREE POO;CARRIER HEE;CARRIER HI;PA;PAA;PWE;WEST-CREE PWE"⟩,
     ⟨0x143C, "CANADIAN SYLLABICS ", "PWI;WEST-CREE PWI;PWII;WEST-CREE PWII;PWO;WEST-CREE PWO"⟩,
     ⟨0x1442, "CANADIAN SYLLABICS ", "PWOO;WEST-CREE PWOO;PWA;WEST-CREE PWA;PWAA;WEST-CREE PWAA"⟩,
     ⟨0x1448, "CANADIAN SYLLABICS ", "Y-CREE PWAA;P;WEST-CREE P;CARRIER H;TE;TAAI;TI;TII;TO;TOO"⟩,
     ⟨0x1452, "CANADIAN SYLLABICS ", "Y-CREE TOO;CARRIER DEE;CARRIER DI;TA;TAA;TWE;WEST-CREE TWE"⟩,
     ⟨0x1459, "CANADIAN SYLLABICS ", "TWI;WEST-CREE TWI;TWII;WEST-CREE TWII;TWO;WEST-CREE TWO"⟩,
     ⟨0x145F, "CANADIAN SYLLABICS ", "TWOO;WEST-CREE TWOO;TWA;WEST-CREE TWA;TWAA;WEST-CREE TWAA"⟩,
     ⟨0x1465, "CANADIAN SYLLABICS ", "NASKAPI TWAA;T;TTE;TTI;TTO;TTA;KE;KAAI;KI;KII;KO"⟩,
     ⟨0x1470, "CANADIAN SYLLABICS ", "KOO;Y-CREE KOO;KA;KAA;KWE;WEST-CREE KWE;KWI;WEST-CREE KWI"⟩,
     ⟨0x1478, "CANADIAN SYLLABICS ", "KWII;WEST-CREE KWII;KWO;WEST-CREE KWO;KWOO;WEST-CREE KWOO"⟩,
     ⟨0x147E, "CANADIAN SYLLABICS ", "KWA;WEST-CREE KWA;KWAA;WEST-CREE KWAA;NASKAPI KWAA;K;KW"⟩,
     ⟨0x1485, "CANADIAN SYLLABICS SOUTH-SLAVEY ", "KEH;KIH;KOH;KAH"⟩,
     ⟨0x1489, "CANADIAN SYLLABICS ", "CE;CAAI;CI;CII;CO"⟩,
     ⟨0x148E, "CANADIAN SYLLABICS ", "COO;Y-CREE COO;CA;CAA;CWE;WEST-CREE CWE;CWI;WEST-CREE CWI"⟩,
     ⟨0x1496, "CANADIAN SYLLABICS ", "CWII;WEST-CREE CWII;CWO;WEST-CREE CWO;CWOO;WEST-CREE CWOO"⟩,
     ⟨0x149C, "CANADIAN SYLLABICS ", "CWA;WEST-CREE CWA;CWAA;WEST-CREE CWAA;NASKAPI CWAA"⟩,
     ⟨0x14A1, "CANADIAN SYLLABICS ", "C;SAYISI TH;ME;MAAI;MI;MII;MO;MOO;Y-CREE MOO;MA"⟩,
     ⟨0x14AB, "CANADIAN SYLLABICS ", "MAA;MWE;WEST-CREE MWE;MWI;WEST-CREE MWI;MWII;WEST-CREE MWII"⟩,
     ⟨0x14B2, "CANADIAN SYLLABICS ", "MWO;WEST-CREE MWO;MWOO;WEST-CREE MWOO;MWA;WEST-CREE MWA"⟩,
     ⟨0x14B8, "CANADIAN SYLLABICS ", "MWAA;WEST-CREE MWAA;NASKAPI MWAA;M;WEST-CREE M;MH"⟩,
     ⟨0x14BE, "CANADIAN SYLLABICS ", "ATHAPASCAN M;SAYISI M;NE;NAAI;NI;NII;NO;NOO;Y-CREE NOO;NA"⟩,
     ⟨0x14C8, "CANADIAN SYLLABICS ", "NAA;NWE;WEST-CREE NWE;NWA;WEST-CREE NWA;NWAA;WEST-CREE NWAA"⟩,
     ⟨0x14CF, "CANADIAN SYLLABICS ", "NASKAPI NWAA;N;CARRIER NG;NH;LE;LAAI;LI;LII;LO;LOO"⟩,
     ⟨0x14D9, "CANADIAN SYLLABICS ", "Y-CREE LOO;LA;LAA;LWE;WEST-CREE LWE;LWI;WEST-CREE LWI;LWII"⟩,
     ⟨0x14E1, "CANADIAN SYLLABICS ", "WEST-CREE LWII;LWO;WEST-CREE LWO;LWOO;WEST-CREE LWOO;LWA"⟩,
     ⟨0x14E7, "CANADIAN SYLLABICS ", "WEST-CREE LWA;LWAA;WEST-CREE LWAA;L;WEST-CREE L;MEDIAL L"⟩,
     ⟨0x14ED, "CANADIAN SYLLABICS ", "SE;SAAI;SI;SII;SO;SOO;Y-CREE SOO;SA;SAA;SWE;WEST-CREE SWE"⟩,
     ⟨0x14F8, "CANADIAN SYLLABICS ", "SWI;WEST-CREE SWI;SWII;WEST-CREE SWII;SWO;WEST-CREE SWO"⟩,
     ⟨0x14FE, "CANADIAN SYLLABICS ", "SWOO;WEST-CREE SWOO;SWA;WEST-CREE SWA;SWAA;WEST-CREE SWAA"⟩,
     ⟨0x1504, "CANADIAN SYLLABICS ", "NASKAPI SWAA;S;ATHAPASCAN S;SW;BLACKFOOT S;MOOSE-CREE SK"⟩,
     ⟨0x150A, "CANADIAN SYLLABICS NASKAPI ", "SKW;S-W;SPWA;STWA;SKWA;SCWA"⟩,
     ⟨0x1510, "CANADIAN SYLLABICS ", "SHE;SHI;SHII;SHO;SHOO;SHA;SHAA;SHWE;WEST-CREE SHWE;SHWI"⟩,
     ⟨0x151A, "CANADIAN SYLLABICS ", "WEST-CREE SHWI;SHWII;WEST-CREE SHWII;SHWO;WEST-CREE SHWO"⟩,
     ⟨0x151F, "CANADIAN SYLLABICS ", "SHWOO;WEST-CREE SHWOO;SHWA;WEST-CREE SHWA;SHWAA"⟩,
     ⟨0x1524, "CANADIAN SYLLABICS ", "WEST-CREE SHWAA;SH;YE;YAAI;YI;YII;YO;YOO;Y-CREE YOO;YA"⟩,
     ⟨0x152E, "CANADIAN SYLLABICS ", "YAA;YWE;WEST-CREE YWE;YWI;WEST-CREE YWI;YWII;WEST-CREE YWII"⟩,
     ⟨0x1535, "CANADIAN SYLLABICS ", "YWO;WEST-CREE YWO;YWOO;WEST-CREE YWOO;YWA;WEST-CREE YWA"⟩,
     ⟨0x153B, "CANADIAN SYLLABICS ", "YWAA;WEST-CREE YWAA;NASKAPI YWAA;Y;BIBLE-CREE Y"⟩,
     ⟨0x1540, "CANADIAN SYLLABICS ", "WEST-CREE Y;SAYISI YI;RE;R-CREE RE;WEST-CREE LE"⟩,
     ⟨0x1545, "CANADIAN SYLLABICS ", "RAAI;RI;RII;RO;ROO;WEST-CREE LO;RA;RAA;WEST-CREE LA"⟩,
     ⟨0x154E, "CANADIAN SYLLABICS ", "RWAA;WEST-CREE RWAA;R;WEST-CREE R;MEDIAL R;FE;FAAI"⟩,
     ⟨0x1555, "CANADIAN SYLLABICS ", "FI;FII;FO;FOO;FA;FAA;FWAA;WEST-CREE FWAA;F;THE;N-CREE THE"⟩,
     ⟨0x1560, "CANADIAN SYLLABICS ", "THI;N-CREE THI;THII;N-CREE THII;THO;THOO;THA;THAA;THWAA"⟩,
     ⟨0x1569, "CANADIAN SYLLABICS ", "WEST-CREE THWAA;TH;TTHE;TTHI;TTHO;TTHA;TTH;TYE;TYI;TYO;TYA"⟩,
     ⟨0x1574, "CANADIAN SYLLABICS NUNAVIK ", "HE;HI;HII;HO;HOO;HA;HAA;H"⟩,
     ⟨0x157C, "CANADIAN SYLLABICS ", "NUNAVUT H;HK;QAAI;QI;QII;QO;QOO;QA;QAA;Q"⟩,
     ⟨0x1586, "CANADIAN SYLLABICS ", "TLHE;TLHI;TLHO;TLHA;WEST-CREE RE;WEST-CREE RI;WEST-CREE RO"⟩,
     ⟨0x158D, "CANADIAN SYLLABICS ", "WEST-CREE RA;NGAAI;NGI;NGII;NGO;NGOO;NGA;NGAA;NG;NNG"⟩,
     ⟨0x1597, "CANADIAN SYLLABICS SAYISI ", "SHE;SHI;SHO;SHA"⟩,
     ⟨0x159B, "CANADIAN SYLLABICS WOODS-CREE ", "THE;THI;THO;THA;TH"⟩,
     ⟨0x15A0, "CANADIAN SYLLABICS ", "LHI;LHII;LHO;LHOO;LHA;LHAA;LH"⟩,
     ⟨0x15A7, "CANADIAN SYLLABICS TH-CREE ", "THE;THI;THII;THO;THOO;THA;THAA;TH"⟩,
     ⟨0x15AF, "", "CANADIAN SYLLABICS AIVILIK B"⟩,
     ⟨0x15B0, "CANADIAN SYLLABICS BLACKFOOT ", "E;I;O;A;WE;WI;WO;WA;NE;NI;NO;NA;KE;KI;KO;KA"⟩,
     ⟨0x15C0, "CANADIAN SYLLABICS SAYISI ", "HE;HI;HO;HA"⟩,
     ⟨0x15C4, "CANADIAN SYLLABICS CARRIER ", "GHU;GHO;GHE;GHEE;GHI;GHA;RU;RO;RE;REE"⟩,
     ⟨0x15CE, "CANADIAN SYLLABICS CARRIER ", "RI;RA;WU;WO;WE;WEE;WI;WA;HWU;HWO;HWE;HWEE;HWI;HWA"⟩,
     ⟨0x15DC, "CANADIAN SYLLABICS CARRIER ", "THU;THO;THE;THEE;THI;THA;TTU;TTO;TTE;TTEE;TTI;TTA"⟩,
     ⟨0x15E8, "CANADIAN SYLLABICS CARRIER ", "PU;PO;PE;PEE;PI;PA;P;GU;GO;GE;GEE;GI;GA;KHU;KHO;KHE"⟩,
     ⟨0x15F8, "CANADIAN SYLLABICS CARRIER ", "KHEE;KHI;KHA;KKU;KKO;KKE;KKEE;KKI;KKA;KK;NU;NO;NE"⟩,
     ⟨0x1605, "CANADIAN SYLLABICS CARRIER ", "NEE;NI;NA;MU;MO;ME;MEE;MI;MA;YU;YO;YE;YEE;YI;YA;JU"⟩,
     ⟨0x1615, "", "CANADIAN SYLLABICS SAYISI JU"⟩,
     ⟨0x1616, "CANADIAN SYLLABICS ", "CARRIER JO;CARRIER JE;CARRIER JEE;CARRIER JI;SAYISI JI"⟩,
     ⟨0x161B, "CANADIAN SYLLABICS CARRIER ", "JA;JJU;JJO;JJE;JJEE;JJI;JJA"⟩,
     ⟨0x1622, "CANADIAN SYLLABICS CARRIER ", "LU;LO;LE;LEE;LI;LA;DLU;DLO;DLE;DLEE;DLI;DLA;LHU;LHO"⟩,
     ⟨0x1630, "CANADIAN SYLLABICS CARRIER ", "LHE;LHEE;LHI;LHA;TLHU;TLHO;TLHE;TLHEE;TLHI;TLHA;TLU"⟩,
     ⟨0x163B, "CANADIAN SYLLABICS CARRIER ", "TLO;TLE;TLEE;TLI;TLA;ZU;ZO;ZE;ZEE;ZI;ZA;Z;INITIAL Z"⟩,
     ⟨0x1648, "CANADIAN SYLLABICS CARRIER ", "DZU;DZO;DZE;DZEE;DZI;DZA;SU;SO;SE;SEE;SI;SA;SHU;SHO"⟩,
     ⟨0x1656, "CANADIAN SYLLABICS CARRIER ", "SHE;SHEE;SHI;SHA;SH;TSU;TSO;TSE;TSEE;TSI;TSA;CHU"⟩,
     ⟨0x1662, "CANADIAN SYLLABICS CARRIER ", "CHO;CHE;CHEE;CHI;CHA;TTSU;TTSO;TTSE;TTSEE;TTSI;TTSA"⟩,
     ⟨0x166D, "", "CANADIAN SYLLABICS CHI SIGN"⟩,
     ⟨0x166E, "CANADIAN SYLLABICS ", "FULL STOP;QAI;NGAI;NNGI;NNGII;NNGO;NNGOO;NNGA;NNGAA"⟩,
     ⟨0x1677, "CANADIAN SYLLABICS WOODS-CREE ", "THWEE;THWI;THWII;THWO;THWOO;THWA;THWAA;FINAL TH"⟩,
     ⟨0x167F, "", "CANADIAN SYLLABICS BLACKFOOT W"⟩]

/-- Names in the block Unified Canadian Aboriginal Syllabics Extended. -/
def unifiedCanadianAboriginalSyllabicsExtended : NameBlock where
  first := 0x18B0
  last := 0x18FF
  rows :=
    [⟨0x18B0, "CANADIAN SYLLABICS ", "OY;AY;AAY;WAY"⟩,
     ⟨0x18B4, "CANADIAN SYLLABICS ", "POY;PAY;PWOY;TAY;KAY;KWAY;MAY;NOY;NAY;LAY;SOY;SAY;SHOY;SHAY"⟩,
     ⟨0x18C2, "CANADIAN SYLLABICS ", "SHWOY;YOY;YAY;RAY;NWI;OJIBWAY NWI;NWII;OJIBWAY NWII;NWO"⟩,
     ⟨0x18CB, "CANADIAN SYLLABICS ", "OJIBWAY NWO;NWOO;OJIBWAY NWOO;RWEE;RWI;RWII;RWO;RWOO;RWA"⟩,
     ⟨0x18D4, "CANADIAN SYLLABICS OJIBWAY ", "P;T;K;C;M;N;S;SH"⟩,
     ⟨0x18DC, "CANADIAN SYLLABICS ", "EASTERN W;WESTERN W;FINAL SMALL RING;FINAL RAISED DOT"⟩,
     ⟨0x18E0, "CANADIAN SYLLABICS ", "R-CREE RWE;WEST-CREE LOO;WEST-CREE LAA;THWE;THWA;TTHWE"⟩,
     ⟨0x18E6, "CANADIAN SYLLABICS ", "TTHOO;TTHAA;TLHWE;TLHOO;SAYISI SHWE;SAYISI SHOO;SAYISI HOO"⟩,
     ⟨0x18ED, "CANADIAN SYLLABICS CARRIER ", "GWU;DENE GEE;GAA;GWA"⟩,
     ⟨0x18F1, "", "CANADIAN SYLLABICS SAYISI JUU"⟩,
     ⟨0x18F2, "CANADIAN SYLLABICS ", "CARRIER JWA;BEAVER DENE L;BEAVER DENE R;CARRIER DENTAL S"⟩]

/-- Names in the block Tifinagh. -/
def tifinagh : NameBlock where
  first := 0x2D30
  last := 0x2D7F
  rows :=
    [⟨0x2D30, "TIFINAGH LETTER ", "YA;YAB;YABH;YAG;YAGHH;BERBER ACADEMY YAJ;YAJ;YAD;YADH"⟩,
     ⟨0x2D39, "TIFINAGH LETTER ", "YADD;YADDH;YEY;YAF;YAK;TUAREG YAK;YAKHH;YAH;BERBER ACADEMY YAH"⟩,
     ⟨0x2D42, "TIFINAGH LETTER ", "TUAREG YAH;YAHH;YAA;YAKH;TUAREG YAKH;YAQ;TUAREG YAQ;YI;YAZH"⟩,
     ⟨0x2D4B, "TIFINAGH LETTER ", "AHAGGAR YAZH;TUAREG YAZH;YAL;YAM;YAN;TUAREG YAGN;TUAREG YANG"⟩,
     ⟨0x2D52, "TIFINAGH LETTER ", "YAP;YU;YAR;YARR;YAGH;TUAREG YAGH;AYER YAGH;YAS;YASS;YASH"⟩,
     ⟨0x2D5C, "TIFINAGH LETTER ", "YAT;YATH;YACH;YATT;YAV;YAW;YAY;YAZ;TAWELLEMET YAZ;YAZZ;YE;YO"⟩,
     ⟨0x2D6F, "TIFINAGH ", "MODIFIER LETTER LABIALIZATION MARK;SEPARATOR MARK"⟩,
     ⟨0x2D7F, "", "TIFINAGH CONSONANT JOINER"⟩]

/-- Names in the block Ethiopic Extended. -/
def ethiopicExtended : NameBlock where
  first := 0x2D80
  last := 0x2DDF
  rows :=
    [⟨0x2D80, "ETHIOPIC SYLLABLE ", "LOA;MOA;ROA;SOA;SHOA;BOA;TOA;COA;NOA;NYOA;GLOTTAL OA"⟩,
     ⟨0x2D8B, "ETHIOPIC SYLLABLE ", "ZOA;DOA;DDOA;JOA;THOA;CHOA;PHOA;POA;GGWA;GGWI;GGWEE;GGWE"⟩,
     ⟨0x2DA0, "ETHIOPIC SYLLABLE ", "SSA;SSU;SSI;SSAA;SSEE;SSE;SSO"⟩,
     ⟨0x2DA8, "ETHIOPIC SYLLABLE ", "CCA;CCU;CCI;CCAA;CCEE;CCE;CCO"⟩,
     ⟨0x2DB0, "ETHIOPIC SYLLABLE ", "ZZA;ZZU;ZZI;ZZAA;ZZEE;ZZE;ZZO"⟩,
     ⟨0x2DB8, "ETHIOPIC SYLLABLE ", "CCHA;CCHU;CCHI;CCHAA;CCHEE;CCHE;CCHO"⟩,
     ⟨0x2DC0, "ETHIOPIC SYLLABLE ", "QYA;QYU;QYI;QYAA;QYEE;QYE;QYO"⟩,
     ⟨0x2DC8, "ETHIOPIC SYLLABLE ", "KYA;KYU;KYI;KYAA;KYEE;KYE;KYO"⟩,
     ⟨0x2DD0, "ETHIOPIC SYLLABLE ", "XYA;XYU;XYI;XYAA;XYEE;XYE;XYO"⟩,
     ⟨0x2DD8, "ETHIOPIC SYLLABLE ", "GYA;GYU;GYI;GYAA;GYEE;GYE;GYO"⟩]

/-- Names in the block Vai. -/
def vai : NameBlock where
  first := 0xA500
  last := 0xA63F
  rows :=
    [⟨0xA500, "VAI SYLLABLE ", "EE;EEN;HEE;WEE;WEEN;PEE;BHEE;BEE;MBEE;KPEE;MGBEE;GBEE;FEE;VEE;TEE"⟩,
     ⟨0xA50F, "VAI SYLLABLE ", "THEE;DHEE;DHHEE;LEE;REE;DEE;NDEE;SEE;SHEE;ZEE;ZHEE;CEE;JEE;NJEE"⟩,
     ⟨0xA51D, "VAI SYLLABLE ", "YEE;KEE;NGGEE;GEE;MEE;NEE;NYEE;I;IN;HI;HIN;WI;WIN;PI;BHI;BI;MBI"⟩,
     ⟨0xA52E, "VAI SYLLABLE ", "KPI;MGBI;GBI;FI;VI;TI;THI;DHI;DHHI;LI;RI;DI;NDI;SI;SHI;ZI;ZHI;CI"⟩,
     ⟨0xA540, "VAI SYLLABLE ", "JI;NJI;YI;KI;NGGI;GI;MI;NI;NYI;A;AN;NGAN;HA;HAN;WA;WAN;PA;BHA;BA"⟩,
     ⟨0xA553, "VAI SYLLABLE ", "MBA;KPA;KPAN;MGBA;GBA;FA;VA;TA;THA;DHA;DHHA;LA;RA;DA;NDA;SA;SHA"⟩,
     ⟨0xA564, "VAI SYLLABLE ", "ZA;ZHA;CA;JA;NJA;YA;KA;KAN;NGGA;GA;MA;NA;NYA;OO;OON;HOO;WOO;WOON"⟩,
     ⟨0xA576, "VAI SYLLABLE ", "POO;BHOO;BOO;MBOO;KPOO;MGBOO;GBOO;FOO;VOO;TOO;THOO;DHOO;DHHOO"⟩,
     ⟨0xA583, "VAI SYLLABLE ", "LOO;ROO;DOO;NDOO;SOO;SHOO;ZOO;ZHOO;COO;JOO;NJOO;YOO;KOO;NGGOO"⟩,
     ⟨0xA591, "VAI SYLLABLE ", "GOO;MOO;NOO;NYOO;U;UN;HU;HUN;WU;WUN;PU;BHU;BU;MBU;KPU;MGBU;GBU"⟩,
     ⟨0xA5A2, "VAI SYLLABLE ", "FU;VU;TU;THU;DHU;DHHU;LU;RU;DU;NDU;SU;SHU;ZU;ZHU;CU;JU;NJU;YU;KU"⟩,
     ⟨0xA5B5, "VAI SYLLABLE ", "NGGU;GU;MU;NU;NYU;O;ON;NGON;HO;HON;WO;WON;PO;BHO;BO;MBO;KPO;MGBO"⟩,
     ⟨0xA5C7, "VAI SYLLABLE ", "GBO;GBON;FO;VO;TO;THO;DHO;DHHO;LO;RO;DO;NDO;SO;SHO;ZO;ZHO;CO;JO"⟩,
     ⟨0xA5D9, "VAI SYLLABLE ", "NJO;YO;KO;NGGO;GO;MO;NO;NYO;E;EN;NGEN;HE;HEN;WE;WEN;PE;BHE;BE;MBE"⟩,
     ⟨0xA5EC, "VAI SYLLABLE ", "KPE;KPEN;MGBE;GBE;GBEN;FE;VE;TE;THE;DHE;DHHE;LE;RE;DE;NDE;SE;SHE"⟩,
     ⟨0xA5FD, "VAI SYLLABLE ", "ZE;ZHE;CE;JE;NJE;YE;KE;NGGE;NGGEN;GE;GEN;ME;NE;NYE;NG;LENGTHENER"⟩,
     ⟨0xA60D, "VAI ", "COMMA;FULL STOP;QUESTION MARK"⟩,
     ⟨0xA610, "VAI SYLLABLE NDOLE ", "FA;KA;SOO"⟩,
     ⟨0xA613, "VAI SYMBOL ", "FEENG;KEENG;TING;NII;BANG;FAA;TAA;DANG;DOONG;KUNG;TONG;DO-O;JONG"⟩,
     ⟨0xA62A, "VAI SYLLABLE NDOLE ", "MA;DO"⟩]

/-- Names in the block Bamum. -/
def bamum : NameBlock where
  first := 0xA6A0
  last := 0xA6FF
  rows :=
    [⟨0xA6A0, "BAMUM LETTER ", "A;KA;U;KU;EE;REE;TAE;O;NYI;I;LA;PA;RII;RIEE;LEEEE;MEEEE;TAA"⟩,
     ⟨0xA6B1, "BAMUM LETTER ", "NDAA;NJAEM;M;SUU;MU;SHII;SI;SHEUX;SEUX;KYEE;KET;NUAE;NU;NJUAE;YOQ"⟩,
     ⟨0xA6C0, "BAMUM LETTER ", "SHU;YUQ;YA;NSHA;KEUX;PEUX;NJEE;NTEE;PUE;WUE;PEE;FEE;RU;LU;MI;NI"⟩,
     ⟨0xA6D0, "BAMUM LETTER ", "REUX;RAE;KEN;NGKWAEN;NGGA;NGA;SHO;PUAE;FU;FOM;WA;NA;LI;PI;LOQ;KO"⟩,
     ⟨0xA6E0, "BAMUM LETTER ", "MBEN;REN;MEN;MA;TI;KI;MO;MBAA;TET;KPA;TEN;NTUU;SAMBA;FAAMAE;KOVUU"⟩,
     ⟨0xA6EF, "BAMUM ", "LETTER KOGHOM;COMBINING MARK KOQNDON;COMBINING MARK TUKWENTIS"⟩,
     ⟨0xA6F2, "BAMUM ", "NJAEMLI;FULL STOP;COLON;COMMA;SEMICOLON;QUESTION MARK"⟩]

/-- Names in the block Ethiopic Extended-A. -/
def ethiopicExtendedA : NameBlock where
  first := 0xAB00
  last := 0xAB2F
  rows :=
    [⟨0xAB01, "ETHIOPIC SYLLABLE ", "TTHU;TTHI;TTHAA;TTHEE;TTHE;TTHO"⟩,
     ⟨0xAB09, "ETHIOPIC SYLLABLE ", "DDHU;DDHI;DDHAA;DDHEE;DDHE;DDHO"⟩,
     ⟨0xAB11, "ETHIOPIC SYLLABLE ", "DZU;DZI;DZAA;DZEE;DZE;DZO"⟩,
     ⟨0xAB20, "ETHIOPIC SYLLABLE ", "CCHHA;CCHHU;CCHHI;CCHHAA;CCHHEE;CCHHE;CCHHO"⟩,
     ⟨0xAB28, "ETHIOPIC SYLLABLE ", "BBA;BBU;BBI;BBAA;BBEE;BBE;BBO"⟩]

/-- Names in the block Cherokee Supplement. -/
def cherokeeSupplement : NameBlock where
  first := 0xAB70
  last := 0xABBF
  rows :=
    [⟨0xAB70, "CHEROKEE SMALL LETTER ", "A;E;I;O;U;V;GA;KA;GE;GI;GO;GU"⟩,
     ⟨0xAB7C, "CHEROKEE SMALL LETTER ", "GV;HA;HE;HI;HO;HU;HV;LA;LE;LI;LO;LU;LV;MA;ME;MI;MO;MU;NA"⟩,
     ⟨0xAB8F, "CHEROKEE SMALL LETTER ", "HNA;NAH;NE;NI;NO;NU;NV;QUA;QUE;QUI;QUO;QUU;QUV;SA;S;SE"⟩,
     ⟨0xAB9F, "CHEROKEE SMALL LETTER ", "SI;SO;SU;SV;DA;TA;DE;TE;DI;TI;DO;DU;DV;DLA;TLA;TLE;TLI"⟩,
     ⟨0xABB0, "CHEROKEE SMALL LETTER ", "TLO;TLU;TLV;TSA;TSE;TSI;TSO;TSU;TSV;WA;WE;WI;WO;WU;WV;YA"⟩]

/-- Names in the block Deseret. -/
def deseret : NameBlock where
  first := 0x10400
  last := 0x1044F
  rows :=
    [⟨0x10400, "DESERET CAPITAL LETTER LONG ", "I;E;A;AH;O;OO"⟩,
     ⟨0x10406, "DESERET CAPITAL LETTER SHORT ", "I;E;A;AH;O;OO"⟩,
     ⟨0x1040C, "DESERET CAPITAL LETTER ", "AY;OW;WU;YEE;H;PEE;BEE;TEE;DEE;CHEE;JEE;KAY;GAY"⟩,
     ⟨0x10419, "DESERET CAPITAL LETTER ", "EF;VEE;ETH;THEE;ES;ZEE;ESH;ZHEE;ER;EL;EM;EN;ENG;OI;EW"⟩,
     ⟨0x10428, "DESERET SMALL LETTER LONG ", "I;E;A;AH;O;OO"⟩,
     ⟨0x1042E, "DESERET SMALL LETTER SHORT ", "I;E;A;AH;O;OO"⟩,
     ⟨0x10434, "DESERET SMALL LETTER ", "AY;OW;WU;YEE;H;PEE;BEE;TEE;DEE;CHEE;JEE;KAY;GAY"⟩,
     ⟨0x10441, "DESERET SMALL LETTER ", "EF;VEE;ETH;THEE;ES;ZEE;ESH;ZHEE;ER;EL;EM;EN;ENG;OI;EW"⟩]

/-- Names in the block Osmanya. -/
def osmanya : NameBlock where
  first := 0x10480
  last := 0x104AF
  rows :=
    [⟨0x10480, "OSMANYA LETTER ", "ALEF;BA;TA;JA;XA;KHA;DEEL;RA;SA;SHIIN;DHA;CAYN"⟩,
     ⟨0x1048C, "OSMANYA LETTER ", "GA;FA;QAAF;KAAF;LAAN;MIIN;NUUN;WAW;HA;YA;A;E;I;O;U;AA;EE;OO"⟩]

/-- Names in the block Osage. -/
def osage : NameBlock where
  first := 0x104B0
  last := 0x104FF
  rows :=
    [⟨0x104B0, "OSAGE CAPITAL LETTER ", "A;AI;AIN;AH;BRA;CHA"⟩,
     ⟨0x104B6, "OSAGE CAPITAL LETTER ", "EHCHA;E;EIN;HA;HYA;I;KA;EHKA;KYA;LA;MA;NA;O;OIN;PA;EHPA"⟩,
     ⟨0x104C6, "OSAGE CAPITAL LETTER ", "SA;SHA;TA;EHTA;TSA;EHTSA;TSHA;DHA;U;WA;KHA;GHA;ZA;ZHA"⟩,
     ⟨0x104D8, "OSAGE SMALL LETTER ", "A;AI;AIN;AH"⟩,
     ⟨0x104DC, "OSAGE SMALL LETTER ", "BRA;CHA;EHCHA;E;EIN;HA;HYA;I;KA;EHKA;KYA;LA;MA;NA;O;OIN;PA"⟩,
     ⟨0x104ED, "OSAGE SMALL LETTER ", "EHPA;SA;SHA;TA;EHTA;TSA;EHTSA;TSHA;DHA;U;WA;KHA;GHA;ZA;ZHA"⟩]

/-- Names in the block Meroitic Hieroglyphs. -/
def meroiticHieroglyphs : NameBlock where
  first := 0x10980
  last := 0x1099F
  rows :=
    [⟨0x10980, "MEROITIC HIEROGLYPHIC LETTER ", "A;E;I;O;YA;WA;BA;BA-2;PA;MA;NA;NA-2;NE;NE-2;RA"⟩,
     ⟨0x1098F, "MEROITIC HIEROGLYPHIC LETTER ", "RA-2;LA;KHA;HHA;SA;SA-2;SE;KA;QA;TA;TA-2;TE;TE-2"⟩,
     ⟨0x1099C, "MEROITIC HIEROGLYPHIC ", "LETTER TO;LETTER DA;SYMBOL VIDJ;SYMBOL VIDJ-2"⟩]

/-- Names in the block Meroitic Cursive. -/
def meroiticCursive : NameBlock where
  first := 0x109A0
  last := 0x109FF
  rows :=
    [⟨0x109A0, "MEROITIC CURSIVE LETTER ", "A;E;I;O;YA;WA;BA;PA;MA;NA"⟩,
     ⟨0x109AA, "MEROITIC CURSIVE LETTER ", "NE;RA;LA;KHA;HHA;SA;ARCHAIC SA;SE;KA;QA;TA;TE;TO;DA"⟩,
     ⟨0x109BC, "MEROITIC CURSIVE FRACTION ", "ELEVEN TWELFTHS;ONE HALF"⟩,
     ⟨0x109BE, "MEROITIC CURSIVE LOGOGRAM ", "RMT;IMN"⟩,
     ⟨0x109C0, "MEROITIC CURSIVE NUMBER ", "ONE;TWO;THREE;FOUR;FIVE;SIX;SEVEN;EIGHT"⟩,
     ⟨0x109C8, "MEROITIC CURSIVE NUMBER ", "NINE;TEN;TWENTY;THIRTY;FORTY;FIFTY;SIXTY;SEVENTY"⟩,
     ⟨0x109D2, "MEROITIC CURSIVE NUMBER ", "ONE HUNDRED;TWO HUNDRED;THREE HUNDRED;FOUR HUNDRED"⟩,
     ⟨0x109D6, "MEROITIC CURSIVE NUMBER ", "FIVE HUNDRED;SIX HUNDRED;SEVEN HUNDRED;EIGHT HUNDRED"⟩,
     ⟨0x109DA, "MEROITIC CURSIVE NUMBER ", "NINE HUNDRED;ONE THOUSAND;TWO THOUSAND;THREE THOUSAND"⟩,
     ⟨0x109DE, "MEROITIC CURSIVE NUMBER ", "FOUR THOUSAND;FIVE THOUSAND;SIX THOUSAND"⟩,
     ⟨0x109E1, "MEROITIC CURSIVE NUMBER ", "SEVEN THOUSAND;EIGHT THOUSAND;NINE THOUSAND"⟩,
     ⟨0x109E4, "MEROITIC CURSIVE NUMBER ", "TEN THOUSAND;TWENTY THOUSAND;THIRTY THOUSAND"⟩,
     ⟨0x109E7, "MEROITIC CURSIVE NUMBER ", "FORTY THOUSAND;FIFTY THOUSAND;SIXTY THOUSAND"⟩,
     ⟨0x109EA, "MEROITIC CURSIVE NUMBER ", "SEVENTY THOUSAND;EIGHTY THOUSAND;NINETY THOUSAND"⟩,
     ⟨0x109ED, "MEROITIC CURSIVE NUMBER ", "ONE HUNDRED THOUSAND;TWO HUNDRED THOUSAND"⟩,
     ⟨0x109EF, "MEROITIC CURSIVE NUMBER ", "THREE HUNDRED THOUSAND;FOUR HUNDRED THOUSAND"⟩,
     ⟨0x109F1, "MEROITIC CURSIVE NUMBER ", "FIVE HUNDRED THOUSAND;SIX HUNDRED THOUSAND"⟩,
     ⟨0x109F3, "MEROITIC CURSIVE NUMBER ", "SEVEN HUNDRED THOUSAND;EIGHT HUNDRED THOUSAND"⟩,
     ⟨0x109F5, "MEROITIC CURSIVE ", "NUMBER NINE HUNDRED THOUSAND;FRACTION ONE TWELFTH"⟩,
     ⟨0x109F7, "MEROITIC CURSIVE FRACTION ", "TWO TWELFTHS;THREE TWELFTHS;FOUR TWELFTHS"⟩,
     ⟨0x109FA, "MEROITIC CURSIVE FRACTION ", "FIVE TWELFTHS;SIX TWELFTHS;SEVEN TWELFTHS"⟩,
     ⟨0x109FD, "MEROITIC CURSIVE FRACTION ", "EIGHT TWELFTHS;NINE TWELFTHS;TEN TWELFTHS"⟩]

/-- Names in the block Garay. -/
def garay : NameBlock where
  first := 0x10D40
  last := 0x10D8F
  rows :=
    [⟨0x10D4A, "GARAY VOWEL SIGN ", "A;I;O;EE"⟩,
     ⟨0x10D4E, "GARAY ", "VOWEL LENGTH MARK;SUKUN"⟩,
     ⟨0x10D50, "GARAY CAPITAL LETTER ", "A;CA;MA;KA;BA;JA"⟩,
     ⟨0x10D56, "GARAY CAPITAL LETTER ", "SA;WA;LA;GA;DA;XA;YA;TA;RA;NYA;FA;NA;PA;HA;OLD KA;OLD NA"⟩,
     ⟨0x10D69, "GARAY ", "VOWEL SIGN E;CONSONANT GEMINATION MARK"⟩,
     ⟨0x10D6B, "GARAY COMBINING ", "DOT ABOVE;DOUBLE DOT ABOVE"⟩,
     ⟨0x10D6D, "GARAY ", "CONSONANT NASALIZATION MARK;HYPHEN;REDUPLICATION MARK"⟩,
     ⟨0x10D70, "GARAY SMALL LETTER ", "A;CA;MA;KA;BA;JA"⟩,
     ⟨0x10D76, "GARAY SMALL LETTER ", "SA;WA;LA;GA;DA;XA;YA;TA;RA;NYA;FA;NA;PA;HA;OLD KA;OLD NA"⟩,
     ⟨0x10D8E, "GARAY ", "PLUS SIGN;MINUS SIGN"⟩]

/-- Names in the block Unified Canadian Aboriginal Syllabics Extended-A. -/
def unifiedCanadianAboriginalSyllabicsExtendedA : NameBlock where
  first := 0x11AB0
  last := 0x11ABF
  rows :=
    [⟨0x11AB0, "CANADIAN SYLLABICS NATTILIK ", "HI;HII;HO;HOO;HA;HAA;SHRI;SHRII;SHRO;SHROO;SHRA"⟩,
     ⟨0x11ABB, "CANADIAN SYLLABICS ", "NATTILIK SHRAA;SPE;SPI;SPO;SPA"⟩]

/-- Names in the block Bamum Supplement. -/
def bamumSupplement : NameBlock where
  first := 0x16800
  last := 0x16A3F
  rows :=
    [⟨0x16800, "BAMUM LETTER PHASE-A ", "NGKUE MFON;GBIEE FON"⟩,
     ⟨0x16802, "BAMUM LETTER PHASE-A PON MFON ", "PIPAEMGBIEE;PIPAEMBA"⟩,
     ⟨0x16804, "BAMUM LETTER PHASE-A ", "NAA MFON;SHUENSHUET;TITA MFON;NZA MFON;SHINDA PA NJI"⟩,
     ⟨0x16809, "BAMUM LETTER PHASE-A ", "PON PA NJI PIPAEMGBIEE;PON PA NJI PIPAEMBA;MAEMBGBIEE"⟩,
     ⟨0x1680C, "BAMUM LETTER PHASE-A ", "TU MAEMBA;NGANGU;MAEMVEUX;MANSUAE;MVEUAENGAM;SEUNYAM"⟩,
     ⟨0x16812, "BAMUM LETTER PHASE-A ", "NTOQPEN;KEUKEUTNDA;NKINDI;SUU;NGKUENZEUM;LAPAQ;LET KUT"⟩,
     ⟨0x16819, "BAMUM LETTER PHASE-A ", "NTAP MFAA;MAEKEUP;PASHAE;GHEUAERAE;PAMSHAE;MON NGGEUAET"⟩,
     ⟨0x1681F, "BAMUM LETTER PHASE-A ", "NZUN MEUT;U YUQ NAE;GHEUAEGHEUAE;NTAP NTAA;SISA;MGBASA"⟩,
     ⟨0x16825, "BAMUM LETTER PHASE-A ", "MEUNJOMNDEUQ;MOOMPUQ;KAFA;PA LEERAEWA;NDA LEERAEWA;PET"⟩,
     ⟨0x1682B, "BAMUM LETTER PHASE-A ", "MAEMKPEN;NIKA;PUP;TUAEP;LUAEP;SONJAM;TEUTEUWEN;MAENYI"⟩,
     ⟨0x16833, "BAMUM LETTER PHASE-A ", "KET;NDAANGGEUAET;KUOQ;MOOMEUT;SHUM;LOMMAE;FIRI;ROM;KPOQ"⟩,
     ⟨0x1683C, "BAMUM LETTER PHASE-A ", "SOQ;MAP PIEET;SHIRAE;NTAP;SHOQ NSHUT YUM;NYIT MONGKEUAEQ"⟩,
     ⟨0x16842, "BAMUM LETTER PHASE-A ", "PAARAE;NKAARAE;UNKNOWN;NGGEN;MAESI;NJAM;MBANYI;NYET"⟩,
     ⟨0x1684A, "BAMUM LETTER PHASE-A ", "TEUAEN;SOT;PAAM;NSHIEE;MAEM;NYI;KAQ;NSHA;VEE;LU;NEN;NAQ"⟩,
     ⟨0x16856, "BAMUM LETTER PHASE-", "A MBAQ;B NSHUET;B TU MAEMGBIEE"⟩,
     ⟨0x16859, "BAMUM LETTER PHASE-B ", "SIEE;SET TU;LOM NTEUM;MBA MAELEE;KIEEM;YEURAE;MBAARAE"⟩,
     ⟨0x16860, "BAMUM LETTER PHASE-B ", "KAM;PEESHI;YAFU LEERAEWA;LAM NSHUT NYAM;NTIEE SHEUOQ"⟩,
     ⟨0x16865, "BAMUM LETTER PHASE-B ", "NDU NJAA;GHEUGHEUAEM;PIT;TU NSIEE;SHET NJAQ;SHEUAEQTU"⟩,
     ⟨0x1686B, "BAMUM LETTER PHASE-B ", "MFON TEUAEQ;MBIT MBAAKET;NYI NTEUM;KEUPUQ;GHEUGHEN"⟩,
     ⟨0x16870, "BAMUM LETTER PHASE-B ", "KEUYEUX;LAANAE;PARUM;VEUM;NGKINDI MVOP;NGGEU MBU;WUAET"⟩,
     ⟨0x16877, "BAMUM LETTER PHASE-B ", "SAKEUAE;TAAM;MEUQ;NGGUOQ;NGGUOQ LARGE;MFIYAQ;SUE;MBEURI"⟩,
     ⟨0x1687F, "BAMUM LETTER PHASE-B ", "MONTIEEN;NYAEMAE;PUNGAAM;MEUT NGGEET;FEUX;MBUOQ;FEE"⟩,
     ⟨0x16886, "BAMUM LETTER PHASE-B ", "KEUAEM;MA NJEUAENA;MA NJUQA;LET;NGGAAM;NSEN;MA;KIQ;NGOM"⟩,
     ⟨0x1688F, "BAMUM LETTER PHASE-C ", "NGKUE MAEMBA;NZA;YUM;WANGKUOQ;NGGEN"⟩,
     ⟨0x16894, "BAMUM LETTER PHASE-C ", "NDEUAEREE;NGKAQ;GHARAE;MBEEKEET;GBAYI;NYIR MKPARAQ MEUN"⟩,
     ⟨0x1689A, "BAMUM LETTER PHASE-C ", "NTU MBIT;MBEUM;PIRIEEN;NDOMBU;MBAA CABBAGE-TREE"⟩,
     ⟨0x1689F, "BAMUM LETTER PHASE-C ", "KEUSHEUAEP;GHAP;KEUKAQ;YU MUOMAE;NZEUM;MBUE"⟩,
     ⟨0x168A5, "BAMUM LETTER PHASE-C ", "NSEUAEN;MBIT;YEUQ;KPARAQ;KAA;SEUX;NDIDA;TAASHAE;NJUEQ"⟩,
     ⟨0x168AE, "BAMUM LETTER PHASE-C ", "TITA YUE;SUAET;NGGUAEN NYAM;VEUX;NANSANAQ;MA KEUAERI"⟩,
     ⟨0x168B4, "BAMUM LETTER PHASE-C ", "NTAA;NGGUON;LAP;MBIRIEEN;MGBASAQ;NTEUNGBA;TEUTEUX"⟩,
     ⟨0x168BB, "BAMUM LETTER PHASE-C ", "NGGUM;FUE;NDEUT;NSA;NSHAQ;BUNG;VEUAEPEN;MBERAE;RU;NJAEM"⟩,
     ⟨0x168C5, "BAMUM LETTER PHASE-C ", "LAM;TITUAEP;NSUOT NGOM;NJEEEE;KET;NGGU;MAESI;MBUAEM"⟩,
     ⟨0x168CD, "BAMUM LETTER PHASE-C ", "LU;KUT;NJAM;NGOM;WUP;NGGUEET;NSOM;NTEN;KUOP NKAARAE"⟩,
     ⟨0x168D6, "BAMUM LETTER PHASE-C ", "NSUN;NDAM;MA NSIEE;YAA;NDAP;SHUEQ;SETFON;MBI;MAEMBA"⟩,
     ⟨0x168DF, "BAMUM LETTER PHASE-C ", "MBANYI;KEUSEUX;MBEUX;KEUM;MBAA PICKET;YUWOQ;NJEUX;MIEE"⟩,
     ⟨0x168E7, "BAMUM LETTER PHASE-C ", "MUAE;SHIQ;KEN LAW;KEN FATIGUE;NGAQ;NAQ;LIQ;PIN;PEN;TET"⟩,
     ⟨0x168F1, "BAMUM LETTER PHASE-D ", "MBUO;WAP;NJI;MFON;NJIEE;LIEE;NJEUT;NSHEE;NGGAAMAE"⟩,
     ⟨0x168FA, "BAMUM LETTER PHASE-D ", "NYAM;WUAEN;NGKUN;SHEE;NGKAP;KEUAETMEUN;TEUT;SHEUAE;NJAP"⟩,
     ⟨0x16903, "BAMUM LETTER PHASE-D ", "SUE;KET;YAEMMAE;KUOM;SAP;MFEUT;NDEUX;MALEERI;MEUT;SEUAEQ"⟩,
     ⟨0x1690D, "BAMUM LETTER PHASE-D ", "YEN;NJEUAEM;KEUOT MBUAE;NGKEURI;TU;GHAA;NGKYEE;FEUFEUAET"⟩,
     ⟨0x16915, "BAMUM LETTER PHASE-D ", "NDEE;MGBOFUM;LEUAEP;NDON;MONI;MGBEUN;PUUT;MGBIEE"⟩,
     ⟨0x1691D, "BAMUM LETTER PHASE-D ", "MFO;LUM;NSIEEP;MBAA;KWAET;NYET;TEUAEN;SOT;YUWOQ;KEUM"⟩,
     ⟨0x16927, "BAMUM LETTER PHASE-D ", "RAEM;TEEEE;NGKEUAEQ;MFEUAE;NSIEET;KEUP;PIP;PEUTAE;NYUE"⟩,
     ⟨0x16930, "BAMUM LETTER PHASE-D ", "LET;NGGAAM;MFIEE;NGGWAEN;YUOM;PAP;YUOP;NDAM;NTEUM;SUAE"⟩,
     ⟨0x1693A, "BAMUM LETTER PHASE-D ", "KUN;NGGEUX;NGKIEE;TUOT;MEUN;KUQ;NSUM;TEUN;MAENJET;NGGAP"⟩,
     ⟨0x16944, "BAMUM LETTER PHASE-D ", "LEUM;NGGUOM;NSHUT;NJUEQ;GHEUAE;KU;REN OLD;TAE;TOQ;NYI"⟩,
     ⟨0x1694E, "BAMUM LETTER PHASE-D ", "RII;LEEEE;MEEEE;M;SUU;MU;SHII;SHEUX;KYEE;NU;SHU;NTEE;PEE"⟩,
     ⟨0x1695B, "BAMUM LETTER PHASE-D ", "NI;SHOQ;PUQ;MVOP;LOQ;REN MUCH;TI;NTUU;MBAA SEVEN;SAQ;FAA"⟩,
     ⟨0x16966, "BAMUM LETTER PHASE-E ", "NDAP;TOON;MBEUM;LAP;VOM;LOON;PAA;SOM;RAQ;NSHUOP"⟩,
     ⟨0x16970, "BAMUM LETTER PHASE-E ", "NDUN;PUAE;TAM;NGKA;KPEUX;WUO;SEE;NGGEUAET;PAAM;TOO;KUOP"⟩,
     ⟨0x1697B, "BAMUM LETTER PHASE-E ", "LOM;NSHIEE;NGOP;MAEM;NGKEUX;NGOQ;NSHUE;RIMGBA;NJEUX;PEEM"⟩,
     ⟨0x16985, "BAMUM LETTER PHASE-E ", "SAA;NGGURAE;MGBA;GHEUX;NGKEUAEM;NJAEMLI;MAP;LOOT;NGGEEEE"⟩,
     ⟨0x1698E, "BAMUM LETTER PHASE-E ", "NDIQ;TAEN NTEUM;SET;PUM;NDAA SOFTNESS;NGGUAESHAE NYAM"⟩,
     ⟨0x16994, "BAMUM LETTER PHASE-E ", "YIEE;GHEUN;TUAE;YEUAE;PO;TUMAE;KEUAE;SUAEN;TEUAEQ;VEUAE"⟩,
     ⟨0x1699E, "BAMUM LETTER PHASE-E ", "WEUX;LAAM;PU;TAAQ;GHAAMAE;NGEUREUT;SHEUAEQ;MGBEN;MBEE"⟩,
     ⟨0x169A7, "BAMUM LETTER PHASE-E ", "NZAQ;NKOM;GBET;TUM;KUET;YAP;NYI CLEAVER;YIT;MFEUQ;NDIAQ"⟩,
     ⟨0x169B1, "BAMUM LETTER PHASE-E ", "PIEEQ;YUEQ;LEUAEM;FUE;GBEUX;NGKUP;KET;MAE;NGKAAMI;GHET"⟩,
     ⟨0x169BB, "BAMUM LETTER PHASE-E ", "FA;NTUM;PEUT;YEUM;NGGEUAE;NYI BETWEEN;NZUQ;POON;MIEE"⟩,
     ⟨0x169C4, "BAMUM LETTER PHASE-E ", "FUET;NAE;MUAE;GHEUAE;FU I;MVI;PUAQ;NGKUM;KUT;PIET;NTAP"⟩,
     ⟨0x169CF, "BAMUM LETTER PHASE-E ", "YEUAET;NGGUP;PA PEOPLE;FU CALL;FOM;NJEE;A;TOQ;O;I;LAQ"⟩,
     ⟨0x169DA, "BAMUM LETTER PHASE-E ", "PA PLURAL;TAA;TAQ;NDAA MY HOUSE;SHIQ;YEUX;NGUAE;YUAEN"⟩,
     ⟨0x169E2, "BAMUM LETTER PHASE-E ", "YOQ SWIMMING;YOQ COVER;YUQ;YUN;KEUX;PEUX;NJEE EPOCH;PUE"⟩,
     ⟨0x169EA, "BAMUM LETTER PHASE-E ", "WUE;FEE;VEE;LU;MI;REUX;RAE;NGUAET;NGA;SHO;SHOQ;FU REMEDY"⟩,
     ⟨0x169F6, "BAMUM LETTER PHASE-E ", "NA;PI;LOQ;KO;MEN;MA;MAQ;TEU;KI;MON;TEN;FAQ;GHOM"⟩,
     ⟨0x16A03, "", "BAMUM LETTER PHASE-F KA"⟩,
     ⟨0x16A04, "BAMUM LETTER PHASE-F ", "U;KU;EE;REE;TAE;NYI;LA;RII;RIEE;MEEEE;TAA;NDAA;NJAEM;M"⟩,
     ⟨0x16A12, "BAMUM LETTER PHASE-F ", "SUU;SHII;SI;SEUX;KYEE;KET;NUAE;NU;NJUAE;YOQ;SHU;YA;NSHA"⟩,
     ⟨0x16A1F, "BAMUM LETTER PHASE-F ", "PEUX;NTEE;WUE;PEE;RU;NI;REUX;KEN;NGKWAEN;NGGA;SHO;PUAE"⟩,
     ⟨0x16A2B, "BAMUM LETTER PHASE-F ", "FOM;WA;LI;LOQ;KO;MBEN;REN;MA;MO;MBAA;TET;KPA;SAMBA;VUEQ"⟩]

/-- Names in the block Bassa Vah. -/
def bassaVah : NameBlock where
  first := 0x16AD0
  last := 0x16AFF
  rows :=
    [⟨0x16AD0, "BASSA VAH LETTER ", "ENNI;KA;SE;FA;MBE;YIE;GAH;DHII;KPAH;JO;HWAH"⟩,
     ⟨0x16ADB, "BASSA VAH LETTER ", "WA;ZO;GBU;DO;CE;UWU;TO;BA;VU;YEIN;PA;WADDA;A;O;OO;U;EE;E;I"⟩,
     ⟨0x16AF0, "BASSA VAH COMBINING ", "HIGH TONE;LOW TONE;MID TONE;LOW-MID TONE;HIGH-LOW TONE"⟩,
     ⟨0x16AF5, "", "BASSA VAH FULL STOP"⟩]

/-- Names in the block Medefaidrin. -/
def medefaidrin : NameBlock where
  first := 0x16E40
  last := 0x16E9F
  rows :=
    [⟨0x16E40, "MEDEFAIDRIN CAPITAL LETTER ", "M;S;V;W;ATIU;Z;KP;P;T"⟩,
     ⟨0x16E49, "MEDEFAIDRIN CAPITAL LETTER ", "G;F;I;K;A;J;E;B;C;U;YU;L;Q;HP;NY;X;D;OE;N;R;O;AI;Y"⟩,
     ⟨0x16E60, "MEDEFAIDRIN SMALL LETTER ", "M;S;V;W;ATIU;Z;KP;P"⟩,
     ⟨0x16E68, "MEDEFAIDRIN SMALL LETTER ", "T;G;F;I;K;A;J;E;B;C;U;YU;L;Q;HP;NY;X;D;OE;N;R;O;AI;Y"⟩,
     ⟨0x16E8A, "MEDEFAIDRIN NUMBER ", "TEN;ELEVEN;TWELVE;THIRTEEN"⟩,
     ⟨0x16E8E, "MEDEFAIDRIN NUMBER ", "FOURTEEN;FIFTEEN;SIXTEEN;SEVENTEEN;EIGHTEEN;NINETEEN"⟩,
     ⟨0x16E94, "MEDEFAIDRIN DIGIT ", "ONE ALTERNATE FORM;TWO ALTERNATE FORM;THREE ALTERNATE FORM"⟩,
     ⟨0x16E97, "MEDEFAIDRIN ", "COMMA;FULL STOP;SYMBOL AIVA;EXCLAMATION OH"⟩]

/-- Names in the block Kaktovik Numerals. -/
def kaktovikNumerals : NameBlock where
  first := 0x1D2C0
  last := 0x1D2DF
  rows :=
    [⟨0x1D2C0, "KAKTOVIK NUMERAL ", "ZERO;ONE;TWO;THREE"⟩,
     ⟨0x1D2C4, "KAKTOVIK NUMERAL ", "FOUR;FIVE;SIX;SEVEN;EIGHT;NINE;TEN;ELEVEN;TWELVE;THIRTEEN"⟩,
     ⟨0x1D2CE, "KAKTOVIK NUMERAL ", "FOURTEEN;FIFTEEN;SIXTEEN;SEVENTEEN;EIGHTEEN;NINETEEN"⟩]

/-- Names in the block Mayan Numerals. -/
def mayanNumerals : NameBlock where
  first := 0x1D2E0
  last := 0x1D2FF
  rows :=
    [⟨0x1D2E0, "", "MAYAN NUMERAL ZERO"⟩,
     ⟨0x1D2E1, "MAYAN NUMERAL ", "ONE;TWO;THREE;FOUR;FIVE;SIX;SEVEN;EIGHT;NINE;TEN;ELEVEN;TWELVE"⟩,
     ⟨0x1D2ED, "MAYAN NUMERAL ", "THIRTEEN;FOURTEEN;FIFTEEN;SIXTEEN;SEVENTEEN;EIGHTEEN;NINETEEN"⟩]

/-- Names in the block Ethiopic Extended-B. -/
def ethiopicExtendedB : NameBlock where
  first := 0x1E7E0
  last := 0x1E7FF
  rows :=
    [⟨0x1E7E0, "ETHIOPIC SYLLABLE ", "HHYA;HHYU;HHYI;HHYAA;HHYEE;HHYE;HHYO"⟩,
     ⟨0x1E7E8, "ETHIOPIC SYLLABLE ", "GURAGE HHWA;HHWI;HHWEE;HHWE"⟩,
     ⟨0x1E7ED, "ETHIOPIC SYLLABLE GURAGE ", "MWI;MWEE"⟩,
     ⟨0x1E7F0, "ETHIOPIC SYLLABLE GURAGE ", "QWI;QWEE;QWE"⟩,
     ⟨0x1E7F3, "ETHIOPIC SYLLABLE GURAGE ", "BWI;BWEE;KWI;KWEE;KWE;GWI;GWEE;GWE;FWI;FWEE;PWI;PWEE"⟩]

/-- Names in the block Mende Kikakui. -/
def mendeKikakui : NameBlock where
  first := 0x1E800
  last := 0x1E8DF
  rows :=
    [⟨0x1E800, "MENDE KIKAKUI SYLLABLE ", "M001 KI;M002 KA"⟩,
     ⟨0x1E802, "MENDE KIKAKUI SYLLABLE ", "M003 KU;M065 KEE;M095 KE;M076 KOO;M048 KO;M179 KUA"⟩,
     ⟨0x1E808, "MENDE KIKAKUI SYLLABLE ", "M004 WI;M005 WA;M006 WU;M126 WEE;M118 WE;M114 WOO"⟩,
     ⟨0x1E80E, "MENDE KIKAKUI SYLLABLE ", "M045 WO;M194 WUI;M143 WEI;M061 WVI;M049 WVA;M139 WVE"⟩,
     ⟨0x1E814, "MENDE KIKAKUI SYLLABLE ", "M007 MIN;M008 MAN;M009 MUN;M059 MEN;M094 MON;M154 MUAN"⟩,
     ⟨0x1E81A, "MENDE KIKAKUI SYLLABLE ", "M189 MUEN;M010 BI;M011 BA;M012 BU;M150 BEE;M097 BE"⟩,
     ⟨0x1E820, "MENDE KIKAKUI SYLLABLE ", "M103 BOO;M138 BO;M013 I;M014 A;M015 U;M163 EE;M100 E"⟩,
     ⟨0x1E827, "MENDE KIKAKUI SYLLABLE ", "M165 OO;M147 O;M137 EI;M131 IN;M135 IN;M195 AN;M178 EN"⟩,
     ⟨0x1E82E, "MENDE KIKAKUI SYLLABLE ", "M019 SI;M020 SA;M021 SU;M162 SEE;M116 SE;M136 SOO"⟩,
     ⟨0x1E834, "MENDE KIKAKUI SYLLABLE ", "M079 SO;M196 SIA;M025 LI;M026 LA;M027 LU;M084 LEE"⟩,
     ⟨0x1E83A, "MENDE KIKAKUI SYLLABLE ", "M073 LE;M054 LOO;M153 LO;M110 LONG LE;M016 DI;M017 DA"⟩,
     ⟨0x1E840, "MENDE KIKAKUI SYLLABLE ", "M018 DU;M089 DEE;M180 DOO;M181 DO;M022 TI;M023 TA"⟩,
     ⟨0x1E846, "MENDE KIKAKUI SYLLABLE ", "M024 TU;M091 TEE;M055 TE;M104 TOO;M069 TO;M028 JI"⟩,
     ⟨0x1E84C, "MENDE KIKAKUI SYLLABLE ", "M029 JA;M030 JU;M157 JEE;M113 JE;M160 JOO;M063 JO"⟩,
     ⟨0x1E852, "MENDE KIKAKUI SYLLABLE ", "M175 LONG JO;M031 YI;M032 YA;M033 YU;M109 YEE;M080 YE"⟩,
     ⟨0x1E858, "MENDE KIKAKUI SYLLABLE ", "M141 YOO;M121 YO;M034 FI;M035 FA;M036 FU;M078 FEE"⟩,
     ⟨0x1E85E, "MENDE KIKAKUI SYLLABLE ", "M075 FE;M133 FOO;M088 FO;M197 FUA;M101 FAN;M037 NIN"⟩,
     ⟨0x1E864, "MENDE KIKAKUI SYLLABLE ", "M038 NAN;M039 NUN;M117 NEN;M169 NON;M176 HI;M041 HA"⟩,
     ⟨0x1E86A, "MENDE KIKAKUI SYLLABLE ", "M186 HU;M040 HEE;M096 HE;M042 HOO;M140 HO;M083 HEEI"⟩,
     ⟨0x1E870, "MENDE KIKAKUI SYLLABLE ", "M128 HOOU;M053 HIN;M130 HAN;M087 HUN;M052 HEN;M193 HON"⟩,
     ⟨0x1E876, "MENDE KIKAKUI SYLLABLE ", "M046 HUAN;M090 NGGI;M043 NGGA;M082 NGGU;M115 NGGEE"⟩,
     ⟨0x1E87B, "MENDE KIKAKUI SYLLABLE ", "M146 NGGE;M156 NGGOO;M120 NGGO;M159 NGGAA;M127 NGGUA"⟩,
     ⟨0x1E880, "MENDE KIKAKUI SYLLABLE ", "M086 LONG NGGE;M106 LONG NGGOO;M183 LONG NGGO"⟩,
     ⟨0x1E883, "MENDE KIKAKUI SYLLABLE ", "M155 GI;M111 GA;M168 GU;M190 GEE;M166 GUEI;M167 GUAN"⟩,
     ⟨0x1E889, "MENDE KIKAKUI SYLLABLE ", "M184 NGEN;M057 NGON;M177 NGUAN;M068 PI;M099 PA;M050 PU"⟩,
     ⟨0x1E88F, "MENDE KIKAKUI SYLLABLE ", "M081 PEE;M051 PE;M102 POO;M066 PO;M145 MBI;M062 MBA"⟩,
     ⟨0x1E895, "MENDE KIKAKUI SYLLABLE ", "M122 MBU;M047 MBEE;M188 MBEE;M072 MBE;M172 MBOO"⟩,
     ⟨0x1E89A, "MENDE KIKAKUI SYLLABLE ", "M174 MBO;M187 MBUU;M161 LONG MBE;M105 LONG MBOO"⟩,
     ⟨0x1E89E, "MENDE KIKAKUI SYLLABLE ", "M142 LONG MBO;M132 KPI;M092 KPA;M074 KPU;M044 KPEE"⟩,
     ⟨0x1E8A3, "MENDE KIKAKUI SYLLABLE ", "M108 KPE;M112 KPOO;M158 KPO;M124 GBI;M056 GBA;M148 GBU"⟩,
     ⟨0x1E8A9, "MENDE KIKAKUI SYLLABLE ", "M093 GBEE;M107 GBE;M071 GBOO;M070 GBO;M171 RA;M123 NDI"⟩,
     ⟨0x1E8AF, "MENDE KIKAKUI SYLLABLE ", "M129 NDA;M125 NDU;M191 NDEE;M119 NDE;M067 NDOO"⟩,
     ⟨0x1E8B4, "MENDE KIKAKUI SYLLABLE ", "M064 NDO;M152 NJA;M192 NJU;M149 NJEE;M134 NJOO;M182 VI"⟩,
     ⟨0x1E8BA, "MENDE KIKAKUI SYLLABLE ", "M185 VA;M151 VU;M173 VEE;M085 VE;M144 VOO;M077 VO"⟩,
     ⟨0x1E8C0, "MENDE KIKAKUI SYLLABLE ", "M164 NYIN;M058 NYAN;M170 NYUN;M098 NYEN;M060 NYON"⟩,
     ⟨0x1E8C7, "MENDE KIKAKUI DIGIT ", "ONE;TWO;THREE;FOUR;FIVE;SIX;SEVEN;EIGHT;NINE"⟩,
     ⟨0x1E8D0, "MENDE KIKAKUI COMBINING NUMBER ", "TEENS;TENS;HUNDREDS;THOUSANDS"⟩,
     ⟨0x1E8D4, "MENDE KIKAKUI COMBINING NUMBER ", "TEN THOUSANDS;HUNDRED THOUSANDS;MILLIONS"⟩]

/-- Names in the block Adlam. -/
def adlam : NameBlock where
  first := 0x1E900
  last := 0x1E95F
  rows :=
    [⟨0x1E900, "ADLAM CAPITAL LETTER ", "ALIF;DAALI;LAAM;MIIM"⟩,
     ⟨0x1E904, "ADLAM CAPITAL LETTER ", "BA;SINNYIIYHE;PE;BHE;RA;E;FA;I;O;DHA;YHE;WAW;NUN;KAF;YA"⟩,
     ⟨0x1E913, "ADLAM CAPITAL LETTER ", "U;JIIM;CHI;HA;QAAF;GA;NYA;TU;NHA;VA;KHA;GBE;ZAL;KPO;SHA"⟩,
     ⟨0x1E922, "ADLAM SMALL LETTER ", "ALIF;DAALI;LAAM"⟩,
     ⟨0x1E925, "ADLAM SMALL LETTER ", "MIIM;BA;SINNYIIYHE;PE;BHE;RA;E;FA;I;O;DHA;YHE;WAW;NUN;KAF"⟩,
     ⟨0x1E934, "ADLAM SMALL LETTER ", "YA;U;JIIM;CHI;HA;QAAF;GA;NYA;TU;NHA;VA;KHA;GBE;ZAL;KPO;SHA"⟩,
     ⟨0x1E944, "ADLAM ", "ALIF LENGTHENER;VOWEL LENGTHENER;GEMINATION MARK;HAMZA"⟩,
     ⟨0x1E948, "ADLAM ", "CONSONANT MODIFIER;GEMINATE CONSONANT MODIFIER;NUKTA;NASALIZATION MARK"⟩,
     ⟨0x1E95E, "ADLAM INITIAL ", "EXCLAMATION MARK;QUESTION MARK"⟩]

end NameBlock

/-- The blocks of this module. -/
def africanAndAmericanBlocks : List NameBlock :=
  [.nko, .ethiopic, .ethiopicSupplement, .cherokee, .unifiedCanadianAboriginalSyllabics,
   .unifiedCanadianAboriginalSyllabicsExtended, .tifinagh, .ethiopicExtended, .vai, .bamum,
   .ethiopicExtendedA, .cherokeeSupplement, .deseret, .osmanya, .osage, .meroiticHieroglyphs,
   .meroiticCursive, .garay, .unifiedCanadianAboriginalSyllabicsExtendedA, .bamumSupplement,
   .bassaVah, .medefaidrin, .kaktovikNumerals, .mayanNumerals, .ethiopicExtendedB, .mendeKikakui,
   .adlam]

end Text
end Scripting
