import Scripting.Text.Names.Block

namespace Scripting
namespace Text

/-!
Names of letters of other scripts of the Middle East and of Central Asia.
-/

namespace NameBlock

/-- Names in the block Hebrew. -/
def hebrew : NameBlock where
  first := 0x0590
  last := 0x05FF
  rows :=
    [⟨0x0591, "HEBREW ACCENT ", "ETNAHTA;SEGOL;SHALSHELET;ZAQEF QATAN;ZAQEF GADOL;TIPEHA"⟩,
     ⟨0x0597, "HEBREW ACCENT ", "REVIA;ZARQA;PASHTA;YETIV;TEVIR;GERESH;GERESH MUQDAM;GERSHAYIM"⟩,
     ⟨0x059F, "HEBREW ACCENT ", "QARNEY PARA;TELISHA GEDOLA;PAZER;ATNAH HAFUKH;MUNAH;MAHAPAKH"⟩,
     ⟨0x05A5, "HEBREW ACCENT ", "MERKHA;MERKHA KEFULA;DARGA;QADMA;TELISHA QETANA;YERAH BEN YOMO"⟩,
     ⟨0x05AB, "HEBREW ", "ACCENT OLE;ACCENT ILUY;ACCENT DEHI;ACCENT ZINOR;MARK MASORA CIRCLE"⟩,
     ⟨0x05B0, "HEBREW POINT ", "SHEVA;HATAF SEGOL;HATAF PATAH;HATAF QAMATS;HIRIQ;TSERE;SEGOL"⟩,
     ⟨0x05B7, "HEBREW POINT ", "PATAH;QAMATS;HOLAM;HOLAM HASER FOR VAV;QUBUTS;DAGESH OR MAPIQ"⟩,
     ⟨0x05BD, "HEBREW ", "POINT METEG;PUNCTUATION MAQAF;POINT RAFE;PUNCTUATION PASEQ"⟩,
     ⟨0x05C1, "HEBREW ", "POINT SHIN DOT;POINT SIN DOT;PUNCTUATION SOF PASUQ;MARK UPPER DOT"⟩,
     ⟨0x05C5, "HEBREW ", "MARK LOWER DOT;PUNCTUATION NUN HAFUKHA;POINT QAMATS QATAN"⟩,
     ⟨0x05D0, "HEBREW LETTER ", "ALEF;BET;GIMEL;DALET;HE;VAV"⟩,
     ⟨0x05D6, "HEBREW LETTER ", "ZAYIN;HET;TET;YOD;FINAL KAF;KAF;LAMED;FINAL MEM;MEM;FINAL NUN"⟩,
     ⟨0x05E0, "HEBREW LETTER ", "NUN;SAMEKH;AYIN;FINAL PE;PE;FINAL TSADI;TSADI;QOF;RESH;SHIN;TAV"⟩,
     ⟨0x05EF, "", "HEBREW YOD TRIANGLE"⟩,
     ⟨0x05F0, "HEBREW LIGATURE YIDDISH ", "DOUBLE VAV;VAV YOD;DOUBLE YOD"⟩,
     ⟨0x05F3, "HEBREW PUNCTUATION ", "GERESH;GERSHAYIM"⟩]

/-- Names in the block Syriac. -/
def syriac : NameBlock where
  first := 0x0700
  last := 0x074F
  rows :=
    [⟨0x0700, "SYRIAC ", "END OF PARAGRAPH;SUPRALINEAR FULL STOP"⟩,
     ⟨0x0702, "SYRIAC ", "SUBLINEAR FULL STOP;SUPRALINEAR COLON;SUBLINEAR COLON;HORIZONTAL COLON"⟩,
     ⟨0x0706, "SYRIAC COLON SKEWED ", "LEFT;RIGHT"⟩,
     ⟨0x0708, "SYRIAC ", "SUPRALINEAR COLON SKEWED LEFT;SUBLINEAR COLON SKEWED RIGHT;CONTRACTION"⟩,
     ⟨0x070B, "SYRIAC HARKLEAN ", "OBELUS;METOBELUS;ASTERISCUS"⟩,
     ⟨0x070F, "SYRIAC ", "ABBREVIATION MARK;LETTER ALAPH;LETTER SUPERSCRIPT ALAPH"⟩,
     ⟨0x0712, "SYRIAC LETTER ", "BETH;GAMAL;GAMAL GARSHUNI;DALATH;DOTLESS DALATH RISH;HE;WAW"⟩,
     ⟨0x0719, "SYRIAC LETTER ", "ZAIN;HETH;TETH;TETH GARSHUNI;YUDH;YUDH HE;KAPH;LAMADH;MIM;NUN"⟩,
     ⟨0x0723, "SYRIAC LETTER ", "SEMKATH;FINAL SEMKATH;E;PE;REVERSED PE;SADHE;QAPH;RISH;SHIN;TAW"⟩,
     ⟨0x072D, "SYRIAC LETTER PERSIAN ", "BHETH;GHAMAL;DHALATH"⟩,
     ⟨0x0730, "SYRIAC PTHAHA ", "ABOVE;BELOW;DOTTED"⟩,
     ⟨0x0733, "SYRIAC ZQAPHA ", "ABOVE;BELOW;DOTTED"⟩,
     ⟨0x0736, "SYRIAC ", "RBASA ABOVE;RBASA BELOW;DOTTED ZLAMA HORIZONTAL"⟩,
     ⟨0x0739, "SYRIAC ", "DOTTED ZLAMA ANGULAR;HBASA ABOVE;HBASA BELOW;HBASA-ESASA DOTTED"⟩,
     ⟨0x073D, "SYRIAC ", "ESASA ABOVE;ESASA BELOW;RWAHA;FEMININE DOT;QUSHSHAYA;RUKKAKHA"⟩,
     ⟨0x0743, "SYRIAC TWO VERTICAL DOTS ", "ABOVE;BELOW"⟩,
     ⟨0x0745, "SYRIAC THREE DOTS ", "ABOVE;BELOW"⟩,
     ⟨0x0747, "SYRIAC ", "OBLIQUE LINE ABOVE;OBLIQUE LINE BELOW;MUSIC;BARREKH"⟩,
     ⟨0x074D, "SYRIAC LETTER SOGDIAN ", "ZHAIN;KHAPH;FE"⟩]

/-- Names in the block Thaana. -/
def thaana : NameBlock where
  first := 0x0780
  last := 0x07BF
  rows :=
    [⟨0x0780, "THAANA LETTER ", "HAA;SHAVIYANI;NOONU;RAA;BAA;LHAVIYANI;KAAFU;ALIFU;VAAVU"⟩,
     ⟨0x0789, "THAANA LETTER ", "MEEMU;FAAFU;DHAALU;THAA;LAAMU;GAAFU;GNAVIYANI;SEENU;DAVIYANI"⟩,
     ⟨0x0792, "THAANA LETTER ", "ZAVIYANI;TAVIYANI;YAA;PAVIYANI;JAVIYANI;CHAVIYANI;TTAA;HHAA;KHAA"⟩,
     ⟨0x079B, "THAANA LETTER ", "THAALU;ZAA;SHEENU;SAADHU;DAADHU;TO;ZO;AINU;GHAINU;QAAFU;WAAVU"⟩,
     ⟨0x07A6, "THAANA ", "ABAFILI;AABAAFILI;IBIFILI;EEBEEFILI"⟩,
     ⟨0x07AA, "THAANA ", "UBUFILI;OOBOOFILI;EBEFILI;EYBEYFILI;OBOFILI;OABOAFILI;SUKUN;LETTER NAA"⟩]

/-- Names in the block Samaritan. -/
def samaritan : NameBlock where
  first := 0x0800
  last := 0x083F
  rows :=
    [⟨0x0800, "SAMARITAN LETTER ", "ALAF;BIT;GAMAN;DALAT;IY;BAA;ZEN;IT;TIT;YUT"⟩,
     ⟨0x080A, "SAMARITAN LETTER ", "KAAF;LABAT;MIM;NUN;SINGAAT;IN;FI;TSAADIY;QUF;RISH;SHAN;TAAF"⟩,
     ⟨0x0816, "SAMARITAN MARK ", "IN;IN-ALAF;OCCLUSION;DAGESH"⟩,
     ⟨0x081A, "SAMARITAN ", "MODIFIER LETTER EPENTHETIC YUT;MARK EPENTHETIC YUT"⟩,
     ⟨0x081C, "SAMARITAN VOWEL SIGN ", "LONG E;E;OVERLONG AA;LONG AA;AA;OVERLONG A;LONG A;A"⟩,
     ⟨0x0824, "", "SAMARITAN MODIFIER LETTER SHORT A"⟩,
     ⟨0x0825, "SAMARITAN ", "VOWEL SIGN SHORT A;VOWEL SIGN LONG U;VOWEL SIGN U;MODIFIER LETTER I"⟩,
     ⟨0x0829, "SAMARITAN VOWEL SIGN ", "LONG I;I;O;SUKUN"⟩,
     ⟨0x082D, "", "SAMARITAN MARK NEQUDAA"⟩,
     ⟨0x0830, "SAMARITAN PUNCTUATION ", "NEQUDAA;AFSAAQ;ANGED;BAU;ATMAAU;SHIYYAALAA"⟩,
     ⟨0x0836, "SAMARITAN ", "ABBREVIATION MARK;PUNCTUATION MELODIC QITSA"⟩,
     ⟨0x0838, "SAMARITAN PUNCTUATION ", "ZIQAA;QITSA;ZAEF;TURU;ARKAANU;SOF MASHFAAT;ANNAAU"⟩]

/-- Names in the block Mandaic. -/
def mandaic : NameBlock where
  first := 0x0840
  last := 0x085F
  rows :=
    [⟨0x0840, "MANDAIC LETTER ", "HALQA;AB;AG;AD;AH;USHENNA;AZ;IT"⟩,
     ⟨0x0848, "MANDAIC LETTER ", "ATT;AKSA;AK;AL;AM;AN;AS;IN;AP;ASZ;AQ;AR;ASH;AT;DUSHENNA;KAD;AIN"⟩,
     ⟨0x0859, "MANDAIC ", "AFFRICATION MARK;VOCALIZATION MARK;GEMINATION MARK"⟩,
     ⟨0x085E, "", "MANDAIC PUNCTUATION"⟩]

/-- Names in the block Syriac Supplement. -/
def syriacSupplement : NameBlock where
  first := 0x0860
  last := 0x086F
  rows :=
    [⟨0x0860, "SYRIAC LETTER MALAYALAM ", "NGA;JA;NYA;TTA;NNA;NNNA;BHA;RA;LLA;LLLA;SSA"⟩]

/-- Names in the block Ugaritic. -/
def ugaritic : NameBlock where
  first := 0x10380
  last := 0x1039F
  rows :=
    [⟨0x10380, "UGARITIC LETTER ", "ALPA;BETA;GAMLA"⟩,
     ⟨0x10383, "UGARITIC LETTER ", "KHA;DELTA;HO;WO;ZETA;HOTA;TET;YOD;KAF;SHIN;LAMDA;MEM;DHAL"⟩,
     ⟨0x10390, "UGARITIC LETTER ", "NUN;ZU;SAMKA;AIN;PU;SADE;QOPA;RASHA;THANNA;GHAIN;TO;I;U;SSU"⟩,
     ⟨0x1039F, "", "UGARITIC WORD DIVIDER"⟩]

/-- Names in the block Old Persian. -/
def oldPersian : NameBlock where
  first := 0x103A0
  last := 0x103DF
  rows :=
    [⟨0x103A0, "OLD PERSIAN SIGN ", "A;I;U;KA;KU;GA;GU;XA;CA;JA;JI;TA;TU;DA;DI;DU;THA"⟩,
     ⟨0x103B1, "OLD PERSIAN SIGN ", "PA;BA;FA;NA;NU;MA;MI;MU;YA;VA;VI;RA;RU;LA;SA;ZA;SHA;SSA;HA"⟩,
     ⟨0x103C8, "OLD PERSIAN SIGN ", "AURAMAZDAA;AURAMAZDAA-2;AURAMAZDAAHA;XSHAAYATHIYA;DAHYAAUSH"⟩,
     ⟨0x103CD, "OLD PERSIAN ", "SIGN DAHYAAUSH-2;SIGN BAGA;SIGN BUUMISH;WORD DIVIDER"⟩,
     ⟨0x103D1, "OLD PERSIAN NUMBER ", "ONE;TWO;TEN;TWENTY;HUNDRED"⟩]

/-- Names in the block Imperial Aramaic. -/
def imperialAramaic : NameBlock where
  first := 0x10840
  last := 0x1085F
  rows :=
    [⟨0x10840, "IMPERIAL ARAMAIC LETTER ", "ALEPH;BETH"⟩,
     ⟨0x10842, "IMPERIAL ARAMAIC LETTER ", "GIMEL;DALETH;HE;WAW;ZAYIN;HETH;TETH;YODH;KAPH;LAMEDH"⟩,
     ⟨0x1084C, "IMPERIAL ARAMAIC LETTER ", "MEM;NUN;SAMEKH;AYIN;PE;SADHE;QOPH;RESH;SHIN;TAW"⟩,
     ⟨0x10857, "IMPERIAL ARAMAIC ", "SECTION SIGN;NUMBER ONE;NUMBER TWO;NUMBER THREE"⟩,
     ⟨0x1085B, "IMPERIAL ARAMAIC NUMBER ", "TEN;TWENTY;ONE HUNDRED;ONE THOUSAND;TEN THOUSAND"⟩]

/-- Names in the block Palmyrene. -/
def palmyrene : NameBlock where
  first := 0x10860
  last := 0x1087F
  rows :=
    [⟨0x10860, "PALMYRENE LETTER ", "ALEPH;BETH;GIMEL;DALETH;HE;WAW;ZAYIN;HETH;TETH;YODH;KAPH"⟩,
     ⟨0x1086B, "PALMYRENE LETTER ", "LAMEDH;MEM;FINAL NUN;NUN;SAMEKH;AYIN;PE;SADHE;QOPH;RESH;SHIN"⟩,
     ⟨0x10876, "PALMYRENE ", "LETTER TAW;LEFT-POINTING FLEURON;RIGHT-POINTING FLEURON"⟩,
     ⟨0x10879, "PALMYRENE NUMBER ", "ONE;TWO;THREE;FOUR;FIVE;TEN;TWENTY"⟩]

/-- Names in the block Nabataean. -/
def nabataean : NameBlock where
  first := 0x10880
  last := 0x108AF
  rows :=
    [⟨0x10880, "NABATAEAN LETTER ", "FINAL ALEPH;ALEPH;FINAL BETH;BETH"⟩,
     ⟨0x10884, "NABATAEAN LETTER ", "GIMEL;DALETH;FINAL HE;HE;WAW;ZAYIN;HETH;TETH;FINAL YODH;YODH"⟩,
     ⟨0x1088E, "NABATAEAN LETTER ", "FINAL KAPH;KAPH;FINAL LAMEDH;LAMEDH;FINAL MEM;MEM;FINAL NUN"⟩,
     ⟨0x10895, "NABATAEAN LETTER ", "NUN;SAMEKH;AYIN;PE;SADHE;QOPH;RESH;FINAL SHIN;SHIN;TAW"⟩,
     ⟨0x108A7, "NABATAEAN NUMBER ", "ONE;TWO;THREE;FOUR"⟩,
     ⟨0x108AB, "", "NABATAEAN CRUCIFORM NUMBER FOUR"⟩,
     ⟨0x108AC, "NABATAEAN NUMBER ", "FIVE;TEN;TWENTY;ONE HUNDRED"⟩]

/-- Names in the block Hatran. -/
def hatran : NameBlock where
  first := 0x108E0
  last := 0x108FF
  rows :=
    [⟨0x108E0, "HATRAN LETTER ", "ALEPH;BETH;GIMEL;DALETH-RESH;HE;WAW;ZAYN"⟩,
     ⟨0x108E7, "HATRAN LETTER ", "HETH;TETH;YODH;KAPH;LAMEDH;MEM;NUN;SAMEKH;AYN;PE;SADHE;QOPH"⟩,
     ⟨0x108F4, "HATRAN LETTER ", "SHIN;TAW"⟩,
     ⟨0x108FB, "HATRAN NUMBER ", "ONE;FIVE;TEN;TWENTY;ONE HUNDRED"⟩]

/-- Names in the block Phoenician. -/
def phoenician : NameBlock where
  first := 0x10900
  last := 0x1091F
  rows :=
    [⟨0x10900, "PHOENICIAN LETTER ", "ALF;BET;GAML;DELT;HE;WAU;ZAI;HET"⟩,
     ⟨0x10908, "PHOENICIAN LETTER ", "TET;YOD;KAF;LAMD;MEM;NUN;SEMK;AIN;PE;SADE;QOF;ROSH;SHIN;TAU"⟩,
     ⟨0x10916, "PHOENICIAN NUMBER ", "ONE;TEN;TWENTY;ONE HUNDRED;TWO;THREE"⟩,
     ⟨0x1091F, "", "PHOENICIAN WORD SEPARATOR"⟩]

/-- Names in the block Old South Arabian. -/
def oldSouthArabian : NameBlock where
  first := 0x10A60
  last := 0x10A7F
  rows :=
    [⟨0x10A60, "OLD SOUTH ARABIAN LETTER ", "HE;LAMEDH;HETH;MEM;QOPH;WAW;SHIN;RESH;BETH;TAW"⟩,
     ⟨0x10A6A, "OLD SOUTH ARABIAN LETTER ", "SAT;KAPH;NUN;KHETH;SADHE;SAMEKH;FE;ALEF;AYN;DHADHE"⟩,
     ⟨0x10A74, "OLD SOUTH ARABIAN LETTER ", "GIMEL;DALETH;GHAYN;TETH;ZAYN;DHALETH;YODH;THAW;THETH"⟩,
     ⟨0x10A7D, "OLD SOUTH ARABIAN ", "NUMBER ONE;NUMBER FIFTY;NUMERIC INDICATOR"⟩]

/-- Names in the block Old North Arabian. -/
def oldNorthArabian : NameBlock where
  first := 0x10A80
  last := 0x10A9F
  rows :=
    [⟨0x10A80, "OLD NORTH ARABIAN LETTER ", "HEH;LAM;HAH;MEEM;QAF;WAW;ES-2"⟩,
     ⟨0x10A87, "OLD NORTH ARABIAN LETTER ", "REH;BEH;TEH;ES-1;KAF;NOON;KHAH;SAD;ES-3;FEH;ALEF"⟩,
     ⟨0x10A92, "OLD NORTH ARABIAN LETTER ", "AIN;DAD;GEEM;DAL;GHAIN;TAH;ZAIN;THAL;YEH;THEH;ZAH"⟩,
     ⟨0x10A9D, "OLD NORTH ARABIAN NUMBER ", "ONE;TEN;TWENTY"⟩]

/-- Names in the block Manichaean. -/
def manichaean : NameBlock where
  first := 0x10AC0
  last := 0x10AFF
  rows :=
    [⟨0x10AC0, "MANICHAEAN LETTER ", "ALEPH;BETH;BHETH;GIMEL;GHIMEL;DALETH;HE;WAW"⟩,
     ⟨0x10AC8, "", "MANICHAEAN SIGN UD"⟩,
     ⟨0x10AC9, "MANICHAEAN LETTER ", "ZAYIN;ZHAYIN;JAYIN;JHAYIN;HETH;TETH"⟩,
     ⟨0x10ACF, "MANICHAEAN LETTER ", "YODH;KAPH;XAPH;KHAPH;LAMEDH;DHAMEDH;THAMEDH;MEM;NUN;SAMEKH"⟩,
     ⟨0x10AD9, "MANICHAEAN LETTER ", "AYIN;AAYIN;PE;FE;SADHE;QOPH;XOPH;QHOPH;RESH;SHIN;SSHIN;TAW"⟩,
     ⟨0x10AE5, "MANICHAEAN ABBREVIATION MARK ", "ABOVE;BELOW"⟩,
     ⟨0x10AEB, "MANICHAEAN NUMBER ", "ONE;FIVE;TEN;TWENTY;ONE HUNDRED"⟩,
     ⟨0x10AF0, "MANICHAEAN PUNCTUATION ", "STAR;FLEURON;DOUBLE DOT WITHIN DOT"⟩,
     ⟨0x10AF3, "MANICHAEAN PUNCTUATION ", "DOT WITHIN DOT;DOT;TWO DOTS;LINE FILLER"⟩]

/-- Names in the block Avestan. -/
def avestan : NameBlock where
  first := 0x10B00
  last := 0x10B3F
  rows :=
    [⟨0x10B00, "AVESTAN LETTER ", "A;AA;AO;AAO;AN;AAN;AE;AEE;E;EE;O;OO;I;II;U;UU;KE;XE;XYE;XVE"⟩,
     ⟨0x10B14, "AVESTAN LETTER ", "GE;GGE;GHE;CE;JE;TE;THE;DE;DHE;TTE;PE;FE;BE;BHE;NGE;NGYE;NGVE"⟩,
     ⟨0x10B25, "AVESTAN LETTER ", "NE;NYE;NNE;ME;HME;YYE;YE;VE;RE;LE;SE;ZE;SHE;ZHE;SHYE;SSHE;HE"⟩,
     ⟨0x10B39, "", "AVESTAN ABBREVIATION MARK;TINY TWO DOTS OVER ONE DOT PUNCTUATION"⟩,
     ⟨0x10B3B, "", "SMALL TWO DOTS OVER ONE DOT PUNCTUATION"⟩,
     ⟨0x10B3C, "LARGE ", "TWO DOTS OVER ONE DOT PUNCTUATION;ONE DOT OVER TWO DOTS PUNCTUATION"⟩,
     ⟨0x10B3E, "LARGE ", "TWO RINGS OVER ONE RING PUNCTUATION;ONE RING OVER TWO RINGS PUNCTUATION"⟩]

/-- Names in the block Inscriptional Parthian. -/
def inscriptionalParthian : NameBlock where
  first := 0x10B40
  last := 0x10B5F
  rows :=
    [⟨0x10B40, "INSCRIPTIONAL PARTHIAN LETTER ", "ALEPH;BETH;GIMEL"⟩,
     ⟨0x10B43, "INSCRIPTIONAL PARTHIAN LETTER ", "DALETH;HE;WAW;ZAYIN;HETH;TETH;YODH;KAPH;LAMEDH"⟩,
     ⟨0x10B4C, "INSCRIPTIONAL PARTHIAN LETTER ", "MEM;NUN;SAMEKH;AYIN;PE;SADHE;QOPH;RESH;SHIN;TAW"⟩,
     ⟨0x10B58, "INSCRIPTIONAL PARTHIAN NUMBER ", "ONE;TWO;THREE;FOUR;TEN;TWENTY"⟩,
     ⟨0x10B5E, "INSCRIPTIONAL PARTHIAN NUMBER ONE ", "HUNDRED;THOUSAND"⟩]

/-- Names in the block Inscriptional Pahlavi. -/
def inscriptionalPahlavi : NameBlock where
  first := 0x10B60
  last := 0x10B7F
  rows :=
    [⟨0x10B60, "INSCRIPTIONAL PAHLAVI LETTER ", "ALEPH;BETH;GIMEL;DALETH"⟩,
     ⟨0x10B64, "INSCRIPTIONAL PAHLAVI LETTER ", "HE;WAW-AYIN-RESH;ZAYIN;HETH;TETH;YODH;KAPH"⟩,
     ⟨0x10B6B, "INSCRIPTIONAL PAHLAVI LETTER ", "LAMEDH;MEM-QOPH;NUN;SAMEKH;PE;SADHE;SHIN;TAW"⟩,
     ⟨0x10B78, "INSCRIPTIONAL PAHLAVI NUMBER ", "ONE;TWO;THREE;FOUR;TEN;TWENTY"⟩,
     ⟨0x10B7E, "INSCRIPTIONAL PAHLAVI NUMBER ONE ", "HUNDRED;THOUSAND"⟩]

/-- Names in the block Psalter Pahlavi. -/
def psalterPahlavi : NameBlock where
  first := 0x10B80
  last := 0x10BAF
  rows :=
    [⟨0x10B80, "PSALTER PAHLAVI LETTER ", "ALEPH;BETH;GIMEL;DALETH;HE;WAW-AYIN-RESH;ZAYIN;HETH"⟩,
     ⟨0x10B88, "PSALTER PAHLAVI LETTER ", "YODH;KAPH;LAMEDH;MEM-QOPH;NUN;SAMEKH;PE;SADHE;SHIN;TAW"⟩,
     ⟨0x10B99, "PSALTER PAHLAVI ", "SECTION MARK;TURNED SECTION MARK"⟩,
     ⟨0x10B9B, "PSALTER PAHLAVI FOUR DOTS WITH ", "CROSS;DOT"⟩,
     ⟨0x10BA9, "PSALTER PAHLAVI NUMBER ", "ONE;TWO;THREE;FOUR;TEN;TWENTY;ONE HUNDRED"⟩]

/-- Names in the block Old Turkic. -/
def oldTurkic : NameBlock where
  first := 0x10C00
  last := 0x10C4F
  rows :=
    [⟨0x10C00, "OLD TURKIC LETTER ", "ORKHON A;YENISEI A;YENISEI AE;ORKHON I;YENISEI I;YENISEI E"⟩,
     ⟨0x10C06, "OLD TURKIC LETTER ORKHON ", "O;OE"⟩,
     ⟨0x10C08, "OLD TURKIC LETTER ", "YENISEI OE;ORKHON AB;YENISEI AB;ORKHON AEB"⟩,
     ⟨0x10C0C, "OLD TURKIC LETTER ", "YENISEI AEB;ORKHON AG;YENISEI AG;ORKHON AEG;YENISEI AEG"⟩,
     ⟨0x10C11, "OLD TURKIC LETTER ", "ORKHON AD;YENISEI AD;ORKHON AED;ORKHON EZ;YENISEI EZ"⟩,
     ⟨0x10C16, "OLD TURKIC LETTER ", "ORKHON AY;YENISEI AY;ORKHON AEY;YENISEI AEY;ORKHON AEK"⟩,
     ⟨0x10C1B, "OLD TURKIC LETTER ", "YENISEI AEK;ORKHON OEK;YENISEI OEK;ORKHON AL;YENISEI AL"⟩,
     ⟨0x10C20, "OLD TURKIC LETTER ORKHON ", "AEL;ELT;EM;AN;AEN"⟩,
     ⟨0x10C25, "OLD TURKIC LETTER ", "YENISEI AEN;ORKHON ENT;YENISEI ENT;ORKHON ENC;YENISEI ENC"⟩,
     ⟨0x10C2A, "OLD TURKIC LETTER ", "ORKHON ENY;YENISEI ENY;YENISEI ANG;ORKHON ENG;YENISEI AENG"⟩,
     ⟨0x10C2F, "OLD TURKIC LETTER ORKHON ", "EP;OP;IC;EC"⟩,
     ⟨0x10C33, "OLD TURKIC LETTER ", "YENISEI EC;ORKHON AQ;YENISEI AQ;ORKHON IQ"⟩,
     ⟨0x10C37, "OLD TURKIC LETTER ", "YENISEI IQ;ORKHON OQ;YENISEI OQ;ORKHON AR;YENISEI AR"⟩,
     ⟨0x10C3C, "OLD TURKIC LETTER ORKHON ", "AER;AS;AES;ASH"⟩,
     ⟨0x10C40, "OLD TURKIC LETTER ", "YENISEI ASH;ORKHON ESH;YENISEI ESH;ORKHON AT"⟩,
     ⟨0x10C44, "OLD TURKIC LETTER ", "YENISEI AT;ORKHON AET;YENISEI AET;ORKHON OT;ORKHON BASH"⟩]

/-- Names in the block Yezidi. -/
def yezidi : NameBlock where
  first := 0x10E80
  last := 0x10EBF
  rows :=
    [⟨0x10E80, "YEZIDI LETTER ", "ELIF;BE;PE;PHE;THE;SE;CIM;CHIM;CHHIM;HHA;XA;DAL;ZAL;RA;RHA"⟩,
     ⟨0x10E8F, "YEZIDI LETTER ", "ZA;JA;SIN;SHIN;SAD;DAD;TA;ZE;EYN;XHEYN;FA;VA;VA ALTERNATE FORM"⟩,
     ⟨0x10E9C, "YEZIDI LETTER ", "QAF;KAF;KHAF;GAF;LAM;MIM;NUN;UM;WAW;OW;EW;HAY;YOT;ET"⟩,
     ⟨0x10EAB, "YEZIDI ", "COMBINING HAMZA MARK;COMBINING MADDA MARK;HYPHENATION MARK"⟩,
     ⟨0x10EB0, "YEZIDI LETTER ", "LAM WITH DOT ABOVE;YOT WITH CIRCUMFLEX ABOVE"⟩]

/-- Names in the block Old Sogdian. -/
def oldSogdian : NameBlock where
  first := 0x10F00
  last := 0x10F2F
  rows :=
    [⟨0x10F00, "OLD SOGDIAN LETTER ", "ALEPH;FINAL ALEPH;BETH;FINAL BETH"⟩,
     ⟨0x10F04, "OLD SOGDIAN LETTER ", "GIMEL;HE;FINAL HE;WAW;ZAYIN;HETH;YODH;KAPH;LAMEDH;MEM;NUN"⟩,
     ⟨0x10F0F, "OLD SOGDIAN LETTER FINAL ", "NUN;NUN WITH VERTICAL TAIL"⟩,
     ⟨0x10F11, "OLD SOGDIAN LETTER ", "SAMEKH;AYIN;ALTERNATE AYIN;PE;SADHE;FINAL SADHE"⟩,
     ⟨0x10F17, "OLD SOGDIAN LETTER ", "FINAL SADHE WITH VERTICAL TAIL;RESH-AYIN-DALETH;SHIN;TAW"⟩,
     ⟨0x10F1B, "OLD SOGDIAN LETTER FINAL ", "TAW;TAW WITH VERTICAL TAIL"⟩,
     ⟨0x10F1D, "OLD SOGDIAN NUMBER ", "ONE;TWO;THREE;FOUR;FIVE;TEN;TWENTY;THIRTY;ONE HUNDRED"⟩,
     ⟨0x10F26, "OLD SOGDIAN ", "FRACTION ONE HALF;LIGATURE AYIN-DALETH"⟩]

/-- Names in the block Sogdian. -/
def sogdian : NameBlock where
  first := 0x10F30
  last := 0x10F6F
  rows :=
    [⟨0x10F30, "SOGDIAN LETTER ", "ALEPH;BETH;GIMEL;HE;WAW;ZAYIN;HETH;YODH;KAPH;LAMEDH"⟩,
     ⟨0x10F3A, "SOGDIAN LETTER ", "MEM;NUN;SAMEKH;AYIN;PE;SADHE;RESH-AYIN;SHIN;TAW;FETH;LESH"⟩,
     ⟨0x10F45, "SOGDIAN ", "INDEPENDENT SHIN;COMBINING DOT BELOW;COMBINING TWO DOTS BELOW"⟩,
     ⟨0x10F48, "SOGDIAN COMBINING ", "DOT ABOVE;TWO DOTS ABOVE;CURVE ABOVE;CURVE BELOW;HOOK ABOVE"⟩,
     ⟨0x10F4D, "SOGDIAN COMBINING ", "HOOK BELOW;LONG HOOK BELOW;RESH BELOW;STROKE BELOW"⟩,
     ⟨0x10F51, "SOGDIAN NUMBER ", "ONE;TEN;TWENTY;ONE HUNDRED"⟩,
     ⟨0x10F55, "SOGDIAN PUNCTUATION TWO VERTICAL ", "BARS;BARS WITH DOTS"⟩,
     ⟨0x10F57, "", "SOGDIAN PUNCTUATION CIRCLE WITH DOT"⟩,
     ⟨0x10F58, "SOGDIAN PUNCTUATION ", "TWO CIRCLES WITH DOTS;HALF CIRCLE WITH DOT"⟩]

/-- Names in the block Old Uyghur. -/
def oldUyghur : NameBlock where
  first := 0x10F70
  last := 0x10FAF
  rows :=
    [⟨0x10F70, "OLD UYGHUR LETTER ", "ALEPH;BETH;GIMEL-HETH;WAW;ZAYIN;FINAL HETH"⟩,
     ⟨0x10F76, "OLD UYGHUR LETTER ", "YODH;KAPH;LAMEDH;MEM;NUN;SAMEKH;PE;SADHE;RESH;SHIN;TAW;LESH"⟩,
     ⟨0x10F82, "OLD UYGHUR COMBINING ", "DOT ABOVE;DOT BELOW;TWO DOTS ABOVE;TWO DOTS BELOW"⟩,
     ⟨0x10F86, "OLD UYGHUR PUNCTUATION ", "BAR;TWO BARS;TWO DOTS;FOUR DOTS"⟩]

/-- Names in the block Chorasmian. -/
def chorasmian : NameBlock where
  first := 0x10FB0
  last := 0x10FDF
  rows :=
    [⟨0x10FB0, "CHORASMIAN LETTER ", "ALEPH;SMALL ALEPH;BETH;GIMEL;DALETH;HE;WAW;CURLED WAW;ZAYIN"⟩,
     ⟨0x10FB9, "CHORASMIAN LETTER ", "HETH;YODH;KAPH;LAMEDH;MEM;NUN;SAMEKH;AYIN;PE;RESH;SHIN;TAW"⟩,
     ⟨0x10FC5, "CHORASMIAN NUMBER ", "ONE;TWO;THREE;FOUR;TEN;TWENTY;ONE HUNDRED"⟩]

/-- Names in the block Elymaic. -/
def elymaic : NameBlock where
  first := 0x10FE0
  last := 0x10FFF
  rows :=
    [⟨0x10FE0, "ELYMAIC LETTER ", "ALEPH;BETH;GIMEL;DALETH;HE;WAW;ZAYIN;HETH;TETH;YODH"⟩,
     ⟨0x10FEA, "ELYMAIC LETTER ", "KAPH;LAMEDH;MEM;NUN;SAMEKH;AYIN;PE;SADHE;QOPH;RESH;SHIN;TAW"⟩,
     ⟨0x10FF6, "", "ELYMAIC LIGATURE ZAYIN-YODH"⟩]

end NameBlock

/-- The blocks of this module. -/
def middleEasternBlocks : List NameBlock :=
  [.hebrew, .syriac, .thaana, .samaritan, .mandaic, .syriacSupplement, .ugaritic, .oldPersian,
   .imperialAramaic, .palmyrene, .nabataean, .hatran, .phoenician, .oldSouthArabian,
   .oldNorthArabian, .manichaean, .avestan, .inscriptionalParthian, .inscriptionalPahlavi,
   .psalterPahlavi, .oldTurkic, .yezidi, .oldSogdian, .sogdian, .oldUyghur, .chorasmian,
   .elymaic]

end Text
end Scripting
