import Scripting.Text.Names.Block

namespace Scripting
namespace Text

/-!
Names of letters of the alphabets of Europe and the Caucasus.
-/

namespace NameBlock

/-- Names in the block Greek and Coptic. -/
def greekAndCoptic : NameBlock where
  first := 0x0370
  last := 0x03FF
  rows :=
    [⟨0x0370, "GREEK ", "CAPITAL LETTER HETA;SMALL LETTER HETA;CAPITAL LETTER ARCHAIC SAMPI"⟩,
     ⟨0x0373, "GREEK ", "SMALL LETTER ARCHAIC SAMPI;NUMERAL SIGN;LOWER NUMERAL SIGN"⟩,
     ⟨0x0376, "GREEK ", "CAPITAL LETTER PAMPHYLIAN DIGAMMA;SMALL LETTER PAMPHYLIAN DIGAMMA"⟩,
     ⟨0x037A, "GREEK ", "YPOGEGRAMMENI;SMALL REVERSED LUNATE SIGMA SYMBOL"⟩,
     ⟨0x037C, "GREEK SMALL ", "DOTTED LUNATE SIGMA SYMBOL;REVERSED DOTTED LUNATE SIGMA SYMBOL"⟩,
     ⟨0x037E, "GREEK ", "QUESTION MARK;CAPITAL LETTER YOT"⟩,
     ⟨0x0384, "GREEK ", "TONOS;DIALYTIKA TONOS;CAPITAL LETTER ALPHA WITH TONOS;ANO TELEIA"⟩,
     ⟨0x0388, "GREEK CAPITAL LETTER ", "EPSILON WITH TONOS;ETA WITH TONOS;IOTA WITH TONOS"⟩,
     ⟨0x038C, "", "GREEK CAPITAL LETTER OMICRON WITH TONOS"⟩,
     ⟨0x038E, "GREEK CAPITAL LETTER ", "UPSILON WITH TONOS;OMEGA WITH TONOS"⟩,
     ⟨0x0390, "", "GREEK SMALL LETTER IOTA WITH DIALYTIKA AND TONOS"⟩,
     ⟨0x0391, "GREEK CAPITAL LETTER ", "ALPHA;BETA;GAMMA;DELTA;EPSILON"⟩,
     ⟨0x0396, "GREEK CAPITAL LETTER ", "ZETA;ETA;THETA;IOTA;KAPPA;LAMDA;MU;NU;XI;OMICRON;PI;RHO"⟩,
     ⟨0x03A3, "GREEK CAPITAL LETTER ", "SIGMA;TAU;UPSILON;PHI"⟩,
     ⟨0x03A7, "GREEK CAPITAL LETTER ", "CHI;PSI;OMEGA;IOTA WITH DIALYTIKA;UPSILON WITH DIALYTIKA"⟩,
     ⟨0x03AC, "GREEK SMALL LETTER ", "ALPHA WITH TONOS;EPSILON WITH TONOS;ETA WITH TONOS"⟩,
     ⟨0x03AF, "GREEK SMALL LETTER ", "IOTA WITH TONOS;UPSILON WITH DIALYTIKA AND TONOS;ALPHA"⟩,
     ⟨0x03B2, "GREEK SMALL LETTER ", "BETA;GAMMA;DELTA;EPSILON;ZETA;ETA;THETA;IOTA;KAPPA;LAMDA"⟩,
     ⟨0x03BC, "GREEK SMALL LETTER ", "MU;NU;XI;OMICRON;PI;RHO;FINAL SIGMA;SIGMA;TAU;UPSILON;PHI"⟩,
     ⟨0x03C7, "GREEK SMALL LETTER ", "CHI;PSI;OMEGA;IOTA WITH DIALYTIKA;UPSILON WITH DIALYTIKA"⟩,
     ⟨0x03CC, "GREEK SMALL LETTER ", "OMICRON WITH TONOS;UPSILON WITH TONOS;OMEGA WITH TONOS"⟩,
     ⟨0x03CF, "GREEK ", "CAPITAL KAI SYMBOL;BETA SYMBOL;THETA SYMBOL"⟩,
     ⟨0x03D2, "GREEK UPSILON WITH ", "HOOK SYMBOL;ACUTE AND HOOK SYMBOL;DIAERESIS AND HOOK SYMBOL"⟩,
     ⟨0x03D5, "", "GREEK PHI SYMBOL"⟩,
     ⟨0x03D6, "GREEK ", "PI SYMBOL;KAI SYMBOL;LETTER ARCHAIC KOPPA;SMALL LETTER ARCHAIC KOPPA"⟩,
     ⟨0x03DA, "GREEK ", "LETTER STIGMA;SMALL LETTER STIGMA;LETTER DIGAMMA;SMALL LETTER DIGAMMA"⟩,
     ⟨0x03DE, "GREEK ", "LETTER KOPPA;SMALL LETTER KOPPA;LETTER SAMPI;SMALL LETTER SAMPI"⟩,
     ⟨0x03E2, "COPTIC ", "CAPITAL LETTER SHEI;SMALL LETTER SHEI"⟩,
     ⟨0x03E4, "COPTIC ", "CAPITAL LETTER FEI;SMALL LETTER FEI;CAPITAL LETTER KHEI"⟩,
     ⟨0x03E7, "COPTIC ", "SMALL LETTER KHEI;CAPITAL LETTER HORI;SMALL LETTER HORI"⟩,
     ⟨0x03EA, "COPTIC ", "CAPITAL LETTER GANGIA;SMALL LETTER GANGIA;CAPITAL LETTER SHIMA"⟩,
     ⟨0x03ED, "COPTIC ", "SMALL LETTER SHIMA;CAPITAL LETTER DEI;SMALL LETTER DEI"⟩,
     ⟨0x03F0, "GREEK ", "KAPPA SYMBOL;RHO SYMBOL;LUNATE SIGMA SYMBOL"⟩,
     ⟨0x03F3, "GREEK ", "LETTER YOT;CAPITAL THETA SYMBOL;LUNATE EPSILON SYMBOL"⟩,
     ⟨0x03F6, "GREEK ", "REVERSED LUNATE EPSILON SYMBOL;CAPITAL LETTER SHO;SMALL LETTER SHO"⟩,
     ⟨0x03F9, "GREEK ", "CAPITAL LUNATE SIGMA SYMBOL;CAPITAL LETTER SAN;SMALL LETTER SAN"⟩,
     ⟨0x03FC, "GREEK ", "RHO WITH STROKE SYMBOL;CAPITAL REVERSED LUNATE SIGMA SYMBOL"⟩,
     ⟨0x03FE, "GREEK CAPITAL ", "DOTTED LUNATE SIGMA SYMBOL;REVERSED DOTTED LUNATE SIGMA SYMBOL"⟩]

/-- Names in the block Cyrillic. -/
def cyrillic : NameBlock where
  first := 0x0400
  last := 0x04FF
  rows :=
    [⟨0x0400, "CYRILLIC CAPITAL LETTER ", "IE WITH GRAVE;IO;DJE"⟩,
     ⟨0x0403, "CYRILLIC CAPITAL LETTER ", "GJE;UKRAINIAN IE;DZE;BYELORUSSIAN-UKRAINIAN I;YI;JE"⟩,
     ⟨0x0409, "CYRILLIC CAPITAL LETTER ", "LJE;NJE;TSHE;KJE;I WITH GRAVE;SHORT U;DZHE;A;BE;VE;GHE"⟩,
     ⟨0x0414, "CYRILLIC CAPITAL LETTER ", "DE;IE;ZHE;ZE;I;SHORT I;KA;EL;EM;EN;O;PE;ER;ES;TE;U;EF"⟩,
     ⟨0x0425, "CYRILLIC CAPITAL LETTER ", "HA;TSE;CHE;SHA;SHCHA;HARD SIGN;YERU;SOFT SIGN;E;YU;YA"⟩,
     ⟨0x0430, "CYRILLIC SMALL LETTER ", "A;BE;VE;GHE;DE;IE;ZHE"⟩,
     ⟨0x0437, "CYRILLIC SMALL LETTER ", "ZE;I;SHORT I;KA;EL;EM;EN;O;PE;ER;ES;TE;U;EF;HA;TSE;CHE"⟩,
     ⟨0x0448, "CYRILLIC SMALL LETTER ", "SHA;SHCHA;HARD SIGN;YERU;SOFT SIGN;E;YU;YA;IE WITH GRAVE"⟩,
     ⟨0x0451, "CYRILLIC SMALL LETTER ", "IO;DJE;GJE;UKRAINIAN IE;DZE;BYELORUSSIAN-UKRAINIAN I"⟩,
     ⟨0x0457, "CYRILLIC SMALL LETTER ", "YI;JE;LJE;NJE;TSHE;KJE;I WITH GRAVE;SHORT U;DZHE"⟩,
     ⟨0x0460, "CYRILLIC ", "CAPITAL LETTER OMEGA;SMALL LETTER OMEGA"⟩,
     ⟨0x0462, "CYRILLIC ", "CAPITAL LETTER YAT;SMALL LETTER YAT;CAPITAL LETTER IOTIFIED E"⟩,
     ⟨0x0465, "CYRILLIC ", "SMALL LETTER IOTIFIED E;CAPITAL LETTER LITTLE YUS"⟩,
     ⟨0x0467, "CYRILLIC ", "SMALL LETTER LITTLE YUS;CAPITAL LETTER IOTIFIED LITTLE YUS"⟩,
     ⟨0x0469, "CYRILLIC ", "SMALL LETTER IOTIFIED LITTLE YUS;CAPITAL LETTER BIG YUS"⟩,
     ⟨0x046B, "CYRILLIC ", "SMALL LETTER BIG YUS;CAPITAL LETTER IOTIFIED BIG YUS"⟩,
     ⟨0x046D, "CYRILLIC ", "SMALL LETTER IOTIFIED BIG YUS;CAPITAL LETTER KSI"⟩,
     ⟨0x046F, "CYRILLIC ", "SMALL LETTER KSI;CAPITAL LETTER PSI;SMALL LETTER PSI"⟩,
     ⟨0x0472, "CYRILLIC ", "CAPITAL LETTER FITA;SMALL LETTER FITA;CAPITAL LETTER IZHITSA"⟩,
     ⟨0x0475, "CYRILLIC ", "SMALL LETTER IZHITSA;CAPITAL LETTER IZHITSA WITH DOUBLE GRAVE ACCENT"⟩,
     ⟨0x0477, "", "CYRILLIC SMALL LETTER IZHITSA WITH DOUBLE GRAVE ACCENT"⟩,
     ⟨0x0478, "CYRILLIC ", "CAPITAL LETTER UK;SMALL LETTER UK;CAPITAL LETTER ROUND OMEGA"⟩,
     ⟨0x047B, "CYRILLIC ", "SMALL LETTER ROUND OMEGA;CAPITAL LETTER OMEGA WITH TITLO"⟩,
     ⟨0x047D, "CYRILLIC ", "SMALL LETTER OMEGA WITH TITLO;CAPITAL LETTER OT;SMALL LETTER OT"⟩,
     ⟨0x0480, "CYRILLIC ", "CAPITAL LETTER KOPPA;SMALL LETTER KOPPA;THOUSANDS SIGN"⟩,
     ⟨0x0483, "COMBINING CYRILLIC ", "TITLO;PALATALIZATION;DASIA PNEUMATA;PSILI PNEUMATA"⟩,
     ⟨0x0487, "COMBINING CYRILLIC ", "POKRYTIE;HUNDRED THOUSANDS SIGN;MILLIONS SIGN"⟩,
     ⟨0x048A, "", "CYRILLIC CAPITAL LETTER SHORT I WITH TAIL"⟩,
     ⟨0x048B, "CYRILLIC ", "SMALL LETTER SHORT I WITH TAIL;CAPITAL LETTER SEMISOFT SIGN"⟩,
     ⟨0x048D, "CYRILLIC ", "SMALL LETTER SEMISOFT SIGN;CAPITAL LETTER ER WITH TICK"⟩,
     ⟨0x048F, "CYRILLIC ", "SMALL LETTER ER WITH TICK;CAPITAL LETTER GHE WITH UPTURN"⟩,
     ⟨0x0491, "CYRILLIC ", "SMALL LETTER GHE WITH UPTURN;CAPITAL LETTER GHE WITH STROKE"⟩,
     ⟨0x0493, "CYRILLIC ", "SMALL LETTER GHE WITH STROKE;CAPITAL LETTER GHE WITH MIDDLE HOOK"⟩,
     ⟨0x0495, "CYRILLIC ", "SMALL LETTER GHE WITH MIDDLE HOOK;CAPITAL LETTER ZHE WITH DESCENDER"⟩,
     ⟨0x0497, "CYRILLIC ", "SMALL LETTER ZHE WITH DESCENDER;CAPITAL LETTER ZE WITH DESCENDER"⟩,
     ⟨0x0499, "CYRILLIC ", "SMALL LETTER ZE WITH DESCENDER;CAPITAL LETTER KA WITH DESCENDER"⟩,
     ⟨0x049B, "CYRILLIC ", "SMALL LETTER KA WITH DESCENDER;CAPITAL LETTER KA WITH VERTICAL STROKE"⟩,
     ⟨0x049D, "CYRILLIC ", "SMALL LETTER KA WITH VERTICAL STROKE;CAPITAL LETTER KA WITH STROKE"⟩,
     ⟨0x049F, "CYRILLIC ", "SMALL LETTER KA WITH STROKE;CAPITAL LETTER BASHKIR KA"⟩,
     ⟨0x04A1, "CYRILLIC ", "SMALL LETTER BASHKIR KA;CAPITAL LETTER EN WITH DESCENDER"⟩,
     ⟨0x04A3, "CYRILLIC ", "SMALL LETTER EN WITH DESCENDER;CAPITAL LIGATURE EN GHE"⟩,
     ⟨0x04A5, "CYRILLIC ", "SMALL LIGATURE EN GHE;CAPITAL LETTER PE WITH MIDDLE HOOK"⟩,
     ⟨0x04A7, "CYRILLIC ", "SMALL LETTER PE WITH MIDDLE HOOK;CAPITAL LETTER ABKHASIAN HA"⟩,
     ⟨0x04A9, "CYRILLIC ", "SMALL LETTER ABKHASIAN HA;CAPITAL LETTER ES WITH DESCENDER"⟩,
     ⟨0x04AB, "CYRILLIC ", "SMALL LETTER ES WITH DESCENDER;CAPITAL LETTER TE WITH DESCENDER"⟩,
     ⟨0x04AD, "CYRILLIC ", "SMALL LETTER TE WITH DESCENDER;CAPITAL LETTER STRAIGHT U"⟩,
     ⟨0x04AF, "CYRILLIC ", "SMALL LETTER STRAIGHT U;CAPITAL LETTER STRAIGHT U WITH STROKE"⟩,
     ⟨0x04B1, "", "CYRILLIC SMALL LETTER STRAIGHT U WITH STROKE"⟩,
     ⟨0x04B2, "CYRILLIC ", "CAPITAL LETTER HA WITH DESCENDER;SMALL LETTER HA WITH DESCENDER"⟩,
     ⟨0x04B4, "CYRILLIC ", "CAPITAL LIGATURE TE TSE;SMALL LIGATURE TE TSE"⟩,
     ⟨0x04B6, "CYRILLIC ", "CAPITAL LETTER CHE WITH DESCENDER;SMALL LETTER CHE WITH DESCENDER"⟩,
     ⟨0x04B8, "", "CYRILLIC CAPITAL LETTER CHE WITH VERTICAL STROKE"⟩,
     ⟨0x04B9, "", "CYRILLIC SMALL LETTER CHE WITH VERTICAL STROKE"⟩,
     ⟨0x04BA, "CYRILLIC ", "CAPITAL LETTER SHHA;SMALL LETTER SHHA"⟩,
     ⟨0x04BC, "CYRILLIC ", "CAPITAL LETTER ABKHASIAN CHE;SMALL LETTER ABKHASIAN CHE"⟩,
     ⟨0x04BE, "", "CYRILLIC CAPITAL LETTER ABKHASIAN CHE WITH DESCENDER"⟩,
     ⟨0x04BF, "CYRILLIC ", "SMALL LETTER ABKHASIAN CHE WITH DESCENDER;LETTER PALOCHKA"⟩,
     ⟨0x04C1, "CYRILLIC ", "CAPITAL LETTER ZHE WITH BREVE;SMALL LETTER ZHE WITH BREVE"⟩,
     ⟨0x04C3, "CYRILLIC ", "CAPITAL LETTER KA WITH HOOK;SMALL LETTER KA WITH HOOK"⟩,
     ⟨0x04C5, "CYRILLIC ", "CAPITAL LETTER EL WITH TAIL;SMALL LETTER EL WITH TAIL"⟩,
     ⟨0x04C7, "CYRILLIC ", "CAPITAL LETTER EN WITH HOOK;SMALL LETTER EN WITH HOOK"⟩,
     ⟨0x04C9, "CYRILLIC ", "CAPITAL LETTER EN WITH TAIL;SMALL LETTER EN WITH TAIL"⟩,
     ⟨0x04CB, "CYRILLIC ", "CAPITAL LETTER KHAKASSIAN CHE;SMALL LETTER KHAKASSIAN CHE"⟩,
     ⟨0x04CD, "CYRILLIC ", "CAPITAL LETTER EM WITH TAIL;SMALL LETTER EM WITH TAIL"⟩,
     ⟨0x04CF, "CYRILLIC ", "SMALL LETTER PALOCHKA;CAPITAL LETTER A WITH BREVE"⟩,
     ⟨0x04D1, "CYRILLIC ", "SMALL LETTER A WITH BREVE;CAPITAL LETTER A WITH DIAERESIS"⟩,
     ⟨0x04D3, "CYRILLIC ", "SMALL LETTER A WITH DIAERESIS;CAPITAL LIGATURE A IE"⟩,
     ⟨0x04D5, "CYRILLIC ", "SMALL LIGATURE A IE;CAPITAL LETTER IE WITH BREVE"⟩,
     ⟨0x04D7, "CYRILLIC ", "SMALL LETTER IE WITH BREVE;CAPITAL LETTER SCHWA"⟩,
     ⟨0x04D9, "CYRILLIC ", "SMALL LETTER SCHWA;CAPITAL LETTER SCHWA WITH DIAERESIS"⟩,
     ⟨0x04DB, "CYRILLIC ", "SMALL LETTER SCHWA WITH DIAERESIS;CAPITAL LETTER ZHE WITH DIAERESIS"⟩,
     ⟨0x04DD, "CYRILLIC ", "SMALL LETTER ZHE WITH DIAERESIS;CAPITAL LETTER ZE WITH DIAERESIS"⟩,
     ⟨0x04DF, "CYRILLIC ", "SMALL LETTER ZE WITH DIAERESIS;CAPITAL LETTER ABKHASIAN DZE"⟩,
     ⟨0x04E1, "CYRILLIC ", "SMALL LETTER ABKHASIAN DZE;CAPITAL LETTER I WITH MACRON"⟩,
     ⟨0x04E3, "CYRILLIC ", "SMALL LETTER I WITH MACRON;CAPITAL LETTER I WITH DIAERESIS"⟩,
     ⟨0x04E5, "CYRILLIC ", "SMALL LETTER I WITH DIAERESIS;CAPITAL LETTER O WITH DIAERESIS"⟩,
     ⟨0x04E7, "CYRILLIC ", "SMALL LETTER O WITH DIAERESIS;CAPITAL LETTER BARRED O"⟩,
     ⟨0x04E9, "CYRILLIC ", "SMALL LETTER BARRED O;CAPITAL LETTER BARRED O WITH DIAERESIS"⟩,
     ⟨0x04EB, "", "CYRILLIC SMALL LETTER BARRED O WITH DIAERESIS"⟩,
     ⟨0x04EC, "CYRILLIC ", "CAPITAL LETTER E WITH DIAERESIS;SMALL LETTER E WITH DIAERESIS"⟩,
     ⟨0x04EE, "CYRILLIC ", "CAPITAL LETTER U WITH MACRON;SMALL LETTER U WITH MACRON"⟩,
     ⟨0x04F0, "CYRILLIC ", "CAPITAL LETTER U WITH DIAERESIS;SMALL LETTER U WITH DIAERESIS"⟩,
     ⟨0x04F2, "CYRILLIC ", "CAPITAL LETTER U WITH DOUBLE ACUTE;SMALL LETTER U WITH DOUBLE ACUTE"⟩,
     ⟨0x04F4, "CYRILLIC ", "CAPITAL LETTER CHE WITH DIAERESIS;SMALL LETTER CHE WITH DIAERESIS"⟩,
     ⟨0x04F6, "CYRILLIC ", "CAPITAL LETTER GHE WITH DESCENDER;SMALL LETTER GHE WITH DESCENDER"⟩,
     ⟨0x04F8, "CYRILLIC ", "CAPITAL LETTER YERU WITH DIAERESIS;SMALL LETTER YERU WITH DIAERESIS"⟩,
     ⟨0x04FA, "", "CYRILLIC CAPITAL LETTER GHE WITH STROKE AND HOOK"⟩,
     ⟨0x04FB, "", "CYRILLIC SMALL LETTER GHE WITH STROKE AND HOOK"⟩,
     ⟨0x04FC, "CYRILLIC ", "CAPITAL LETTER HA WITH HOOK;SMALL LETTER HA WITH HOOK"⟩,
     ⟨0x04FE, "CYRILLIC ", "CAPITAL LETTER HA WITH STROKE;SMALL LETTER HA WITH STROKE"⟩]

/-- Names in the block Cyrillic Supplement. -/
def cyrillicSupplement : NameBlock where
  first := 0x0500
  last := 0x052F
  rows :=
    [⟨0x0500, "CYRILLIC ", "CAPITAL LETTER KOMI DE;SMALL LETTER KOMI DE"⟩,
     ⟨0x0502, "CYRILLIC ", "CAPITAL LETTER KOMI DJE;SMALL LETTER KOMI DJE;CAPITAL LETTER KOMI ZJE"⟩,
     ⟨0x0505, "CYRILLIC ", "SMALL LETTER KOMI ZJE;CAPITAL LETTER KOMI DZJE"⟩,
     ⟨0x0507, "CYRILLIC ", "SMALL LETTER KOMI DZJE;CAPITAL LETTER KOMI LJE"⟩,
     ⟨0x0509, "CYRILLIC ", "SMALL LETTER KOMI LJE;CAPITAL LETTER KOMI NJE;SMALL LETTER KOMI NJE"⟩,
     ⟨0x050C, "CYRILLIC ", "CAPITAL LETTER KOMI SJE;SMALL LETTER KOMI SJE;CAPITAL LETTER KOMI TJE"⟩,
     ⟨0x050F, "CYRILLIC ", "SMALL LETTER KOMI TJE;CAPITAL LETTER REVERSED ZE"⟩,
     ⟨0x0511, "CYRILLIC ", "SMALL LETTER REVERSED ZE;CAPITAL LETTER EL WITH HOOK"⟩,
     ⟨0x0513, "CYRILLIC ", "SMALL LETTER EL WITH HOOK;CAPITAL LETTER LHA"⟩,
     ⟨0x0515, "CYRILLIC ", "SMALL LETTER LHA;CAPITAL LETTER RHA;SMALL LETTER RHA"⟩,
     ⟨0x0518, "CYRILLIC ", "CAPITAL LETTER YAE;SMALL LETTER YAE;CAPITAL LETTER QA;SMALL LETTER QA"⟩,
     ⟨0x051C, "CYRILLIC ", "CAPITAL LETTER WE;SMALL LETTER WE;CAPITAL LETTER ALEUT KA"⟩,
     ⟨0x051F, "CYRILLIC ", "SMALL LETTER ALEUT KA;CAPITAL LETTER EL WITH MIDDLE HOOK"⟩,
     ⟨0x0521, "CYRILLIC ", "SMALL LETTER EL WITH MIDDLE HOOK;CAPITAL LETTER EN WITH MIDDLE HOOK"⟩,
     ⟨0x0523, "CYRILLIC ", "SMALL LETTER EN WITH MIDDLE HOOK;CAPITAL LETTER PE WITH DESCENDER"⟩,
     ⟨0x0525, "CYRILLIC ", "SMALL LETTER PE WITH DESCENDER;CAPITAL LETTER SHHA WITH DESCENDER"⟩,
     ⟨0x0527, "CYRILLIC ", "SMALL LETTER SHHA WITH DESCENDER;CAPITAL LETTER EN WITH LEFT HOOK"⟩,
     ⟨0x0529, "CYRILLIC ", "SMALL LETTER EN WITH LEFT HOOK;CAPITAL LETTER DZZHE"⟩,
     ⟨0x052B, "CYRILLIC ", "SMALL LETTER DZZHE;CAPITAL LETTER DCHE;SMALL LETTER DCHE"⟩,
     ⟨0x052E, "CYRILLIC ", "CAPITAL LETTER EL WITH DESCENDER;SMALL LETTER EL WITH DESCENDER"⟩]

/-- Names in the block Armenian. -/
def armenian : NameBlock where
  first := 0x0530
  last := 0x058F
  rows :=
    [⟨0x0531, "ARMENIAN CAPITAL LETTER ", "AYB;BEN;GIM;DA;ECH;ZA;EH;ET;TO;ZHE;INI"⟩,
     ⟨0x053C, "ARMENIAN CAPITAL LETTER ", "LIWN;XEH;CA;KEN;HO;JA;GHAD;CHEH;MEN;YI;NOW;SHA;VO;CHA"⟩,
     ⟨0x054A, "ARMENIAN CAPITAL LETTER ", "PEH;JHEH;RA;SEH;VEW;TIWN;REH;CO;YIWN;PIWR;KEH;OH;FEH"⟩,
     ⟨0x0559, "ARMENIAN ", "MODIFIER LETTER LEFT HALF RING;APOSTROPHE"⟩,
     ⟨0x055B, "ARMENIAN ", "EMPHASIS MARK;EXCLAMATION MARK;COMMA;QUESTION MARK;ABBREVIATION MARK"⟩,
     ⟨0x0560, "ARMENIAN SMALL LETTER ", "TURNED AYB;AYB;BEN;GIM;DA;ECH;ZA;EH;ET;TO;ZHE"⟩,
     ⟨0x056B, "ARMENIAN SMALL LETTER ", "INI;LIWN;XEH;CA;KEN;HO;JA;GHAD;CHEH;MEN;YI;NOW;SHA;VO"⟩,
     ⟨0x0579, "ARMENIAN SMALL LETTER ", "CHA;PEH;JHEH;RA;SEH;VEW;TIWN;REH;CO;YIWN;PIWR;KEH;OH;FEH"⟩,
     ⟨0x0587, "ARMENIAN ", "SMALL LIGATURE ECH YIWN;SMALL LETTER YI WITH STROKE;FULL STOP;HYPHEN"⟩,
     ⟨0x058D, "", "RIGHT-FACING ARMENIAN ETERNITY SIGN"⟩,
     ⟨0x058E, "", "LEFT-FACING ARMENIAN ETERNITY SIGN;ARMENIAN DRAM SIGN"⟩]

/-- Names in the block Georgian. -/
def georgian : NameBlock where
  first := 0x10A0
  last := 0x10FF
  rows :=
    [⟨0x10A0, "GEORGIAN CAPITAL LETTER ", "AN;BAN;GAN;DON;EN;VIN;ZEN;TAN;IN;KAN;LAS;MAN"⟩,
     ⟨0x10AC, "GEORGIAN CAPITAL LETTER ", "NAR;ON;PAR;ZHAR;RAE;SAN;TAR;UN;PHAR;KHAR;GHAN;QAR;SHIN"⟩,
     ⟨0x10B9, "GEORGIAN CAPITAL LETTER ", "CHIN;CAN;JIL;CIL;CHAR;XAN;JHAN;HAE;HE;HIE;WE;HAR;HOE"⟩,
     ⟨0x10C7, "", "GEORGIAN CAPITAL LETTER YN"⟩,
     ⟨0x10CD, "", "GEORGIAN CAPITAL LETTER AEN"⟩,
     ⟨0x10D0, "GEORGIAN LETTER ", "AN;BAN;GAN;DON;EN;VIN;ZEN;TAN;IN;KAN;LAS;MAN;NAR;ON;PAR"⟩,
     ⟨0x10DF, "GEORGIAN LETTER ", "ZHAR;RAE;SAN;TAR;UN;PHAR;KHAR;GHAN;QAR;SHIN;CHIN;CAN;JIL;CIL"⟩,
     ⟨0x10ED, "GEORGIAN LETTER ", "CHAR;XAN;JHAN;HAE;HE;HIE;WE;HAR;HOE;FI;YN;ELIFI;TURNED GAN;AIN"⟩,
     ⟨0x10FB, "", "GEORGIAN PARAGRAPH SEPARATOR;MODIFIER LETTER GEORGIAN NAR"⟩,
     ⟨0x10FD, "GEORGIAN LETTER ", "AEN;HARD SIGN;LABIAL SIGN"⟩]

/-- Names in the block Ogham. -/
def ogham : NameBlock where
  first := 0x1680
  last := 0x169F
  rows :=
    [⟨0x1680, "OGHAM ", "SPACE MARK;LETTER BEITH"⟩,
     ⟨0x1682, "OGHAM LETTER ", "LUIS;FEARN;SAIL;NION;UATH;DAIR;TINNE;COLL;CEIRT;MUIN;GORT;NGEADAL"⟩,
     ⟨0x168E, "OGHAM LETTER ", "STRAIF;RUIS;AILM;ONN;UR;EADHADH;IODHADH;EABHADH;OR;UILLEANN;IFIN"⟩,
     ⟨0x1699, "OGHAM ", "LETTER EAMHANCHOLL;LETTER PEITH;FEATHER MARK;REVERSED FEATHER MARK"⟩]

/-- Names in the block Runic. -/
def runic : NameBlock where
  first := 0x16A0
  last := 0x16FF
  rows :=
    [⟨0x16A0, "RUNIC LETTER ", "FEHU FEOH FE F;V"⟩,
     ⟨0x16A2, "RUNIC LETTER ", "URUZ UR U;YR;Y;W;THURISAZ THURS THORN;ETH;ANSUZ A;OS O;AC A;AESC"⟩,
     ⟨0x16AC, "RUNIC LETTER ", "LONG-BRANCH-OSS O;SHORT-TWIG-OSS O;O;OE;ON;RAIDO RAD REID R;KAUNA"⟩,
     ⟨0x16B3, "RUNIC LETTER ", "CEN;KAUN K;G;ENG;GEBO GYFU G;GAR;WUNJO WYNN W;HAGLAZ H;HAEGL H"⟩,
     ⟨0x16BC, "RUNIC LETTER ", "LONG-BRANCH-HAGALL H;SHORT-TWIG-HAGALL H;NAUDIZ NYD NAUD N"⟩,
     ⟨0x16BF, "RUNIC LETTER ", "SHORT-TWIG-NAUD N;DOTTED-N;ISAZ IS ISS I;E;JERAN J"⟩,
     ⟨0x16C4, "RUNIC LETTER ", "GER;LONG-BRANCH-AR AE;SHORT-TWIG-AR A;IWAZ EOH;PERTHO PEORTH P"⟩,
     ⟨0x16C9, "RUNIC LETTER ", "ALGIZ EOLHX;SOWILO S;SIGEL LONG-BRANCH-SOL S;SHORT-TWIG-SOL S"⟩,
     ⟨0x16CD, "RUNIC LETTER ", "C;Z;TIWAZ TIR TYR T;SHORT-TWIG-TYR T;D;BERKANAN BEORC BJARKAN B"⟩,
     ⟨0x16D3, "RUNIC LETTER ", "SHORT-TWIG-BJARKAN B;DOTTED-P;OPEN-P;EHWAZ EH E;MANNAZ MAN M"⟩,
     ⟨0x16D8, "RUNIC LETTER ", "LONG-BRANCH-MADR M;SHORT-TWIG-MADR M;LAUKAZ LAGU LOGR L"⟩,
     ⟨0x16DB, "RUNIC LETTER ", "DOTTED-L;INGWAZ;ING;DAGAZ DAEG D;OTHALAN ETHEL O;EAR;IOR;CWEORTH"⟩,
     ⟨0x16E3, "RUNIC LETTER ", "CALC;CEALC;STAN;LONG-BRANCH-YR;SHORT-TWIG-YR;ICELANDIC-YR;Q;X"⟩,
     ⟨0x16EB, "RUNIC ", "SINGLE PUNCTUATION;MULTIPLE PUNCTUATION;CROSS PUNCTUATION;ARLAUG SYMBOL"⟩,
     ⟨0x16EF, "RUNIC ", "TVIMADUR SYMBOL;BELGTHOR SYMBOL;LETTER K;LETTER SH;LETTER OO"⟩,
     ⟨0x16F4, "RUNIC LETTER FRANKS CASKET ", "OS;IS;EH;AC;AESC"⟩]

/-- Names in the block Cyrillic Extended-C. -/
def cyrillicExtendedC : NameBlock where
  first := 0x1C80
  last := 0x1C8F
  rows :=
    [⟨0x1C80, "CYRILLIC SMALL LETTER ", "ROUNDED VE;LONG-LEGGED DE;NARROW O;WIDE ES;TALL TE"⟩,
     ⟨0x1C85, "CYRILLIC SMALL LETTER ", "THREE-LEGGED TE;TALL HARD SIGN;TALL YAT;UNBLENDED UK"⟩,
     ⟨0x1C89, "CYRILLIC ", "CAPITAL LETTER TJE;SMALL LETTER TJE"⟩]

/-- Names in the block Georgian Extended. -/
def georgianExtended : NameBlock where
  first := 0x1C90
  last := 0x1CBF
  rows :=
    [⟨0x1C90, "GEORGIAN MTAVRULI CAPITAL LETTER ", "AN;BAN;GAN;DON;EN;VIN;ZEN;TAN;IN;KAN;LAS;MAN"⟩,
     ⟨0x1C9C, "GEORGIAN MTAVRULI CAPITAL LETTER ", "NAR;ON;PAR;ZHAR;RAE;SAN;TAR;UN;PHAR;KHAR;GHAN"⟩,
     ⟨0x1CA7, "GEORGIAN MTAVRULI CAPITAL LETTER ", "QAR;SHIN;CHIN;CAN;JIL;CIL;CHAR;XAN;JHAN;HAE"⟩,
     ⟨0x1CB1, "GEORGIAN MTAVRULI CAPITAL LETTER ", "HE;HIE;WE;HAR;HOE;FI;YN;ELIFI;TURNED GAN;AIN"⟩,
     ⟨0x1CBD, "GEORGIAN MTAVRULI CAPITAL LETTER ", "AEN;HARD SIGN;LABIAL SIGN"⟩]

/-- Names in the block Greek Extended. -/
def greekExtended : NameBlock where
  first := 0x1F00
  last := 0x1FFF
  rows :=
    [⟨0x1F00, "GREEK SMALL LETTER ALPHA WITH ", "PSILI;DASIA;PSILI AND VARIA"⟩,
     ⟨0x1F03, "GREEK SMALL LETTER ALPHA WITH ", "DASIA AND VARIA;PSILI AND OXIA;DASIA AND OXIA"⟩,
     ⟨0x1F06, "GREEK SMALL LETTER ALPHA WITH ", "PSILI AND PERISPOMENI;DASIA AND PERISPOMENI"⟩,
     ⟨0x1F08, "GREEK CAPITAL LETTER ALPHA WITH ", "PSILI;DASIA;PSILI AND VARIA"⟩,
     ⟨0x1F0B, "GREEK CAPITAL LETTER ALPHA WITH ", "DASIA AND VARIA;PSILI AND OXIA;DASIA AND OXIA"⟩,
     ⟨0x1F0E, "GREEK CAPITAL LETTER ALPHA WITH ", "PSILI AND PERISPOMENI;DASIA AND PERISPOMENI"⟩,
     ⟨0x1F10, "GREEK SMALL LETTER EPSILON WITH ", "PSILI;DASIA;PSILI AND VARIA"⟩,
     ⟨0x1F13, "GREEK SMALL LETTER EPSILON WITH ", "DASIA AND VARIA;PSILI AND OXIA;DASIA AND OXIA"⟩,
     ⟨0x1F18, "GREEK CAPITAL LETTER EPSILON WITH ", "PSILI;DASIA;PSILI AND VARIA;DASIA AND VARIA"⟩,
     ⟨0x1F1C, "GREEK CAPITAL LETTER EPSILON WITH ", "PSILI AND OXIA;DASIA AND OXIA"⟩,
     ⟨0x1F20, "GREEK SMALL LETTER ETA WITH ", "PSILI;DASIA;PSILI AND VARIA"⟩,
     ⟨0x1F23, "GREEK SMALL LETTER ETA WITH ", "DASIA AND VARIA;PSILI AND OXIA;DASIA AND OXIA"⟩,
     ⟨0x1F26, "GREEK SMALL LETTER ETA WITH ", "PSILI AND PERISPOMENI;DASIA AND PERISPOMENI"⟩,
     ⟨0x1F28, "GREEK CAPITAL LETTER ETA WITH ", "PSILI;DASIA;PSILI AND VARIA"⟩,
     ⟨0x1F2B, "GREEK CAPITAL LETTER ETA WITH ", "DASIA AND VARIA;PSILI AND OXIA;DASIA AND OXIA"⟩,
     ⟨0x1F2E, "GREEK CAPITAL LETTER ETA WITH ", "PSILI AND PERISPOMENI;DASIA AND PERISPOMENI"⟩,
     ⟨0x1F30, "GREEK SMALL LETTER IOTA WITH ", "PSILI;DASIA;PSILI AND VARIA"⟩,
     ⟨0x1F33, "GREEK SMALL LETTER IOTA WITH ", "DASIA AND VARIA;PSILI AND OXIA;DASIA AND OXIA"⟩,
     ⟨0x1F36, "GREEK SMALL LETTER IOTA WITH ", "PSILI AND PERISPOMENI;DASIA AND PERISPOMENI"⟩,
     ⟨0x1F38, "GREEK CAPITAL LETTER IOTA WITH ", "PSILI;DASIA;PSILI AND VARIA"⟩,
     ⟨0x1F3B, "GREEK CAPITAL LETTER IOTA WITH ", "DASIA AND VARIA;PSILI AND OXIA;DASIA AND OXIA"⟩,
     ⟨0x1F3E, "GREEK CAPITAL LETTER IOTA WITH ", "PSILI AND PERISPOMENI;DASIA AND PERISPOMENI"⟩,
     ⟨0x1F40, "GREEK SMALL LETTER OMICRON WITH ", "PSILI;DASIA;PSILI AND VARIA"⟩,
     ⟨0x1F43, "GREEK SMALL LETTER OMICRON WITH ", "DASIA AND VARIA;PSILI AND OXIA;DASIA AND OXIA"⟩,
     ⟨0x1F48, "GREEK CAPITAL LETTER OMICRON WITH ", "PSILI;DASIA;PSILI AND VARIA;DASIA AND VARIA"⟩,
     ⟨0x1F4C, "GREEK CAPITAL LETTER OMICRON WITH ", "PSILI AND OXIA;DASIA AND OXIA"⟩,
     ⟨0x1F50, "GREEK SMALL LETTER UPSILON WITH ", "PSILI;DASIA;PSILI AND VARIA"⟩,
     ⟨0x1F53, "GREEK SMALL LETTER UPSILON WITH ", "DASIA AND VARIA;PSILI AND OXIA;DASIA AND OXIA"⟩,
     ⟨0x1F56, "GREEK SMALL LETTER UPSILON WITH ", "PSILI AND PERISPOMENI;DASIA AND PERISPOMENI"⟩,
     ⟨0x1F59, "", "GREEK CAPITAL LETTER UPSILON WITH DASIA"⟩,
     ⟨0x1F5B, "", "GREEK CAPITAL LETTER UPSILON WITH DASIA AND VARIA"⟩,
     ⟨0x1F5D, "", "GREEK CAPITAL LETTER UPSILON WITH DASIA AND OXIA"⟩,
     ⟨0x1F5F, "", "GREEK CAPITAL LETTER UPSILON WITH DASIA AND PERISPOMENI"⟩,
     ⟨0x1F60, "GREEK SMALL LETTER OMEGA WITH ", "PSILI;DASIA;PSILI AND VARIA"⟩,
     ⟨0x1F63, "GREEK SMALL LETTER OMEGA WITH ", "DASIA AND VARIA;PSILI AND OXIA;DASIA AND OXIA"⟩,
     ⟨0x1F66, "GREEK SMALL LETTER OMEGA WITH ", "PSILI AND PERISPOMENI;DASIA AND PERISPOMENI"⟩,
     ⟨0x1F68, "GREEK CAPITAL LETTER OMEGA WITH ", "PSILI;DASIA;PSILI AND VARIA"⟩,
     ⟨0x1F6B, "GREEK CAPITAL LETTER OMEGA WITH ", "DASIA AND VARIA;PSILI AND OXIA;DASIA AND OXIA"⟩,
     ⟨0x1F6E, "GREEK CAPITAL LETTER OMEGA WITH ", "PSILI AND PERISPOMENI;DASIA AND PERISPOMENI"⟩,
     ⟨0x1F70, "GREEK SMALL LETTER ALPHA WITH ", "VARIA;OXIA"⟩,
     ⟨0x1F72, "GREEK SMALL LETTER EPSILON WITH ", "VARIA;OXIA"⟩,
     ⟨0x1F74, "GREEK SMALL LETTER ", "ETA WITH VARIA;ETA WITH OXIA;IOTA WITH VARIA;IOTA WITH OXIA"⟩,
     ⟨0x1F78, "GREEK SMALL LETTER ", "OMICRON WITH VARIA;OMICRON WITH OXIA;UPSILON WITH VARIA"⟩,
     ⟨0x1F7B, "GREEK SMALL LETTER ", "UPSILON WITH OXIA;OMEGA WITH VARIA;OMEGA WITH OXIA"⟩,
     ⟨0x1F80, "GREEK SMALL LETTER ALPHA WITH ", "PSILI AND YPOGEGRAMMENI;DASIA AND YPOGEGRAMMENI"⟩,
     ⟨0x1F82, "", "GREEK SMALL LETTER ALPHA WITH PSILI AND VARIA AND YPOGEGRAMMENI"⟩,
     ⟨0x1F83, "", "GREEK SMALL LETTER ALPHA WITH DASIA AND VARIA AND YPOGEGRAMMENI"⟩,
     ⟨0x1F84, "", "GREEK SMALL LETTER ALPHA WITH PSILI AND OXIA AND YPOGEGRAMMENI"⟩,
     ⟨0x1F85, "", "GREEK SMALL LETTER ALPHA WITH DASIA AND OXIA AND YPOGEGRAMMENI"⟩,
     ⟨0x1F86, "", "GREEK SMALL LETTER ALPHA WITH PSILI AND PERISPOMENI AND YPOGEGRAMMENI"⟩,
     ⟨0x1F87, "", "GREEK SMALL LETTER ALPHA WITH DASIA AND PERISPOMENI AND YPOGEGRAMMENI"⟩,
     ⟨0x1F88, "", "GREEK CAPITAL LETTER ALPHA WITH PSILI AND PROSGEGRAMMENI"⟩,
     ⟨0x1F89, "", "GREEK CAPITAL LETTER ALPHA WITH DASIA AND PROSGEGRAMMENI"⟩,
     ⟨0x1F8A, "", "GREEK CAPITAL LETTER ALPHA WITH PSILI AND VARIA AND PROSGEGRAMMENI"⟩,
     ⟨0x1F8B, "", "GREEK CAPITAL LETTER ALPHA WITH DASIA AND VARIA AND PROSGEGRAMMENI"⟩,
     ⟨0x1F8C, "", "GREEK CAPITAL LETTER ALPHA WITH PSILI AND OXIA AND PROSGEGRAMMENI"⟩,
     ⟨0x1F8D, "", "GREEK CAPITAL LETTER ALPHA WITH DASIA AND OXIA AND PROSGEGRAMMENI"⟩,
     ⟨0x1F8E, "", "GREEK CAPITAL LETTER ALPHA WITH PSILI AND PERISPOMENI AND PROSGEGRAMMENI"⟩,
     ⟨0x1F8F, "", "GREEK CAPITAL LETTER ALPHA WITH DASIA AND PERISPOMENI AND PROSGEGRAMMENI"⟩,
     ⟨0x1F90, "GREEK SMALL LETTER ETA WITH ", "PSILI AND YPOGEGRAMMENI;DASIA AND YPOGEGRAMMENI"⟩,
     ⟨0x1F92, "", "GREEK SMALL LETTER ETA WITH PSILI AND VARIA AND YPOGEGRAMMENI"⟩,
     ⟨0x1F93, "", "GREEK SMALL LETTER ETA WITH DASIA AND VARIA AND YPOGEGRAMMENI"⟩,
     ⟨0x1F94, "", "GREEK SMALL LETTER ETA WITH PSILI AND OXIA AND YPOGEGRAMMENI"⟩,
     ⟨0x1F95, "", "GREEK SMALL LETTER ETA WITH DASIA AND OXIA AND YPOGEGRAMMENI"⟩,
     ⟨0x1F96, "", "GREEK SMALL LETTER ETA WITH PSILI AND PERISPOMENI AND YPOGEGRAMMENI"⟩,
     ⟨0x1F97, "", "GREEK SMALL LETTER ETA WITH DASIA AND PERISPOMENI AND YPOGEGRAMMENI"⟩,
     ⟨0x1F98, "", "GREEK CAPITAL LETTER ETA WITH PSILI AND PROSGEGRAMMENI"⟩,
     ⟨0x1F99, "", "GREEK CAPITAL LETTER ETA WITH DASIA AND PROSGEGRAMMENI"⟩,
     ⟨0x1F9A, "", "GREEK CAPITAL LETTER ETA WITH PSILI AND VARIA AND PROSGEGRAMMENI"⟩,
     ⟨0x1F9B, "", "GREEK CAPITAL LETTER ETA WITH DASIA AND VARIA AND PROSGEGRAMMENI"⟩,
     ⟨0x1F9C, "", "GREEK CAPITAL LETTER ETA WITH PSILI AND OXIA AND PROSGEGRAMMENI"⟩,
     ⟨0x1F9D, "", "GREEK CAPITAL LETTER ETA WITH DASIA AND OXIA AND PROSGEGRAMMENI"⟩,
     ⟨0x1F9E, "", "GREEK CAPITAL LETTER ETA WITH PSILI AND PERISPOMENI AND PROSGEGRAMMENI"⟩,
     ⟨0x1F9F, "", "GREEK CAPITAL LETTER ETA WITH DASIA AND PERISPOMENI AND PROSGEGRAMMENI"⟩,
     ⟨0x1FA0, "GREEK SMALL LETTER OMEGA WITH ", "PSILI AND YPOGEGRAMMENI;DASIA AND YPOGEGRAMMENI"⟩,
     ⟨0x1FA2, "", "GREEK SMALL LETTER OMEGA WITH PSILI AND VARIA AND YPOGEGRAMMENI"⟩,
     ⟨0x1FA3, "", "GREEK SMALL LETTER OMEGA WITH DASIA AND VARIA AND YPOGEGRAMMENI"⟩,
     ⟨0x1FA4, "", "GREEK SMALL LETTER OMEGA WITH PSILI AND OXIA AND YPOGEGRAMMENI"⟩,
     ⟨0x1FA5, "", "GREEK SMALL LETTER OMEGA WITH DASIA AND OXIA AND YPOGEGRAMMENI"⟩,
     ⟨0x1FA6, "", "GREEK SMALL LETTER OMEGA WITH PSILI AND PERISPOMENI AND YPOGEGRAMMENI"⟩,
     ⟨0x1FA7, "", "GREEK SMALL LETTER OMEGA WITH DASIA AND PERISPOMENI AND YPOGEGRAMMENI"⟩,
     ⟨0x1FA8, "", "GREEK CAPITAL LETTER OMEGA WITH PSILI AND PROSGEGRAMMENI"⟩,
     ⟨0x1FA9, "", "GREEK CAPITAL LETTER OMEGA WITH DASIA AND PROSGEGRAMMENI"⟩,
     ⟨0x1FAA, "", "GREEK CAPITAL LETTER OMEGA WITH PSILI AND VARIA AND PROSGEGRAMMENI"⟩,
     ⟨0x1FAB, "", "GREEK CAPITAL LETTER OMEGA WITH DASIA AND VARIA AND PROSGEGRAMMENI"⟩,
     ⟨0x1FAC, "", "GREEK CAPITAL LETTER OMEGA WITH PSILI AND OXIA AND PROSGEGRAMMENI"⟩,
     ⟨0x1FAD, "", "GREEK CAPITAL LETTER OMEGA WITH DASIA AND OXIA AND PROSGEGRAMMENI"⟩,
     ⟨0x1FAE, "", "GREEK CAPITAL LETTER OMEGA WITH PSILI AND PERISPOMENI AND PROSGEGRAMMENI"⟩,
     ⟨0x1FAF, "", "GREEK CAPITAL LETTER OMEGA WITH DASIA AND PERISPOMENI AND PROSGEGRAMMENI"⟩,
     ⟨0x1FB0, "GREEK SMALL LETTER ALPHA WITH ", "VRACHY;MACRON;VARIA AND YPOGEGRAMMENI"⟩,
     ⟨0x1FB3, "GREEK SMALL LETTER ALPHA WITH ", "YPOGEGRAMMENI;OXIA AND YPOGEGRAMMENI"⟩,
     ⟨0x1FB6, "GREEK SMALL LETTER ALPHA WITH ", "PERISPOMENI;PERISPOMENI AND YPOGEGRAMMENI"⟩,
     ⟨0x1FB8, "GREEK CAPITAL LETTER ALPHA WITH ", "VRACHY;MACRON;VARIA;OXIA;PROSGEGRAMMENI"⟩,
     ⟨0x1FBD, "GREEK ", "KORONIS;PROSGEGRAMMENI;PSILI;PERISPOMENI"⟩,
     ⟨0x1FC1, "GREEK ", "DIALYTIKA AND PERISPOMENI;SMALL LETTER ETA WITH VARIA AND YPOGEGRAMMENI"⟩,
     ⟨0x1FC3, "GREEK SMALL LETTER ETA WITH ", "YPOGEGRAMMENI;OXIA AND YPOGEGRAMMENI"⟩,
     ⟨0x1FC6, "GREEK SMALL LETTER ETA WITH ", "PERISPOMENI;PERISPOMENI AND YPOGEGRAMMENI"⟩,
     ⟨0x1FC8, "GREEK CAPITAL LETTER EPSILON WITH ", "VARIA;OXIA"⟩,
     ⟨0x1FCA, "GREEK CAPITAL LETTER ETA WITH ", "VARIA;OXIA;PROSGEGRAMMENI"⟩,
     ⟨0x1FCD, "GREEK PSILI AND ", "VARIA;OXIA;PERISPOMENI"⟩,
     ⟨0x1FD0, "GREEK SMALL LETTER IOTA WITH ", "VRACHY;MACRON"⟩,
     ⟨0x1FD2, "GREEK SMALL LETTER IOTA WITH DIALYTIKA AND ", "VARIA;OXIA"⟩,
     ⟨0x1FD6, "GREEK SMALL LETTER IOTA WITH ", "PERISPOMENI;DIALYTIKA AND PERISPOMENI"⟩,
     ⟨0x1FD8, "GREEK CAPITAL LETTER IOTA WITH ", "VRACHY;MACRON;VARIA;OXIA"⟩,
     ⟨0x1FDD, "GREEK DASIA AND ", "VARIA;OXIA;PERISPOMENI"⟩,
     ⟨0x1FE0, "GREEK SMALL LETTER UPSILON WITH ", "VRACHY;MACRON"⟩,
     ⟨0x1FE2, "GREEK SMALL LETTER UPSILON WITH DIALYTIKA AND ", "VARIA;OXIA"⟩,
     ⟨0x1FE4, "GREEK SMALL LETTER RHO WITH ", "PSILI;DASIA"⟩,
     ⟨0x1FE6, "GREEK SMALL LETTER UPSILON WITH ", "PERISPOMENI;DIALYTIKA AND PERISPOMENI"⟩,
     ⟨0x1FE8, "GREEK CAPITAL LETTER UPSILON WITH ", "VRACHY;MACRON;VARIA;OXIA"⟩,
     ⟨0x1FEC, "", "GREEK CAPITAL LETTER RHO WITH DASIA"⟩,
     ⟨0x1FED, "GREEK ", "DIALYTIKA AND VARIA;DIALYTIKA AND OXIA;VARIA"⟩,
     ⟨0x1FF2, "", "GREEK SMALL LETTER OMEGA WITH VARIA AND YPOGEGRAMMENI"⟩,
     ⟨0x1FF3, "GREEK SMALL LETTER OMEGA WITH ", "YPOGEGRAMMENI;OXIA AND YPOGEGRAMMENI"⟩,
     ⟨0x1FF6, "GREEK SMALL LETTER OMEGA WITH ", "PERISPOMENI;PERISPOMENI AND YPOGEGRAMMENI"⟩,
     ⟨0x1FF8, "GREEK CAPITAL LETTER OMICRON WITH ", "VARIA;OXIA"⟩,
     ⟨0x1FFA, "GREEK CAPITAL LETTER OMEGA WITH ", "VARIA;OXIA;PROSGEGRAMMENI"⟩,
     ⟨0x1FFD, "GREEK ", "OXIA;DASIA"⟩]

/-- Names in the block Glagolitic. -/
def glagolitic : NameBlock where
  first := 0x2C00
  last := 0x2C5F
  rows :=
    [⟨0x2C00, "GLAGOLITIC CAPITAL LETTER ", "AZU;BUKY"⟩,
     ⟨0x2C02, "GLAGOLITIC CAPITAL LETTER ", "VEDE;GLAGOLI;DOBRO;YESTU;ZHIVETE;DZELO;ZEMLJA;IZHE"⟩,
     ⟨0x2C0A, "GLAGOLITIC CAPITAL LETTER ", "INITIAL IZHE;I;DJERVI;KAKO;LJUDIJE;MYSLITE;NASHI"⟩,
     ⟨0x2C11, "GLAGOLITIC CAPITAL LETTER ", "ONU;POKOJI;RITSI;SLOVO;TVRIDO;UKU;FRITU;HERU;OTU"⟩,
     ⟨0x2C1A, "GLAGOLITIC CAPITAL LETTER ", "PE;SHTA;TSI;CHRIVI;SHA;YERU;YERI;YATI;SPIDERY HA;YU"⟩,
     ⟨0x2C24, "GLAGOLITIC CAPITAL LETTER ", "SMALL YUS;SMALL YUS WITH TAIL;YO;IOTATED SMALL YUS"⟩,
     ⟨0x2C28, "GLAGOLITIC CAPITAL LETTER ", "BIG YUS;IOTATED BIG YUS;FITA;IZHITSA"⟩,
     ⟨0x2C2C, "GLAGOLITIC CAPITAL LETTER ", "SHTAPIC;TROKUTASTI A;LATINATE MYSLITE;CAUDATE CHRIVI"⟩,
     ⟨0x2C30, "GLAGOLITIC SMALL LETTER ", "AZU;BUKY;VEDE;GLAGOLI;DOBRO;YESTU"⟩,
     ⟨0x2C36, "GLAGOLITIC SMALL LETTER ", "ZHIVETE;DZELO;ZEMLJA;IZHE;INITIAL IZHE;I;DJERVI;KAKO"⟩,
     ⟨0x2C3E, "GLAGOLITIC SMALL LETTER ", "LJUDIJE;MYSLITE;NASHI;ONU;POKOJI;RITSI;SLOVO;TVRIDO"⟩,
     ⟨0x2C46, "GLAGOLITIC SMALL LETTER ", "UKU;FRITU;HERU;OTU;PE;SHTA;TSI;CHRIVI;SHA;YERU;YERI"⟩,
     ⟨0x2C51, "GLAGOLITIC SMALL LETTER ", "YATI;SPIDERY HA;YU;SMALL YUS;SMALL YUS WITH TAIL;YO"⟩,
     ⟨0x2C57, "GLAGOLITIC SMALL LETTER ", "IOTATED SMALL YUS;BIG YUS;IOTATED BIG YUS;FITA;IZHITSA"⟩,
     ⟨0x2C5C, "GLAGOLITIC SMALL LETTER ", "SHTAPIC;TROKUTASTI A;LATINATE MYSLITE;CAUDATE CHRIVI"⟩]

/-- Names in the block Coptic. -/
def coptic : NameBlock where
  first := 0x2C80
  last := 0x2CFF
  rows :=
    [⟨0x2C80, "", "COPTIC CAPITAL LETTER ALFA"⟩,
     ⟨0x2C81, "COPTIC ", "SMALL LETTER ALFA;CAPITAL LETTER VIDA;SMALL LETTER VIDA"⟩,
     ⟨0x2C84, "COPTIC ", "CAPITAL LETTER GAMMA;SMALL LETTER GAMMA;CAPITAL LETTER DALDA"⟩,
     ⟨0x2C87, "COPTIC ", "SMALL LETTER DALDA;CAPITAL LETTER EIE;SMALL LETTER EIE"⟩,
     ⟨0x2C8A, "COPTIC ", "CAPITAL LETTER SOU;SMALL LETTER SOU;CAPITAL LETTER ZATA"⟩,
     ⟨0x2C8D, "COPTIC ", "SMALL LETTER ZATA;CAPITAL LETTER HATE;SMALL LETTER HATE"⟩,
     ⟨0x2C90, "COPTIC ", "CAPITAL LETTER THETHE;SMALL LETTER THETHE;CAPITAL LETTER IAUDA"⟩,
     ⟨0x2C93, "COPTIC ", "SMALL LETTER IAUDA;CAPITAL LETTER KAPA;SMALL LETTER KAPA"⟩,
     ⟨0x2C96, "COPTIC ", "CAPITAL LETTER LAULA;SMALL LETTER LAULA;CAPITAL LETTER MI"⟩,
     ⟨0x2C99, "COPTIC ", "SMALL LETTER MI;CAPITAL LETTER NI;SMALL LETTER NI;CAPITAL LETTER KSI"⟩,
     ⟨0x2C9D, "COPTIC ", "SMALL LETTER KSI;CAPITAL LETTER O;SMALL LETTER O;CAPITAL LETTER PI"⟩,
     ⟨0x2CA1, "COPTIC ", "SMALL LETTER PI;CAPITAL LETTER RO;SMALL LETTER RO;CAPITAL LETTER SIMA"⟩,
     ⟨0x2CA5, "COPTIC ", "SMALL LETTER SIMA;CAPITAL LETTER TAU;SMALL LETTER TAU"⟩,
     ⟨0x2CA8, "COPTIC ", "CAPITAL LETTER UA;SMALL LETTER UA;CAPITAL LETTER FI;SMALL LETTER FI"⟩,
     ⟨0x2CAC, "COPTIC ", "CAPITAL LETTER KHI;SMALL LETTER KHI;CAPITAL LETTER PSI;SMALL LETTER PSI"⟩,
     ⟨0x2CB0, "COPTIC ", "CAPITAL LETTER OOU;SMALL LETTER OOU;CAPITAL LETTER DIALECT-P ALEF"⟩,
     ⟨0x2CB3, "COPTIC ", "SMALL LETTER DIALECT-P ALEF;CAPITAL LETTER OLD COPTIC AIN"⟩,
     ⟨0x2CB5, "COPTIC ", "SMALL LETTER OLD COPTIC AIN;CAPITAL LETTER CRYPTOGRAMMIC EIE"⟩,
     ⟨0x2CB7, "COPTIC ", "SMALL LETTER CRYPTOGRAMMIC EIE;CAPITAL LETTER DIALECT-P KAPA"⟩,
     ⟨0x2CB9, "COPTIC ", "SMALL LETTER DIALECT-P KAPA;CAPITAL LETTER DIALECT-P NI"⟩,
     ⟨0x2CBB, "COPTIC ", "SMALL LETTER DIALECT-P NI;CAPITAL LETTER CRYPTOGRAMMIC NI"⟩,
     ⟨0x2CBD, "COPTIC ", "SMALL LETTER CRYPTOGRAMMIC NI;CAPITAL LETTER OLD COPTIC OOU"⟩,
     ⟨0x2CBF, "COPTIC ", "SMALL LETTER OLD COPTIC OOU;CAPITAL LETTER SAMPI;SMALL LETTER SAMPI"⟩,
     ⟨0x2CC2, "COPTIC ", "CAPITAL LETTER CROSSED SHEI;SMALL LETTER CROSSED SHEI"⟩,
     ⟨0x2CC4, "COPTIC ", "CAPITAL LETTER OLD COPTIC SHEI;SMALL LETTER OLD COPTIC SHEI"⟩,
     ⟨0x2CC6, "COPTIC ", "CAPITAL LETTER OLD COPTIC ESH;SMALL LETTER OLD COPTIC ESH"⟩,
     ⟨0x2CC8, "COPTIC ", "CAPITAL LETTER AKHMIMIC KHEI;SMALL LETTER AKHMIMIC KHEI"⟩,
     ⟨0x2CCA, "COPTIC ", "CAPITAL LETTER DIALECT-P HORI;SMALL LETTER DIALECT-P HORI"⟩,
     ⟨0x2CCC, "COPTIC ", "CAPITAL LETTER OLD COPTIC HORI;SMALL LETTER OLD COPTIC HORI"⟩,
     ⟨0x2CCE, "COPTIC ", "CAPITAL LETTER OLD COPTIC HA;SMALL LETTER OLD COPTIC HA"⟩,
     ⟨0x2CD0, "COPTIC ", "CAPITAL LETTER L-SHAPED HA;SMALL LETTER L-SHAPED HA"⟩,
     ⟨0x2CD2, "COPTIC ", "CAPITAL LETTER OLD COPTIC HEI;SMALL LETTER OLD COPTIC HEI"⟩,
     ⟨0x2CD4, "COPTIC ", "CAPITAL LETTER OLD COPTIC HAT;SMALL LETTER OLD COPTIC HAT"⟩,
     ⟨0x2CD6, "COPTIC ", "CAPITAL LETTER OLD COPTIC GANGIA;SMALL LETTER OLD COPTIC GANGIA"⟩,
     ⟨0x2CD8, "COPTIC ", "CAPITAL LETTER OLD COPTIC DJA;SMALL LETTER OLD COPTIC DJA"⟩,
     ⟨0x2CDA, "COPTIC ", "CAPITAL LETTER OLD COPTIC SHIMA;SMALL LETTER OLD COPTIC SHIMA"⟩,
     ⟨0x2CDC, "COPTIC ", "CAPITAL LETTER OLD NUBIAN SHIMA;SMALL LETTER OLD NUBIAN SHIMA"⟩,
     ⟨0x2CDE, "COPTIC ", "CAPITAL LETTER OLD NUBIAN NGI;SMALL LETTER OLD NUBIAN NGI"⟩,
     ⟨0x2CE0, "COPTIC ", "CAPITAL LETTER OLD NUBIAN NYI;SMALL LETTER OLD NUBIAN NYI"⟩,
     ⟨0x2CE2, "COPTIC ", "CAPITAL LETTER OLD NUBIAN WAU;SMALL LETTER OLD NUBIAN WAU"⟩,
     ⟨0x2CE4, "COPTIC SYMBOL ", "KAI;MI RO;PI RO;STAUROS;TAU RO;KHI RO;SHIMA SIMA"⟩,
     ⟨0x2CEB, "COPTIC ", "CAPITAL LETTER CRYPTOGRAMMIC SHEI;SMALL LETTER CRYPTOGRAMMIC SHEI"⟩,
     ⟨0x2CED, "COPTIC ", "CAPITAL LETTER CRYPTOGRAMMIC GANGIA;SMALL LETTER CRYPTOGRAMMIC GANGIA"⟩,
     ⟨0x2CEF, "COPTIC COMBINING ", "NI ABOVE;SPIRITUS ASPER;SPIRITUS LENIS"⟩,
     ⟨0x2CF2, "COPTIC ", "CAPITAL LETTER BOHAIRIC KHEI;SMALL LETTER BOHAIRIC KHEI"⟩,
     ⟨0x2CF9, "", "COPTIC OLD NUBIAN FULL STOP"⟩,
     ⟨0x2CFA, "COPTIC OLD NUBIAN ", "DIRECT QUESTION MARK;INDIRECT QUESTION MARK;VERSE DIVIDER"⟩,
     ⟨0x2CFD, "COPTIC ", "FRACTION ONE HALF;FULL STOP;MORPHOLOGICAL DIVIDER"⟩]

/-- Names in the block Georgian Supplement. -/
def georgianSupplement : NameBlock where
  first := 0x2D00
  last := 0x2D2F
  rows :=
    [⟨0x2D00, "GEORGIAN SMALL LETTER ", "AN;BAN;GAN;DON;EN;VIN;ZEN;TAN;IN;KAN;LAS;MAN"⟩,
     ⟨0x2D0C, "GEORGIAN SMALL LETTER ", "NAR;ON;PAR;ZHAR;RAE;SAN;TAR;UN;PHAR;KHAR;GHAN;QAR;SHIN"⟩,
     ⟨0x2D19, "GEORGIAN SMALL LETTER ", "CHIN;CAN;JIL;CIL;CHAR;XAN;JHAN;HAE;HE;HIE;WE;HAR;HOE"⟩,
     ⟨0x2D27, "", "GEORGIAN SMALL LETTER YN"⟩,
     ⟨0x2D2D, "", "GEORGIAN SMALL LETTER AEN"⟩]

/-- Names in the block Cyrillic Extended-A. -/
def cyrillicExtendedA : NameBlock where
  first := 0x2DE0
  last := 0x2DFF
  rows :=
    [⟨0x2DE0, "COMBINING CYRILLIC LETTER ", "BE;VE;GHE;DE;ZHE;ZE;KA;EL;EM;EN;O;PE;ER;ES;TE;HA;TSE"⟩,
     ⟨0x2DF1, "COMBINING CYRILLIC LETTER ", "CHE;SHA;SHCHA;FITA;ES-TE;A;IE;DJERV;MONOGRAPH UK;YAT"⟩,
     ⟨0x2DFB, "COMBINING CYRILLIC LETTER ", "YU;IOTIFIED A;LITTLE YUS;BIG YUS;IOTIFIED BIG YUS"⟩]

/-- Names in the block Cyrillic Extended-B. -/
def cyrillicExtendedB : NameBlock where
  first := 0xA640
  last := 0xA69F
  rows :=
    [⟨0xA640, "CYRILLIC ", "CAPITAL LETTER ZEMLYA;SMALL LETTER ZEMLYA"⟩,
     ⟨0xA642, "CYRILLIC ", "CAPITAL LETTER DZELO;SMALL LETTER DZELO;CAPITAL LETTER REVERSED DZE"⟩,
     ⟨0xA645, "CYRILLIC ", "SMALL LETTER REVERSED DZE;CAPITAL LETTER IOTA;SMALL LETTER IOTA"⟩,
     ⟨0xA648, "CYRILLIC ", "CAPITAL LETTER DJERV;SMALL LETTER DJERV;CAPITAL LETTER MONOGRAPH UK"⟩,
     ⟨0xA64B, "CYRILLIC ", "SMALL LETTER MONOGRAPH UK;CAPITAL LETTER BROAD OMEGA"⟩,
     ⟨0xA64D, "CYRILLIC ", "SMALL LETTER BROAD OMEGA;CAPITAL LETTER NEUTRAL YER"⟩,
     ⟨0xA64F, "CYRILLIC ", "SMALL LETTER NEUTRAL YER;CAPITAL LETTER YERU WITH BACK YER"⟩,
     ⟨0xA651, "CYRILLIC ", "SMALL LETTER YERU WITH BACK YER;CAPITAL LETTER IOTIFIED YAT"⟩,
     ⟨0xA653, "CYRILLIC ", "SMALL LETTER IOTIFIED YAT;CAPITAL LETTER REVERSED YU"⟩,
     ⟨0xA655, "CYRILLIC ", "SMALL LETTER REVERSED YU;CAPITAL LETTER IOTIFIED A"⟩,
     ⟨0xA657, "CYRILLIC ", "SMALL LETTER IOTIFIED A;CAPITAL LETTER CLOSED LITTLE YUS"⟩,
     ⟨0xA659, "CYRILLIC ", "SMALL LETTER CLOSED LITTLE YUS;CAPITAL LETTER BLENDED YUS"⟩,
     ⟨0xA65B, "CYRILLIC ", "SMALL LETTER BLENDED YUS;CAPITAL LETTER IOTIFIED CLOSED LITTLE YUS"⟩,
     ⟨0xA65D, "", "CYRILLIC SMALL LETTER IOTIFIED CLOSED LITTLE YUS"⟩,
     ⟨0xA65E, "CYRILLIC ", "CAPITAL LETTER YN;SMALL LETTER YN;CAPITAL LETTER REVERSED TSE"⟩,
     ⟨0xA661, "CYRILLIC ", "SMALL LETTER REVERSED TSE;CAPITAL LETTER SOFT DE;SMALL LETTER SOFT DE"⟩,
     ⟨0xA664, "CYRILLIC ", "CAPITAL LETTER SOFT EL;SMALL LETTER SOFT EL;CAPITAL LETTER SOFT EM"⟩,
     ⟨0xA667, "CYRILLIC ", "SMALL LETTER SOFT EM;CAPITAL LETTER MONOCULAR O"⟩,
     ⟨0xA669, "CYRILLIC ", "SMALL LETTER MONOCULAR O;CAPITAL LETTER BINOCULAR O"⟩,
     ⟨0xA66B, "CYRILLIC ", "SMALL LETTER BINOCULAR O;CAPITAL LETTER DOUBLE MONOCULAR O"⟩,
     ⟨0xA66D, "CYRILLIC ", "SMALL LETTER DOUBLE MONOCULAR O;LETTER MULTIOCULAR O"⟩,
     ⟨0xA66F, "COMBINING CYRILLIC ", "VZMET;TEN MILLIONS SIGN;HUNDRED MILLIONS SIGN"⟩,
     ⟨0xA672, "", "COMBINING CYRILLIC THOUSAND MILLIONS SIGN;SLAVONIC ASTERISK"⟩,
     ⟨0xA674, "COMBINING CYRILLIC LETTER ", "UKRAINIAN IE;I;YI;U;HARD SIGN;YERU;SOFT SIGN;OMEGA"⟩,
     ⟨0xA67C, "", "COMBINING CYRILLIC KAVYKA;COMBINING CYRILLIC PAYEROK;CYRILLIC KAVYKA"⟩,
     ⟨0xA67F, "CYRILLIC ", "PAYEROK;CAPITAL LETTER DWE;SMALL LETTER DWE;CAPITAL LETTER DZWE"⟩,
     ⟨0xA683, "CYRILLIC ", "SMALL LETTER DZWE;CAPITAL LETTER ZHWE;SMALL LETTER ZHWE"⟩,
     ⟨0xA686, "CYRILLIC ", "CAPITAL LETTER CCHE;SMALL LETTER CCHE;CAPITAL LETTER DZZE"⟩,
     ⟨0xA689, "CYRILLIC ", "SMALL LETTER DZZE;CAPITAL LETTER TE WITH MIDDLE HOOK"⟩,
     ⟨0xA68B, "CYRILLIC ", "SMALL LETTER TE WITH MIDDLE HOOK;CAPITAL LETTER TWE"⟩,
     ⟨0xA68D, "CYRILLIC ", "SMALL LETTER TWE;CAPITAL LETTER TSWE;SMALL LETTER TSWE"⟩,
     ⟨0xA690, "CYRILLIC ", "CAPITAL LETTER TSSE;SMALL LETTER TSSE;CAPITAL LETTER TCHE"⟩,
     ⟨0xA693, "CYRILLIC ", "SMALL LETTER TCHE;CAPITAL LETTER HWE;SMALL LETTER HWE"⟩,
     ⟨0xA696, "CYRILLIC ", "CAPITAL LETTER SHWE;SMALL LETTER SHWE;CAPITAL LETTER DOUBLE O"⟩,
     ⟨0xA699, "CYRILLIC ", "SMALL LETTER DOUBLE O;CAPITAL LETTER CROSSED O;SMALL LETTER CROSSED O"⟩,
     ⟨0xA69C, "MODIFIER LETTER CYRILLIC ", "HARD SIGN;SOFT SIGN"⟩,
     ⟨0xA69E, "COMBINING CYRILLIC LETTER ", "EF;IOTIFIED E"⟩]

/-- Names in the block Coptic Epact Numbers. -/
def copticEpactNumbers : NameBlock where
  first := 0x102E0
  last := 0x102FF
  rows :=
    [⟨0x102E0, "", "COPTIC EPACT THOUSANDS MARK"⟩,
     ⟨0x102E1, "COPTIC EPACT DIGIT ", "ONE;TWO;THREE;FOUR;FIVE;SIX;SEVEN;EIGHT;NINE"⟩,
     ⟨0x102EA, "COPTIC EPACT NUMBER ", "TEN;TWENTY;THIRTY"⟩,
     ⟨0x102ED, "COPTIC EPACT NUMBER ", "FORTY;FIFTY;SIXTY;SEVENTY;EIGHTY;NINETY;ONE HUNDRED"⟩,
     ⟨0x102F4, "COPTIC EPACT NUMBER ", "TWO HUNDRED;THREE HUNDRED;FOUR HUNDRED;FIVE HUNDRED"⟩,
     ⟨0x102F8, "COPTIC EPACT NUMBER ", "SIX HUNDRED;SEVEN HUNDRED;EIGHT HUNDRED;NINE HUNDRED"⟩]

/-- Names in the block Old Italic. -/
def oldItalic : NameBlock where
  first := 0x10300
  last := 0x1032F
  rows :=
    [⟨0x10300, "OLD ITALIC LETTER ", "A;BE;KE;DE;E;VE;ZE;HE;THE;I;KA;EL;EM;EN"⟩,
     ⟨0x1030E, "OLD ITALIC LETTER ", "ESH;O;PE;SHE;KU;ER;ES;TE;U;EKS;PHE;KHE;EF;ERS;CHE;II;UU;ESS"⟩,
     ⟨0x10320, "OLD ITALIC NUMERAL ", "ONE;FIVE;TEN;FIFTY"⟩,
     ⟨0x1032D, "OLD ITALIC LETTER ", "YE;NORTHERN TSE;SOUTHERN TSE"⟩]

/-- Names in the block Gothic. -/
def gothic : NameBlock where
  first := 0x10330
  last := 0x1034F
  rows :=
    [⟨0x10330, "GOTHIC LETTER ", "AHSA;BAIRKAN;GIBA;DAGS;AIHVUS;QAIRTHRA;IUJA;HAGL"⟩,
     ⟨0x10338, "GOTHIC LETTER ", "THIUTH;EIS;KUSMA;LAGUS;MANNA;NAUTHS;JER;URUS;PAIRTHRA;NINETY"⟩,
     ⟨0x10342, "GOTHIC LETTER ", "RAIDA;SAUIL;TEIWS;WINJA;FAIHU;IGGWS;HWAIR;OTHAL;NINE HUNDRED"⟩]

/-- Names in the block Old Permic. -/
def oldPermic : NameBlock where
  first := 0x10350
  last := 0x1037F
  rows :=
    [⟨0x10350, "OLD PERMIC LETTER ", "AN;BUR;GAI;DOI;E;ZHOI;DZHOI;ZATA;DZITA;I;KOKE"⟩,
     ⟨0x1035B, "OLD PERMIC LETTER ", "LEI;MENOE;NENOE;VOOI;PEEI;REI;SII;TAI;U;CHERY;SHOOI;SHCHOOI"⟩,
     ⟨0x10367, "OLD PERMIC LETTER ", "YRY;YERU;O;OO;EF;HA;TSIU;VER;YER;YERI;YAT;IE;YU;YA;IA"⟩,
     ⟨0x10376, "COMBINING OLD PERMIC LETTER ", "AN;DOI;ZATA;NENOE;SII"⟩]

/-- Names in the block Shavian. -/
def shavian : NameBlock where
  first := 0x10450
  last := 0x1047F
  rows :=
    [⟨0x10450, "SHAVIAN LETTER ", "PEEP;TOT;KICK;FEE;THIGH;SO"⟩,
     ⟨0x10456, "SHAVIAN LETTER ", "SURE;CHURCH;YEA;HUNG;BIB;DEAD;GAG;VOW;THEY;ZOO;MEASURE;JUDGE"⟩,
     ⟨0x10462, "SHAVIAN LETTER ", "WOE;HA-HA;LOLL;MIME;IF;EGG;ASH;ADO;ON;WOOL;OUT;AH;ROAR;NUN;EAT"⟩,
     ⟨0x10471, "SHAVIAN LETTER ", "AGE;ICE;UP;OAK;OOZE;OIL;AWE;ARE;OR;AIR;ERR;ARRAY;EAR;IAN;YEW"⟩]

/-- Names in the block Elbasan. -/
def elbasan : NameBlock where
  first := 0x10500
  last := 0x1052F
  rows :=
    [⟨0x10500, "ELBASAN LETTER ", "A;BE;CE"⟩,
     ⟨0x10503, "ELBASAN LETTER ", "CHE;DE;NDE;DHE;EI;E;FE;GE;GJE;HE;I;JE;KE;LE;LLE;ME;NE;NA;NJE"⟩,
     ⟨0x10516, "ELBASAN LETTER ", "O;PE;QE;RE;RRE;SE;SHE;TE;THE;U;VE;XE;Y;ZE;ZHE;GHE;GHAMMA;KHE"⟩]

/-- Names in the block Caucasian Albanian. -/
def caucasianAlbanian : NameBlock where
  first := 0x10530
  last := 0x1056F
  rows :=
    [⟨0x10530, "CAUCASIAN ALBANIAN LETTER ", "ALT;BET;GIM;DAT;EB;ZARL;EYN;ZHIL;TAS"⟩,
     ⟨0x10539, "CAUCASIAN ALBANIAN LETTER ", "CHA;YOWD;ZHA;IRB;SHA;LAN;INYA;XEYN;DYAN;CAR;JHOX"⟩,
     ⟨0x10544, "CAUCASIAN ALBANIAN LETTER ", "KAR;LYIT;HEYT;QAY;AOR;CHOY;CHI;CYAY;MAQ;QAR;NOWC"⟩,
     ⟨0x1054F, "CAUCASIAN ALBANIAN LETTER ", "DZYAY;SHAK;JAYN;ON;TYAY;FAM;DZAY;CHAT;PEN;GHEYS"⟩,
     ⟨0x10559, "CAUCASIAN ALBANIAN LETTER ", "RAT;SEYK;VEYZ;TIWR;SHOY;IWN;CYAW;CAYN;YAYD;PIWR;KIW"⟩,
     ⟨0x1056F, "", "CAUCASIAN ALBANIAN CITATION MARK"⟩]

/-- Names in the block Vithkuqi. -/
def vithkuqi : NameBlock where
  first := 0x10570
  last := 0x105BF
  rows :=
    [⟨0x10570, "VITHKUQI CAPITAL LETTER ", "A;BBE;BE;CE;CHE;DE;DHE;EI;E;FE;GA"⟩,
     ⟨0x1057C, "VITHKUQI CAPITAL LETTER ", "HA;HHA;I;IJE;JE;KA;LA;LLA;ME;NE;NJE;O;PE;QA;RE"⟩,
     ⟨0x1058C, "VITHKUQI CAPITAL LETTER ", "SE;SHE;TE;THE;U;VE;XE"⟩,
     ⟨0x10594, "VITHKUQI CAPITAL LETTER ", "Y;ZE"⟩,
     ⟨0x10597, "VITHKUQI SMALL LETTER ", "A;BBE;BE;CE;CHE;DE;DHE;EI;E;FE;GA"⟩,
     ⟨0x105A3, "VITHKUQI SMALL LETTER ", "HA;HHA;I;IJE;JE;KA;LA;LLA;ME;NE;NJE;O;PE;QA;RE"⟩,
     ⟨0x105B3, "VITHKUQI SMALL LETTER ", "SE;SHE;TE;THE;U;VE;XE"⟩,
     ⟨0x105BB, "VITHKUQI SMALL LETTER ", "Y;ZE"⟩]

/-- Names in the block Todhri. -/
def todhri : NameBlock where
  first := 0x105C0
  last := 0x105FF
  rows :=
    [⟨0x105C0, "TODHRI LETTER ", "A;AS;BA;MBA;CA;CHA;DA;NDA;DHA;EI;E;FA;GA;NGA;GJA;NGJA"⟩,
     ⟨0x105D0, "TODHRI LETTER ", "HA;HJA;I;JA;KA;LA;LLA;MA;NA;NJAN;O;PA;QA;RA;RRA;SA;SHA;SHTA"⟩,
     ⟨0x105E2, "TODHRI LETTER ", "TA;THA;U;VA;XA;NXA;XHA;NXHA;Y;JY;ZA;ZHA;GHA;STA;SKAN;KHA;PSA;OO"⟩]

/-- Names in the block Old Hungarian. -/
def oldHungarian : NameBlock where
  first := 0x10C80
  last := 0x10CFF
  rows :=
    [⟨0x10C80, "OLD HUNGARIAN CAPITAL LETTER ", "A;AA;EB;AMB"⟩,
     ⟨0x10C84, "OLD HUNGARIAN CAPITAL LETTER ", "EC;ENC;ECS;ED;AND;E;CLOSE E;EE;EF;EG;EGY;EH;I;II"⟩,
     ⟨0x10C92, "OLD HUNGARIAN CAPITAL LETTER ", "EJ;EK;AK;UNK;EL;ELY;EM;EN;ENY;O;OO;NIKOLSBURG OE"⟩,
     ⟨0x10C9E, "OLD HUNGARIAN CAPITAL LETTER ", "RUDIMENTA OE;OEE;EP;EMP;ER;SHORT ER"⟩,
     ⟨0x10CA4, "OLD HUNGARIAN CAPITAL LETTER ", "ES;ESZ;ET;ENT;ETY;ECH;U;UU;NIKOLSBURG UE"⟩,
     ⟨0x10CAD, "OLD HUNGARIAN CAPITAL LETTER ", "RUDIMENTA UE;EV;EZ;EZS;ENT-SHAPED SIGN;US"⟩,
     ⟨0x10CC0, "OLD HUNGARIAN SMALL LETTER ", "A;AA;EB;AMB;EC;ENC;ECS;ED;AND;E;CLOSE E"⟩,
     ⟨0x10CCB, "OLD HUNGARIAN SMALL LETTER ", "EE;EF;EG;EGY;EH;I;II;EJ;EK;AK;UNK;EL;ELY;EM;EN"⟩,
     ⟨0x10CDA, "OLD HUNGARIAN SMALL LETTER ", "ENY;O;OO;NIKOLSBURG OE;RUDIMENTA OE;OEE;EP;EMP;ER"⟩,
     ⟨0x10CE3, "OLD HUNGARIAN SMALL LETTER ", "SHORT ER;ES;ESZ;ET;ENT;ETY;ECH;U;UU;NIKOLSBURG UE"⟩,
     ⟨0x10CED, "OLD HUNGARIAN SMALL LETTER ", "RUDIMENTA UE;EV;EZ;EZS;ENT-SHAPED SIGN;US"⟩,
     ⟨0x10CFA, "OLD HUNGARIAN NUMBER ", "ONE;FIVE;TEN;FIFTY;ONE HUNDRED;ONE THOUSAND"⟩]

/-- Names in the block Duployan. -/
def duployan : NameBlock where
  first := 0x1BC00
  last := 0x1BC9F
  rows :=
    [⟨0x1BC00, "DUPLOYAN LETTER ", "H;X;P;T;F;K;L;B;D;V;G;R;P N;D S;F N;K M;R S;TH;SLOAN DH"⟩,
     ⟨0x1BC13, "DUPLOYAN LETTER ", "DH;KK;SLOAN J;HL;LH;RH;M;N;J;S;M N;N M;J M;S J;M WITH DOT"⟩,
     ⟨0x1BC22, "DUPLOYAN LETTER ", "N WITH DOT;J WITH DOT;J WITH DOTS INSIDE AND ABOVE;S WITH DOT"⟩,
     ⟨0x1BC26, "DUPLOYAN LETTER ", "S WITH DOT BELOW;M S;N S;J S;S S;M N S;N M S;J M S;S J S"⟩,
     ⟨0x1BC2F, "DUPLOYAN LETTER ", "J S WITH DOT;J N;J N S;S T;S T R;S P;S P R;T S;T R S;W;WH"⟩,
     ⟨0x1BC3A, "DUPLOYAN LETTER ", "W R;S N;S M;K R S;G R S;S K;S K R;A;SLOAN OW;OA;O;AOU;I;E;IE"⟩,
     ⟨0x1BC49, "DUPLOYAN LETTER ", "SHORT I;UI;EE;SLOAN EH;ROMANIAN I;SLOAN EE;LONG I;YE;U;EU;XW"⟩,
     ⟨0x1BC54, "DUPLOYAN LETTER ", "U N;LONG U;ROMANIAN U;UH;SLOAN U;OOH;OW;OU;WA;WO;WI;WEI;WOW"⟩,
     ⟨0x1BC61, "DUPLOYAN LETTER NASAL ", "U;O;I;A"⟩,
     ⟨0x1BC65, "DUPLOYAN LETTER ", "PERNIN AN;PERNIN AM;SLOAN EN;SLOAN AN;SLOAN ON;VOCALIC M"⟩,
     ⟨0x1BC70, "", "DUPLOYAN AFFIX LEFT HORIZONTAL SECANT"⟩,
     ⟨0x1BC71, "DUPLOYAN AFFIX ", "MID HORIZONTAL SECANT;RIGHT HORIZONTAL SECANT"⟩,
     ⟨0x1BC73, "DUPLOYAN AFFIX ", "LOW VERTICAL SECANT;MID VERTICAL SECANT;HIGH VERTICAL SECANT"⟩,
     ⟨0x1BC76, "DUPLOYAN AFFIX ATTACHED ", "SECANT;LEFT-TO-RIGHT SECANT"⟩,
     ⟨0x1BC78, "DUPLOYAN AFFIX ATTACHED ", "TANGENT;TAIL;E HOOK;I HOOK;TANGENT HOOK"⟩,
     ⟨0x1BC80, "DUPLOYAN AFFIX HIGH ", "ACUTE;TIGHT ACUTE"⟩,
     ⟨0x1BC82, "DUPLOYAN AFFIX HIGH ", "GRAVE;LONG GRAVE;DOT;CIRCLE;LINE;WAVE;VERTICAL"⟩,
     ⟨0x1BC90, "DUPLOYAN AFFIX LOW ", "ACUTE;TIGHT ACUTE"⟩,
     ⟨0x1BC92, "DUPLOYAN AFFIX LOW ", "GRAVE;LONG GRAVE;DOT;CIRCLE;LINE;WAVE;VERTICAL;ARROW"⟩,
     ⟨0x1BC9C, "", "DUPLOYAN SIGN O WITH CROSS"⟩,
     ⟨0x1BC9D, "DUPLOYAN ", "THICK LETTER SELECTOR;DOUBLE MARK;PUNCTUATION CHINOOK FULL STOP"⟩]

/-- Names in the block Shorthand Format Controls. -/
def shorthandFormatControls : NameBlock where
  first := 0x1BCA0
  last := 0x1BCAF
  rows :=
    [⟨0x1BCA0, "SHORTHAND FORMAT ", "LETTER OVERLAP;CONTINUING OVERLAP;DOWN STEP;UP STEP"⟩]

/-- Names in the block Glagolitic Supplement. -/
def glagoliticSupplement : NameBlock where
  first := 0x1E000
  last := 0x1E02F
  rows :=
    [⟨0x1E000, "COMBINING GLAGOLITIC LETTER ", "AZU;BUKY;VEDE;GLAGOLI;DOBRO;YESTU;ZHIVETE"⟩,
     ⟨0x1E008, "COMBINING GLAGOLITIC LETTER ", "ZEMLJA;IZHE"⟩,
     ⟨0x1E00A, "COMBINING GLAGOLITIC LETTER ", "INITIAL IZHE;I;DJERVI;KAKO;LJUDIJE;MYSLITE;NASHI"⟩,
     ⟨0x1E011, "COMBINING GLAGOLITIC LETTER ", "ONU;POKOJI;RITSI;SLOVO;TVRIDO;UKU;FRITU;HERU"⟩,
     ⟨0x1E01B, "COMBINING GLAGOLITIC LETTER ", "SHTA;TSI;CHRIVI;SHA;YERU;YERI;YATI"⟩,
     ⟨0x1E023, "COMBINING GLAGOLITIC LETTER ", "YU;SMALL YUS"⟩,
     ⟨0x1E026, "COMBINING GLAGOLITIC LETTER ", "YO;IOTATED SMALL YUS;BIG YUS;IOTATED BIG YUS;FITA"⟩]

/-- Names in the block Cyrillic Extended-D. -/
def cyrillicExtendedD : NameBlock where
  first := 0x1E030
  last := 0x1E08F
  rows :=
    [⟨0x1E030, "MODIFIER LETTER CYRILLIC SMALL ", "A;BE;VE;GHE;DE;IE;ZHE;ZE"⟩,
     ⟨0x1E038, "MODIFIER LETTER CYRILLIC SMALL ", "I;KA;EL;EM;O;PE;ER;ES;TE;U;EF;HA;TSE;CHE;SHA"⟩,
     ⟨0x1E047, "MODIFIER LETTER CYRILLIC SMALL ", "YERU;E;YU;DZZE;SCHWA;BYELORUSSIAN-UKRAINIAN I"⟩,
     ⟨0x1E04D, "MODIFIER LETTER CYRILLIC SMALL ", "JE;BARRED O;STRAIGHT U;PALOCHKA"⟩,
     ⟨0x1E051, "CYRILLIC SUBSCRIPT SMALL LETTER ", "A;BE;VE;GHE;DE;IE;ZHE;ZE;I;KA;EL;O;PE;ES;U;EF"⟩,
     ⟨0x1E061, "CYRILLIC SUBSCRIPT SMALL LETTER ", "HA;TSE;CHE;SHA;HARD SIGN;YERU;GHE WITH UPTURN"⟩,
     ⟨0x1E068, "CYRILLIC SUBSCRIPT SMALL LETTER ", "BYELORUSSIAN-UKRAINIAN I;DZE;DZHE"⟩,
     ⟨0x1E06B, "", "MODIFIER LETTER CYRILLIC SMALL ES WITH DESCENDER"⟩,
     ⟨0x1E06C, "MODIFIER LETTER CYRILLIC SMALL ", "YERU WITH BACK YER;STRAIGHT U WITH STROKE"⟩,
     ⟨0x1E08F, "", "COMBINING CYRILLIC SMALL LETTER BYELORUSSIAN-UKRAINIAN I"⟩]

end NameBlock

/-- The blocks of this module. -/
def europeanBlocks : List NameBlock :=
  [.greekAndCoptic, .cyrillic, .cyrillicSupplement, .armenian, .georgian, .ogham, .runic,
   .cyrillicExtendedC, .georgianExtended, .greekExtended, .glagolitic, .coptic,
   .georgianSupplement, .cyrillicExtendedA, .cyrillicExtendedB, .copticEpactNumbers, .oldItalic,
   .gothic, .oldPermic, .shavian, .elbasan, .caucasianAlbanian, .vithkuqi, .todhri,
   .oldHungarian, .duployan, .shorthandFormatControls, .glagoliticSupplement, .cyrillicExtendedD]

end Text
end Scripting
