import Scripting.Text.Names.Block

namespace Scripting
namespace Text

/-!
Names of letters of the scripts of Southeast Asia.
-/

namespace NameBlock

/-- Names in the block Thai. -/
def thai : NameBlock where
  first := 0x0E00
  last := 0x0E7F
  rows :=
    [⟨0x0E01, "THAI CHARACTER ", "KO KAI;KHO KHAI;KHO KHUAT;KHO KHWAI;KHO KHON;KHO RAKHANG"⟩,
     ⟨0x0E07, "THAI CHARACTER ", "NGO NGU;CHO CHAN;CHO CHING;CHO CHANG;SO SO;CHO CHOE;YO YING"⟩,
     ⟨0x0E0E, "THAI CHARACTER ", "DO CHADA;TO PATAK;THO THAN;THO NANGMONTHO;THO PHUTHAO;NO NEN"⟩,
     ⟨0x0E14, "THAI CHARACTER ", "DO DEK;TO TAO;THO THUNG;THO THAHAN;THO THONG;NO NU;BO BAIMAI"⟩,
     ⟨0x0E1B, "THAI CHARACTER ", "PO PLA;PHO PHUNG;FO FA;PHO PHAN;FO FAN;PHO SAMPHAO;MO MA"⟩,
     ⟨0x0E22, "THAI CHARACTER ", "YO YAK;RO RUA;RU;LO LING;LU;WO WAEN;SO SALA;SO RUSI;SO SUA"⟩,
     ⟨0x0E2B, "THAI CHARACTER ", "HO HIP;LO CHULA;O ANG;HO NOKHUK;PAIYANNOI;SARA A;MAI HAN-AKAT"⟩,
     ⟨0x0E32, "THAI CHARACTER SARA ", "AA;AM;I;II;UE;UEE;U;UU"⟩,
     ⟨0x0E3A, "", "THAI CHARACTER PHINTHU"⟩,
     ⟨0x0E3F, "", "THAI CURRENCY SYMBOL BAHT"⟩,
     ⟨0x0E40, "THAI CHARACTER SARA ", "E;AE;O;AI MAIMUAN;AI MAIMALAI"⟩,
     ⟨0x0E45, "THAI CHARACTER ", "LAKKHANGYAO;MAIYAMOK;MAITAIKHU;MAI EK;MAI THO"⟩,
     ⟨0x0E4A, "THAI CHARACTER ", "MAI TRI;MAI CHATTAWA;THANTHAKHAT;NIKHAHIT;YAMAKKAN;FONGMAN"⟩,
     ⟨0x0E5A, "THAI CHARACTER ", "ANGKHANKHU;KHOMUT"⟩]

/-- Names in the block Lao. -/
def lao : NameBlock where
  first := 0x0E80
  last := 0x0EFF
  rows :=
    [⟨0x0E81, "LAO LETTER ", "KO;KHO SUNG"⟩,
     ⟨0x0E84, "", "LAO LETTER KHO TAM"⟩,
     ⟨0x0E86, "LAO LETTER ", "PALI GHA;NGO;CO;PALI CHA;SO TAM"⟩,
     ⟨0x0E8C, "LAO LETTER ", "PALI JHA;NYO;PALI NYA;PALI TTA;PALI TTHA"⟩,
     ⟨0x0E91, "LAO LETTER ", "PALI DDA;PALI DDHA;PALI NNA;DO;TO;THO SUNG;THO TAM;PALI DHA"⟩,
     ⟨0x0E99, "LAO LETTER ", "NO;BO;PO;PHO SUNG;FO TAM;PHO TAM;FO SUNG;PALI BHA;MO;YO;LO LING"⟩,
     ⟨0x0EA5, "", "LAO LETTER LO LOOT"⟩,
     ⟨0x0EA7, "LAO LETTER ", "WO;SANSKRIT SHA;SANSKRIT SSA;SO SUNG;HO SUNG;PALI LLA;O;HO TAM"⟩,
     ⟨0x0EAF, "", "LAO ELLIPSIS"⟩,
     ⟨0x0EB0, "LAO VOWEL SIGN ", "A;MAI KAN;AA;AM;I;II;Y;YY;U;UU"⟩,
     ⟨0x0EBA, "LAO ", "SIGN PALI VIRAMA;VOWEL SIGN MAI KON;SEMIVOWEL SIGN LO;SEMIVOWEL SIGN NYO"⟩,
     ⟨0x0EC0, "LAO VOWEL SIGN ", "E;EI;O;AY;AI"⟩,
     ⟨0x0EC6, "", "LAO KO LA"⟩,
     ⟨0x0EC8, "LAO TONE MAI ", "EK;THO;TI;CATAWA"⟩,
     ⟨0x0ECC, "LAO ", "CANCELLATION MARK;NIGGAHITA;YAMAKKAN"⟩,
     ⟨0x0EDC, "LAO ", "HO NO;HO MO;LETTER KHMU GO;LETTER KHMU NYO"⟩]

/-- Names in the block Myanmar. -/
def myanmar : NameBlock where
  first := 0x1000
  last := 0x109F
  rows :=
    [⟨0x1000, "MYANMAR LETTER ", "KA;KHA;GA;GHA;NGA;CA;CHA"⟩,
     ⟨0x1007, "MYANMAR LETTER ", "JA;JHA;NYA;NNYA;TTA;TTHA;DDA;DDHA;NNA;TA;THA;DA;DHA;NA;PA;PHA"⟩,
     ⟨0x1017, "MYANMAR LETTER ", "BA;BHA;MA;YA;RA;LA;WA;SA;HA;LLA;A;SHAN A;I;II;U;UU;E;MON E;O;AU"⟩,
     ⟨0x102B, "MYANMAR VOWEL SIGN ", "TALL AA;AA;I;II;U;UU;E;AI;MON II;MON O;E ABOVE"⟩,
     ⟨0x1036, "MYANMAR SIGN ", "ANUSVARA;DOT BELOW;VISARGA;VIRAMA;ASAT"⟩,
     ⟨0x103B, "MYANMAR CONSONANT SIGN MEDIAL ", "YA;RA;WA;HA"⟩,
     ⟨0x103F, "", "MYANMAR LETTER GREAT SA"⟩,
     ⟨0x104A, "MYANMAR SIGN ", "LITTLE SECTION;SECTION"⟩,
     ⟨0x104C, "MYANMAR SYMBOL ", "LOCATIVE;COMPLETED;AFOREMENTIONED;GENITIVE"⟩,
     ⟨0x1050, "MYANMAR LETTER ", "SHA;SSA;VOCALIC R;VOCALIC RR;VOCALIC L;VOCALIC LL"⟩,
     ⟨0x1056, "MYANMAR VOWEL SIGN VOCALIC ", "R;RR;L;LL"⟩,
     ⟨0x105A, "MYANMAR LETTER MON ", "NGA;JHA;BBA;BBE"⟩,
     ⟨0x105E, "MYANMAR CONSONANT SIGN MON MEDIAL ", "NA;MA;LA"⟩,
     ⟨0x1061, "MYANMAR ", "LETTER SGAW KAREN SHA;VOWEL SIGN SGAW KAREN EU"⟩,
     ⟨0x1063, "MYANMAR TONE MARK SGAW KAREN ", "HATHI;KE PHO"⟩,
     ⟨0x1065, "MYANMAR LETTER WESTERN PWO KAREN ", "THA;PWA"⟩,
     ⟨0x1067, "MYANMAR VOWEL SIGN WESTERN PWO KAREN ", "EU;UE"⟩,
     ⟨0x1069, "MYANMAR SIGN WESTERN PWO KAREN TONE-", "1;2;3;4;5"⟩,
     ⟨0x106E, "MYANMAR LETTER EASTERN PWO KAREN ", "NNA;YWA;GHWA"⟩,
     ⟨0x1071, "MYANMAR VOWEL SIGN ", "GEBA KAREN I;KAYAH OE;KAYAH U;KAYAH EE"⟩,
     ⟨0x1075, "MYANMAR LETTER SHAN ", "KA;KHA;GA;CA;ZA;NYA;DA;NA;PHA;FA;BA;THA;HA"⟩,
     ⟨0x1082, "", "MYANMAR CONSONANT SIGN SHAN MEDIAL WA"⟩,
     ⟨0x1083, "MYANMAR VOWEL SIGN SHAN ", "AA;E;E ABOVE;FINAL Y"⟩,
     ⟨0x1087, "MYANMAR SIGN SHAN TONE-", "2;3;5;6"⟩,
     ⟨0x108B, "MYANMAR SIGN SHAN COUNCIL ", "TONE-2;TONE-3;EMPHATIC TONE"⟩,
     ⟨0x108E, "MYANMAR ", "LETTER RUMAI PALAUNG FA;SIGN RUMAI PALAUNG TONE-5"⟩,
     ⟨0x109A, "MYANMAR SIGN KHAMTI TONE-", "1;3"⟩,
     ⟨0x109C, "MYANMAR VOWEL SIGN AITON ", "A;AI"⟩,
     ⟨0x109E, "MYANMAR SYMBOL SHAN ", "ONE;EXCLAMATION"⟩]

/-- Names in the block Tagalog. -/
def tagalog : NameBlock where
  first := 0x1700
  last := 0x171F
  rows :=
    [⟨0x1700, "TAGALOG LETTER ", "A;I;U;KA;GA;NGA;TA;DA;NA;PA;BA;MA;YA;RA;LA;WA;SA;HA"⟩,
     ⟨0x1712, "TAGALOG ", "VOWEL SIGN I;VOWEL SIGN U;SIGN VIRAMA;SIGN PAMUDPOD"⟩,
     ⟨0x171F, "", "TAGALOG LETTER ARCHAIC RA"⟩]

/-- Names in the block Hanunoo. -/
def hanunoo : NameBlock where
  first := 0x1720
  last := 0x173F
  rows :=
    [⟨0x1720, "HANUNOO LETTER ", "A;I;U;KA;GA;NGA;TA;DA;NA;PA;BA;MA;YA;RA;LA;WA;SA;HA"⟩,
     ⟨0x1732, "HANUNOO ", "VOWEL SIGN I;VOWEL SIGN U;SIGN PAMUDPOD"⟩,
     ⟨0x1735, "PHILIPPINE ", "SINGLE PUNCTUATION;DOUBLE PUNCTUATION"⟩]

/-- Names in the block Buhid. -/
def buhid : NameBlock where
  first := 0x1740
  last := 0x175F
  rows :=
    [⟨0x1740, "BUHID LETTER ", "A;I;U;KA;GA;NGA;TA;DA;NA;PA;BA;MA;YA;RA;LA;WA;SA;HA"⟩,
     ⟨0x1752, "BUHID VOWEL SIGN ", "I;U"⟩]

/-- Names in the block Tagbanwa. -/
def tagbanwa : NameBlock where
  first := 0x1760
  last := 0x177F
  rows :=
    [⟨0x1760, "TAGBANWA LETTER ", "A;I;U;KA;GA;NGA;TA;DA;NA;PA;BA;MA;YA"⟩,
     ⟨0x176E, "TAGBANWA LETTER ", "LA;WA;SA"⟩,
     ⟨0x1772, "TAGBANWA VOWEL SIGN ", "I;U"⟩]

/-- Names in the block Khmer. -/
def khmer : NameBlock where
  first := 0x1780
  last := 0x17FF
  rows :=
    [⟨0x1780, "KHMER LETTER ", "KA;KHA;KO;KHO;NGO;CA;CHA;CO;CHO;NYO;DA;TTHA;DO;TTHO;NNO"⟩,
     ⟨0x178F, "KHMER LETTER ", "TA;THA;TO;THO;NO;BA;PHA;PO;PHO;MO;YO;RO;LO;VO;SHA;SSO;SA;HA;LA;QA"⟩,
     ⟨0x17A3, "KHMER INDEPENDENT VOWEL ", "QAQ;QAA;QI;QII;QU;QUK;QUU;QUUV"⟩,
     ⟨0x17AB, "KHMER INDEPENDENT VOWEL ", "RY;RYY;LY;LYY;QE;QAI;QOO TYPE ONE;QOO TYPE TWO;QAU"⟩,
     ⟨0x17B4, "KHMER VOWEL INHERENT ", "AQ;AA"⟩,
     ⟨0x17B6, "KHMER VOWEL SIGN ", "AA;I;II;Y;YY;U;UU;UA;OE;YA;IE;E;AE;AI;OO;AU"⟩,
     ⟨0x17C6, "KHMER SIGN ", "NIKAHIT;REAHMUK;YUUKALEAPINTU;MUUSIKATOAN;TRIISAP;BANTOC;ROBAT"⟩,
     ⟨0x17CD, "KHMER SIGN ", "TOANDAKHIAT;KAKABAT;AHSDA;SAMYOK SANNYA;VIRIAM;COENG;BATHAMASAT"⟩,
     ⟨0x17D4, "KHMER SIGN ", "KHAN;BARIYOOSAN;CAMNUC PII KUUH;LEK TOO;BEYYAL;PHNAEK MUAN;KOOMUUT"⟩,
     ⟨0x17DB, "KHMER ", "CURRENCY SYMBOL RIEL;SIGN AVAKRAHASANYA;SIGN ATTHACAN"⟩,
     ⟨0x17F0, "KHMER SYMBOL LEK ATTAK ", "SON;MUOY;PII;BEI;BUON;PRAM"⟩,
     ⟨0x17F6, "KHMER SYMBOL LEK ATTAK PRAM-", "MUOY;PII;BEI;BUON"⟩]

/-- Names in the block Tai Le. -/
def taiLe : NameBlock where
  first := 0x1950
  last := 0x197F
  rows :=
    [⟨0x1950, "TAI LE LETTER ", "KA;XA;NGA;TSA;SA;YA;TA;THA;LA"⟩,
     ⟨0x1959, "TAI LE LETTER ", "PA;PHA;MA;FA;VA;HA;QA;KHA;TSHA;NA;A;I;EE;EH;U;OO;O;UE;E;AUE;AI"⟩,
     ⟨0x1970, "TAI LE LETTER TONE-", "2;3;4;5;6"⟩]

/-- Names in the block New Tai Lue. -/
def newTaiLue : NameBlock where
  first := 0x1980
  last := 0x19DF
  rows :=
    [⟨0x1980, "NEW TAI LUE LETTER ", "HIGH QA;LOW QA;HIGH KA;HIGH XA;HIGH NGA"⟩,
     ⟨0x1985, "NEW TAI LUE LETTER ", "LOW KA;LOW XA;LOW NGA;HIGH TSA;HIGH SA;HIGH YA;LOW TSA"⟩,
     ⟨0x198C, "NEW TAI LUE LETTER ", "LOW SA;LOW YA;HIGH TA;HIGH THA;HIGH NA;LOW TA;LOW THA"⟩,
     ⟨0x1993, "NEW TAI LUE LETTER ", "LOW NA;HIGH PA;HIGH PHA;HIGH MA;LOW PA;LOW PHA;LOW MA"⟩,
     ⟨0x199A, "NEW TAI LUE LETTER HIGH ", "FA;VA;LA"⟩,
     ⟨0x199D, "NEW TAI LUE LETTER ", "LOW FA;LOW VA;LOW LA;HIGH HA;HIGH DA;HIGH BA;LOW HA;LOW DA"⟩,
     ⟨0x19A5, "NEW TAI LUE LETTER ", "LOW BA;HIGH KVA;HIGH XVA;LOW KVA;LOW XVA;HIGH SUA;LOW SUA"⟩,
     ⟨0x19B0, "", "NEW TAI LUE VOWEL SIGN VOWEL SHORTENER"⟩,
     ⟨0x19B1, "NEW TAI LUE VOWEL SIGN ", "AA;II;U;UU;E;AE;O;OA;UE;AY;AAY;UY;OY;OAY;UEY;IY"⟩,
     ⟨0x19C1, "NEW TAI LUE LETTER FINAL ", "V;NG;N;M;K;D;B"⟩,
     ⟨0x19C8, "NEW TAI LUE TONE MARK-", "1;2"⟩,
     ⟨0x19DA, "", "NEW TAI LUE THAM DIGIT ONE"⟩,
     ⟨0x19DE, "NEW TAI LUE SIGN ", "LAE;LAEV"⟩]

/-- Names in the block Khmer Symbols. -/
def khmerSymbols : NameBlock where
  first := 0x19E0
  last := 0x19FF
  rows :=
    [⟨0x19E0, "KHMER SYMBOL ", "PATHAMASAT;MUOY KOET;PII KOET;BEI KOET;BUON KOET;PRAM KOET"⟩,
     ⟨0x19E6, "KHMER SYMBOL PRAM-", "MUOY KOET;PII KOET;BEI KOET;BUON KOET"⟩,
     ⟨0x19EA, "", "KHMER SYMBOL DAP KOET"⟩,
     ⟨0x19EB, "KHMER SYMBOL DAP-", "MUOY KOET;PII KOET;BEI KOET;BUON KOET;PRAM KOET"⟩,
     ⟨0x19F0, "KHMER SYMBOL ", "TUTEYASAT;MUOY ROC;PII ROC;BEI ROC;BUON ROC;PRAM ROC"⟩,
     ⟨0x19F6, "KHMER SYMBOL ", "PRAM-MUOY ROC;PRAM-PII ROC;PRAM-BEI ROC;PRAM-BUON ROC;DAP ROC"⟩,
     ⟨0x19FB, "KHMER SYMBOL DAP-", "MUOY ROC;PII ROC;BEI ROC;BUON ROC;PRAM ROC"⟩]

/-- Names in the block Buginese. -/
def buginese : NameBlock where
  first := 0x1A00
  last := 0x1A1F
  rows :=
    [⟨0x1A00, "BUGINESE LETTER ", "KA;GA;NGA;NGKA"⟩,
     ⟨0x1A04, "BUGINESE LETTER ", "PA;BA;MA;MPA;TA;DA;NA;NRA;CA;JA;NYA;NYCA;YA;RA;LA;VA;SA;A;HA"⟩,
     ⟨0x1A17, "BUGINESE VOWEL SIGN ", "I;U;E;O;AE"⟩,
     ⟨0x1A1E, "BUGINESE ", "PALLAWA;END OF SECTION"⟩]

/-- Names in the block Tai Tham. -/
def taiTham : NameBlock where
  first := 0x1A20
  last := 0x1AAF
  rows :=
    [⟨0x1A20, "TAI THAM LETTER HIGH ", "KA;KHA;KXA"⟩,
     ⟨0x1A23, "TAI THAM LETTER ", "LOW KA;LOW KXA;LOW KHA;NGA;HIGH CA;HIGH CHA;LOW CA;LOW SA"⟩,
     ⟨0x1A2B, "TAI THAM LETTER ", "LOW CHA;NYA;RATA;HIGH RATHA;DA;LOW RATHA;RANA;HIGH TA;HIGH THA"⟩,
     ⟨0x1A34, "TAI THAM LETTER ", "LOW TA;LOW THA;NA;BA;HIGH PA;HIGH PHA;HIGH FA;LOW PA;LOW FA"⟩,
     ⟨0x1A3D, "TAI THAM LETTER ", "LOW PHA;MA;LOW YA;HIGH YA;RA;RUE;LA;LUE;WA;HIGH SHA;HIGH SSA"⟩,
     ⟨0x1A48, "TAI THAM LETTER ", "HIGH SA;HIGH HA;LLA;A;LOW HA;I;II;U;UU;EE;OO;LAE;GREAT SA"⟩,
     ⟨0x1A55, "TAI THAM CONSONANT SIGN ", "MEDIAL RA;MEDIAL LA;LA TANG LAI"⟩,
     ⟨0x1A58, "", "TAI THAM SIGN MAI KANG LAI"⟩,
     ⟨0x1A59, "TAI THAM CONSONANT SIGN ", "FINAL NGA;LOW PA;HIGH RATHA OR LOW PA;MA;BA;SA"⟩,
     ⟨0x1A60, "", "TAI THAM SIGN SAKOT"⟩,
     ⟨0x1A61, "TAI THAM VOWEL SIGN ", "A;MAI SAT;AA;TALL AA"⟩,
     ⟨0x1A65, "TAI THAM VOWEL SIGN ", "I;II;UE;UUE;U;UU;O;OA BELOW;OY;E;AE;OO;AI;THAM AI;OA ABOVE"⟩,
     ⟨0x1A74, "TAI THAM SIGN ", "MAI KANG;TONE-1;TONE-2;KHUEN TONE-3"⟩,
     ⟨0x1A78, "TAI THAM SIGN ", "KHUEN TONE-4;KHUEN TONE-5;RA HAAM;MAI SAM;KHUEN-LUE KARAN"⟩,
     ⟨0x1A7F, "", "TAI THAM COMBINING CRYPTOGRAMMIC DOT"⟩,
     ⟨0x1AA0, "TAI THAM SIGN ", "WIANG;WIANGWAAK;SAWAN;KEOW;HOY;DOKMAI;REVERSED ROTATED RANA"⟩,
     ⟨0x1AA7, "TAI THAM SIGN ", "MAI YAMOK;KAAN;KAANKUU;SATKAAN;SATKAANKUU;HANG;CAANG"⟩]

/-- Names in the block Balinese. -/
def balinese : NameBlock where
  first := 0x1B00
  last := 0x1B7F
  rows :=
    [⟨0x1B00, "BALINESE SIGN ", "ULU RICEM;ULU CANDRA;CECEK;SURANG;BISAH"⟩,
     ⟨0x1B05, "BALINESE LETTER ", "AKARA;AKARA TEDUNG;IKARA;IKARA TEDUNG;UKARA;UKARA TEDUNG"⟩,
     ⟨0x1B0B, "BALINESE LETTER ", "RA REPA;RA REPA TEDUNG;LA LENGA;LA LENGA TEDUNG;EKARA;AIKARA"⟩,
     ⟨0x1B11, "BALINESE LETTER ", "OKARA;OKARA TEDUNG;KA;KA MAHAPRANA;GA;GA GORA;NGA;CA;CA LACA"⟩,
     ⟨0x1B1A, "BALINESE LETTER ", "JA;JA JERA;NYA;TA LATIK;TA MURDA MAHAPRANA;DA MURDA ALPAPRANA"⟩,
     ⟨0x1B20, "BALINESE LETTER ", "DA MURDA MAHAPRANA;NA RAMBAT;TA;TA TAWA;DA;DA MADU;NA"⟩,
     ⟨0x1B27, "BALINESE LETTER ", "PA;PA KAPAL;BA;BA KEMBANG;MA;YA;RA;LA;WA;SA SAGA;SA SAPA;SA;HA"⟩,
     ⟨0x1B34, "", "BALINESE SIGN REREKAN"⟩,
     ⟨0x1B35, "BALINESE VOWEL SIGN ", "TEDUNG;ULU;ULU SARI;SUKU;SUKU ILUT;RA REPA"⟩,
     ⟨0x1B3B, "BALINESE VOWEL SIGN ", "RA REPA TEDUNG;LA LENGA;LA LENGA TEDUNG;TALING;TALING REPA"⟩,
     ⟨0x1B40, "BALINESE VOWEL SIGN ", "TALING TEDUNG;TALING REPA TEDUNG;PEPET;PEPET TEDUNG"⟩,
     ⟨0x1B44, "BALINESE ", "ADEG ADEG;LETTER KAF SASAK;LETTER KHOT SASAK;LETTER TZIR SASAK"⟩,
     ⟨0x1B48, "BALINESE LETTER ", "EF SASAK;VE SASAK;ZAL SASAK;ASYURA SASAK;ARCHAIC JNYA"⟩,
     ⟨0x1B4E, "BALINESE INVERTED CARIK ", "SIKI;PAREREN"⟩,
     ⟨0x1B5A, "BALINESE ", "PANTI;PAMADA;WINDU;CARIK PAMUNGKAH;CARIK SIKI;CARIK PAREREN;PAMENENG"⟩,
     ⟨0x1B61, "BALINESE MUSICAL SYMBOL ", "DONG;DENG;DUNG;DANG;DANG SURANG;DING;DAENG"⟩,
     ⟨0x1B68, "BALINESE MUSICAL SYMBOL ", "DEUNG;DAING;DANG GEDE;COMBINING TEGEH;COMBINING ENDEP"⟩,
     ⟨0x1B6D, "BALINESE MUSICAL SYMBOL COMBINING ", "KEMPUL;KEMPLI;JEGOGAN;KEMPUL WITH JEGOGAN"⟩,
     ⟨0x1B71, "BALINESE MUSICAL SYMBOL COMBINING ", "KEMPLI WITH JEGOGAN;BENDE;GONG"⟩,
     ⟨0x1B74, "BALINESE MUSICAL SYMBOL RIGHT-HAND ", "OPEN DUG;OPEN DAG;CLOSED TUK;CLOSED TAK"⟩,
     ⟨0x1B78, "BALINESE MUSICAL SYMBOL LEFT-HAND OPEN ", "PANG;PUNG"⟩,
     ⟨0x1B7A, "BALINESE MUSICAL SYMBOL LEFT-HAND ", "CLOSED PLAK;CLOSED PLUK;OPEN PING"⟩,
     ⟨0x1B7D, "BALINESE ", "PANTI LANTANG;PAMADA LANTANG;PANTI BAWAK"⟩]

/-- Names in the block Sundanese. -/
def sundanese : NameBlock where
  first := 0x1B80
  last := 0x1BBF
  rows :=
    [⟨0x1B80, "SUNDANESE SIGN ", "PANYECEK;PANGLAYAR;PANGWISAD"⟩,
     ⟨0x1B83, "SUNDANESE LETTER ", "A;I;U;AE;O;E;EU;KA;QA;GA"⟩,
     ⟨0x1B8D, "SUNDANESE LETTER ", "NGA;CA;JA;ZA;NYA;TA;DA;NA;PA;FA;VA;BA;MA;YA;RA;LA;WA;SA;XA;HA"⟩,
     ⟨0x1BA1, "SUNDANESE CONSONANT SIGN ", "PAMINGKAL;PANYAKRA;PANYIKU"⟩,
     ⟨0x1BA4, "SUNDANESE VOWEL SIGN ", "PANGHULU;PANYUKU;PANAELAENG;PANOLONG;PAMEPET;PANEULEUNG"⟩,
     ⟨0x1BAA, "SUNDANESE SIGN ", "PAMAAEH;VIRAMA"⟩,
     ⟨0x1BAC, "SUNDANESE CONSONANT SIGN PASANGAN ", "MA;WA"⟩,
     ⟨0x1BAE, "SUNDANESE LETTER ", "KHA;SYA"⟩,
     ⟨0x1BBA, "", "SUNDANESE AVAGRAHA"⟩,
     ⟨0x1BBB, "SUNDANESE LETTER ", "REU;LEU;BHA;FINAL K;FINAL M"⟩]

/-- Names in the block Batak. -/
def batak : NameBlock where
  first := 0x1BC0
  last := 0x1BFF
  rows :=
    [⟨0x1BC0, "BATAK LETTER ", "A;SIMALUNGUN A;HA;SIMALUNGUN HA;MANDAILING HA;BA;KARO BA"⟩,
     ⟨0x1BC7, "BATAK LETTER ", "PA;SIMALUNGUN PA;NA;MANDAILING NA;WA;SIMALUNGUN WA;PAKPAK WA"⟩,
     ⟨0x1BCE, "BATAK LETTER ", "GA;SIMALUNGUN GA;JA;DA;RA;SIMALUNGUN RA;MA;SIMALUNGUN MA"⟩,
     ⟨0x1BD6, "BATAK LETTER ", "SOUTHERN TA;NORTHERN TA;SA;SIMALUNGUN SA;MANDAILING SA"⟩,
     ⟨0x1BDB, "BATAK LETTER ", "YA;SIMALUNGUN YA;NGA;LA;SIMALUNGUN LA;NYA;CA;NDA;MBA;I;U"⟩,
     ⟨0x1BE6, "", "BATAK SIGN TOMPI"⟩,
     ⟨0x1BE7, "BATAK VOWEL SIGN ", "E;PAKPAK E;EE;I;KARO I;O;KARO O;U;U FOR SIMALUNGUN SA"⟩,
     ⟨0x1BF0, "BATAK ", "CONSONANT SIGN NG;CONSONANT SIGN H;PANGOLAT;PANONGONAN"⟩,
     ⟨0x1BFC, "BATAK SYMBOL BINDU ", "NA METEK;PINARBORAS;JUDUL;PANGOLAT"⟩]

/-- Names in the block Sundanese Supplement. -/
def sundaneseSupplement : NameBlock where
  first := 0x1CC0
  last := 0x1CCF
  rows :=
    [⟨0x1CC0, "SUNDANESE PUNCTUATION BINDU ", "SURYA;PANGLONG;PURNAMA"⟩,
     ⟨0x1CC3, "SUNDANESE PUNCTUATION BINDU ", "CAKRA;LEU SATANGA;KA SATANGA;DA SATANGA;BA SATANGA"⟩]

/-- Names in the block Kayah Li. -/
def kayahLi : NameBlock where
  first := 0xA900
  last := 0xA92F
  rows :=
    [⟨0xA90A, "KAYAH LI LETTER ", "KA;KHA;GA;NGA;SA;SHA;ZA;NYA"⟩,
     ⟨0xA912, "KAYAH LI LETTER ", "TA;HTA;NA;PA;PHA;MA;DA;BA;RA;YA;LA;WA;THA;HA;VA;CA;A;OE;I;OO"⟩,
     ⟨0xA926, "KAYAH LI VOWEL ", "UE;E;U;EE;O"⟩,
     ⟨0xA92B, "KAYAH LI ", "TONE PLOPHU;TONE CALYA;TONE CALYA PLOPHU;SIGN CWI;SIGN SHYA"⟩]

/-- Names in the block Rejang. -/
def rejang : NameBlock where
  first := 0xA930
  last := 0xA95F
  rows :=
    [⟨0xA930, "REJANG LETTER ", "KA;GA;NGA;TA"⟩,
     ⟨0xA934, "REJANG LETTER ", "DA;NA;PA;BA;MA;CA;JA;NYA;SA;RA;LA;YA;WA;HA;MBA;NGGA;NDA;NYJA;A"⟩,
     ⟨0xA947, "REJANG VOWEL SIGN ", "I;U;E;AI;O;AU;EU;EA"⟩,
     ⟨0xA94F, "REJANG CONSONANT SIGN ", "NG;N;R;H"⟩,
     ⟨0xA953, "", "REJANG VIRAMA"⟩,
     ⟨0xA95F, "", "REJANG SECTION MARK"⟩]

/-- Names in the block Javanese. -/
def javanese : NameBlock where
  first := 0xA980
  last := 0xA9DF
  rows :=
    [⟨0xA980, "JAVANESE SIGN ", "PANYANGGA;CECAK;LAYAR;WIGNYAN"⟩,
     ⟨0xA984, "JAVANESE LETTER ", "A;I KAWI;I;II;U;PA CEREK;NGA LELET;NGA LELET RASWADI"⟩,
     ⟨0xA98C, "JAVANESE LETTER ", "E;AI;O;KA;KA SASAK;KA MURDA;GA;GA MURDA;NGA;CA;CA MURDA;JA"⟩,
     ⟨0xA998, "JAVANESE LETTER ", "NYA MURDA;JA MAHAPRANA;NYA;TTA;TTA MAHAPRANA;DDA;DDA MAHAPRANA"⟩,
     ⟨0xA99F, "JAVANESE LETTER ", "NA MURDA;TA;TA MURDA;DA;DA MAHAPRANA;NA;PA;PA MURDA;BA"⟩,
     ⟨0xA9A8, "JAVANESE LETTER ", "BA MURDA;MA;YA;RA;RA AGUNG;LA;WA;SA MURDA;SA MAHAPRANA;SA;HA"⟩,
     ⟨0xA9B3, "JAVANESE ", "SIGN CECAK TELU;VOWEL SIGN TARUNG;VOWEL SIGN TOLONG"⟩,
     ⟨0xA9B6, "JAVANESE VOWEL SIGN ", "WULU;WULU MELIK;SUKU;SUKU MENDUT;TALING;DIRGA MURE;PEPET"⟩,
     ⟨0xA9BD, "JAVANESE CONSONANT SIGN ", "KERET;PENGKAL;CAKRA"⟩,
     ⟨0xA9C0, "JAVANESE ", "PANGKON;LEFT RERENGGAN;RIGHT RERENGGAN"⟩,
     ⟨0xA9C3, "JAVANESE PADA ", "ANDAP;MADYA;LUHUR;WINDU;PANGKAT;LINGSA;LUNGSI;ADEG;ADEG ADEG"⟩,
     ⟨0xA9CC, "JAVANESE ", "PADA PISELEH;TURNED PADA PISELEH"⟩,
     ⟨0xA9CF, "", "JAVANESE PANGRANGKEP"⟩,
     ⟨0xA9DE, "JAVANESE PADA ", "TIRTA TUMETES;ISEN-ISEN"⟩]

/-- Names in the block Myanmar Extended-B. -/
def myanmarExtendedB : NameBlock where
  first := 0xA9E0
  last := 0xA9FF
  rows :=
    [⟨0xA9E0, "MYANMAR LETTER SHAN ", "GHA;CHA;JHA;NNA;BHA"⟩,
     ⟨0xA9E5, "MYANMAR ", "SIGN SHAN SAW;MODIFIER LETTER SHAN REDUPLICATION"⟩,
     ⟨0xA9E7, "MYANMAR LETTER TAI LAING ", "NYA;FA;GA;GHA;JA;JHA;DDA;DDHA;NNA"⟩,
     ⟨0xA9FA, "MYANMAR LETTER TAI LAING ", "LLA;DA;DHA;BA;BHA"⟩]

/-- Names in the block Cham. -/
def cham : NameBlock where
  first := 0xAA00
  last := 0xAA5F
  rows :=
    [⟨0xAA00, "CHAM LETTER ", "A;I;U;E;AI"⟩,
     ⟨0xAA05, "CHAM LETTER ", "O;KA;KHA;GA;GHA;NGUE;NGA;CHA;CHHA;JA;JHA;NHUE;NHA;NHJA;TA;THA;DA"⟩,
     ⟨0xAA16, "CHAM LETTER ", "DHA;NUE;NA;DDA;PA;PPA;PHA;BA;BHA;MUE;MA;BBA;YA;RA;LA;VA;SSA;SA;HA"⟩,
     ⟨0xAA29, "CHAM VOWEL SIGN ", "AA;I;II;EI;U;OE;O;AI;AU;UE"⟩,
     ⟨0xAA33, "CHAM CONSONANT SIGN ", "YA;RA;LA;WA"⟩,
     ⟨0xAA40, "CHAM LETTER FINAL ", "K;G;NG"⟩,
     ⟨0xAA43, "", "CHAM CONSONANT SIGN FINAL NG"⟩,
     ⟨0xAA44, "CHAM LETTER FINAL ", "CH;T;N;P;Y;R;L;SS"⟩,
     ⟨0xAA4C, "CHAM CONSONANT SIGN FINAL ", "M;H"⟩,
     ⟨0xAA5C, "CHAM PUNCTUATION ", "SPIRAL;DANDA;DOUBLE DANDA;TRIPLE DANDA"⟩]

/-- Names in the block Myanmar Extended-A. -/
def myanmarExtendedA : NameBlock where
  first := 0xAA60
  last := 0xAA7F
  rows :=
    [⟨0xAA60, "MYANMAR LETTER KHAMTI ", "GA;CA;CHA;JA;JHA;NYA;TTA;TTHA;DDA;DDHA;DHA;NA;SA;HA;HHA"⟩,
     ⟨0xAA6F, "MYANMAR ", "LETTER KHAMTI FA;MODIFIER LETTER KHAMTI REDUPLICATION"⟩,
     ⟨0xAA71, "MYANMAR LETTER KHAMTI ", "XA;ZA;RA"⟩,
     ⟨0xAA74, "MYANMAR LOGOGRAM KHAMTI ", "OAY;QN;HM"⟩,
     ⟨0xAA77, "MYANMAR SYMBOL AITON ", "EXCLAMATION;ONE;TWO"⟩,
     ⟨0xAA7A, "MYANMAR ", "LETTER AITON RA;SIGN PAO KAREN TONE"⟩,
     ⟨0xAA7C, "MYANMAR SIGN TAI LAING TONE-", "2;5"⟩,
     ⟨0xAA7E, "MYANMAR LETTER SHWE PALAUNG ", "CHA;SHA"⟩]

/-- Names in the block Tai Viet. -/
def taiViet : NameBlock where
  first := 0xAA80
  last := 0xAADF
  rows :=
    [⟨0xAA80, "TAI VIET LETTER ", "LOW KO;HIGH KO;LOW KHO"⟩,
     ⟨0xAA83, "TAI VIET LETTER ", "HIGH KHO;LOW KHHO;HIGH KHHO;LOW GO;HIGH GO;LOW NGO;HIGH NGO"⟩,
     ⟨0xAA8A, "TAI VIET LETTER ", "LOW CO;HIGH CO;LOW CHO;HIGH CHO;LOW SO;HIGH SO;LOW NYO"⟩,
     ⟨0xAA91, "TAI VIET LETTER ", "HIGH NYO;LOW DO;HIGH DO;LOW TO;HIGH TO;LOW THO;HIGH THO"⟩,
     ⟨0xAA98, "TAI VIET LETTER ", "LOW NO;HIGH NO;LOW BO;HIGH BO;LOW PO;HIGH PO;LOW PHO;HIGH PHO"⟩,
     ⟨0xAAA0, "TAI VIET LETTER ", "LOW FO;HIGH FO;LOW MO;HIGH MO;LOW YO;HIGH YO;LOW RO;HIGH RO"⟩,
     ⟨0xAAA8, "TAI VIET LETTER ", "LOW LO;HIGH LO;LOW VO;HIGH VO;LOW HO;HIGH HO;LOW O;HIGH O"⟩,
     ⟨0xAAB0, "TAI VIET ", "MAI KANG;VOWEL AA;VOWEL I;VOWEL UE;VOWEL U;VOWEL E;VOWEL O;MAI KHIT"⟩,
     ⟨0xAAB8, "TAI VIET VOWEL ", "IA;UEA;UA;AUE;AY;AN;AM"⟩,
     ⟨0xAABF, "TAI VIET TONE MAI ", "EK;NUENG;THO;SONG"⟩,
     ⟨0xAADB, "TAI VIET SYMBOL ", "KON;NUENG;SAM;HO HOI;KOI KOI"⟩]

/-- Names in the block Pau Cin Hau. -/
def pauCinHau : NameBlock where
  first := 0x11AC0
  last := 0x11AFF
  rows :=
    [⟨0x11AC0, "PAU CIN HAU LETTER ", "PA;KA;LA;MA;DA;ZA;VA;NGA"⟩,
     ⟨0x11AC8, "PAU CIN HAU LETTER ", "HA;GA;KHA;SA;BA;CA;TA;THA;NA;PHA;RA;FA;CHA;A;E;I;O;U;UA;IA"⟩,
     ⟨0x11ADC, "PAU CIN HAU LETTER FINAL ", "P;K;T;M;N;L;W;NG;Y"⟩,
     ⟨0x11AE5, "PAU CIN HAU ", "RISING TONE LONG;RISING TONE;SANDHI GLOTTAL STOP"⟩,
     ⟨0x11AE8, "PAU CIN HAU RISING TONE ", "LONG FINAL;FINAL"⟩,
     ⟨0x11AEA, "PAU CIN HAU SANDHI ", "GLOTTAL STOP FINAL;TONE LONG;TONE;TONE LONG FINAL"⟩,
     ⟨0x11AEE, "PAU CIN HAU ", "SANDHI TONE FINAL;MID-LEVEL TONE;GLOTTAL STOP VARIANT"⟩,
     ⟨0x11AF1, "PAU CIN HAU MID-LEVEL TONE ", "LONG FINAL;FINAL"⟩,
     ⟨0x11AF3, "PAU CIN HAU ", "LOW-FALLING TONE LONG;LOW-FALLING TONE;GLOTTAL STOP"⟩,
     ⟨0x11AF6, "PAU CIN HAU LOW-FALLING TONE ", "LONG FINAL;FINAL"⟩,
     ⟨0x11AF8, "", "PAU CIN HAU GLOTTAL STOP FINAL"⟩]

/-- Names in the block Makasar. -/
def makasar : NameBlock where
  first := 0x11EE0
  last := 0x11EFF
  rows :=
    [⟨0x11EE0, "MAKASAR LETTER ", "KA;GA;NGA;PA;BA;MA;TA;DA;NA;CA;JA;NYA;YA;RA;LA;VA;SA;A"⟩,
     ⟨0x11EF2, "", "MAKASAR ANGKA"⟩,
     ⟨0x11EF3, "MAKASAR VOWEL SIGN ", "I;U;E;O"⟩,
     ⟨0x11EF7, "MAKASAR ", "PASSIMBANG;END OF SECTION"⟩]

/-- Names in the block Kawi. -/
def kawi : NameBlock where
  first := 0x11F00
  last := 0x11F5F
  rows :=
    [⟨0x11F00, "KAWI SIGN ", "CANDRABINDU;ANUSVARA;REPHA;VISARGA"⟩,
     ⟨0x11F04, "KAWI LETTER ", "A;AA;I;II;U;UU;VOCALIC R;VOCALIC RR;VOCALIC L;VOCALIC LL;E;AI;O"⟩,
     ⟨0x11F12, "KAWI LETTER ", "KA;KHA;GA;GHA;NGA;CA;CHA;JA;JHA;NYA;TTA;TTHA;DDA;DDHA;NNA"⟩,
     ⟨0x11F21, "KAWI LETTER ", "TA;THA;DA;DHA;NA;PA;PHA;BA;BHA;MA;YA;RA;LA;WA;SHA;SSA;SA;HA;JNYA"⟩,
     ⟨0x11F34, "KAWI VOWEL SIGN ", "AA;ALTERNATE AA;I;II;U;UU;VOCALIC R"⟩,
     ⟨0x11F3E, "KAWI VOWEL SIGN ", "E;AI;EU"⟩,
     ⟨0x11F41, "KAWI ", "SIGN KILLER;CONJOINER;DANDA;DOUBLE DANDA;PUNCTUATION SECTION MARKER"⟩,
     ⟨0x11F46, "KAWI PUNCTUATION ", "ALTERNATE SECTION MARKER;FLOWER;SPACE FILLER;DOT;DOUBLE DOT"⟩,
     ⟨0x11F4B, "KAWI PUNCTUATION ", "TRIPLE DOT;CIRCLE;FILLED CIRCLE;SPIRAL;CLOSING SPIRAL"⟩,
     ⟨0x11F5A, "", "KAWI SIGN NUKTA"⟩]

/-- Names in the block Pahawh Hmong. -/
def pahawhHmong : NameBlock where
  first := 0x16B00
  last := 0x16B8F
  rows :=
    [⟨0x16B00, "PAHAWH HMONG VOWEL ", "KEEB;KEEV"⟩,
     ⟨0x16B02, "PAHAWH HMONG VOWEL ", "KIB;KIV;KAUB;KAUV;KUB;KUV;KEB;KEV;KAIB;KAIV;KOOB;KOOV;KAWB"⟩,
     ⟨0x16B0F, "PAHAWH HMONG VOWEL ", "KAWV;KUAB;KUAV;KOB;KOV;KIAB;KIAV;KAB;KAV;KWB;KWV;KAAB;KAAV"⟩,
     ⟨0x16B1C, "PAHAWH HMONG CONSONANT ", "VAU;NTSAU;LAU;HAU;NLAU;RAU;NKAU;QHAU;YAU"⟩,
     ⟨0x16B25, "PAHAWH HMONG CONSONANT ", "HLAU;MAU;CHAU;NCHAU;HNAU;PLHAU;NTHAU;NAU;AU;XAU;CAU"⟩,
     ⟨0x16B30, "PAHAWH HMONG MARK CIM ", "TUB;SO;KES;KHAV;SUAM;HOM;TAUM"⟩,
     ⟨0x16B37, "PAHAWH HMONG SIGN ", "VOS THOM;VOS TSHAB CEEB;CIM CHEEM;VOS THIAB;VOS FEEM"⟩,
     ⟨0x16B3C, "PAHAWH HMONG SIGN XYEEM ", "NTXIV;RHO;TOV;FAIB"⟩,
     ⟨0x16B40, "PAHAWH HMONG SIGN ", "VOS SEEV;MEEJ SUAB;VOS NRUA;IB YAM;XAUS;CIM TSOV ROG"⟩,
     ⟨0x16B5B, "PAHAWH HMONG NUMBER ", "TENS;HUNDREDS;TEN THOUSANDS"⟩,
     ⟨0x16B5E, "PAHAWH HMONG NUMBER ", "MILLIONS;HUNDRED MILLIONS;TEN BILLIONS;TRILLIONS"⟩,
     ⟨0x16B63, "", "PAHAWH HMONG SIGN VOS LUB"⟩,
     ⟨0x16B64, "PAHAWH HMONG SIGN ", "XYOO;HLI;THIRD-STAGE HLI;ZWJ THAJ;HNUB;NQIG;XIAB;NTUJ;AV"⟩,
     ⟨0x16B6D, "PAHAWH HMONG SIGN ", "TXHEEJ CEEV;MEEJ TSEEB;TAU;LOS;MUS;CIM HAIS LUS NTOG NTOG"⟩,
     ⟨0x16B73, "PAHAWH HMONG SIGN CIM ", "CUAM TSHOOJ;TXWV;TXWV CHWV;PUB DAWB;NRES TOS"⟩,
     ⟨0x16B7D, "PAHAWH HMONG CLAN SIGN ", "TSHEEJ;YEEG;LIS;LAUJ;XYOOJ;KOO;HAWJ"⟩,
     ⟨0x16B84, "PAHAWH HMONG CLAN SIGN ", "MUAS;THOJ;TSAB;PHAB;KHAB;HAM;VAJ;FAJ;YAJ;TSWB;KWM;VWJ"⟩]

/-- Names in the block Nyiakeng Puachue Hmong. -/
def nyiakengPuachueHmong : NameBlock where
  first := 0x1E100
  last := 0x1E14F
  rows :=
    [⟨0x1E100, "NYIAKENG PUACHUE HMONG LETTER ", "MA;TSA;NTA"⟩,
     ⟨0x1E103, "NYIAKENG PUACHUE HMONG LETTER ", "TA;HA;NA;XA;NKA;CA;LA;SA;ZA;NCA;NTSA;KA;DA;NYA"⟩,
     ⟨0x1E111, "NYIAKENG PUACHUE HMONG LETTER ", "NRA;VA;NTXA;TXA;FA;RA;QA;YA;NQA;PA;XYA;NPA;DLA"⟩,
     ⟨0x1E11E, "NYIAKENG PUACHUE HMONG LETTER ", "NPLA;HAH;MLA;PLA;GA;RRA;A;AA;I;U;O;OO;E;EE;W"⟩,
     ⟨0x1E130, "NYIAKENG PUACHUE HMONG TONE-", "B;M;J;V;S;G;D"⟩,
     ⟨0x1E137, "NYIAKENG PUACHUE HMONG SIGN FOR ", "PERSON;THING;LOCATION;ANIMAL;INVERTEBRATE"⟩,
     ⟨0x1E13C, "NYIAKENG PUACHUE HMONG ", "SIGN XW XW;SYLLABLE LENGTHENER"⟩,
     ⟨0x1E14E, "NYIAKENG PUACHUE HMONG ", "LOGOGRAM NYAJ;CIRCLED CA"⟩]

end NameBlock

/-- The blocks of this module. -/
def southeastAsianBlocks : List NameBlock :=
  [.thai, .lao, .myanmar, .tagalog, .hanunoo, .buhid, .tagbanwa, .khmer, .taiLe, .newTaiLue,
   .khmerSymbols, .buginese, .taiTham, .balinese, .sundanese, .batak, .sundaneseSupplement,
   .kayahLi, .rejang, .javanese, .myanmarExtendedB, .cham, .myanmarExtendedA, .taiViet,
   .pauCinHau, .makasar, .kawi, .pahawhHmong, .nyiakengPuachueHmong]

end Text
end Scripting
