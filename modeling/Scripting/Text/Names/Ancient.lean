import Scripting.Text.Names.Block

namespace Scripting
namespace Text

/-!
Names of signs of scripts from antiquity.
-/

namespace NameBlock

/-- Names in the block Linear B Syllabary. -/
def linearBSyllabary : NameBlock where
  first := 0x10000
  last := 0x1007F
  rows :=
    [⟨0x10000, "LINEAR B SYLLABLE ", "B008 A;B038 E;B028 I;B061 O;B010 U"⟩,
     ⟨0x10005, "LINEAR B SYLLABLE ", "B001 DA;B045 DE;B007 DI;B014 DO;B051 DU;B057 JA;B046 JE"⟩,
     ⟨0x1000D, "LINEAR B SYLLABLE ", "B036 JO;B065 JU;B077 KA;B044 KE;B067 KI"⟩,
     ⟨0x10012, "LINEAR B SYLLABLE ", "B070 KO;B081 KU;B080 MA;B013 ME;B073 MI;B015 MO;B023 MU"⟩,
     ⟨0x10019, "LINEAR B SYLLABLE ", "B006 NA;B024 NE;B030 NI;B052 NO;B055 NU;B003 PA;B072 PE"⟩,
     ⟨0x10020, "LINEAR B SYLLABLE ", "B039 PI;B011 PO;B050 PU;B016 QA;B078 QE;B021 QI;B032 QO"⟩,
     ⟨0x10028, "LINEAR B SYLLABLE ", "B060 RA;B027 RE;B053 RI;B002 RO;B026 RU"⟩,
     ⟨0x1002D, "LINEAR B SYLLABLE ", "B031 SA;B009 SE;B041 SI;B012 SO;B058 SU;B059 TA;B004 TE"⟩,
     ⟨0x10034, "LINEAR B SYLLABLE ", "B037 TI;B005 TO;B069 TU;B054 WA;B075 WE;B040 WI;B042 WO"⟩,
     ⟨0x1003C, "LINEAR B SYLLABLE ", "B017 ZA;B074 ZE"⟩,
     ⟨0x1003F, "LINEAR B SYLLABLE ", "B020 ZO;B025 A2;B043 A3"⟩,
     ⟨0x10042, "LINEAR B SYLLABLE ", "B085 AU;B071 DWE;B090 DWO;B048 NWA;B029 PU2;B062 PTE"⟩,
     ⟨0x10048, "LINEAR B SYLLABLE ", "B076 RA2;B033 RA3;B068 RO2;B066 TA2;B087 TWE;B091 TWO"⟩,
     ⟨0x10050, "LINEAR B SYMBOL ", "B018;B019"⟩,
     ⟨0x10052, "LINEAR B SYMBOL ", "B022;B034;B047;B049;B056;B063;B064;B079;B082;B083;B086;B089"⟩]

/-- Names in the block Linear B Ideograms. -/
def linearBIdeograms : NameBlock where
  first := 0x10080
  last := 0x100FF
  rows :=
    [⟨0x10080, "LINEAR B IDEOGRAM ", "B100 MAN;B102 WOMAN;B104 DEER;B105 EQUID;B105F MARE"⟩,
     ⟨0x10085, "LINEAR B IDEOGRAM ", "B105M STALLION;B106F EWE;B106M RAM;B107F SHE-GOAT"⟩,
     ⟨0x10089, "LINEAR B IDEOGRAM ", "B107M HE-GOAT;B108F SOW;B108M BOAR;B109F COW;B109M BULL"⟩,
     ⟨0x1008E, "LINEAR B IDEOGRAM ", "B120 WHEAT;B121 BARLEY;B122 OLIVE;B123 SPICE;B125 CYPERUS"⟩,
     ⟨0x10093, "LINEAR B MONOGRAM ", "B127 KAPO;B128 KANAKO"⟩,
     ⟨0x10095, "LINEAR B IDEOGRAM ", "B130 OIL;B131 WINE;B132"⟩,
     ⟨0x10098, "LINEAR B ", "MONOGRAM B133 AREPA;MONOGRAM B135 MERI;IDEOGRAM B140 BRONZE"⟩,
     ⟨0x1009B, "LINEAR B IDEOGRAM ", "B141 GOLD;B142;B145 WOOL;B146;B150;B151 HORN;B152;B153;B154"⟩,
     ⟨0x100A4, "LINEAR B ", "MONOGRAM B156 TURO2;IDEOGRAM B157"⟩,
     ⟨0x100A6, "LINEAR B IDEOGRAM ", "B158;B159 CLOTH;B160;B161;B162 GARMENT;B163 ARMOUR;B164"⟩,
     ⟨0x100AD, "LINEAR B IDEOGRAM ", "B165;B166;B167;B168;B169;B170;B171;B172;B173 MONTH;B174"⟩,
     ⟨0x100B7, "LINEAR B IDEOGRAM ", "B176 TREE;B177;B178;B179;B180;B181;B182;B183;B184;B185;B189"⟩,
     ⟨0x100C2, "LINEAR B IDEOGRAM ", "B190;B191 HELMET;B220 FOOTSTOOL;B225 BATHTUB;B230 SPEAR"⟩,
     ⟨0x100C7, "LINEAR B IDEOGRAM ", "B231 ARROW;B232;B233 SWORD;B234;B236;B240 WHEELED CHARIOT"⟩,
     ⟨0x100CD, "LINEAR B IDEOGRAM ", "B241 CHARIOT;B242 CHARIOT FRAME;B243 WHEEL;B245;B246"⟩,
     ⟨0x100D2, "", "LINEAR B MONOGRAM B247 DIPTE"⟩,
     ⟨0x100D3, "LINEAR B IDEOGRAM ", "B248;B249;B251;B252;B253;B254 DART;B255;B256;B257;B258;B259"⟩,
     ⟨0x100DE, "LINEAR B IDEOGRAM VESSEL ", "B155;B200;B201;B202;B203;B204;B205;B206;B207"⟩,
     ⟨0x100E7, "LINEAR B IDEOGRAM VESSEL ", "B208;B209;B210;B211;B212;B213;B214;B215;B216;B217"⟩,
     ⟨0x100F1, "LINEAR B IDEOGRAM VESSEL ", "B218;B219;B221;B222;B226;B227;B228;B229;B250;B305"⟩]

/-- Names in the block Aegean Numbers. -/
def aegeanNumbers : NameBlock where
  first := 0x10100
  last := 0x1013F
  rows :=
    [⟨0x10100, "AEGEAN ", "WORD SEPARATOR LINE;WORD SEPARATOR DOT;CHECK MARK"⟩,
     ⟨0x10107, "AEGEAN NUMBER ", "ONE;TWO;THREE;FOUR"⟩,
     ⟨0x1010B, "AEGEAN NUMBER ", "FIVE;SIX;SEVEN;EIGHT;NINE;TEN;TWENTY;THIRTY;FORTY;FIFTY;SIXTY"⟩,
     ⟨0x10116, "AEGEAN NUMBER ", "SEVENTY;EIGHTY;NINETY;ONE HUNDRED;TWO HUNDRED;THREE HUNDRED"⟩,
     ⟨0x1011C, "AEGEAN NUMBER ", "FOUR HUNDRED;FIVE HUNDRED;SIX HUNDRED;SEVEN HUNDRED"⟩,
     ⟨0x10120, "AEGEAN NUMBER ", "EIGHT HUNDRED;NINE HUNDRED;ONE THOUSAND;TWO THOUSAND"⟩,
     ⟨0x10124, "AEGEAN NUMBER ", "THREE THOUSAND;FOUR THOUSAND;FIVE THOUSAND;SIX THOUSAND"⟩,
     ⟨0x10128, "AEGEAN NUMBER ", "SEVEN THOUSAND;EIGHT THOUSAND;NINE THOUSAND;TEN THOUSAND"⟩,
     ⟨0x1012C, "AEGEAN NUMBER ", "TWENTY THOUSAND;THIRTY THOUSAND;FORTY THOUSAND;FIFTY THOUSAND"⟩,
     ⟨0x10130, "AEGEAN NUMBER ", "SIXTY THOUSAND;SEVENTY THOUSAND;EIGHTY THOUSAND;NINETY THOUSAND"⟩,
     ⟨0x10137, "", "AEGEAN WEIGHT BASE UNIT"⟩,
     ⟨0x10138, "AEGEAN WEIGHT ", "FIRST SUBUNIT;SECOND SUBUNIT;THIRD SUBUNIT;FOURTH SUBUNIT"⟩,
     ⟨0x1013C, "AEGEAN ", "DRY MEASURE FIRST SUBUNIT;LIQUID MEASURE FIRST SUBUNIT"⟩,
     ⟨0x1013E, "AEGEAN MEASURE ", "SECOND SUBUNIT;THIRD SUBUNIT"⟩]

/-- Names in the block Ancient Greek Numbers. -/
def ancientGreekNumbers : NameBlock where
  first := 0x10140
  last := 0x1018F
  rows :=
    [⟨0x10140, "GREEK ACROPHONIC ATTIC ", "ONE QUARTER;ONE HALF;ONE DRACHMA;FIVE;FIFTY"⟩,
     ⟨0x10145, "GREEK ACROPHONIC ATTIC ", "FIVE HUNDRED;FIVE THOUSAND;FIFTY THOUSAND;FIVE TALENTS"⟩,
     ⟨0x10149, "GREEK ACROPHONIC ATTIC ", "TEN TALENTS;FIFTY TALENTS;ONE HUNDRED TALENTS"⟩,
     ⟨0x1014C, "GREEK ACROPHONIC ATTIC ", "FIVE HUNDRED TALENTS;ONE THOUSAND TALENTS"⟩,
     ⟨0x1014E, "GREEK ACROPHONIC ATTIC FIVE ", "THOUSAND TALENTS;STATERS"⟩,
     ⟨0x10150, "GREEK ACROPHONIC ATTIC ", "TEN STATERS;FIFTY STATERS;ONE HUNDRED STATERS"⟩,
     ⟨0x10153, "GREEK ACROPHONIC ATTIC ", "FIVE HUNDRED STATERS;ONE THOUSAND STATERS"⟩,
     ⟨0x10155, "GREEK ACROPHONIC ATTIC ", "TEN THOUSAND STATERS;FIFTY THOUSAND STATERS;TEN MNAS"⟩,
     ⟨0x10158, "GREEK ACROPHONIC ", "HERAEUM ONE PLETHRON;THESPIAN ONE;HERMIONIAN ONE"⟩,
     ⟨0x1015B, "GREEK ACROPHONIC ", "EPIDAUREAN TWO;THESPIAN TWO;CYRENAIC TWO DRACHMAS"⟩,
     ⟨0x1015E, "GREEK ACROPHONIC ", "EPIDAUREAN TWO DRACHMAS;TROEZENIAN FIVE"⟩,
     ⟨0x10160, "GREEK ACROPHONIC ", "TROEZENIAN TEN;TROEZENIAN TEN ALTERNATE FORM;HERMIONIAN TEN"⟩,
     ⟨0x10163, "GREEK ACROPHONIC ", "MESSENIAN TEN;THESPIAN TEN;THESPIAN THIRTY;TROEZENIAN FIFTY"⟩,
     ⟨0x10167, "GREEK ACROPHONIC ", "TROEZENIAN FIFTY ALTERNATE FORM;HERMIONIAN FIFTY"⟩,
     ⟨0x10169, "GREEK ACROPHONIC THESPIAN ", "FIFTY;ONE HUNDRED;THREE HUNDRED"⟩,
     ⟨0x1016C, "GREEK ACROPHONIC ", "EPIDAUREAN FIVE HUNDRED;TROEZENIAN FIVE HUNDRED"⟩,
     ⟨0x1016E, "GREEK ACROPHONIC ", "THESPIAN FIVE HUNDRED;CARYSTIAN FIVE HUNDRED"⟩,
     ⟨0x10170, "GREEK ACROPHONIC ", "NAXIAN FIVE HUNDRED;THESPIAN ONE THOUSAND"⟩,
     ⟨0x10172, "GREEK ACROPHONIC ", "THESPIAN FIVE THOUSAND;DELPHIC FIVE MNAS;STRATIAN FIFTY MNAS"⟩,
     ⟨0x10175, "GREEK ONE HALF ", "SIGN;SIGN ALTERNATE FORM"⟩,
     ⟨0x10177, "GREEK ", "TWO THIRDS SIGN;THREE QUARTERS SIGN;YEAR SIGN;TALENT SIGN"⟩,
     ⟨0x1017B, "GREEK ", "DRACHMA SIGN;OBOL SIGN;TWO OBOLS SIGN;THREE OBOLS SIGN;FOUR OBOLS SIGN"⟩,
     ⟨0x10180, "GREEK ", "FIVE OBOLS SIGN;METRETES SIGN;KYATHOS BASE SIGN;LITRA SIGN;OUNKIA SIGN"⟩,
     ⟨0x10185, "GREEK ", "XESTES SIGN;ARTABE SIGN;AROURA SIGN;GRAMMA SIGN;TRYBLION BASE SIGN"⟩,
     ⟨0x1018A, "GREEK ", "ZERO SIGN;ONE QUARTER SIGN;SINUSOID SIGN;INDICTION SIGN"⟩,
     ⟨0x1018E, "", "NOMISMA SIGN"⟩]

/-- Names in the block Ancient Symbols. -/
def ancientSymbols : NameBlock where
  first := 0x10190
  last := 0x101CF
  rows :=
    [⟨0x10190, "ROMAN ", "SEXTANS SIGN;UNCIA SIGN;SEMUNCIA SIGN;SEXTULA SIGN;DIMIDIA SEXTULA SIGN"⟩,
     ⟨0x10195, "ROMAN ", "SILIQUA SIGN;DENARIUS SIGN;QUINARIUS SIGN;SESTERTIUS SIGN"⟩,
     ⟨0x10199, "", "ROMAN DUPONDIUS SIGN;ROMAN AS SIGN;ROMAN CENTURIAL SIGN;ASCIA SYMBOL"⟩,
     ⟨0x101A0, "", "GREEK SYMBOL TAU RHO"⟩]

/-- Names in the block Phaistos Disc. -/
def phaistosDisc : NameBlock where
  first := 0x101D0
  last := 0x101FF
  rows :=
    [⟨0x101D0, "PHAISTOS DISC SIGN ", "PEDESTRIAN;PLUMED HEAD"⟩,
     ⟨0x101D2, "PHAISTOS DISC SIGN ", "TATTOOED HEAD;CAPTIVE;CHILD;WOMAN;HELMET;GAUNTLET"⟩,
     ⟨0x101D8, "PHAISTOS DISC SIGN ", "TIARA;ARROW;BOW;SHIELD;CLUB;MANACLES;MATTOCK;SAW;LID"⟩,
     ⟨0x101E1, "PHAISTOS DISC SIGN ", "BOOMERANG;CARPENTRY PLANE;DOLIUM;COMB;SLING;COLUMN;BEEHIVE"⟩,
     ⟨0x101E8, "PHAISTOS DISC SIGN ", "SHIP;HORN;HIDE;BULLS LEG;CAT;RAM;EAGLE;DOVE;TUNNY;BEE"⟩,
     ⟨0x101F2, "PHAISTOS DISC SIGN ", "PLANE TREE;VINE;PAPYRUS;ROSETTE;LILY;OX BACK;FLUTE;GRATER"⟩,
     ⟨0x101FA, "PHAISTOS DISC SIGN ", "STRAINER;SMALL AXE;WAVY BAND;COMBINING OBLIQUE STROKE"⟩]

/-- Names in the block Lycian. -/
def lycian : NameBlock where
  first := 0x10280
  last := 0x1029F
  rows :=
    [⟨0x10280, "", "LYCIAN LETTER A"⟩,
     ⟨0x10281, "LYCIAN LETTER ", "E;B;BH;G;D;I;W;Z;TH;J;K;Q;L;M;N;MM;NN;U;P;KK;R;S;T;TT;AN;EN;H;X"⟩]

/-- Names in the block Carian. -/
def carian : NameBlock where
  first := 0x102A0
  last := 0x102DF
  rows :=
    [⟨0x102A0, "CARIAN LETTER ", "A;P2;D;L;UUU;R;LD;A2"⟩,
     ⟨0x102A8, "CARIAN LETTER ", "Q;B;M;O;D2;T;SH;SH2;S;C-18;U;NN;X;N;TT2;P;SS;I;E;UUUU;K;K2;ND"⟩,
     ⟨0x102BF, "CARIAN LETTER ", "UU;G;G2;ST;ST2;NG;II;C-39;TT;UUU2;RR;MB;MB2;MB3;MB4;LD2;E2;UUU3"⟩]

/-- Names in the block Linear A. -/
def linearA : NameBlock where
  first := 0x10600
  last := 0x1077F
  rows :=
    [⟨0x10600, "LINEAR A SIGN ", "AB001;AB002;AB003;AB004;AB005;AB006"⟩,
     ⟨0x10606, "LINEAR A SIGN ", "AB007;AB008;AB009;AB010;AB011;AB013;AB016;AB017;AB020;AB021"⟩,
     ⟨0x10610, "LINEAR A SIGN ", "AB021F;AB021M;AB022;AB022F;AB022M;AB023;AB023M;AB024;AB026"⟩,
     ⟨0x10619, "LINEAR A SIGN ", "AB027;AB028;A028B;AB029;AB030;AB031;AB034;AB037;AB038;AB039"⟩,
     ⟨0x10623, "LINEAR A SIGN ", "AB040;AB041;AB044;AB045;AB046;AB047;AB048;AB049;AB050;AB051"⟩,
     ⟨0x1062D, "LINEAR A SIGN ", "AB053;AB054;AB055;AB056;AB057;AB058;AB059;AB060;AB061;AB065"⟩,
     ⟨0x10637, "LINEAR A SIGN ", "AB066;AB067;AB069;AB070;AB073;AB074;AB076;AB077;AB078;AB079"⟩,
     ⟨0x10641, "LINEAR A SIGN ", "AB080;AB081;AB082;AB085;AB086;AB087;A100-102;AB118;AB120;A120B"⟩,
     ⟨0x1064B, "LINEAR A SIGN ", "AB122;AB123;AB131A;AB131B;A131C;AB164;AB171;AB180;AB188;AB191"⟩,
     ⟨0x10655, "LINEAR A SIGN ", "A301;A302;A303;A304;A305;A306;A307;A308;A309A;A309B;A309C;A310"⟩,
     ⟨0x10661, "LINEAR A SIGN ", "A311;A312;A313A;A313B;A313C;A314;A315;A316;A317;A318;A319;A320"⟩,
     ⟨0x1066D, "LINEAR A SIGN ", "A321;A322;A323;A324;A325;A326;A327;A328;A329;A330;A331;A332"⟩,
     ⟨0x10679, "LINEAR A SIGN ", "A333;A334;A335;A336;A337;A338;A339;A340;A341;A342;A343;A344"⟩,
     ⟨0x10685, "LINEAR A SIGN ", "A345;A346;A347;A348;A349;A350;A351;A352;A353;A354;A355;A356"⟩,
     ⟨0x10691, "LINEAR A SIGN ", "A357;A358;A359;A360;A361;A362;A363;A364;A365;A366;A367;A368"⟩,
     ⟨0x1069D, "LINEAR A SIGN ", "A369;A370;A371;A400-VAS;A401-VAS;A402-VAS;A403-VAS;A404-VAS"⟩,
     ⟨0x106A5, "LINEAR A SIGN ", "A405-VAS;A406-VAS;A407-VAS;A408-VAS;A409-VAS;A410-VAS;A411-VAS"⟩,
     ⟨0x106AC, "LINEAR A SIGN ", "A412-VAS;A413-VAS;A414-VAS;A415-VAS;A416-VAS;A417-VAS;A418-VAS"⟩,
     ⟨0x106B3, "LINEAR A SIGN ", "A501;A502;A503;A504;A505;A506;A508;A509;A510;A511;A512;A513"⟩,
     ⟨0x106BF, "LINEAR A SIGN ", "A515;A516;A520;A521;A523;A524;A525;A526;A527;A528;A529;A530"⟩,
     ⟨0x106CB, "LINEAR A SIGN ", "A531;A532;A534;A535;A536;A537;A538;A539;A540;A541;A542;A545"⟩,
     ⟨0x106D7, "LINEAR A SIGN ", "A547;A548;A549;A550;A551;A552;A553;A554;A555;A556;A557;A559"⟩,
     ⟨0x106E3, "LINEAR A SIGN ", "A563;A564;A565;A566;A568;A569;A570;A571;A572;A573;A574;A575"⟩,
     ⟨0x106EF, "LINEAR A SIGN ", "A576;A577;A578;A579;A580;A581;A582;A583;A584;A585;A586;A587"⟩,
     ⟨0x106FB, "LINEAR A SIGN ", "A588;A589;A591;A592;A594;A595;A596;A598;A600;A601;A602;A603"⟩,
     ⟨0x10707, "LINEAR A SIGN ", "A604;A606;A608;A609;A610;A611;A612;A613;A614;A615;A616;A617"⟩,
     ⟨0x10713, "LINEAR A SIGN ", "A618;A619;A620;A621;A622;A623;A624;A626;A627;A628;A629;A634"⟩,
     ⟨0x1071F, "LINEAR A SIGN ", "A637;A638;A640;A642;A643;A644;A645;A646;A648;A649;A651;A652"⟩,
     ⟨0x1072B, "LINEAR A SIGN ", "A653;A654;A655;A656;A657;A658;A659;A660;A661;A662;A663;A664"⟩,
     ⟨0x10740, "LINEAR A SIGN ", "A701 A;A702 B;A703 D;A704 E;A705 F;A706 H;A707 J;A708 K"⟩,
     ⟨0x10748, "LINEAR A SIGN ", "A709 L;A709-2 L2;A709-3 L3;A709-4 L4;A709-6 L6;A710 W;A711 X"⟩,
     ⟨0x1074F, "LINEAR A SIGN ", "A712 Y;A713 OMEGA;A714 ABB;A715 BB;A717 DD;A726 EYYY;A732 JE"⟩,
     ⟨0x10760, "LINEAR A SIGN ", "A800;A801;A802;A803;A804;A805;A806;A807"⟩]

/-- Names in the block Cypriot Syllabary. -/
def cypriotSyllabary : NameBlock where
  first := 0x10800
  last := 0x1083F
  rows :=
    [⟨0x10800, "CYPRIOT SYLLABLE ", "A;E;I;O;U;JA"⟩,
     ⟨0x10808, "", "CYPRIOT SYLLABLE JO"⟩,
     ⟨0x1080A, "CYPRIOT SYLLABLE ", "KA;KE;KI;KO"⟩,
     ⟨0x1080E, "CYPRIOT SYLLABLE ", "KU;LA;LE;LI;LO;LU;MA;ME;MI;MO;MU;NA;NE;NI;NO;NU;PA;PE;PI;PO"⟩,
     ⟨0x10822, "CYPRIOT SYLLABLE ", "PU;RA;RE;RI;RO;RU;SA;SE;SI;SO;SU;TA;TE;TI;TO;TU;WA;WE;WI;WO"⟩,
     ⟨0x10837, "CYPRIOT SYLLABLE ", "XA;XE"⟩,
     ⟨0x1083C, "", "CYPRIOT SYLLABLE ZA"⟩,
     ⟨0x1083F, "", "CYPRIOT SYLLABLE ZO"⟩]

/-- Names in the block Lydian. -/
def lydian : NameBlock where
  first := 0x10920
  last := 0x1093F
  rows :=
    [⟨0x10920, "LYDIAN LETTER ", "A;B;G;D;E;V;I;Y;K;L;M;N;O;R;SS;T;U;F;Q;S;TT;AN;EN;LY;NN;C"⟩,
     ⟨0x1093F, "", "LYDIAN TRIANGULAR MARK"⟩]

/-- Names in the block Cuneiform. -/
def cuneiform : NameBlock where
  first := 0x12000
  last := 0x123FF
  rows :=
    [⟨0x12000, "", "CUNEIFORM SIGN A"⟩,
     ⟨0x12001, "CUNEIFORM SIGN A TIMES ", "A;BAD;GAN2 TENU;HA;IGI;LAGAR GUNU;MUSH;SAG"⟩,
     ⟨0x12009, "CUNEIFORM SIGN ", "A2;AB"⟩,
     ⟨0x1200B, "CUNEIFORM SIGN AB TIMES ", "ASH2;DUN3 GUNU;GAL;GAN2 TENU;HA;IGI GUNU;IMIN;LAGAB"⟩,
     ⟨0x12013, "CUNEIFORM SIGN ", "AB TIMES SHESH;AB TIMES U PLUS U PLUS U;AB GUNU;AB2"⟩,
     ⟨0x12017, "CUNEIFORM SIGN AB2 TIMES ", "BALAG;GAN2 TENU;ME PLUS EN;SHA3;TAK4"⟩,
     ⟨0x1201C, "CUNEIFORM SIGN ", "AD;AK;AK TIMES ERIN2;AK TIMES SHITA PLUS GISH;AL"⟩,
     ⟨0x12021, "CUNEIFORM SIGN AL TIMES ", "AL;DIM2;GISH;HA;KAD3;KI;SHE;USH"⟩,
     ⟨0x12029, "CUNEIFORM SIGN ", "ALAN;ALEPH;AMAR;AMAR TIMES SHE;AN;AN OVER AN;AN THREE TIMES"⟩,
     ⟨0x12030, "CUNEIFORM SIGN AN PLUS NAGA ", "OPPOSING AN PLUS NAGA;SQUARED"⟩,
     ⟨0x12032, "CUNEIFORM SIGN ", "ANSHE;APIN;ARAD;ARAD TIMES KUR;ARKAB;ASAL2;ASH;ASH ZIDA TENU"⟩,
     ⟨0x1203A, "CUNEIFORM SIGN ASH ", "KABA TENU;OVER ASH TUG2 OVER TUG2 TUG2 OVER TUG2 PAP"⟩,
     ⟨0x1203C, "CUNEIFORM SIGN ASH OVER ASH OVER ", "ASH;ASH CROSSING ASH OVER ASH OVER ASH"⟩,
     ⟨0x1203E, "CUNEIFORM SIGN ", "ASH2;ASHGAB;BA;BAD;BAG3;BAHAR2;BAL;BAL OVER BAL"⟩,
     ⟨0x12046, "CUNEIFORM SIGN ", "BALAG;BAR;BARA2;BI;BI TIMES A;BI TIMES GAR;BI TIMES IGI GUNU"⟩,
     ⟨0x1204D, "CUNEIFORM SIGN ", "BU;BU OVER BU AB;BU OVER BU UN;BU CROSSING BU;BULUG"⟩,
     ⟨0x12052, "CUNEIFORM SIGN ", "BULUG OVER BULUG;BUR;BUR2;DA;DAG;DAG KISIM5 TIMES A PLUS MASH"⟩,
     ⟨0x12058, "CUNEIFORM SIGN DAG KISIM5 TIMES ", "AMAR;BALAG;BI;GA;GA PLUS MASH;GI;GIR2"⟩,
     ⟨0x1205F, "CUNEIFORM SIGN DAG KISIM5 TIMES ", "GUD;HA;IR;IR PLUS LU;KAK;LA;LU;LU PLUS MASH2"⟩,
     ⟨0x12067, "CUNEIFORM SIGN DAG KISIM5 TIMES ", "LUM;NE;PAP PLUS PAP;SI;TAK4;U2 PLUS GIR2;USH"⟩,
     ⟨0x1206E, "CUNEIFORM SIGN ", "DAM;DAR;DARA3;DARA4;DI;DIB;DIM;DIM TIMES SHE"⟩,
     ⟨0x12076, "CUNEIFORM SIGN ", "DIM2;DIN;DIN KASKAL U GUNU DISH;DISH;DU;DU OVER DU;DU GUNU"⟩,
     ⟨0x1207D, "CUNEIFORM SIGN ", "DU SHESHIG;DUB;DUB TIMES ESH2;DUB2;DUG;DUGUD;DUH;DUN;DUN3"⟩,
     ⟨0x12086, "CUNEIFORM SIGN DUN3 ", "GUNU;GUNU GUNU"⟩,
     ⟨0x12088, "CUNEIFORM SIGN ", "DUN4;DUR2;E;E TIMES PAP;E OVER E NUN OVER NUN;E2"⟩,
     ⟨0x1208E, "CUNEIFORM SIGN E2 TIMES ", "A PLUS HA PLUS DA;GAR;MI;SAL;SHE;U"⟩,
     ⟨0x12094, "CUNEIFORM SIGN ", "EDIN;EGIR;EL;EN;EN TIMES GAN2;EN TIMES GAN2 TENU;EN TIMES ME"⟩,
     ⟨0x1209B, "CUNEIFORM SIGN ", "EN CROSSING EN;EN OPPOSING EN;EN SQUARED;EREN;ERIN2;ESH2;EZEN"⟩,
     ⟨0x120A2, "CUNEIFORM SIGN EZEN TIMES ", "A;A PLUS LAL;A PLUS LAL TIMES LAL;AN;BAD"⟩,
     ⟨0x120A7, "CUNEIFORM SIGN EZEN TIMES ", "DUN3 GUNU;DUN3 GUNU GUNU;HA;HA GUNU;IGI GUNU;KASKAL"⟩,
     ⟨0x120AD, "CUNEIFORM SIGN EZEN TIMES ", "KASKAL SQUARED;KU3;LA;LAL TIMES LAL;LI;LU;U2;UD"⟩,
     ⟨0x120B5, "CUNEIFORM SIGN ", "GA;GA GUNU;GA2"⟩,
     ⟨0x120B8, "CUNEIFORM SIGN GA2 TIMES A PLUS ", "DA PLUS HA;HA;IGI"⟩,
     ⟨0x120BB, "CUNEIFORM SIGN GA2 TIMES ", "AB2 TENU PLUS TAB;AN;ASH;ASH2 PLUS GAL;BAD"⟩,
     ⟨0x120C0, "CUNEIFORM SIGN GA2 TIMES ", "BAR PLUS RA;BUR;BUR PLUS RA;DA;DI;DIM TIMES SHE;DUB"⟩,
     ⟨0x120C7, "CUNEIFORM SIGN GA2 TIMES ", "EL;EL PLUS LA;EN;EN TIMES GAN2 TENU;GAN2 TENU;GAR"⟩,
     ⟨0x120CD, "CUNEIFORM SIGN GA2 TIMES ", "GI;GI4;GI4 PLUS A;GIR2 PLUS SU;HA PLUS LU PLUS ESH2"⟩,
     ⟨0x120D2, "CUNEIFORM SIGN GA2 TIMES ", "HAL;HAL PLUS LA;HI PLUS LI;HUB2;IGI GUNU"⟩,
     ⟨0x120D7, "CUNEIFORM SIGN GA2 TIMES ", "ISH PLUS HU PLUS ASH;KAK;KASKAL;KID;KID PLUS LAL"⟩,
     ⟨0x120DC, "CUNEIFORM SIGN GA2 TIMES ", "KU3 PLUS AN;LA;ME PLUS EN;MI;NUN;NUN OVER NUN;PA;SAL"⟩,
     ⟨0x120E4, "CUNEIFORM SIGN GA2 TIMES ", "SAR;SHE;SHE PLUS TUR;SHID;SUM;TAK4;U;UD;UD PLUS DU"⟩,
     ⟨0x120ED, "CUNEIFORM SIGN ", "GA2 OVER GA2;GABA;GABA CROSSING GABA;GAD"⟩,
     ⟨0x120F1, "CUNEIFORM SIGN ", "GAD OVER GAD GAR OVER GAR;GAL;GAL GAD OVER GAD GAR OVER GAR"⟩,
     ⟨0x120F4, "CUNEIFORM SIGN ", "GALAM;GAM;GAN;GAN2;GAN2 TENU;GAN2 OVER GAN2;GAN2 CROSSING GAN2"⟩,
     ⟨0x120FB, "CUNEIFORM SIGN ", "GAR;GAR3;GASHAN;GESHTIN;GESHTIN TIMES KUR;GI"⟩,
     ⟨0x12101, "CUNEIFORM SIGN GI ", "TIMES E;TIMES U;CROSSING GI"⟩,
     ⟨0x12104, "CUNEIFORM SIGN ", "GI4;GI4 OVER GI4;GI4 CROSSING GI4;GIDIM;GIR2;GIR2 GUNU;GIR3"⟩,
     ⟨0x1210B, "CUNEIFORM SIGN GIR3 TIMES ", "A PLUS IGI;GAN2 TENU;IGI;LU PLUS IGI;PA"⟩,
     ⟨0x12110, "CUNEIFORM SIGN ", "GISAL;GISH;GISH CROSSING GISH"⟩,
     ⟨0x12113, "CUNEIFORM SIGN ", "GISH TIMES BAD;GISH TIMES TAK4;GISH TENU;GU;GU CROSSING GU;GU2"⟩,
     ⟨0x12119, "CUNEIFORM SIGN GU2 TIMES ", "KAK;KAK TIMES IGI GUNU;NUN;SAL PLUS TUG2"⟩,
     ⟨0x1211D, "CUNEIFORM SIGN ", "GU2 GUNU;GUD"⟩,
     ⟨0x1211F, "CUNEIFORM SIGN ", "GUD TIMES A PLUS KUR;GUD TIMES KUR;GUD OVER GUD LUGAL;GUL;GUM"⟩,
     ⟨0x12124, "CUNEIFORM SIGN ", "GUM TIMES SHE;GUR;GUR7;GURUN;GURUSH;HA;HA TENU;HA GUNU;HAL;HI"⟩,
     ⟨0x1212E, "CUNEIFORM SIGN HI TIMES ", "ASH;ASH2;BAD;DISH;GAD;KIN;NUN;SHE;U"⟩,
     ⟨0x12137, "CUNEIFORM SIGN ", "HU;HUB2"⟩,
     ⟨0x12139, "CUNEIFORM SIGN HUB2 TIMES ", "AN;HAL;KASKAL;LISH;UD"⟩,
     ⟨0x1213E, "CUNEIFORM SIGN ", "HUL2;I;I A;IB;IDIM;IDIM OVER IDIM BUR;IDIM OVER IDIM SQUARED"⟩,
     ⟨0x12145, "CUNEIFORM SIGN ", "IG;IGI;IGI DIB;IGI RI;IGI OVER IGI SHIR OVER SHIR UD OVER UD"⟩,
     ⟨0x1214A, "CUNEIFORM SIGN ", "IGI GUNU;IL;IL TIMES GAN2 TENU;IL2;IM;IM TIMES TAK4"⟩,
     ⟨0x12150, "CUNEIFORM SIGN ", "IM CROSSING IM;IM OPPOSING IM;IM SQUARED;IMIN;IN;IR;ISH;KA"⟩,
     ⟨0x12158, "CUNEIFORM SIGN KA TIMES ", "A;AD;AD PLUS KU3;ASH2;BAD;BALAG;BAR;BI;ERIN2"⟩,
     ⟨0x12161, "CUNEIFORM SIGN KA TIMES ", "ESH2;GA;GAL;GAN2 TENU;GAR;GAR PLUS SHA3 PLUS A;GI"⟩,
     ⟨0x12168, "CUNEIFORM SIGN KA TIMES ", "GIR2;GISH PLUS SAR;GISH CROSSING GISH;GU;GUR7;IGI;IM"⟩,
     ⟨0x1216F, "CUNEIFORM SIGN KA TIMES ", "KAK;KI;KID;LI;LU;ME;ME PLUS DU;ME PLUS GI;ME PLUS TE"⟩,
     ⟨0x12178, "CUNEIFORM SIGN KA TIMES ", "MI;MI PLUS NUNUZ;NE;NUN;PI;RU;SA;SAR;SHA;SHE"⟩,
     ⟨0x12182, "CUNEIFORM SIGN KA TIMES ", "SHID;SHU;SIG;SUHUR;TAR;U;U2;UD;UMUM TIMES PA;USH;ZI"⟩,
     ⟨0x1218D, "CUNEIFORM SIGN ", "KA2;KA2 CROSSING KA2;KAB;KAD2;KAD3;KAD4;KAD5;KAD5 OVER KAD5"⟩,
     ⟨0x12195, "CUNEIFORM SIGN ", "KAK;KAK TIMES IGI GUNU;KAL;KAL TIMES BAD;KAL CROSSING KAL"⟩,
     ⟨0x1219A, "CUNEIFORM SIGN ", "KAM2;KAM4;KASKAL;KASKAL LAGAB TIMES U OVER LAGAB TIMES U"⟩,
     ⟨0x1219E, "CUNEIFORM SIGN ", "KASKAL OVER KASKAL LAGAB TIMES U OVER LAGAB TIMES U;KESH2;KI"⟩,
     ⟨0x121A1, "CUNEIFORM SIGN KI TIMES ", "BAD;U;UD"⟩,
     ⟨0x121A4, "CUNEIFORM SIGN ", "KID;KIN;KISAL;KISH;KISIM5;KISIM5 OVER KISIM5"⟩,
     ⟨0x121AA, "CUNEIFORM SIGN ", "KU;KU OVER HI TIMES ASH2 KU OVER HI TIMES ASH2"⟩,
     ⟨0x121AC, "CUNEIFORM SIGN ", "KU3;KU4;KU4 VARIANT FORM;KU7;KUL;KUL GUNU"⟩,
     ⟨0x121B2, "CUNEIFORM SIGN ", "KUN;KUR;KUR OPPOSING KUR;KUSHU2;KWU318;LA;LAGAB;LAGAB TIMES A"⟩,
     ⟨0x121BA, "CUNEIFORM SIGN LAGAB TIMES A PLUS ", "DA PLUS HA;GAR;LAL"⟩,
     ⟨0x121BD, "CUNEIFORM SIGN LAGAB TIMES ", "AL;AN;ASH ZIDA TENU;BAD;BI"⟩,
     ⟨0x121C2, "CUNEIFORM SIGN LAGAB TIMES ", "DAR;EN;GA;GAR;GUD;GUD PLUS GUD;HA;HAL;HI TIMES NUN"⟩,
     ⟨0x121CB, "CUNEIFORM SIGN LAGAB TIMES ", "IGI GUNU;IM;IM PLUS HA;IM PLUS LU;KI;KIN;KU3;KUL"⟩,
     ⟨0x121D3, "CUNEIFORM SIGN LAGAB TIMES ", "KUL PLUS HI PLUS A;LAGAB;LISH;LU;LUL;ME;ME PLUS EN"⟩,
     ⟨0x121DA, "CUNEIFORM SIGN LAGAB TIMES ", "MUSH;NE;SHE PLUS SUM;SHITA PLUS GISH PLUS ERIN2"⟩,
     ⟨0x121DE, "CUNEIFORM SIGN LAGAB TIMES ", "SHITA PLUS GISH TENU;SHU2;SHU2 PLUS SHU2"⟩,
     ⟨0x121E1, "CUNEIFORM SIGN LAGAB TIMES ", "SUM;TAG;TAK4;TE PLUS A PLUS SU PLUS NA"⟩,
     ⟨0x121E5, "CUNEIFORM SIGN LAGAB TIMES ", "U;U PLUS A;U PLUS U PLUS U;U2 PLUS ASH;UD;USH"⟩,
     ⟨0x121EB, "CUNEIFORM SIGN ", "LAGAB SQUARED;LAGAR;LAGAR TIMES SHE"⟩,
     ⟨0x121EE, "CUNEIFORM SIGN LAGAR ", "TIMES SHE PLUS SUM;GUNU;GUNU OVER LAGAR GUNU SHE"⟩,
     ⟨0x121F1, "CUNEIFORM SIGN ", "LAHSHU;LAL;LAL TIMES LAL;LAM;LAM TIMES KUR"⟩,
     ⟨0x121F6, "CUNEIFORM SIGN ", "LAM TIMES KUR PLUS RU;LI;LIL;LIMMU2;LISH;LU;LU TIMES BAD;LU2"⟩,
     ⟨0x121FE, "CUNEIFORM SIGN LU2 TIMES ", "AL;BAD;ESH2;ESH2 TENU;GAN2 TENU;HI TIMES BAD"⟩,
     ⟨0x12204, "CUNEIFORM SIGN LU2 TIMES ", "IM;KAD2;KAD3;KAD3 PLUS ASH;KI;LA PLUS ASH"⟩,
     ⟨0x1220A, "CUNEIFORM SIGN LU2 TIMES ", "LAGAB;ME PLUS EN;NE;NU;SI PLUS ASH;SIK2 PLUS BU;TUG2"⟩,
     ⟨0x12211, "CUNEIFORM SIGN LU2 ", "TENU;CROSSING LU2;OPPOSING LU2;SQUARED;SHESHIG"⟩,
     ⟨0x12216, "CUNEIFORM SIGN ", "LU3;LUGAL;LUGAL OVER LUGAL;LUGAL OPPOSING LUGAL;LUGAL SHESHIG"⟩,
     ⟨0x1221B, "CUNEIFORM SIGN ", "LUH;LUL;LUM;LUM OVER LUM;LUM OVER LUM GAR OVER GAR"⟩,
     ⟨0x12220, "CUNEIFORM SIGN ", "MA;MA TIMES TAK4;MA GUNU;MA2;MAH;MAR;MASH;MASH2;ME;MES;MI"⟩,
     ⟨0x1222B, "CUNEIFORM SIGN ", "MIN;MU;MU OVER MU;MUG;MUG GUNU;MUNSUB;MURGU2;MUSH;MUSH TIMES A"⟩,
     ⟨0x12234, "CUNEIFORM SIGN MUSH ", "TIMES KUR;TIMES ZA;OVER MUSH;OVER MUSH TIMES A PLUS NA"⟩,
     ⟨0x12238, "CUNEIFORM SIGN ", "MUSH CROSSING MUSH;MUSH3;MUSH3 TIMES A"⟩,
     ⟨0x1223B, "CUNEIFORM SIGN ", "MUSH3 TIMES A PLUS DI;MUSH3 TIMES DI;MUSH3 GUNU;NA;NA2;NAGA"⟩,
     ⟨0x12241, "CUNEIFORM SIGN NAGA ", "INVERTED;TIMES SHU TENU;OPPOSING NAGA"⟩,
     ⟨0x12244, "CUNEIFORM SIGN ", "NAGAR;NAM NUTILLU;NAM;NAM2;NE;NE TIMES A;NE TIMES UD"⟩,
     ⟨0x1224B, "CUNEIFORM SIGN ", "NE SHESHIG;NI;NI TIMES E;NI2;NIM;NIM TIMES GAN2 TENU"⟩,
     ⟨0x12251, "CUNEIFORM SIGN ", "NIM TIMES GAR PLUS GAN2 TENU;NINDA2;NINDA2 TIMES AN"⟩,
     ⟨0x12254, "CUNEIFORM SIGN NINDA2 TIMES ", "ASH;ASH PLUS ASH;GUD;ME PLUS GAN2 TENU;NE;NUN;SHE"⟩,
     ⟨0x1225B, "CUNEIFORM SIGN NINDA2 TIMES SHE PLUS ", "A AN;ASH;ASH PLUS ASH"⟩,
     ⟨0x1225E, "CUNEIFORM SIGN ", "NINDA2 TIMES U2 PLUS ASH;NINDA2 TIMES USH;NISAG;NU;NU11;NUN"⟩,
     ⟨0x12264, "CUNEIFORM SIGN NUN LAGAR TIMES ", "GAR;MASH;SAL;SAL OVER NUN LAGAR TIMES SAL;USH"⟩,
     ⟨0x12269, "CUNEIFORM SIGN NUN ", "TENU;OVER NUN;CROSSING NUN;CROSSING NUN LAGAR OVER LAGAR"⟩,
     ⟨0x1226D, "", "CUNEIFORM SIGN NUNUZ"⟩,
     ⟨0x1226E, "CUNEIFORM SIGN NUNUZ AB2 TIMES ", "ASHGAB;BI;DUG;GUD;IGI GUNU;KAD3;LA;NE;SILA3;U2"⟩,
     ⟨0x12278, "CUNEIFORM SIGN NUNUZ KISIM5 TIMES ", "BI;BI U"⟩,
     ⟨0x1227A, "CUNEIFORM SIGN ", "PA;PAD;PAN;PAP;PESH2;PI"⟩,
     ⟨0x12280, "CUNEIFORM SIGN PI TIMES ", "A;AB;BI;BU;E;I;IB;U;U2"⟩,
     ⟨0x12289, "CUNEIFORM SIGN ", "PI CROSSING PI;PIRIG"⟩,
     ⟨0x1228B, "CUNEIFORM SIGN PIRIG TIMES ", "KAL;UD;ZA"⟩,
     ⟨0x1228E, "CUNEIFORM SIGN ", "PIRIG OPPOSING PIRIG;RA;RAB;RI;RU;SA;SAG NUTILLU;SAG"⟩,
     ⟨0x12296, "CUNEIFORM SIGN SAG TIMES ", "A;DU;DUB;HA;KAK;KUR;LUM;MI;NUN;SAL;SHID;TAB;U2;UB;UM"⟩,
     ⟨0x122A5, "CUNEIFORM SIGN SAG ", "TIMES UR;TIMES USH;OVER SAG;GUNU"⟩,
     ⟨0x122A9, "CUNEIFORM SIGN ", "SAL;SAL LAGAB TIMES ASH2;SANGA2;SAR;SHA;SHA3"⟩,
     ⟨0x122AF, "CUNEIFORM SIGN SHA3 TIMES ", "A;BAD;GISH;NE;SHU2;TUR;U;U PLUS A"⟩,
     ⟨0x122B7, "CUNEIFORM SIGN ", "SHA6;SHAB6;SHAR2;SHE"⟩,
     ⟨0x122BB, "CUNEIFORM SIGN SHE ", "HU;OVER SHE GAD OVER GAD GAR OVER GAR"⟩,
     ⟨0x122BD, "CUNEIFORM SIGN ", "SHE OVER SHE TAB OVER TAB GAR OVER GAR;SHEG9;SHEN"⟩,
     ⟨0x122C0, "CUNEIFORM SIGN ", "SHESH;SHESH2;SHESHLAM;SHID;SHID TIMES A;SHID TIMES IM;SHIM"⟩,
     ⟨0x122C7, "CUNEIFORM SIGN SHIM TIMES ", "A;BAL;BULUG;DIN;GAR;IGI;IGI GUNU;KUSHU2;LUL;MUG;SAL"⟩,
     ⟨0x122D2, "CUNEIFORM SIGN ", "SHINIG;SHIR;SHIR TENU"⟩,
     ⟨0x122D5, "CUNEIFORM SIGN ", "SHIR OVER SHIR BUR OVER BUR;SHITA;SHU;SHU OVER INVERTED SHU"⟩,
     ⟨0x122D9, "CUNEIFORM SIGN ", "SHU2;SHUBUR;SI;SI GUNU;SIG;SIG4;SIG4 OVER SIG4 SHU2"⟩,
     ⟨0x122E0, "CUNEIFORM SIGN ", "SIK2;SILA3;SU;SU OVER SU;SUD;SUD2;SUHUR;SUM;SUMASH;SUR;SUR9;TA"⟩,
     ⟨0x122EC, "CUNEIFORM SIGN TA ", "ASTERISK;TIMES HI;TIMES MI;GUNU"⟩,
     ⟨0x122F0, "CUNEIFORM SIGN ", "TAB;TAB OVER TAB NI OVER NI DISH OVER DISH;TAB SQUARED;TAG"⟩,
     ⟨0x122F4, "CUNEIFORM SIGN TAG TIMES ", "BI;GUD;SHE;SHU;TUG2;UD"⟩,
     ⟨0x122FA, "CUNEIFORM SIGN ", "TAK4;TAR;TE;TE GUNU;TI;TI TENU;TIL;TIR;TIR TIMES TAK4"⟩,
     ⟨0x12303, "CUNEIFORM SIGN TIR OVER ", "TIR;TIR GAD OVER GAD GAR OVER GAR"⟩,
     ⟨0x12305, "CUNEIFORM SIGN ", "TU;TUG2;TUK;TUM;TUR;TUR OVER TUR ZA OVER ZA;U;U GUD;U U U"⟩,
     ⟨0x1230E, "CUNEIFORM SIGN U OVER U ", "PA OVER PA GAR OVER GAR;SUR OVER SUR"⟩,
     ⟨0x12310, "CUNEIFORM SIGN ", "U OVER U U REVERSED OVER U REVERSED;U2;UB;UD;UD KUSHU2"⟩,
     ⟨0x12315, "CUNEIFORM SIGN UD TIMES ", "BAD;MI;U PLUS U PLUS U;U PLUS U PLUS U GUNU"⟩,
     ⟨0x12319, "CUNEIFORM SIGN ", "UD GUNU;UD SHESHIG;UD SHESHIG TIMES BAD;UDUG;UM"⟩,
     ⟨0x1231E, "CUNEIFORM SIGN UM TIMES ", "LAGAB;ME PLUS DA;SHA3;U"⟩,
     ⟨0x12322, "CUNEIFORM SIGN ", "UMBIN;UMUM;UMUM TIMES KASKAL"⟩,
     ⟨0x12325, "CUNEIFORM SIGN ", "UMUM TIMES PA;UN;UN GUNU;UR;UR CROSSING UR;UR SHESHIG;UR2"⟩,
     ⟨0x1232C, "CUNEIFORM SIGN UR2 TIMES ", "A PLUS HA;A PLUS NA;AL;HA;NUN;U2;U2 PLUS ASH"⟩,
     ⟨0x12333, "CUNEIFORM SIGN ", "UR2 TIMES U2 PLUS BI;UR4;URI;URI3;URU"⟩,
     ⟨0x12338, "CUNEIFORM SIGN URU TIMES ", "A;ASHGAB;BAR;DUN;GA;GAL;GAN2 TENU;GAR;GU;HA;IGI"⟩,
     ⟨0x12343, "CUNEIFORM SIGN URU TIMES ", "IM;ISH;KI;LUM;MIN;PA;SHE;SIG4;TU;U PLUS GUD;UD;URUDA"⟩,
     ⟨0x1234F, "CUNEIFORM SIGN ", "URUDA;URUDA TIMES U;USH;USH TIMES A;USH TIMES KU;USH TIMES KUR"⟩,
     ⟨0x12355, "CUNEIFORM SIGN ", "USH TIMES TAK4;USHX;USH2;USHUMX;UTUKI;UZ3;UZ3 TIMES KASKAL"⟩,
     ⟨0x1235C, "CUNEIFORM SIGN ", "UZU;ZA;ZA TENU;ZA SQUARED TIMES KUR;ZAG;ZAMX;ZE2;ZI"⟩,
     ⟨0x12364, "CUNEIFORM SIGN ", "ZI OVER ZI;ZI3;ZIB;ZIB KABA TENU;ZIG;ZIZ2;ZU;ZU5;ZU5 TIMES A"⟩,
     ⟨0x1236D, "CUNEIFORM SIGN ", "ZUBUR;ZUM;KAP ELAMITE;AB TIMES NUN;AB2 TIMES A;AMAR TIMES KUG"⟩,
     ⟨0x12373, "CUNEIFORM SIGN ", "DAG KISIM5 TIMES U2 PLUS MASH;DAG3;DISH PLUS SHU;DUB TIMES SHE"⟩,
     ⟨0x12377, "CUNEIFORM SIGN EZEN TIMES ", "GUD;SHE"⟩,
     ⟨0x12379, "CUNEIFORM SIGN ", "GA2 TIMES AN PLUS KAK PLUS A;GA2 TIMES ASH2;GE22;GIG;HUSH"⟩,
     ⟨0x1237E, "CUNEIFORM SIGN KA TIMES ", "ANSHE;ASH3;GISH;GUD;HI TIMES ASH2;LUM;PA;SHUL;TU;UR2"⟩,
     ⟨0x12388, "CUNEIFORM SIGN ", "LAGAB TIMES GI;LU2 SHESHIG TIMES BAD;LU2 TIMES ESH2 PLUS LAL"⟩,
     ⟨0x1238B, "CUNEIFORM SIGN ", "LU2 TIMES SHU;MESH;MUSH3 TIMES ZA;NA4;NIN;NIN9"⟩,
     ⟨0x12391, "CUNEIFORM SIGN ", "NINDA2 TIMES BAL;NINDA2 TIMES GI;NU11 ROTATED NINETY DEGREES"⟩,
     ⟨0x12394, "CUNEIFORM SIGN ", "PESH2 ASTERISK;PIR2;SAG TIMES IGI GUNU;TI2;UM TIMES ME;U U"⟩]

/-- Names in the block Cuneiform Numbers and Punctuation. -/
def cuneiformNumbersAndPunctuation : NameBlock where
  first := 0x12400
  last := 0x1247F
  rows :=
    [⟨0x12400, "CUNEIFORM NUMERIC SIGN ", "TWO ASH;THREE ASH;FOUR ASH;FIVE ASH"⟩,
     ⟨0x12404, "CUNEIFORM NUMERIC SIGN ", "SIX ASH;SEVEN ASH;EIGHT ASH;NINE ASH;THREE DISH"⟩,
     ⟨0x12409, "CUNEIFORM NUMERIC SIGN ", "FOUR DISH;FIVE DISH;SIX DISH;SEVEN DISH;EIGHT DISH"⟩,
     ⟨0x1240E, "CUNEIFORM NUMERIC SIGN ", "NINE DISH;FOUR U;FIVE U;SIX U;SEVEN U;EIGHT U;NINE U"⟩,
     ⟨0x12415, "CUNEIFORM NUMERIC SIGN ", "ONE GESH2;TWO GESH2;THREE GESH2;FOUR GESH2;FIVE GESH2"⟩,
     ⟨0x1241A, "CUNEIFORM NUMERIC SIGN ", "SIX GESH2;SEVEN GESH2;EIGHT GESH2;NINE GESH2;ONE GESHU"⟩,
     ⟨0x1241F, "CUNEIFORM NUMERIC SIGN ", "TWO GESHU;THREE GESHU;FOUR GESHU;FIVE GESHU;TWO SHAR2"⟩,
     ⟨0x12424, "CUNEIFORM NUMERIC SIGN THREE ", "SHAR2;SHAR2 VARIANT FORM"⟩,
     ⟨0x12426, "CUNEIFORM NUMERIC SIGN ", "FOUR SHAR2;FIVE SHAR2;SIX SHAR2;SEVEN SHAR2"⟩,
     ⟨0x1242A, "CUNEIFORM NUMERIC SIGN ", "EIGHT SHAR2;NINE SHAR2;ONE SHARU;TWO SHARU;THREE SHARU"⟩,
     ⟨0x1242F, "CUNEIFORM NUMERIC SIGN ", "THREE SHARU VARIANT FORM;FOUR SHARU;FIVE SHARU"⟩,
     ⟨0x12432, "CUNEIFORM NUMERIC SIGN SHAR2 TIMES GAL PLUS ", "DISH;MIN"⟩,
     ⟨0x12434, "CUNEIFORM NUMERIC SIGN ", "ONE BURU;TWO BURU"⟩,
     ⟨0x12436, "CUNEIFORM NUMERIC SIGN ", "THREE BURU;THREE BURU VARIANT FORM;FOUR BURU;FIVE BURU"⟩,
     ⟨0x1243A, "CUNEIFORM NUMERIC SIGN THREE VARIANT FORM ", "ESH16;ESH21"⟩,
     ⟨0x1243C, "CUNEIFORM NUMERIC SIGN FOUR VARIANT FORM ", "LIMMU;LIMMU4;LIMMU A;LIMMU B"⟩,
     ⟨0x12440, "", "CUNEIFORM NUMERIC SIGN SIX VARIANT FORM ASH9"⟩,
     ⟨0x12441, "CUNEIFORM NUMERIC SIGN SEVEN VARIANT FORM ", "IMIN3;IMIN A;IMIN B"⟩,
     ⟨0x12444, "CUNEIFORM NUMERIC SIGN EIGHT VARIANT FORM ", "USSU;USSU3"⟩,
     ⟨0x12446, "CUNEIFORM NUMERIC SIGN NINE VARIANT FORM ", "ILIMMU;ILIMMU3;ILIMMU4;ILIMMU A"⟩,
     ⟨0x1244A, "CUNEIFORM NUMERIC SIGN ", "TWO ASH TENU;THREE ASH TENU"⟩,
     ⟨0x1244C, "CUNEIFORM NUMERIC SIGN ", "FOUR ASH TENU;FIVE ASH TENU;SIX ASH TENU;ONE BAN2"⟩,
     ⟨0x12450, "CUNEIFORM NUMERIC SIGN ", "TWO BAN2;THREE BAN2;FOUR BAN2;FOUR BAN2 VARIANT FORM"⟩,
     ⟨0x12454, "CUNEIFORM NUMERIC SIGN FIVE ", "BAN2;BAN2 VARIANT FORM"⟩,
     ⟨0x12456, "CUNEIFORM NUMERIC SIGN ", "NIGIDAMIN;NIGIDAESH;ONE ESHE3;TWO ESHE3"⟩,
     ⟨0x1245A, "CUNEIFORM NUMERIC SIGN ", "ONE THIRD DISH;TWO THIRDS DISH;FIVE SIXTHS DISH"⟩,
     ⟨0x1245D, "CUNEIFORM NUMERIC SIGN ", "ONE THIRD VARIANT FORM A;TWO THIRDS VARIANT FORM A"⟩,
     ⟨0x1245F, "CUNEIFORM NUMERIC SIGN ", "ONE EIGHTH ASH;ONE QUARTER ASH;OLD ASSYRIAN ONE SIXTH"⟩,
     ⟨0x12462, "CUNEIFORM NUMERIC SIGN ", "OLD ASSYRIAN ONE QUARTER;ONE QUARTER GUR;ONE HALF GUR"⟩,
     ⟨0x12465, "CUNEIFORM NUMERIC SIGN ELAMITE ", "ONE THIRD;TWO THIRDS;FORTY;FIFTY"⟩,
     ⟨0x12469, "CUNEIFORM NUMERIC SIGN ", "FOUR U VARIANT FORM;FIVE U VARIANT FORM"⟩,
     ⟨0x1246B, "CUNEIFORM NUMERIC SIGN ", "SIX U VARIANT FORM;SEVEN U VARIANT FORM"⟩,
     ⟨0x1246D, "CUNEIFORM NUMERIC SIGN ", "EIGHT U VARIANT FORM;NINE U VARIANT FORM"⟩,
     ⟨0x12470, "CUNEIFORM PUNCTUATION SIGN ", "OLD ASSYRIAN WORD DIVIDER;VERTICAL COLON"⟩,
     ⟨0x12472, "CUNEIFORM PUNCTUATION SIGN DIAGONAL ", "COLON;TRICOLON;QUADCOLON"⟩]

/-- Names in the block Early Dynastic Cuneiform. -/
def earlyDynasticCuneiform : NameBlock where
  first := 0x12480
  last := 0x1254F
  rows :=
    [⟨0x12480, "CUNEIFORM SIGN ", "AB TIMES NUN TENU;AB TIMES SHU2;AD TIMES ESH2"⟩,
     ⟨0x12483, "CUNEIFORM SIGN ", "BAD TIMES DISH TENU;BAHAR2 TIMES AB2;BAHAR2 TIMES NI"⟩,
     ⟨0x12486, "CUNEIFORM SIGN ", "BAHAR2 TIMES ZA;BU OVER BU TIMES NA2;DA TIMES TAK4"⟩,
     ⟨0x12489, "CUNEIFORM SIGN ", "DAG TIMES KUR;DIM TIMES IGI;DIM TIMES U U U;DIM2 TIMES UD"⟩,
     ⟨0x1248D, "CUNEIFORM SIGN DUG TIMES ", "ANSHE;ASH;ASH AT LEFT;DIN;DUN"⟩,
     ⟨0x12492, "CUNEIFORM SIGN DUG TIMES ", "ERIN2;GA;GI;GIR2 GUNU;GISH;HA;HI;IGI GUNU;KASKAL;KUR"⟩,
     ⟨0x1249C, "CUNEIFORM SIGN DUG TIMES ", "KUSHU2;KUSHU2 PLUS KASKAL;LAK-020;LAM;LAM TIMES KUR"⟩,
     ⟨0x124A1, "CUNEIFORM SIGN DUG TIMES ", "LUH PLUS GISH;MASH;MES;MI;NI;PI;SHE;SI GUNU"⟩,
     ⟨0x124A9, "CUNEIFORM SIGN ", "E2 TIMES KUR;E2 TIMES PAP;ERIN2 X;ESH2 CROSSING ESH2"⟩,
     ⟨0x124AD, "CUNEIFORM SIGN EZEN SHESHIG TIMES ", "ASH;HI;IGI GUNU;LA;LAL;ME;MES;SU"⟩,
     ⟨0x124B5, "CUNEIFORM SIGN ", "EZEN TIMES SU;GA2 TIMES BAHAR2"⟩,
     ⟨0x124B7, "CUNEIFORM SIGN GA2 TIMES ", "DIM GUNU;DUG TIMES IGI GUNU;DUG TIMES KASKAL;EREN;GA"⟩,
     ⟨0x124BC, "CUNEIFORM SIGN GA2 TIMES ", "GAR PLUS DI;GAR PLUS NE;HA PLUS A;KUSHU2 PLUS KASKAL"⟩,
     ⟨0x124C0, "CUNEIFORM SIGN GA2 TIMES ", "LAM;LAM TIMES KUR;LUH;MUSH;NE;NE PLUS E2;NE PLUS GI"⟩,
     ⟨0x124C7, "CUNEIFORM SIGN ", "GA2 TIMES SHIM;GA2 TIMES ZIZ2;GABA ROTATED NINETY DEGREES"⟩,
     ⟨0x124CA, "CUNEIFORM SIGN ", "GESHTIN TIMES U;GISH TIMES GISH CROSSING GISH"⟩,
     ⟨0x124CC, "CUNEIFORM SIGN ", "GU2 TIMES IGI GUNU;GUD PLUS GISH TIMES TAK4"⟩,
     ⟨0x124CE, "CUNEIFORM SIGN ", "HA TENU GUNU;HI TIMES ASH OVER HI TIMES ASH"⟩,
     ⟨0x124D0, "CUNEIFORM SIGN KA TIMES ", "BU;KA;U U U;UR"⟩,
     ⟨0x124D4, "CUNEIFORM SIGN ", "LAGAB TIMES ZU OVER ZU;LAK-003;LAK-021;LAK-025"⟩,
     ⟨0x124D8, "CUNEIFORM SIGN LAK-", "030;050;051;062;079 OVER LAK-079 GUNU;080;081 OVER LAK-081"⟩,
     ⟨0x124DF, "CUNEIFORM SIGN LAK-", "092;130;142;210;219;220;225;228;238;265;266"⟩,
     ⟨0x124EA, "CUNEIFORM SIGN LAK-", "343;347;348;383;384;390;441;449;449 TIMES GU;449 TIMES IGI"⟩,
     ⟨0x124F4, "CUNEIFORM SIGN LAK-449 TIMES ", "PAP PLUS LU3;PAP PLUS PAP PLUS LU3;U2 PLUS BA"⟩,
     ⟨0x124F7, "CUNEIFORM SIGN LAK-", "450;457;470;483;490;492;493;495;550;608;617"⟩,
     ⟨0x12502, "CUNEIFORM SIGN LAK-617 TIMES ", "ASH;BAD;DUN3 GUNU GUNU;KU3;LA;TAR;TE;U2;UD;URUDA"⟩,
     ⟨0x1250C, "CUNEIFORM SIGN LAK-", "636;648"⟩,
     ⟨0x1250E, "CUNEIFORM SIGN LAK-648 TIMES ", "DUB;GA;IGI;IGI GUNU"⟩,
     ⟨0x12512, "CUNEIFORM SIGN LAK-648 TIMES ", "NI;PAP PLUS PAP PLUS LU3;SHESH PLUS KI;UD;URUDA"⟩,
     ⟨0x12517, "CUNEIFORM SIGN ", "LAK-724;LAK-749;LU2 GUNU TIMES ASH"⟩,
     ⟨0x1251A, "CUNEIFORM SIGN LU2 TIMES ", "DISH;HAL;PAP;PAP PLUS PAP PLUS LU3;TAK4"⟩,
     ⟨0x1251F, "CUNEIFORM SIGN ", "MI PLUS ZA7;MUSH OVER MUSH TIMES GA;MUSH OVER MUSH TIMES KAK"⟩,
     ⟨0x12522, "CUNEIFORM SIGN NINDA2 TIMES ", "DIM GUNU;GISH;GUL;HI"⟩,
     ⟨0x12526, "CUNEIFORM SIGN NINDA2 TIMES ", "KESH2;LAK-050;MASH;PAP PLUS PAP;U;U PLUS U;URUDA"⟩,
     ⟨0x1252D, "CUNEIFORM SIGN SAG ", "GUNU TIMES HA;TIMES EN;TIMES SHE AT LEFT;TIMES TAK4"⟩,
     ⟨0x12531, "CUNEIFORM SIGN ", "SHA6 TENU;SHE OVER SHE;SHE PLUS HUB2;SHE PLUS NAM2"⟩,
     ⟨0x12535, "CUNEIFORM SIGN ", "SHE PLUS SAR;SHU2 PLUS DUG TIMES NI;SHU2 PLUS E2 TIMES AN"⟩,
     ⟨0x12538, "CUNEIFORM SIGN ", "SI TIMES TAK4;TAK4 PLUS SAG;TUM TIMES GAN2 TENU"⟩,
     ⟨0x1253B, "CUNEIFORM SIGN ", "TUM TIMES THREE DISH;UR2 INVERTED;UR2 TIMES UD"⟩,
     ⟨0x1253E, "CUNEIFORM SIGN URU TIMES ", "DARA3;LAK-668;LU3"⟩,
     ⟨0x12541, "CUNEIFORM SIGN ", "ZA7;ZU OVER ZU PLUS SAR;ZU5 TIMES THREE DISH TENU"⟩]

/-- Names in the block Cypro-Minoan. -/
def cyproMinoan : NameBlock where
  first := 0x12F90
  last := 0x12FFF
  rows :=
    [⟨0x12F90, "", "CYPRO-MINOAN SIGN CM001"⟩,
     ⟨0x12F91, "CYPRO-MINOAN SIGN ", "CM002;CM004;CM005;CM006;CM007;CM008;CM009;CM010;CM011;CM012"⟩,
     ⟨0x12F9B, "CYPRO-MINOAN SIGN ", "CM012B;CM013;CM015;CM017;CM019;CM021;CM023;CM024;CM025"⟩,
     ⟨0x12FA4, "CYPRO-MINOAN SIGN ", "CM026;CM027;CM028;CM029;CM030;CM033;CM034;CM035;CM036;CM037"⟩,
     ⟨0x12FAE, "CYPRO-MINOAN SIGN ", "CM038;CM039;CM040;CM041;CM044;CM046;CM047;CM049;CM050;CM051"⟩,
     ⟨0x12FB8, "CYPRO-MINOAN SIGN ", "CM052;CM053;CM054;CM055;CM056;CM058;CM059;CM060;CM061;CM062"⟩,
     ⟨0x12FC2, "CYPRO-MINOAN SIGN ", "CM063;CM064;CM066;CM067;CM068;CM069;CM070;CM071;CM072;CM073"⟩,
     ⟨0x12FCC, "CYPRO-MINOAN SIGN ", "CM074;CM075;CM075B;CM076;CM078;CM079;CM080;CM081;CM082"⟩,
     ⟨0x12FD5, "CYPRO-MINOAN SIGN ", "CM083;CM084;CM085;CM086;CM087;CM088;CM089;CM090;CM091;CM092"⟩,
     ⟨0x12FDF, "CYPRO-MINOAN SIGN ", "CM094;CM095;CM096;CM097;CM098;CM099;CM100;CM101;CM102;CM103"⟩,
     ⟨0x12FE9, "CYPRO-MINOAN SIGN ", "CM104;CM105;CM107;CM108;CM109;CM110;CM112;CM114;CM301;CM302"⟩]

/-- Names in the block Egyptian Hieroglyphs. -/
def egyptianHieroglyphs : NameBlock where
  first := 0x13000
  last := 0x1342F
  rows :=
    [⟨0x13000, "EGYPTIAN HIEROGLYPH ", "A001;A002;A003;A004;A005;A005A;A006;A006A;A006B"⟩,
     ⟨0x13009, "EGYPTIAN HIEROGLYPH ", "A007;A008;A009;A010;A011;A012;A013;A014;A014A;A015;A016"⟩,
     ⟨0x13014, "EGYPTIAN HIEROGLYPH ", "A017;A017A;A018;A019;A020;A021;A022;A023;A024;A025;A026"⟩,
     ⟨0x1301F, "EGYPTIAN HIEROGLYPH ", "A027;A028;A029;A030;A031;A032;A032A;A033;A034;A035;A036"⟩,
     ⟨0x1302A, "EGYPTIAN HIEROGLYPH ", "A037;A038;A039;A040;A040A;A041;A042;A042A;A043;A043A;A044"⟩,
     ⟨0x13035, "EGYPTIAN HIEROGLYPH ", "A045;A045A;A046;A047;A048;A049;A050;A051;A052;A053;A054"⟩,
     ⟨0x13040, "EGYPTIAN HIEROGLYPH ", "A055;A056;A057;A058;A059;A060;A061;A062;A063;A064;A065"⟩,
     ⟨0x1304B, "EGYPTIAN HIEROGLYPH ", "A066;A067;A068;A069;A070;B001;B002;B003;B004;B005;B005A"⟩,
     ⟨0x13056, "EGYPTIAN HIEROGLYPH ", "B006;B007;B008;B009;C001;C002;C002A;C002B;C002C;C003;C004"⟩,
     ⟨0x13061, "EGYPTIAN HIEROGLYPH ", "C005;C006;C007;C008;C009;C010;C010A;C011;C012;C013;C014"⟩,
     ⟨0x1306C, "EGYPTIAN HIEROGLYPH ", "C015;C016;C017;C018;C019;C020;C021;C022;C023;C024;D001"⟩,
     ⟨0x13077, "EGYPTIAN HIEROGLYPH ", "D002;D003;D004;D005;D006;D007;D008;D008A;D009;D010;D011"⟩,
     ⟨0x13082, "EGYPTIAN HIEROGLYPH ", "D012;D013;D014;D015;D016;D017;D018;D019;D020;D021;D022"⟩,
     ⟨0x1308D, "EGYPTIAN HIEROGLYPH ", "D023;D024;D025;D026;D027;D027A;D028;D029;D030;D031;D031A"⟩,
     ⟨0x13098, "EGYPTIAN HIEROGLYPH ", "D032;D033;D034;D034A;D035;D036;D037;D038;D039;D040;D041"⟩,
     ⟨0x130A3, "EGYPTIAN HIEROGLYPH ", "D042;D043;D044;D045;D046;D046A;D047;D048;D048A;D049;D050"⟩,
     ⟨0x130AE, "EGYPTIAN HIEROGLYPH ", "D050A;D050B;D050C;D050D;D050E;D050F;D050G;D050H;D050I"⟩,
     ⟨0x130B7, "EGYPTIAN HIEROGLYPH ", "D051;D052;D052A;D053;D054;D054A;D055;D056;D057;D058;D059"⟩,
     ⟨0x130C2, "EGYPTIAN HIEROGLYPH ", "D060;D061;D062;D063;D064;D065;D066;D067;D067A;D067B;D067C"⟩,
     ⟨0x130CD, "EGYPTIAN HIEROGLYPH ", "D067D;D067E;D067F;D067G;D067H;E001;E002;E003;E004;E005"⟩,
     ⟨0x130D7, "EGYPTIAN HIEROGLYPH ", "E006;E007;E008;E008A;E009;E009A;E010;E011;E012;E013;E014"⟩,
     ⟨0x130E2, "EGYPTIAN HIEROGLYPH ", "E015;E016;E016A;E017;E017A;E018;E019;E020;E020A;E021;E022"⟩,
     ⟨0x130ED, "EGYPTIAN HIEROGLYPH ", "E023;E024;E025;E026;E027;E028;E028A;E029;E030;E031;E032"⟩,
     ⟨0x130F8, "EGYPTIAN HIEROGLYPH ", "E033;E034;E034A;E036;E037;E038;F001;F001A;F002;F003;F004"⟩,
     ⟨0x13103, "EGYPTIAN HIEROGLYPH ", "F005;F006;F007;F008;F009;F010;F011;F012;F013;F013A;F014"⟩,
     ⟨0x1310E, "EGYPTIAN HIEROGLYPH ", "F015;F016;F017;F018;F019;F020;F021;F021A;F022;F023;F024"⟩,
     ⟨0x13119, "EGYPTIAN HIEROGLYPH ", "F025;F026;F027;F028;F029;F030;F031;F031A;F032;F033;F034"⟩,
     ⟨0x13124, "EGYPTIAN HIEROGLYPH ", "F035;F036;F037;F037A;F038;F038A;F039;F040;F041;F042;F043"⟩,
     ⟨0x1312F, "EGYPTIAN HIEROGLYPH ", "F044;F045;F045A;F046;F046A;F047;F047A;F048;F049;F050;F051"⟩,
     ⟨0x1313A, "EGYPTIAN HIEROGLYPH ", "F051A;F051B;F051C;F052;F053;G001;G002;G003;G004;G005;G006"⟩,
     ⟨0x13145, "EGYPTIAN HIEROGLYPH ", "G006A;G007;G007A;G007B;G008;G009;G010;G011;G011A;G012"⟩,
     ⟨0x1314F, "EGYPTIAN HIEROGLYPH ", "G013;G014;G015;G016;G017;G018;G019;G020;G020A;G021;G022"⟩,
     ⟨0x1315A, "EGYPTIAN HIEROGLYPH ", "G023;G024;G025;G026;G026A;G027;G028;G029;G030;G031;G032"⟩,
     ⟨0x13165, "EGYPTIAN HIEROGLYPH ", "G033;G034;G035;G036;G036A;G037;G037A;G038;G039;G040;G041"⟩,
     ⟨0x13170, "EGYPTIAN HIEROGLYPH ", "G042;G043;G043A;G044;G045;G045A;G046;G047;G048;G049;G050"⟩,
     ⟨0x1317B, "EGYPTIAN HIEROGLYPH ", "G051;G052;G053;G054;H001;H002;H003;H004;H005;H006;H006A"⟩,
     ⟨0x13186, "EGYPTIAN HIEROGLYPH ", "H007;H008;I001;I002;I003;I004;I005;I005A;I006;I007;I008"⟩,
     ⟨0x13191, "EGYPTIAN HIEROGLYPH ", "I009;I009A;I010;I010A;I011;I011A;I012;I013;I014;I015;K001"⟩,
     ⟨0x1319C, "EGYPTIAN HIEROGLYPH ", "K002;K003;K004;K005;K006;K007;K008;L001;L002;L002A;L003"⟩,
     ⟨0x131A7, "EGYPTIAN HIEROGLYPH ", "L004;L005;L006;L006A;L007;L008;M001;M001A;M001B;M002;M003"⟩,
     ⟨0x131B2, "EGYPTIAN HIEROGLYPH ", "M003A;M004;M005;M006;M007;M008;M009;M010;M010A;M011;M012"⟩,
     ⟨0x131BD, "EGYPTIAN HIEROGLYPH ", "M012A;M012B;M012C;M012D;M012E;M012F;M012G;M012H;M013;M014"⟩,
     ⟨0x131C7, "EGYPTIAN HIEROGLYPH ", "M015;M015A;M016;M016A;M017;M017A;M018;M019;M020;M021;M022"⟩,
     ⟨0x131D2, "EGYPTIAN HIEROGLYPH ", "M022A;M023;M024;M024A;M025;M026;M027;M028;M028A;M029;M030"⟩,
     ⟨0x131DD, "EGYPTIAN HIEROGLYPH ", "M031;M031A;M032;M033;M033A;M033B;M034;M035;M036;M037;M038"⟩,
     ⟨0x131E8, "EGYPTIAN HIEROGLYPH ", "M039;M040;M040A;M041;M042;M043;M044;N001;N002;N003;N004"⟩,
     ⟨0x131F3, "EGYPTIAN HIEROGLYPH ", "N005;N006;N007;N008;N009;N010;N011;N012;N013;N014;N015"⟩,
     ⟨0x131FE, "EGYPTIAN HIEROGLYPH ", "N016;N017;N018;N018A;N018B;N019;N020;N021;N022;N023;N024"⟩,
     ⟨0x13209, "EGYPTIAN HIEROGLYPH ", "N025;N025A;N026;N027;N028;N029;N030;N031;N032;N033;N033A"⟩,
     ⟨0x13214, "EGYPTIAN HIEROGLYPH ", "N034;N034A;N035;N035A;N036;N037;N037A;N038;N039;N040;N041"⟩,
     ⟨0x1321F, "EGYPTIAN HIEROGLYPH ", "N042;NL001;NL002;NL003;NL004;NL005;NL005A;NL006;NL007"⟩,
     ⟨0x13228, "EGYPTIAN HIEROGLYPH ", "NL008;NL009;NL010;NL011;NL012;NL013;NL014;NL015;NL016"⟩,
     ⟨0x13231, "EGYPTIAN HIEROGLYPH ", "NL017;NL017A;NL018;NL019;NL020;NU001;NU002;NU003;NU004"⟩,
     ⟨0x1323A, "EGYPTIAN HIEROGLYPH ", "NU005;NU006;NU007;NU008;NU009;NU010;NU010A;NU011;NU011A"⟩,
     ⟨0x13243, "EGYPTIAN HIEROGLYPH ", "NU012;NU013;NU014;NU015;NU016;NU017;NU018;NU018A;NU019"⟩,
     ⟨0x1324C, "EGYPTIAN HIEROGLYPH ", "NU020;NU021;NU022;NU022A;O001;O001A;O002;O003;O004;O005"⟩,
     ⟨0x13256, "EGYPTIAN HIEROGLYPH ", "O005A;O006;O006A;O006B;O006C;O006D;O006E;O006F;O007;O008"⟩,
     ⟨0x13260, "EGYPTIAN HIEROGLYPH ", "O009;O010;O010A;O010B;O010C;O011;O012;O013;O014;O015;O016"⟩,
     ⟨0x1326B, "EGYPTIAN HIEROGLYPH ", "O017;O018;O019;O019A;O020;O020A;O021;O022;O023;O024;O024A"⟩,
     ⟨0x13276, "EGYPTIAN HIEROGLYPH ", "O025;O025A;O026;O027;O028;O029;O029A;O030;O030A;O031;O032"⟩,
     ⟨0x13281, "EGYPTIAN HIEROGLYPH ", "O033;O033A;O034;O035;O036;O036A;O036B;O036C;O036D;O037"⟩,
     ⟨0x1328B, "EGYPTIAN HIEROGLYPH ", "O038;O039;O040;O041;O042;O043;O044;O045;O046;O047;O048"⟩,
     ⟨0x13296, "EGYPTIAN HIEROGLYPH ", "O049;O050;O050A;O050B;O051;P001;P001A;P002;P003;P003A"⟩,
     ⟨0x132A0, "EGYPTIAN HIEROGLYPH ", "P004;P005;P006;P007;P008;P009;P010;P011;Q001;Q002;Q003"⟩,
     ⟨0x132AB, "EGYPTIAN HIEROGLYPH ", "Q004;Q005;Q006;Q007;R001;R002;R002A;R003;R003A;R003B;R004"⟩,
     ⟨0x132B6, "EGYPTIAN HIEROGLYPH ", "R005;R006;R007;R008;R009;R010;R010A;R011;R012;R013;R014"⟩,
     ⟨0x132C1, "EGYPTIAN HIEROGLYPH ", "R015;R016;R016A;R017;R018;R019;R020;R021;R022;R023;R024"⟩,
     ⟨0x132CC, "EGYPTIAN HIEROGLYPH ", "R025;R026;R027;R028;R029;S001;S002;S002A;S003;S004;S005"⟩,
     ⟨0x132D7, "EGYPTIAN HIEROGLYPH ", "S006;S006A;S007;S008;S009;S010;S011;S012;S013;S014;S014A"⟩,
     ⟨0x132E2, "EGYPTIAN HIEROGLYPH ", "S014B;S015;S016;S017;S017A;S018;S019;S020;S021;S022;S023"⟩,
     ⟨0x132ED, "EGYPTIAN HIEROGLYPH ", "S024;S025;S026;S026A;S026B;S027;S028;S029;S030;S031;S032"⟩,
     ⟨0x132F8, "EGYPTIAN HIEROGLYPH ", "S033;S034;S035;S035A;S036;S037;S038;S039;S040;S041;S042"⟩,
     ⟨0x13303, "EGYPTIAN HIEROGLYPH ", "S043;S044;S045;S046;T001;T002;T003;T003A;T004;T005;T006"⟩,
     ⟨0x1330E, "EGYPTIAN HIEROGLYPH ", "T007;T007A;T008;T008A;T009;T009A;T010;T011;T011A;T012"⟩,
     ⟨0x13318, "EGYPTIAN HIEROGLYPH ", "T013;T014;T015;T016;T016A;T017;T018;T019;T020;T021;T022"⟩,
     ⟨0x13323, "EGYPTIAN HIEROGLYPH ", "T023;T024;T025;T026;T027;T028;T029;T030;T031;T032;T032A"⟩,
     ⟨0x1332E, "EGYPTIAN HIEROGLYPH ", "T033;T033A;T034;T035;T036;U001;U002;U003;U004;U005;U006"⟩,
     ⟨0x13339, "EGYPTIAN HIEROGLYPH ", "U006A;U006B;U007;U008;U009;U010;U011;U012;U013;U014;U015"⟩,
     ⟨0x13344, "EGYPTIAN HIEROGLYPH ", "U016;U017;U018;U019;U020;U021;U022;U023;U023A;U024;U025"⟩,
     ⟨0x1334F, "EGYPTIAN HIEROGLYPH ", "U026;U027;U028;U029;U029A;U030;U031;U032;U032A;U033;U034"⟩,
     ⟨0x1335A, "EGYPTIAN HIEROGLYPH ", "U035;U036;U037;U038;U039;U040;U041;U042;V001;V001A;V001B"⟩,
     ⟨0x13365, "EGYPTIAN HIEROGLYPH ", "V001C;V001D;V001E;V001F;V001G;V001H;V001I;V002;V002A"⟩,
     ⟨0x1336E, "EGYPTIAN HIEROGLYPH ", "V003;V004;V005;V006;V007;V007A;V007B;V008;V009;V010;V011"⟩,
     ⟨0x13379, "EGYPTIAN HIEROGLYPH ", "V011A;V011B;V011C;V012;V012A;V012B;V013;V014;V015;V016"⟩,
     ⟨0x13383, "EGYPTIAN HIEROGLYPH ", "V017;V018;V019;V020;V020A;V020B;V020C;V020D;V020E;V020F"⟩,
     ⟨0x1338D, "EGYPTIAN HIEROGLYPH ", "V020G;V020H;V020I;V020J;V020K;V020L;V021;V022;V023;V023A"⟩,
     ⟨0x13397, "EGYPTIAN HIEROGLYPH ", "V024;V025;V026;V027;V028;V028A;V029;V029A;V030;V030A;V031"⟩,
     ⟨0x133A2, "EGYPTIAN HIEROGLYPH ", "V031A;V032;V033;V033A;V034;V035;V036;V037;V037A;V038;V039"⟩,
     ⟨0x133AD, "EGYPTIAN HIEROGLYPH ", "V040;V040A;W001;W002;W003;W003A;W004;W005;W006;W007;W008"⟩,
     ⟨0x133B8, "EGYPTIAN HIEROGLYPH ", "W009;W009A;W010;W010A;W011;W012;W013;W014;W014A;W015;W016"⟩,
     ⟨0x133C3, "EGYPTIAN HIEROGLYPH ", "W017;W017A;W018;W018A;W019;W020;W021;W022;W023;W024;W024A"⟩,
     ⟨0x133CE, "EGYPTIAN HIEROGLYPH ", "W025;X001;X002;X003;X004;X004A;X004B;X005;X006;X006A;X007"⟩,
     ⟨0x133D9, "EGYPTIAN HIEROGLYPH ", "X008;X008A;Y001;Y001A;Y002;Y003;Y004;Y005;Y006;Y007;Y008"⟩,
     ⟨0x133E4, "EGYPTIAN HIEROGLYPH ", "Z001;Z002;Z002A;Z002B;Z002C;Z002D;Z003;Z003A;Z003B;Z004"⟩,
     ⟨0x133EE, "EGYPTIAN HIEROGLYPH ", "Z004A;Z005;Z005A;Z006;Z007;Z008;Z009;Z010;Z011;Z012;Z013"⟩,
     ⟨0x133F9, "EGYPTIAN HIEROGLYPH ", "Z014;Z015;Z015A;Z015B;Z015C;Z015D;Z015E;Z015F;Z015G;Z015H"⟩,
     ⟨0x13403, "EGYPTIAN HIEROGLYPH ", "Z015I;Z016;Z016A;Z016B;Z016C;Z016D;Z016E;Z016F;Z016G"⟩,
     ⟨0x1340C, "EGYPTIAN HIEROGLYPH ", "Z016H;AA001;AA002;AA003;AA004;AA005;AA006;AA007;AA007A"⟩,
     ⟨0x13415, "EGYPTIAN HIEROGLYPH ", "AA007B;AA008;AA009;AA010;AA011;AA012;AA013;AA014;AA015"⟩,
     ⟨0x1341E, "EGYPTIAN HIEROGLYPH ", "AA016;AA017;AA018;AA019;AA020;AA021;AA022;AA023;AA024"⟩,
     ⟨0x13427, "EGYPTIAN HIEROGLYPH ", "AA025;AA026;AA027;AA028;AA029;AA030;AA031;AA032;V011D"⟩]

/-- Names in the block Egyptian Hieroglyph Format Controls. -/
def egyptianHieroglyphFormatControls : NameBlock where
  first := 0x13430
  last := 0x1345F
  rows :=
    [⟨0x13430, "EGYPTIAN HIEROGLYPH ", "VERTICAL JOINER;HORIZONTAL JOINER"⟩,
     ⟨0x13432, "EGYPTIAN HIEROGLYPH INSERT AT ", "TOP START;BOTTOM START;TOP END;BOTTOM END"⟩,
     ⟨0x13436, "EGYPTIAN HIEROGLYPH ", "OVERLAY MIDDLE;BEGIN SEGMENT;END SEGMENT;INSERT AT MIDDLE"⟩,
     ⟨0x1343A, "EGYPTIAN HIEROGLYPH ", "INSERT AT TOP;INSERT AT BOTTOM;BEGIN ENCLOSURE"⟩,
     ⟨0x1343D, "EGYPTIAN HIEROGLYPH ", "END ENCLOSURE;BEGIN WALLED ENCLOSURE;END WALLED ENCLOSURE"⟩,
     ⟨0x13440, "EGYPTIAN HIEROGLYPH ", "MIRROR HORIZONTALLY;FULL BLANK;HALF BLANK"⟩,
     ⟨0x13443, "EGYPTIAN HIEROGLYPH ", "LOST SIGN;HALF LOST SIGN;TALL LOST SIGN;WIDE LOST SIGN"⟩,
     ⟨0x13447, "EGYPTIAN HIEROGLYPH MODIFIER DAMAGED AT ", "TOP START;BOTTOM START;START"⟩,
     ⟨0x1344A, "EGYPTIAN HIEROGLYPH MODIFIER DAMAGED AT ", "TOP END;TOP;BOTTOM START AND TOP END"⟩,
     ⟨0x1344D, "EGYPTIAN HIEROGLYPH MODIFIER DAMAGED AT ", "START AND TOP;BOTTOM END"⟩,
     ⟨0x1344F, "EGYPTIAN HIEROGLYPH MODIFIER DAMAGED AT ", "TOP START AND BOTTOM END;BOTTOM"⟩,
     ⟨0x13451, "EGYPTIAN HIEROGLYPH MODIFIER DAMAGED AT ", "START AND BOTTOM;END;TOP AND END"⟩,
     ⟨0x13454, "EGYPTIAN HIEROGLYPH MODIFIER ", "DAMAGED AT BOTTOM AND END;DAMAGED"⟩]

/-- Names in the block Anatolian Hieroglyphs. -/
def anatolianHieroglyphs : NameBlock where
  first := 0x14400
  last := 0x1467F
  rows :=
    [⟨0x14400, "ANATOLIAN HIEROGLYPH ", "A001;A002;A003;A004;A005;A006;A007;A008;A009"⟩,
     ⟨0x14409, "ANATOLIAN HIEROGLYPH ", "A010;A010A;A011;A012;A013;A014;A015;A016;A017;A018;A019"⟩,
     ⟨0x14414, "ANATOLIAN HIEROGLYPH ", "A020;A021;A022;A023;A024;A025;A026;A026A;A027;A028;A029"⟩,
     ⟨0x1441F, "ANATOLIAN HIEROGLYPH ", "A030;A031;A032;A033;A034;A035;A036;A037;A038;A039;A039A"⟩,
     ⟨0x1442A, "ANATOLIAN HIEROGLYPH ", "A040;A041;A041A;A042;A043;A044;A045;A045A;A046;A046A"⟩,
     ⟨0x14434, "ANATOLIAN HIEROGLYPH ", "A046B;A047;A048;A049;A050;A051;A052;A053;A054;A055;A056"⟩,
     ⟨0x1443F, "ANATOLIAN HIEROGLYPH ", "A057;A058;A059;A060;A061;A062;A063;A064;A065;A066;A066A"⟩,
     ⟨0x1444A, "ANATOLIAN HIEROGLYPH ", "A066B;A066C;A067;A068;A069;A070;A071;A072;A073;A074"⟩,
     ⟨0x14454, "ANATOLIAN HIEROGLYPH ", "A075;A076;A077;A078;A079;A080;A081;A082;A083;A084;A085"⟩,
     ⟨0x1445F, "ANATOLIAN HIEROGLYPH ", "A086;A087;A088;A089;A090;A091;A092;A093;A094;A095;A096"⟩,
     ⟨0x1446A, "ANATOLIAN HIEROGLYPH ", "A097;A097A;A098;A098A;A099;A100;A100A;A101;A101A;A102"⟩,
     ⟨0x14474, "ANATOLIAN HIEROGLYPH ", "A102A;A103;A104;A104A;A104B;A104C;A105;A105A;A105B;A106"⟩,
     ⟨0x1447E, "ANATOLIAN HIEROGLYPH ", "A107;A107A;A107B;A107C;A108;A109;A110;A110A;A110B;A111"⟩,
     ⟨0x14488, "ANATOLIAN HIEROGLYPH ", "A112;A113;A114;A115;A115A;A116;A117;A118;A119;A120;A121"⟩,
     ⟨0x14493, "ANATOLIAN HIEROGLYPH ", "A122;A123;A124;A125;A125A;A126;A127;A128;A129;A130;A131"⟩,
     ⟨0x1449E, "ANATOLIAN HIEROGLYPH ", "A132;A133;A134;A135;A135A;A136;A137;A138;A139;A140;A141"⟩,
     ⟨0x144A9, "ANATOLIAN HIEROGLYPH ", "A142;A143;A144;A145;A146;A147;A148;A149;A150;A151;A152"⟩,
     ⟨0x144B4, "ANATOLIAN HIEROGLYPH ", "A153;A154;A155;A156;A157;A158;A159;A160;A161;A162;A163"⟩,
     ⟨0x144BF, "ANATOLIAN HIEROGLYPH ", "A164;A165;A166;A167;A168;A169;A170;A171;A172;A173;A174"⟩,
     ⟨0x144CA, "ANATOLIAN HIEROGLYPH ", "A175;A176;A177;A178;A179;A180;A181;A182;A183;A184;A185"⟩,
     ⟨0x144D5, "ANATOLIAN HIEROGLYPH ", "A186;A187;A188;A189;A190;A191;A192;A193;A194;A195;A196"⟩,
     ⟨0x144E0, "ANATOLIAN HIEROGLYPH ", "A197;A198;A199;A200;A201;A202;A202A;A202B;A203;A204;A205"⟩,
     ⟨0x144EB, "ANATOLIAN HIEROGLYPH ", "A206;A207;A207A;A208;A209;A209A;A210;A211;A212;A213;A214"⟩,
     ⟨0x144F6, "ANATOLIAN HIEROGLYPH ", "A215;A215A;A216;A216A;A217;A218;A219;A220;A221;A222;A223"⟩,
     ⟨0x14501, "ANATOLIAN HIEROGLYPH ", "A224;A225;A226;A227;A227A;A228;A229;A230;A231;A232;A233"⟩,
     ⟨0x1450C, "ANATOLIAN HIEROGLYPH ", "A234;A235;A236;A237;A238;A239;A240;A241;A242;A243;A244"⟩,
     ⟨0x14517, "ANATOLIAN HIEROGLYPH ", "A245;A246;A247;A248;A249;A250;A251;A252;A253;A254;A255"⟩,
     ⟨0x14522, "ANATOLIAN HIEROGLYPH ", "A256;A257;A258;A259;A260;A261;A262;A263;A264;A265;A266"⟩,
     ⟨0x1452D, "ANATOLIAN HIEROGLYPH ", "A267;A267A;A268;A269;A270;A271;A272;A273;A274;A275;A276"⟩,
     ⟨0x14538, "ANATOLIAN HIEROGLYPH ", "A277;A278;A279;A280;A281;A282;A283;A284;A285;A286;A287"⟩,
     ⟨0x14543, "ANATOLIAN HIEROGLYPH ", "A288;A289;A289A;A290;A291;A292;A293;A294;A294A;A295;A296"⟩,
     ⟨0x1454E, "ANATOLIAN HIEROGLYPH ", "A297;A298;A299;A299A;A300;A301;A302;A303;A304;A305;A306"⟩,
     ⟨0x14559, "ANATOLIAN HIEROGLYPH ", "A307;A308;A309;A309A;A310;A311;A312;A313;A314;A315;A316"⟩,
     ⟨0x14564, "ANATOLIAN HIEROGLYPH ", "A317;A318;A319;A320;A321;A322;A323;A324;A325;A326;A327"⟩,
     ⟨0x1456F, "ANATOLIAN HIEROGLYPH ", "A328;A329;A329A;A330;A331;A332A;A332B;A332C;A333;A334"⟩,
     ⟨0x14579, "ANATOLIAN HIEROGLYPH ", "A335;A336;A336A;A336B;A336C;A337;A338;A339;A340;A341"⟩,
     ⟨0x14583, "ANATOLIAN HIEROGLYPH ", "A342;A343;A344;A345;A346;A347;A348;A349;A350;A351;A352"⟩,
     ⟨0x1458E, "ANATOLIAN HIEROGLYPH ", "A353;A354;A355;A356;A357;A358;A359;A359A;A360;A361;A362"⟩,
     ⟨0x14599, "ANATOLIAN HIEROGLYPH ", "A363;A364;A364A;A365;A366;A367;A368;A368A;A369;A370;A371"⟩,
     ⟨0x145A4, "ANATOLIAN HIEROGLYPH ", "A371A;A372;A373;A374;A375;A376;A377;A378;A379;A380;A381"⟩,
     ⟨0x145AF, "ANATOLIAN HIEROGLYPH ", "A381A;A382;A383 RA OR RI;A383A;A384;A385;A386;A386A;A387"⟩,
     ⟨0x145B8, "ANATOLIAN HIEROGLYPH ", "A388;A389;A390;A391;A392;A393 EIGHT;A394;A395;A396;A397"⟩,
     ⟨0x145C2, "ANATOLIAN HIEROGLYPH ", "A398;A399;A400;A401;A402;A403;A404;A405;A406;A407;A408"⟩,
     ⟨0x145CD, "ANATOLIAN HIEROGLYPH ", "A409;A410 BEGIN LOGOGRAM MARK;A410A END LOGOGRAM MARK"⟩,
     ⟨0x145D0, "ANATOLIAN HIEROGLYPH ", "A411;A412;A413;A414;A415;A416;A417;A418;A419"⟩,
     ⟨0x145D9, "ANATOLIAN HIEROGLYPH ", "A420;A421;A422;A423;A424;A425;A426;A427;A428;A429;A430"⟩,
     ⟨0x145E4, "ANATOLIAN HIEROGLYPH ", "A431;A432;A433;A434;A435;A436;A437;A438;A439;A440;A441"⟩,
     ⟨0x145EF, "ANATOLIAN HIEROGLYPH ", "A442;A443;A444;A445;A446;A447;A448;A449;A450;A450A;A451"⟩,
     ⟨0x145FA, "ANATOLIAN HIEROGLYPH ", "A452;A453;A454;A455;A456;A457;A457A;A458;A459;A460;A461"⟩,
     ⟨0x14605, "ANATOLIAN HIEROGLYPH ", "A462;A463;A464;A465;A466;A467;A468;A469;A470;A471;A472"⟩,
     ⟨0x14610, "ANATOLIAN HIEROGLYPH ", "A473;A474;A475;A476;A477;A478;A479;A480;A481;A482;A483"⟩,
     ⟨0x1461B, "ANATOLIAN HIEROGLYPH ", "A484;A485;A486;A487;A488;A489;A490;A491;A492;A493;A494"⟩,
     ⟨0x14626, "ANATOLIAN HIEROGLYPH ", "A495;A496;A497;A501;A502;A503;A504;A505;A506;A507;A508"⟩,
     ⟨0x14631, "ANATOLIAN HIEROGLYPH ", "A509;A510;A511;A512;A513;A514;A515;A516;A517;A518;A519"⟩,
     ⟨0x1463C, "ANATOLIAN HIEROGLYPH ", "A520;A521;A522;A523;A524;A525;A526;A527;A528;A529;A530"⟩]

end NameBlock

/-- The blocks of this module. -/
def ancientBlocks : List NameBlock :=
  [.linearBSyllabary, .linearBIdeograms, .aegeanNumbers, .ancientGreekNumbers, .ancientSymbols,
   .phaistosDisc, .lycian, .carian, .linearA, .cypriotSyllabary, .lydian, .cuneiform,
   .cuneiformNumbersAndPunctuation, .earlyDynasticCuneiform, .cyproMinoan, .egyptianHieroglyphs,
   .egyptianHieroglyphFormatControls, .anatolianHieroglyphs]

end Text
end Scripting
