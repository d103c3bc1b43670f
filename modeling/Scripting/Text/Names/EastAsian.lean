import Scripting.Text.Names.Block

namespace Scripting
namespace Text

/-!
Names of letters, radicals and signs of the scripts of East Asia.
-/

namespace NameBlock

/-- Names in the block Hangul Jamo. -/
def hangulJamo : NameBlock where
  first := 0x1100
  last := 0x11FF
  rows :=
    [⟨0x1100, "HANGUL CHOSEONG ", "KIYEOK;SSANGKIYEOK;NIEUN;TIKEUT;SSANGTIKEUT"⟩,
     ⟨0x1105, "HANGUL CHOSEONG ", "RIEUL;MIEUM;PIEUP;SSANGPIEUP;SIOS;SSANGSIOS;IEUNG;CIEUC"⟩,
     ⟨0x110D, "HANGUL CHOSEONG ", "SSANGCIEUC;CHIEUCH;KHIEUKH;THIEUTH;PHIEUPH;HIEUH;NIEUN-KIYEOK"⟩,
     ⟨0x1114, "HANGUL CHOSEONG ", "SSANGNIEUN;NIEUN-TIKEUT;NIEUN-PIEUP;TIKEUT-KIYEOK;RIEUL-NIEUN"⟩,
     ⟨0x1119, "HANGUL CHOSEONG ", "SSANGRIEUL;RIEUL-HIEUH;KAPYEOUNRIEUL;MIEUM-PIEUP;KAPYEOUNMIEUM"⟩,
     ⟨0x111E, "HANGUL CHOSEONG PIEUP-", "KIYEOK;NIEUN;TIKEUT;SIOS;SIOS-KIYEOK;SIOS-TIKEUT"⟩,
     ⟨0x1124, "HANGUL CHOSEONG PIEUP-", "SIOS-PIEUP;SSANGSIOS;SIOS-CIEUC;CIEUC;CHIEUCH;THIEUTH"⟩,
     ⟨0x112A, "HANGUL CHOSEONG ", "PIEUP-PHIEUPH;KAPYEOUNPIEUP;KAPYEOUNSSANGPIEUP"⟩,
     ⟨0x112D, "HANGUL CHOSEONG SIOS-", "KIYEOK;NIEUN;TIKEUT;RIEUL;MIEUM;PIEUP;PIEUP-KIYEOK"⟩,
     ⟨0x1134, "HANGUL CHOSEONG SIOS-", "SSANGSIOS;IEUNG;CIEUC;CHIEUCH;KHIEUKH;THIEUTH;PHIEUPH"⟩,
     ⟨0x113B, "HANGUL CHOSEONG ", "SIOS-HIEUH;CHITUEUMSIOS;CHITUEUMSSANGSIOS;CEONGCHIEUMSIOS"⟩,
     ⟨0x113F, "HANGUL CHOSEONG ", "CEONGCHIEUMSSANGSIOS;PANSIOS;IEUNG-KIYEOK;IEUNG-TIKEUT"⟩,
     ⟨0x1143, "HANGUL CHOSEONG ", "IEUNG-MIEUM;IEUNG-PIEUP;IEUNG-SIOS;IEUNG-PANSIOS;SSANGIEUNG"⟩,
     ⟨0x1148, "HANGUL CHOSEONG IEUNG-", "CIEUC;CHIEUCH;THIEUTH;PHIEUPH"⟩,
     ⟨0x114C, "HANGUL CHOSEONG ", "YESIEUNG;CIEUC-IEUNG;CHITUEUMCIEUC;CHITUEUMSSANGCIEUC"⟩,
     ⟨0x1150, "HANGUL CHOSEONG ", "CEONGCHIEUMCIEUC;CEONGCHIEUMSSANGCIEUC;CHIEUCH-KHIEUKH"⟩,
     ⟨0x1153, "HANGUL CHOSEONG ", "CHIEUCH-HIEUH;CHITUEUMCHIEUCH;CEONGCHIEUMCHIEUCH;PHIEUPH-PIEUP"⟩,
     ⟨0x1157, "HANGUL CHOSEONG ", "KAPYEOUNPHIEUPH;SSANGHIEUH;YEORINHIEUH;KIYEOK-TIKEUT"⟩,
     ⟨0x115B, "HANGUL CHOSEONG ", "NIEUN-SIOS;NIEUN-CIEUC;NIEUN-HIEUH;TIKEUT-RIEUL;FILLER"⟩,
     ⟨0x1160, "HANGUL JUNGSEONG ", "FILLER;A;AE;YA;YAE;EO;E;YEO;YE;O;WA;WAE;OE;YO;U"⟩,
     ⟨0x116F, "HANGUL JUNGSEONG ", "WEO;WE;WI;YU;EU;YI;I;A-O;A-U;YA-O;YA-YO;EO-O;EO-U;EO-EU;YEO-O"⟩,
     ⟨0x117E, "HANGUL JUNGSEONG ", "YEO-U;O-EO;O-E;O-YE;O-O;O-U;YO-YA;YO-YAE;YO-YEO;YO-O;YO-I;U-A"⟩,
     ⟨0x118A, "HANGUL JUNGSEONG ", "U-AE;U-EO-EU;U-YE;U-U;YU-A;YU-EO;YU-E;YU-YEO;YU-YE;YU-U;YU-I"⟩,
     ⟨0x1195, "HANGUL JUNGSEONG ", "EU-U;EU-EU;YI-U;I-A;I-YA;I-O;I-U;I-EU;I-ARAEA;ARAEA;ARAEA-EO"⟩,
     ⟨0x11A0, "HANGUL JUNGSEONG ", "ARAEA-U;ARAEA-I;SSANGARAEA;A-EU;YA-U;YEO-YA;O-YA;O-YAE"⟩,
     ⟨0x11A8, "HANGUL JONGSEONG ", "KIYEOK;SSANGKIYEOK"⟩,
     ⟨0x11AA, "HANGUL JONGSEONG ", "KIYEOK-SIOS;NIEUN;NIEUN-CIEUC;NIEUN-HIEUH;TIKEUT;RIEUL"⟩,
     ⟨0x11B0, "HANGUL JONGSEONG RIEUL-", "KIYEOK;MIEUM;PIEUP;SIOS;THIEUTH;PHIEUPH;HIEUH"⟩,
     ⟨0x11B7, "HANGUL JONGSEONG ", "MIEUM;PIEUP;PIEUP-SIOS;SIOS;SSANGSIOS;IEUNG;CIEUC;CHIEUCH"⟩,
     ⟨0x11BF, "HANGUL JONGSEONG ", "KHIEUKH;THIEUTH;PHIEUPH;HIEUH;KIYEOK-RIEUL;KIYEOK-SIOS-KIYEOK"⟩,
     ⟨0x11C5, "HANGUL JONGSEONG NIEUN-", "KIYEOK;TIKEUT;SIOS;PANSIOS;THIEUTH"⟩,
     ⟨0x11CA, "HANGUL JONGSEONG ", "TIKEUT-KIYEOK;TIKEUT-RIEUL;RIEUL-KIYEOK-SIOS"⟩,
     ⟨0x11CD, "HANGUL JONGSEONG ", "RIEUL-NIEUN;RIEUL-TIKEUT;RIEUL-TIKEUT-HIEUH;SSANGRIEUL"⟩,
     ⟨0x11D1, "HANGUL JONGSEONG RIEUL-", "MIEUM-KIYEOK;MIEUM-SIOS;PIEUP-SIOS;PIEUP-HIEUH"⟩,
     ⟨0x11D5, "HANGUL JONGSEONG RIEUL-", "KAPYEOUNPIEUP;SSANGSIOS;PANSIOS;KHIEUKH;YEORINHIEUH"⟩,
     ⟨0x11DA, "HANGUL JONGSEONG MIEUM-", "KIYEOK;RIEUL;PIEUP;SIOS;SSANGSIOS;PANSIOS;CHIEUCH;HIEUH"⟩,
     ⟨0x11E2, "HANGUL JONGSEONG ", "KAPYEOUNMIEUM;PIEUP-RIEUL;PIEUP-PHIEUPH"⟩,
     ⟨0x11E5, "HANGUL JONGSEONG ", "PIEUP-HIEUH;KAPYEOUNPIEUP;SIOS-KIYEOK;SIOS-TIKEUT;SIOS-RIEUL"⟩,
     ⟨0x11EA, "HANGUL JONGSEONG ", "SIOS-PIEUP;PANSIOS;IEUNG-KIYEOK;IEUNG-SSANGKIYEOK;SSANGIEUNG"⟩,
     ⟨0x11EF, "HANGUL JONGSEONG ", "IEUNG-KHIEUKH;YESIEUNG;YESIEUNG-SIOS;YESIEUNG-PANSIOS"⟩,
     ⟨0x11F3, "HANGUL JONGSEONG ", "PHIEUPH-PIEUP;KAPYEOUNPHIEUPH;HIEUH-NIEUN;HIEUH-RIEUL"⟩,
     ⟨0x11F7, "HANGUL JONGSEONG ", "HIEUH-MIEUM;HIEUH-PIEUP;YEORINHIEUH;KIYEOK-NIEUN;KIYEOK-PIEUP"⟩,
     ⟨0x11FC, "HANGUL JONGSEONG ", "KIYEOK-CHIEUCH;KIYEOK-KHIEUKH;KIYEOK-HIEUH;SSANGNIEUN"⟩]

/-- Names in the block Mongolian. -/
def mongolian : NameBlock where
  first := 0x1800
  last := 0x18AF
  rows :=
    [⟨0x1800, "MONGOLIAN ", "BIRGA;ELLIPSIS;COMMA;FULL STOP;COLON;FOUR DOTS;TODO SOFT HYPHEN"⟩,
     ⟨0x1807, "MONGOLIAN ", "SIBE SYLLABLE BOUNDARY MARKER;MANCHU COMMA;MANCHU FULL STOP;NIRUGU"⟩,
     ⟨0x180B, "MONGOLIAN FREE VARIATION SELECTOR ", "ONE;TWO;THREE"⟩,
     ⟨0x180E, "MONGOLIAN ", "VOWEL SEPARATOR;FREE VARIATION SELECTOR FOUR"⟩,
     ⟨0x1820, "MONGOLIAN LETTER ", "A;E;I;O;U;OE;UE;EE;NA;ANG;BA;PA;QA;GA;MA;LA;SA;SHA"⟩,
     ⟨0x1832, "MONGOLIAN LETTER ", "TA;DA;CHA;JA;YA;RA;WA;FA;KA;KHA;TSA;ZA;HAA;ZRA;LHA;ZHI;CHI"⟩,
     ⟨0x1843, "MONGOLIAN LETTER TODO ", "LONG VOWEL SIGN;E;I;O;U;OE;UE;ANG;BA;PA"⟩,
     ⟨0x184D, "MONGOLIAN LETTER TODO ", "QA;GA;MA;TA;DA;CHA;JA;TSA;YA;WA;KA;GAA;HAA;JIA;NIA;DZA"⟩,
     ⟨0x185D, "MONGOLIAN LETTER SIBE ", "E;I;IY;UE;U;ANG"⟩,
     ⟨0x1863, "MONGOLIAN LETTER SIBE ", "KA;GA;HA;PA;SHA;TA;DA;JA;FA;GAA;HAA;TSA;ZA;RAA;CHA;ZHA"⟩,
     ⟨0x1873, "MONGOLIAN LETTER MANCHU ", "I;KA;RA;FA;ZHA"⟩,
     ⟨0x1878, "", "MONGOLIAN LETTER CHA WITH TWO DOTS"⟩,
     ⟨0x1880, "MONGOLIAN LETTER ALI GALI ", "ANUSVARA ONE;VISARGA ONE;DAMARU"⟩,
     ⟨0x1883, "MONGOLIAN LETTER ALI GALI ", "UBADAMA;INVERTED UBADAMA;BALUDA;THREE BALUDA;A;I;KA"⟩,
     ⟨0x188A, "MONGOLIAN LETTER ALI GALI ", "NGA;CA;TTA;TTHA;DDA;NNA;TA;DA;PA;PHA;SSA;ZHA;ZA;AH"⟩,
     ⟨0x1898, "MONGOLIAN LETTER TODO ALI GALI ", "TA;ZHA"⟩,
     ⟨0x189A, "MONGOLIAN LETTER MANCHU ALI GALI ", "GHA;NGA;CA;JHA;TTA;DDHA;TA;DHA;SSA;CYA;ZHA;ZA"⟩,
     ⟨0x18A6, "MONGOLIAN LETTER ALI GALI HALF ", "U;YA"⟩,
     ⟨0x18A8, "MONGOLIAN LETTER ", "MANCHU ALI GALI BHA;ALI GALI DAGALGA;MANCHU ALI GALI LHA"⟩]

/-- Names in the block CJK Radicals Supplement. -/
def cjkRadicalsSupplement : NameBlock where
  first := 0x2E80
  last := 0x2EFF
  rows :=
    [⟨0x2E80, "CJK RADICAL ", "REPEAT;CLIFF;SECOND ONE;SECOND TWO;SECOND THREE;PERSON"⟩,
     ⟨0x2E86, "CJK RADICAL ", "BOX;TABLE;KNIFE ONE;KNIFE TWO;DIVINATION;SEAL;SMALL ONE;SMALL TWO"⟩,
     ⟨0x2E8E, "CJK RADICAL LAME ", "ONE;TWO;THREE;FOUR"⟩,
     ⟨0x2E92, "CJK RADICAL ", "SNAKE;THREAD;SNOUT ONE;SNOUT TWO;HEART ONE;HEART TWO;HAND;RAP"⟩,
     ⟨0x2E9B, "CJK RADICAL ", "CHOKE;SUN;MOON;DEATH;MOTHER;CIVILIAN;WATER ONE"⟩,
     ⟨0x2EA2, "CJK RADICAL ", "WATER TWO;FIRE;PAW ONE;PAW TWO;SIMPLIFIED HALF TREE TRUNK"⟩,
     ⟨0x2EA7, "CJK RADICAL ", "COW;DOG;JADE;BOLT OF CLOTH;EYE;SPIRIT ONE"⟩,
     ⟨0x2EAD, "CJK RADICAL ", "SPIRIT TWO;BAMBOO;SILK;C-SIMPLIFIED SILK;NET ONE;NET TWO"⟩,
     ⟨0x2EB3, "CJK RADICAL ", "NET THREE;NET FOUR;MESH;SHEEP;RAM;EWE;OLD;BRUSH ONE;BRUSH TWO"⟩,
     ⟨0x2EBC, "CJK RADICAL ", "MEAT;MORTAR;GRASS ONE;GRASS TWO;GRASS THREE;TIGER;CLOTHES;WEST ONE"⟩,
     ⟨0x2EC4, "CJK RADICAL ", "WEST TWO;C-SIMPLIFIED SEE;SIMPLIFIED HORN;HORN;C-SIMPLIFIED SPEECH"⟩,
     ⟨0x2EC9, "CJK RADICAL ", "C-SIMPLIFIED SHELL;FOOT;C-SIMPLIFIED CART;SIMPLIFIED WALK"⟩,
     ⟨0x2ECD, "CJK RADICAL ", "WALK ONE;WALK TWO;CITY;C-SIMPLIFIED GOLD;LONG ONE;LONG TWO"⟩,
     ⟨0x2ED3, "CJK RADICAL ", "C-SIMPLIFIED LONG;C-SIMPLIFIED GATE;MOUND ONE;MOUND TWO;RAIN;BLUE"⟩,
     ⟨0x2ED9, "CJK RADICAL C-SIMPLIFIED ", "TANNED LEATHER;LEAF;WIND;FLY"⟩,
     ⟨0x2EDD, "CJK RADICAL EAT ", "ONE;TWO;THREE"⟩,
     ⟨0x2EE0, "CJK RADICAL ", "C-SIMPLIFIED EAT;HEAD;C-SIMPLIFIED HORSE;BONE;GHOST"⟩,
     ⟨0x2EE5, "CJK RADICAL C-SIMPLIFIED ", "FISH;BIRD;SALT"⟩,
     ⟨0x2EE8, "CJK RADICAL SIMPLIFIED ", "WHEAT;YELLOW"⟩,
     ⟨0x2EEA, "CJK RADICAL ", "C-SIMPLIFIED FROG;J-SIMPLIFIED EVEN;C-SIMPLIFIED EVEN"⟩,
     ⟨0x2EED, "CJK RADICAL ", "J-SIMPLIFIED TOOTH;C-SIMPLIFIED TOOTH;J-SIMPLIFIED DRAGON"⟩,
     ⟨0x2EF0, "CJK RADICAL ", "C-SIMPLIFIED DRAGON;TURTLE;J-SIMPLIFIED TURTLE;C-SIMPLIFIED TURTLE"⟩]

/-- Names in the block Kangxi Radicals. -/
def kangxiRadicals : NameBlock where
  first := 0x2F00
  last := 0x2FDF
  rows :=
    [⟨0x2F00, "KANGXI RADICAL ", "ONE;LINE;DOT;SLASH;SECOND"⟩,
     ⟨0x2F05, "KANGXI RADICAL ", "HOOK;TWO;LID;MAN;LEGS;ENTER;EIGHT;DOWN BOX;COVER;ICE;TABLE"⟩,
     ⟨0x2F10, "KANGXI RADICAL ", "OPEN BOX;KNIFE;POWER;WRAP;SPOON;RIGHT OPEN BOX;HIDING ENCLOSURE"⟩,
     ⟨0x2F17, "KANGXI RADICAL ", "TEN;DIVINATION;SEAL;CLIFF;PRIVATE;AGAIN;MOUTH;ENCLOSURE"⟩,
     ⟨0x2F1F, "KANGXI RADICAL ", "EARTH;SCHOLAR;GO;GO SLOWLY;EVENING;BIG;WOMAN;CHILD;ROOF;INCH"⟩,
     ⟨0x2F29, "KANGXI RADICAL ", "SMALL;LAME;CORPSE;SPROUT;MOUNTAIN;RIVER;WORK;ONESELF;TURBAN"⟩,
     ⟨0x2F32, "KANGXI RADICAL ", "DRY;SHORT THREAD;DOTTED CLIFF;LONG STRIDE;TWO HANDS;SHOOT;BOW"⟩,
     ⟨0x2F39, "KANGXI RADICAL ", "SNOUT;BRISTLE;STEP;HEART;HALBERD;DOOR;HAND;BRANCH;RAP;SCRIPT"⟩,
     ⟨0x2F43, "KANGXI RADICAL ", "DIPPER;AXE;SQUARE;NOT;SUN;SAY;MOON;TREE;LACK;STOP;DEATH;WEAPON"⟩,
     ⟨0x2F4F, "KANGXI RADICAL ", "DO NOT;COMPARE;FUR;CLAN;STEAM;WATER;FIRE;CLAW;FATHER;DOUBLE X"⟩,
     ⟨0x2F59, "KANGXI RADICAL ", "HALF TREE TRUNK;SLICE;FANG;COW;DOG;PROFOUND;JADE;MELON;TILE"⟩,
     ⟨0x2F62, "KANGXI RADICAL ", "SWEET;LIFE;USE;FIELD;BOLT OF CLOTH;SICKNESS;DOTTED TENT;WHITE"⟩,
     ⟨0x2F6A, "KANGXI RADICAL ", "SKIN;DISH;EYE;SPEAR;ARROW;STONE;SPIRIT;TRACK;GRAIN;CAVE;STAND"⟩,
     ⟨0x2F75, "KANGXI RADICAL ", "BAMBOO;RICE;SILK;JAR;NET;SHEEP;FEATHER;OLD;AND;PLOW;EAR;BRUSH"⟩,
     ⟨0x2F81, "KANGXI RADICAL ", "MEAT;MINISTER;SELF;ARRIVE;MORTAR;TONGUE;OPPOSE;BOAT;STOPPING"⟩,
     ⟨0x2F8A, "KANGXI RADICAL ", "COLOR;GRASS;TIGER;INSECT;BLOOD;WALK ENCLOSURE;CLOTHES;WEST;SEE"⟩,
     ⟨0x2F93, "KANGXI RADICAL ", "HORN;SPEECH;VALLEY;BEAN;PIG;BADGER;SHELL;RED;RUN;FOOT;BODY;CART"⟩,
     ⟨0x2F9F, "KANGXI RADICAL ", "BITTER;MORNING;WALK;CITY;WINE;DISTINGUISH;VILLAGE;GOLD;LONG"⟩,
     ⟨0x2FA8, "KANGXI RADICAL ", "GATE;MOUND;SLAVE;SHORT TAILED BIRD;RAIN;BLUE;WRONG;FACE;LEATHER"⟩,
     ⟨0x2FB1, "KANGXI RADICAL ", "TANNED LEATHER;LEEK;SOUND;LEAF;WIND;FLY;EAT;HEAD;FRAGRANT"⟩,
     ⟨0x2FBA, "KANGXI RADICAL ", "HORSE;BONE;TALL;HAIR;FIGHT;SACRIFICIAL WINE;CAULDRON;GHOST"⟩,
     ⟨0x2FC2, "KANGXI RADICAL ", "FISH;BIRD;SALT;DEER;WHEAT;HEMP;YELLOW;MILLET;BLACK;EMBROIDERY"⟩,
     ⟨0x2FCC, "KANGXI RADICAL ", "FROG;TRIPOD;DRUM;RAT;NOSE;EVEN;TOOTH;DRAGON;TURTLE;FLUTE"⟩]

/-- Names in the block Ideographic Description Characters. -/
def ideographicDescriptionCharacters : NameBlock where
  first := 0x2FF0
  last := 0x2FFF
  rows :=
    [⟨0x2FF0, "", "IDEOGRAPHIC DESCRIPTION CHARACTER LEFT TO RIGHT"⟩,
     ⟨0x2FF1, "IDEOGRAPHIC DESCRIPTION CHARACTER ", "ABOVE TO BELOW;LEFT TO MIDDLE AND RIGHT"⟩,
     ⟨0x2FF3, "IDEOGRAPHIC DESCRIPTION CHARACTER ", "ABOVE TO MIDDLE AND BELOW;FULL SURROUND"⟩,
     ⟨0x2FF5, "IDEOGRAPHIC DESCRIPTION CHARACTER SURROUND FROM ", "ABOVE;BELOW;LEFT;UPPER LEFT"⟩,
     ⟨0x2FF9, "IDEOGRAPHIC DESCRIPTION CHARACTER SURROUND FROM ", "UPPER RIGHT;LOWER LEFT"⟩,
     ⟨0x2FFB, "", "IDEOGRAPHIC DESCRIPTION CHARACTER OVERLAID"⟩,
     ⟨0x2FFC, "IDEOGRAPHIC DESCRIPTION CHARACTER SURROUND FROM ", "RIGHT;LOWER RIGHT"⟩,
     ⟨0x2FFE, "IDEOGRAPHIC DESCRIPTION CHARACTER ", "HORIZONTAL REFLECTION;ROTATION"⟩]

/-- Names in the block CJK Symbols and Punctuation. -/
def cjkSymbolsAndPunctuation : NameBlock where
  first := 0x3000
  last := 0x303F
  rows :=
    [⟨0x3000, "IDEOGRAPHIC ", "SPACE;COMMA;FULL STOP"⟩,
     ⟨0x3003, "", "DITTO MARK;JAPANESE INDUSTRIAL STANDARD SYMBOL"⟩,
     ⟨0x3005, "IDEOGRAPHIC ", "ITERATION MARK;CLOSING MARK;NUMBER ZERO"⟩,
     ⟨0x3008, "", "LEFT ANGLE BRACKET;RIGHT ANGLE BRACKET"⟩,
     ⟨0x300A, "", "LEFT DOUBLE ANGLE BRACKET;RIGHT DOUBLE ANGLE BRACKET;LEFT CORNER BRACKET"⟩,
     ⟨0x300D, "", "RIGHT CORNER BRACKET;LEFT WHITE CORNER BRACKET;RIGHT WHITE CORNER BRACKET"⟩,
     ⟨0x3010, "", "LEFT BLACK LENTICULAR BRACKET;RIGHT BLACK LENTICULAR BRACKET"⟩,
     ⟨0x3012, "", "POSTAL MARK;GETA MARK;LEFT TORTOISE SHELL BRACKET"⟩,
     ⟨0x3015, "", "RIGHT TORTOISE SHELL BRACKET;LEFT WHITE LENTICULAR BRACKET"⟩,
     ⟨0x3017, "", "RIGHT WHITE LENTICULAR BRACKET;LEFT WHITE TORTOISE SHELL BRACKET"⟩,
     ⟨0x3019, "", "RIGHT WHITE TORTOISE SHELL BRACKET;LEFT WHITE SQUARE BRACKET"⟩,
     ⟨0x301B, "", "RIGHT WHITE SQUARE BRACKET;WAVE DASH;REVERSED DOUBLE PRIME QUOTATION MARK"⟩,
     ⟨0x301E, "", "DOUBLE PRIME QUOTATION MARK;LOW DOUBLE PRIME QUOTATION MARK;POSTAL MARK FACE"⟩,
     ⟨0x3021, "HANGZHOU NUMERAL ", "ONE;TWO;THREE;FOUR;FIVE;SIX;SEVEN;EIGHT;NINE"⟩,
     ⟨0x302A, "", "IDEOGRAPHIC LEVEL TONE MARK"⟩,
     ⟨0x302B, "IDEOGRAPHIC ", "RISING TONE MARK;DEPARTING TONE MARK;ENTERING TONE MARK"⟩,
     ⟨0x302E, "", "HANGUL SINGLE DOT TONE MARK;HANGUL DOUBLE DOT TONE MARK;WAVY DASH"⟩,
     ⟨0x3031, "VERTICAL KANA REPEAT ", "MARK;WITH VOICED SOUND MARK;MARK UPPER HALF"⟩,
     ⟨0x3034, "VERTICAL KANA REPEAT ", "WITH VOICED SOUND MARK UPPER HALF;MARK LOWER HALF"⟩,
     ⟨0x3036, "", "CIRCLED POSTAL MARK;IDEOGRAPHIC TELEGRAPH LINE FEED SEPARATOR SYMBOL"⟩,
     ⟨0x3038, "HANGZHOU NUMERAL ", "TEN;TWENTY;THIRTY"⟩,
     ⟨0x303B, "", "VERTICAL IDEOGRAPHIC ITERATION MARK;MASU MARK;PART ALTERNATION MARK"⟩,
     ⟨0x303E, "IDEOGRAPHIC ", "VARIATION INDICATOR;HALF FILL SPACE"⟩]

/-- Names in the block Hiragana. -/
def hiragana : NameBlock where
  first := 0x3040
  last := 0x309F
  rows :=
    [⟨0x3041, "HIRAGANA LETTER ", "SMALL A;A;SMALL I;I;SMALL U;U;SMALL E;E;SMALL O;O;KA;GA"⟩,
     ⟨0x304D, "HIRAGANA LETTER ", "KI;GI;KU;GU;KE;GE;KO;GO;SA;ZA;SI;ZI;SU;ZU;SE;ZE;SO;ZO;TA;DA;TI"⟩,
     ⟨0x3062, "HIRAGANA LETTER ", "DI;SMALL TU;TU;DU;TE;DE;TO;DO;NA;NI;NU;NE;NO;HA;BA;PA;HI;BI;PI"⟩,
     ⟨0x3075, "HIRAGANA LETTER ", "HU;BU;PU;HE;BE;PE;HO;BO;PO;MA;MI;MU;ME;MO;SMALL YA;YA;SMALL YU"⟩,
     ⟨0x3086, "HIRAGANA LETTER ", "YU;SMALL YO;YO;RA;RI;RU;RE;RO;SMALL WA;WA;WI;WE;WO;N;VU"⟩,
     ⟨0x3095, "HIRAGANA LETTER SMALL ", "KA;KE"⟩,
     ⟨0x3099, "COMBINING KATAKANA-HIRAGANA ", "VOICED SOUND MARK;SEMI-VOICED SOUND MARK"⟩,
     ⟨0x309B, "KATAKANA-HIRAGANA ", "VOICED SOUND MARK;SEMI-VOICED SOUND MARK"⟩,
     ⟨0x309D, "HIRAGANA ", "ITERATION MARK;VOICED ITERATION MARK;DIGRAPH YORI"⟩]

/-- Names in the block Katakana. -/
def katakana : NameBlock where
  first := 0x30A0
  last := 0x30FF
  rows :=
    [⟨0x30A0, "", "KATAKANA-HIRAGANA DOUBLE HYPHEN"⟩,
     ⟨0x30A1, "KATAKANA LETTER ", "SMALL A;A;SMALL I"⟩,
     ⟨0x30A4, "KATAKANA LETTER ", "I;SMALL U;U;SMALL E;E;SMALL O;O;KA;GA;KI;GI;KU;GU;KE;GE;KO;GO"⟩,
     ⟨0x30B5, "KATAKANA LETTER ", "SA;ZA;SI;ZI;SU;ZU;SE;ZE;SO;ZO;TA;DA;TI;DI;SMALL TU;TU;DU;TE;DE"⟩,
     ⟨0x30C8, "KATAKANA LETTER ", "TO;DO;NA;NI;NU;NE;NO;HA;BA;PA;HI;BI;PI;HU;BU;PU;HE;BE;PE;HO;BO"⟩,
     ⟨0x30DD, "KATAKANA LETTER ", "PO;MA;MI;MU;ME;MO;SMALL YA;YA;SMALL YU;YU;SMALL YO;YO;RA;RI;RU"⟩,
     ⟨0x30EC, "KATAKANA LETTER ", "RE;RO;SMALL WA;WA;WI;WE;WO;N;VU;SMALL KA;SMALL KE;VA;VI;VE;VO"⟩,
     ⟨0x30FB, "", "KATAKANA MIDDLE DOT;KATAKANA-HIRAGANA PROLONGED SOUND MARK"⟩,
     ⟨0x30FD, "KATAKANA ", "ITERATION MARK;VOICED ITERATION MARK;DIGRAPH KOTO"⟩]

/-- Names in the block Bopomofo. -/
def bopomofo : NameBlock where
  first := 0x3100
  last := 0x312F
  rows :=
    [⟨0x3105, "BOPOMOFO LETTER ", "B;P;M;F;D;T;N;L;G;K;H;J;Q;X;ZH;CH;SH;R;Z;C;S;A;O;E;EH;AI;EI"⟩,
     ⟨0x3120, "BOPOMOFO LETTER ", "AU;OU;AN;EN;ANG;ENG;ER;I;U;IU;V;NG;GN;IH;O WITH DOT ABOVE;NN"⟩]

/-- Names in the block Hangul Compatibility Jamo. -/
def hangulCompatibilityJamo : NameBlock where
  first := 0x3130
  last := 0x318F
  rows :=
    [⟨0x3131, "HANGUL LETTER ", "KIYEOK;SSANGKIYEOK;KIYEOK-SIOS"⟩,
     ⟨0x3134, "HANGUL LETTER ", "NIEUN;NIEUN-CIEUC;NIEUN-HIEUH;TIKEUT;SSANGTIKEUT;RIEUL"⟩,
     ⟨0x313A, "HANGUL LETTER RIEUL-", "KIYEOK;MIEUM;PIEUP;SIOS;THIEUTH;PHIEUPH;HIEUH"⟩,
     ⟨0x3141, "HANGUL LETTER ", "MIEUM;PIEUP;SSANGPIEUP;PIEUP-SIOS;SIOS;SSANGSIOS"⟩,
     ⟨0x3147, "HANGUL LETTER ", "IEUNG;CIEUC;SSANGCIEUC;CHIEUCH;KHIEUKH;THIEUTH;PHIEUPH;HIEUH"⟩,
     ⟨0x314F, "HANGUL LETTER ", "A;AE;YA;YAE;EO;E;YEO;YE;O;WA;WAE;OE;YO;U;WEO;WE;WI;YU;EU;YI;I"⟩,
     ⟨0x3164, "HANGUL ", "FILLER;LETTER SSANGNIEUN"⟩,
     ⟨0x3166, "HANGUL LETTER NIEUN-", "TIKEUT;SIOS;PANSIOS"⟩,
     ⟨0x3169, "HANGUL LETTER RIEUL-", "KIYEOK-SIOS;TIKEUT;PIEUP-SIOS;PANSIOS;YEORINHIEUH"⟩,
     ⟨0x316E, "HANGUL LETTER ", "MIEUM-PIEUP;MIEUM-SIOS;MIEUM-PANSIOS;KAPYEOUNMIEUM"⟩,
     ⟨0x3172, "HANGUL LETTER PIEUP-", "KIYEOK;TIKEUT;SIOS-KIYEOK;SIOS-TIKEUT;CIEUC;THIEUTH"⟩,
     ⟨0x3178, "HANGUL LETTER ", "KAPYEOUNPIEUP;KAPYEOUNSSANGPIEUP;SIOS-KIYEOK;SIOS-NIEUN"⟩,
     ⟨0x317C, "HANGUL LETTER ", "SIOS-TIKEUT;SIOS-PIEUP;SIOS-CIEUC;PANSIOS;SSANGIEUNG;YESIEUNG"⟩,
     ⟨0x3182, "HANGUL LETTER ", "YESIEUNG-SIOS;YESIEUNG-PANSIOS;KAPYEOUNPHIEUPH;SSANGHIEUH"⟩,
     ⟨0x3186, "HANGUL LETTER ", "YEORINHIEUH;YO-YA;YO-YAE;YO-I;YU-YEO;YU-YE;YU-I;ARAEA;ARAEAE"⟩]

/-- Names in the block Kanbun. -/
def kanbun : NameBlock where
  first := 0x3190
  last := 0x319F
  rows :=
    [⟨0x3190, "", "IDEOGRAPHIC ANNOTATION LINKING MARK"⟩,
     ⟨0x3191, "IDEOGRAPHIC ANNOTATION ", "REVERSE MARK;ONE MARK;TWO MARK;THREE MARK;FOUR MARK"⟩,
     ⟨0x3196, "IDEOGRAPHIC ANNOTATION ", "TOP MARK;MIDDLE MARK;BOTTOM MARK;FIRST MARK;SECOND MARK"⟩,
     ⟨0x319B, "IDEOGRAPHIC ANNOTATION ", "THIRD MARK;FOURTH MARK;HEAVEN MARK;EARTH MARK;MAN MARK"⟩]

/-- Names in the block Bopomofo Extended. -/
def bopomofoExtended : NameBlock where
  first := 0x31A0
  last := 0x31BF
  rows :=
    [⟨0x31A0, "BOPOMOFO LETTER ", "BU;ZI;JI;GU"⟩,
     ⟨0x31A4, "BOPOMOFO LETTER ", "EE;ENN;OO;ONN;IR;ANN;INN;UNN;IM;NGG;AINN;AUNN;AM;OM;ONG;INNN"⟩,
     ⟨0x31B4, "BOPOMOFO FINAL LETTER ", "P;T;K;H"⟩,
     ⟨0x31B8, "BOPOMOFO ", "LETTER GH;LETTER LH;LETTER ZY;FINAL LETTER G"⟩,
     ⟨0x31BC, "BOPOMOFO LETTER ", "GW;KW;OE;AH"⟩]

/-- Names in the block CJK Strokes. -/
def cjkStrokes : NameBlock where
  first := 0x31C0
  last := 0x31EF
  rows :=
    [⟨0x31C0, "CJK STROKE ", "T;WG;XG;BXG;SW;HZZ;HZG;HP;HZWG;SZWG;HZT;HZZP;HPWG;HZW;HZZZ;N;H;S"⟩,
     ⟨0x31D2, "CJK STROKE ", "P;SP;D;HZ;HG;SZ;SWZ;ST;SG;PD;PZ;TN;SZZ;SWG;HXWG;HZZZG;PG;Q;HXG;SZP"⟩,
     ⟨0x31EF, "", "IDEOGRAPHIC DESCRIPTION CHARACTER SUBTRACTION"⟩]

/-- Names in the block Katakana Phonetic Extensions. -/
def katakanaPhoneticExtensions : NameBlock where
  first := 0x31F0
  last := 0x31FF
  rows :=
    [⟨0x31F0, "KATAKANA LETTER SMALL ", "KU;SI;SU;TO;NU;HA;HI;HU;HE;HO;MU;RA;RI;RU;RE;RO"⟩]

/-- Names in the block Enclosed CJK Letters and Months. -/
def enclosedCjkLettersAndMonths : NameBlock where
  first := 0x3200
  last := 0x32FF
  rows :=
    [⟨0x3200, "PARENTHESIZED HANGUL ", "KIYEOK;NIEUN;TIKEUT;RIEUL;MIEUM;PIEUP;SIOS;IEUNG;CIEUC"⟩,
     ⟨0x3209, "PARENTHESIZED HANGUL ", "CHIEUCH;KHIEUKH;THIEUTH;PHIEUPH;HIEUH;KIYEOK A;NIEUN A"⟩,
     ⟨0x3210, "PARENTHESIZED HANGUL ", "TIKEUT A;RIEUL A;MIEUM A;PIEUP A;SIOS A;IEUNG A;CIEUC A"⟩,
     ⟨0x3217, "PARENTHESIZED HANGUL ", "CHIEUCH A;KHIEUKH A;THIEUTH A;PHIEUPH A;HIEUH A;CIEUC U"⟩,
     ⟨0x321D, "PARENTHESIZED KOREAN CHARACTER ", "OJEON;O HU"⟩,
     ⟨0x3220, "PARENTHESIZED IDEOGRAPH ", "ONE;TWO;THREE;FOUR;FIVE"⟩,
     ⟨0x3225, "PARENTHESIZED IDEOGRAPH ", "SIX;SEVEN;EIGHT;NINE;TEN;MOON;FIRE;WATER;WOOD;METAL"⟩,
     ⟨0x322F, "PARENTHESIZED IDEOGRAPH ", "EARTH;SUN;STOCK;HAVE;SOCIETY;NAME;SPECIAL;FINANCIAL"⟩,
     ⟨0x3237, "PARENTHESIZED IDEOGRAPH ", "CONGRATULATION;LABOR;REPRESENT;CALL;STUDY;SUPERVISE"⟩,
     ⟨0x323D, "PARENTHESIZED IDEOGRAPH ", "ENTERPRISE;RESOURCE;ALLIANCE;FESTIVAL;REST;SELF;REACH"⟩,
     ⟨0x3244, "CIRCLED IDEOGRAPH ", "QUESTION;KINDERGARTEN;SCHOOL;KOTO"⟩,
     ⟨0x3248, "CIRCLED NUMBER ", "TEN ON BLACK SQUARE;TWENTY ON BLACK SQUARE"⟩,
     ⟨0x324A, "CIRCLED NUMBER ", "THIRTY ON BLACK SQUARE;FORTY ON BLACK SQUARE"⟩,
     ⟨0x324C, "CIRCLED NUMBER ", "FIFTY ON BLACK SQUARE;SIXTY ON BLACK SQUARE"⟩,
     ⟨0x324E, "CIRCLED NUMBER ", "SEVENTY ON BLACK SQUARE;EIGHTY ON BLACK SQUARE"⟩,
     ⟨0x3250, "", "PARTNERSHIP SIGN"⟩,
     ⟨0x3251, "CIRCLED NUMBER TWENTY ", "ONE;TWO;THREE;FOUR;FIVE;SIX;SEVEN;EIGHT;NINE"⟩,
     ⟨0x325A, "", "CIRCLED NUMBER THIRTY"⟩,
     ⟨0x325B, "CIRCLED NUMBER THIRTY ", "ONE;TWO;THREE;FOUR;FIVE"⟩,
     ⟨0x3260, "CIRCLED HANGUL ", "KIYEOK;NIEUN;TIKEUT;RIEUL"⟩,
     ⟨0x3264, "CIRCLED HANGUL ", "MIEUM;PIEUP;SIOS;IEUNG;CIEUC;CHIEUCH;KHIEUKH;THIEUTH;PHIEUPH"⟩,
     ⟨0x326D, "CIRCLED HANGUL ", "HIEUH;KIYEOK A;NIEUN A;TIKEUT A;RIEUL A;MIEUM A;PIEUP A;SIOS A"⟩,
     ⟨0x3275, "CIRCLED HANGUL ", "IEUNG A;CIEUC A;CHIEUCH A;KHIEUKH A;THIEUTH A;PHIEUPH A;HIEUH A"⟩,
     ⟨0x327C, "CIRCLED KOREAN CHARACTER ", "CHAMKO;JUEUI"⟩,
     ⟨0x327E, "", "CIRCLED HANGUL IEUNG U;KOREAN STANDARD SYMBOL"⟩,
     ⟨0x3280, "CIRCLED IDEOGRAPH ", "ONE;TWO;THREE;FOUR;FIVE"⟩,
     ⟨0x3285, "CIRCLED IDEOGRAPH ", "SIX;SEVEN;EIGHT;NINE;TEN;MOON;FIRE;WATER;WOOD;METAL;EARTH"⟩,
     ⟨0x3290, "CIRCLED IDEOGRAPH ", "SUN;STOCK;HAVE;SOCIETY;NAME;SPECIAL;FINANCIAL;CONGRATULATION"⟩,
     ⟨0x3298, "CIRCLED IDEOGRAPH ", "LABOR;SECRET;MALE;FEMALE;SUITABLE;EXCELLENT;PRINT;ATTENTION"⟩,
     ⟨0x32A0, "CIRCLED IDEOGRAPH ", "ITEM;REST;COPY;CORRECT;HIGH;CENTRE;LOW;LEFT;RIGHT;MEDICINE"⟩,
     ⟨0x32AA, "CIRCLED IDEOGRAPH ", "RELIGION;STUDY;SUPERVISE;ENTERPRISE;RESOURCE;ALLIANCE;NIGHT"⟩,
     ⟨0x32B1, "CIRCLED NUMBER ", "THIRTY SIX;THIRTY SEVEN;THIRTY EIGHT;THIRTY NINE;FORTY"⟩,
     ⟨0x32B6, "CIRCLED NUMBER FORTY ", "ONE;TWO;THREE;FOUR;FIVE;SIX;SEVEN;EIGHT;NINE"⟩,
     ⟨0x32BF, "", "CIRCLED NUMBER FIFTY"⟩,
     ⟨0x32C0, "IDEOGRAPHIC TELEGRAPH SYMBOL FOR ", "JANUARY;FEBRUARY;MARCH;APRIL;MAY;JUNE;JULY"⟩,
     ⟨0x32C7, "IDEOGRAPHIC TELEGRAPH SYMBOL FOR ", "AUGUST;SEPTEMBER;OCTOBER;NOVEMBER;DECEMBER"⟩,
     ⟨0x32CC, "", "SQUARE HG;SQUARE ERG;SQUARE EV;LIMITED LIABILITY SIGN"⟩,
     ⟨0x32D0, "CIRCLED KATAKANA ", "A;I;U;E;O;KA;KI"⟩,
     ⟨0x32D7, "CIRCLED KATAKANA ", "KU;KE;KO;SA;SI;SU;SE;SO;TA;TI;TU;TE;TO;NA;NI;NU;NE;NO;HA;HI"⟩,
     ⟨0x32EB, "CIRCLED KATAKANA ", "HU;HE;HO;MA;MI;MU;ME;MO;YA;YU;YO;RA;RI;RU;RE;RO;WA;WI;WE;WO"⟩,
     ⟨0x32FF, "", "SQUARE ERA NAME REIWA"⟩]

/-- Names in the block CJK Compatibility. -/
def cjkCompatibility : NameBlock where
  first := 0x3300
  last := 0x33FF
  rows :=
    [⟨0x3300, "SQUARE ", "APAATO;ARUHUA;ANPEA;AARU;ININGU"⟩,
     ⟨0x3305, "SQUARE ", "INTI;UON;ESUKUUDO;EEKAA;ONSU;OOMU;KAIRI;KARATTO;KARORII;GARON;GANMA"⟩,
     ⟨0x3310, "SQUARE ", "GIGA;GINII;KYURII;GIRUDAA;KIRO;KIROGURAMU;KIROMEETORU;KIROWATTO;GURAMU"⟩,
     ⟨0x3319, "SQUARE ", "GURAMUTON;KURUZEIRO;KUROONE;KEESU;KORUNA;KOOPO;SAIKURU;SANTIIMU;SIRINGU"⟩,
     ⟨0x3322, "SQUARE ", "SENTI;SENTO;DAASU;DESI;DORU;TON;NANO;NOTTO;HAITU;PAASENTO;PAATU;BAARERU"⟩,
     ⟨0x332E, "SQUARE ", "PIASUTORU;PIKURU;PIKO;BIRU;HUARADDO;HUIITO;BUSSYERU;HURAN;HEKUTAARU"⟩,
     ⟨0x3337, "SQUARE ", "PESO;PENIHI;HERUTU;PENSU;PEEZI;BEETA;POINTO;BORUTO;HON;PONDO;HOORU;HOON"⟩,
     ⟨0x3343, "SQUARE ", "MAIKURO;MAIRU;MAHHA;MARUKU;MANSYON;MIKURON;MIRI;MIRIBAARU;MEGA;MEGATON"⟩,
     ⟨0x334D, "SQUARE ", "MEETORU;YAADO;YAARU;YUAN;RITTORU;RIRA;RUPII;RUUBURU;REMU;RENTOGEN;WATTO"⟩,
     ⟨0x3358, "IDEOGRAPHIC TELEGRAPH SYMBOL FOR HOUR ", "ZERO;ONE;TWO;THREE;FOUR"⟩,
     ⟨0x335D, "IDEOGRAPHIC TELEGRAPH SYMBOL FOR HOUR ", "FIVE;SIX;SEVEN;EIGHT;NINE;TEN;ELEVEN"⟩,
     ⟨0x3364, "IDEOGRAPHIC TELEGRAPH SYMBOL FOR HOUR ", "TWELVE;THIRTEEN;FOURTEEN;FIFTEEN;SIXTEEN"⟩,
     ⟨0x3369, "IDEOGRAPHIC TELEGRAPH SYMBOL FOR HOUR ", "SEVENTEEN;EIGHTEEN;NINETEEN;TWENTY"⟩,
     ⟨0x336D, "IDEOGRAPHIC TELEGRAPH SYMBOL FOR HOUR TWENTY-", "ONE;TWO;THREE;FOUR"⟩,
     ⟨0x3371, "SQUARE ", "HPA;DA;AU;BAR;OV;PC;DM;DM SQUARED;DM CUBED;IU"⟩,
     ⟨0x337B, "SQUARE ERA NAME ", "HEISEI;SYOUWA;TAISYOU;MEIZI"⟩,
     ⟨0x337F, "SQUARE ", "CORPORATION;PA AMPS;NA;MU A;MA;KA;KB"⟩,
     ⟨0x3386, "SQUARE ", "MB;GB;CAL;KCAL;PF;NF;MU F;MU G;MG;KG;HZ;KHZ;MHZ;GHZ;THZ;MU L;ML;DL;KL"⟩,
     ⟨0x3399, "SQUARE ", "FM;NM;MU M;MM;CM;KM;MM SQUARED;CM SQUARED;M SQUARED;KM SQUARED;MM CUBED"⟩,
     ⟨0x33A4, "SQUARE ", "CM CUBED;M CUBED;KM CUBED;M OVER S;M OVER S SQUARED;PA;KPA;MPA;GPA;RAD"⟩,
     ⟨0x33AE, "SQUARE RAD OVER ", "S;S SQUARED"⟩,
     ⟨0x33B0, "SQUARE ", "PS;NS;MU S;MS;PV;NV;MU V;MV;KV;MV MEGA;PW;NW;MU W;MW;KW;MW MEGA"⟩,
     ⟨0x33C0, "SQUARE ", "K OHM;M OHM;AM;BQ;CC;CD;C OVER KG;CO;DB;GY;HA;HP;IN;KK;KM CAPITAL;KT"⟩,
     ⟨0x33D0, "SQUARE ", "LM;LN;LOG;LX;MB SMALL;MIL;MOL;PH;PM;PPM;PR;SR;SV;WB;V OVER M;A OVER M"⟩,
     ⟨0x33E0, "IDEOGRAPHIC TELEGRAPH SYMBOL FOR DAY ", "ONE;TWO;THREE;FOUR;FIVE;SIX;SEVEN;EIGHT"⟩,
     ⟨0x33E8, "IDEOGRAPHIC TELEGRAPH SYMBOL FOR DAY ", "NINE;TEN;ELEVEN;TWELVE;THIRTEEN;FOURTEEN"⟩,
     ⟨0x33EE, "IDEOGRAPHIC TELEGRAPH SYMBOL FOR DAY ", "FIFTEEN;SIXTEEN;SEVENTEEN;EIGHTEEN"⟩,
     ⟨0x33F2, "IDEOGRAPHIC TELEGRAPH SYMBOL FOR DAY ", "NINETEEN;TWENTY;TWENTY-ONE;TWENTY-TWO"⟩,
     ⟨0x33F6, "IDEOGRAPHIC TELEGRAPH SYMBOL FOR DAY TWENTY-", "THREE;FOUR;FIVE;SIX;SEVEN;EIGHT"⟩,
     ⟨0x33FC, "IDEOGRAPHIC TELEGRAPH SYMBOL FOR DAY ", "TWENTY-NINE;THIRTY;THIRTY-ONE"⟩,
     ⟨0x33FF, "", "SQUARE GAL"⟩]

/-- Names in the block Yi Syllables. -/
def yiSyllables : NameBlock where
  first := 0xA000
  last := 0xA48F
  rows :=
    [⟨0xA000, "YI SYLLABLE ", "IT;IX;I;IP"⟩,
     ⟨0xA004, "YI SYLLABLE ", "IET;IEX;IE;IEP;AT;AX;A;AP;UOX;UO;UOP;OT;OX;O;OP;EX;E;WU;BIT;BIX;BI"⟩,
     ⟨0xA019, "YI SYLLABLE ", "BIP;BIET;BIEX;BIE;BIEP;BAT;BAX;BA;BAP;BUOX;BUO;BUOP;BOT;BOX;BO;BOP"⟩,
     ⟨0xA029, "YI SYLLABLE ", "BEX;BE;BEP;BUT;BUX;BU;BUP;BURX;BUR;BYT;BYX;BY;BYP;BYRX;BYR;PIT;PIX"⟩,
     ⟨0xA03A, "YI SYLLABLE ", "PI;PIP;PIEX;PIE;PIEP;PAT;PAX;PA;PAP;PUOX;PUO;PUOP;POT;POX;PO;POP"⟩,
     ⟨0xA04A, "YI SYLLABLE ", "PUT;PUX;PU;PUP;PURX;PUR;PYT;PYX;PY;PYP;PYRX;PYR;BBIT;BBIX;BBI;BBIP"⟩,
     ⟨0xA05A, "YI SYLLABLE ", "BBIET;BBIEX;BBIE;BBIEP;BBAT;BBAX;BBA;BBAP;BBUOX;BBUO;BBUOP;BBOT"⟩,
     ⟨0xA066, "YI SYLLABLE ", "BBOX;BBO;BBOP;BBEX;BBE;BBEP;BBUT;BBUX;BBU;BBUP;BBURX;BBUR;BBYT"⟩,
     ⟨0xA073, "YI SYLLABLE ", "BBYX;BBY;BBYP;NBIT;NBIX;NBI;NBIP;NBIEX;NBIE;NBIEP;NBAT;NBAX;NBA"⟩,
     ⟨0xA080, "YI SYLLABLE ", "NBAP;NBOT;NBOX;NBO;NBOP;NBUT;NBUX;NBU;NBUP;NBURX;NBUR;NBYT;NBYX"⟩,
     ⟨0xA08D, "YI SYLLABLE ", "NBY;NBYP;NBYRX;NBYR;HMIT;HMIX;HMI;HMIP;HMIEX;HMIE;HMIEP;HMAT;HMAX"⟩,
     ⟨0xA09A, "YI SYLLABLE ", "HMA;HMAP;HMUOX;HMUO;HMUOP;HMOT;HMOX;HMO;HMOP;HMUT;HMUX;HMU;HMUP"⟩,
     ⟨0xA0A7, "YI SYLLABLE ", "HMURX;HMUR;HMYX;HMY;HMYP;HMYRX;HMYR;MIT;MIX;MI;MIP;MIEX;MIE;MIEP"⟩,
     ⟨0xA0B5, "YI SYLLABLE ", "MAT;MAX;MA;MAP;MUOT;MUOX;MUO;MUOP;MOT;MOX;MO;MOP;MEX;ME;MUT;MUX"⟩,
     ⟨0xA0C5, "YI SYLLABLE ", "MU;MUP;MURX;MUR;MYT;MYX;MY;MYP;FIT;FIX;FI;FIP;FAT;FAX;FA;FAP;FOX"⟩,
     ⟨0xA0D6, "YI SYLLABLE ", "FO;FOP;FUT;FUX;FU;FUP;FURX;FUR;FYT;FYX;FY;FYP;VIT;VIX;VI;VIP;VIET"⟩,
     ⟨0xA0E7, "YI SYLLABLE ", "VIEX;VIE;VIEP;VAT;VAX;VA;VAP;VOT;VOX;VO;VOP;VEX;VEP;VUT;VUX;VU"⟩,
     ⟨0xA0F7, "YI SYLLABLE ", "VUP;VURX;VUR;VYT;VYX;VY;VYP;VYRX;VYR;DIT;DIX;DI;DIP;DIEX;DIE;DIEP"⟩,
     ⟨0xA107, "YI SYLLABLE ", "DAT;DAX;DA;DAP;DUOX;DUO;DOT;DOX;DO;DOP;DEX;DE;DEP;DUT;DUX;DU;DUP"⟩,
     ⟨0xA118, "YI SYLLABLE ", "DURX;DUR;TIT;TIX;TI;TIP;TIEX;TIE;TIEP;TAT;TAX;TA;TAP;TUOT;TUOX;TUO"⟩,
     ⟨0xA128, "YI SYLLABLE ", "TUOP;TOT;TOX;TO;TOP;TEX;TE;TEP;TUT;TUX;TU;TUP;TURX;TUR;DDIT;DDIX"⟩,
     ⟨0xA138, "YI SYLLABLE ", "DDI;DDIP;DDIEX;DDIE;DDIEP;DDAT;DDAX;DDA;DDAP;DDUOX;DDUO;DDUOP;DDOT"⟩,
     ⟨0xA145, "YI SYLLABLE ", "DDOX;DDO;DDOP;DDEX;DDE;DDEP;DDUT;DDUX;DDU;DDUP;DDURX;DDUR;NDIT"⟩,
     ⟨0xA152, "YI SYLLABLE ", "NDIX;NDI;NDIP;NDIEX;NDIE;NDAT;NDAX;NDA;NDAP;NDOT;NDOX;NDO;NDOP"⟩,
     ⟨0xA15F, "YI SYLLABLE ", "NDEX;NDE;NDEP;NDUT;NDUX;NDU;NDUP;NDURX;NDUR;HNIT;HNIX;HNI;HNIP"⟩,
     ⟨0xA16C, "YI SYLLABLE ", "HNIET;HNIEX;HNIE;HNIEP;HNAT;HNAX;HNA;HNAP;HNUOX;HNUO;HNOT;HNOX"⟩,
     ⟨0xA178, "YI SYLLABLE ", "HNOP;HNEX;HNE;HNEP;HNUT;NIT;NIX;NI;NIP;NIEX;NIE;NIEP;NAX;NA;NAP"⟩,
     ⟨0xA187, "YI SYLLABLE ", "NUOX;NUO;NUOP;NOT;NOX;NO;NOP;NEX;NE;NEP;NUT;NUX;NU;NUP;NURX;NUR"⟩,
     ⟨0xA197, "YI SYLLABLE ", "HLIT;HLIX;HLI;HLIP;HLIEX;HLIE;HLIEP;HLAT;HLAX;HLA;HLAP;HLUOX;HLUO"⟩,
     ⟨0xA1A4, "YI SYLLABLE ", "HLUOP;HLOX;HLO;HLOP;HLEX;HLE;HLEP;HLUT;HLUX;HLU;HLUP;HLURX;HLUR"⟩,
     ⟨0xA1B1, "YI SYLLABLE ", "HLYT;HLYX;HLY;HLYP;HLYRX;HLYR;LIT;LIX;LI;LIP;LIET;LIEX;LIE;LIEP"⟩,
     ⟨0xA1BF, "YI SYLLABLE ", "LAT;LAX;LA;LAP;LUOT;LUOX;LUO;LUOP;LOT;LOX;LO;LOP;LEX;LE;LEP;LUT"⟩,
     ⟨0xA1CF, "YI SYLLABLE ", "LUX;LU;LUP;LURX;LUR;LYT;LYX;LY;LYP;LYRX;LYR;GIT;GIX;GI;GIP;GIET"⟩,
     ⟨0xA1DF, "YI SYLLABLE ", "GIEX;GIE;GIEP;GAT;GAX;GA;GAP;GUOT;GUOX;GUO;GUOP;GOT;GOX;GO;GOP;GET"⟩,
     ⟨0xA1EF, "YI SYLLABLE ", "GEX;GE;GEP;GUT;GUX;GU;GUP;GURX;GUR;KIT;KIX;KI;KIP;KIEX;KIE;KIEP"⟩,
     ⟨0xA1FF, "YI SYLLABLE ", "KAT;KAX;KA;KAP;KUOX;KUO;KUOP;KOT;KOX;KO;KOP;KET;KEX;KE;KEP;KUT;KUX"⟩,
     ⟨0xA210, "YI SYLLABLE ", "KU;KUP;KURX;KUR;GGIT;GGIX;GGI;GGIEX;GGIE;GGIEP;GGAT;GGAX;GGA;GGAP"⟩,
     ⟨0xA21E, "YI SYLLABLE ", "GGUOT;GGUOX;GGUO;GGUOP;GGOT;GGOX;GGO;GGOP;GGET;GGEX;GGE;GGEP;GGUT"⟩,
     ⟨0xA22B, "YI SYLLABLE ", "GGUX;GGU;GGUP;GGURX;GGUR;MGIEX;MGIE;MGAT;MGAX;MGA;MGAP;MGUOX;MGUO"⟩,
     ⟨0xA238, "YI SYLLABLE ", "MGUOP;MGOT;MGOX;MGO;MGOP;MGEX;MGE;MGEP;MGUT;MGUX;MGU;MGUP;MGURX"⟩,
     ⟨0xA245, "YI SYLLABLE ", "MGUR;HXIT;HXIX;HXI;HXIP;HXIET;HXIEX;HXIE;HXIEP;HXAT;HXAX;HXA;HXAP"⟩,
     ⟨0xA252, "YI SYLLABLE ", "HXUOT;HXUOX;HXUO;HXUOP;HXOT;HXOX;HXO;HXOP;HXEX;HXE;HXEP;NGIEX;NGIE"⟩,
     ⟨0xA25F, "YI SYLLABLE ", "NGIEP;NGAT;NGAX;NGA;NGAP;NGUOT;NGUOX;NGUO;NGOT;NGOX;NGO;NGOP;NGEX"⟩,
     ⟨0xA26C, "YI SYLLABLE ", "NGE;NGEP;HIT;HIEX;HIE;HAT;HAX;HA;HAP;HUOT;HUOX;HUO;HUOP;HOT;HOX;HO"⟩,
     ⟨0xA27C, "YI SYLLABLE ", "HOP;HEX;HE;HEP;WAT;WAX;WA;WAP;WUOX;WUO;WUOP;WOX;WO;WOP;WEX;WE;WEP"⟩,
     ⟨0xA28D, "YI SYLLABLE ", "ZIT;ZIX;ZI;ZIP;ZIEX;ZIE;ZIEP;ZAT;ZAX;ZA;ZAP;ZUOX;ZUO;ZUOP;ZOT;ZOX"⟩,
     ⟨0xA29D, "YI SYLLABLE ", "ZO;ZOP;ZEX;ZE;ZEP;ZUT;ZUX;ZU;ZUP;ZURX;ZUR;ZYT;ZYX;ZY;ZYP;ZYRX;ZYR"⟩,
     ⟨0xA2AE, "YI SYLLABLE ", "CIT;CIX;CI;CIP;CIET;CIEX;CIE;CIEP;CAT;CAX;CA;CAP;CUOX;CUO;CUOP;COT"⟩,
     ⟨0xA2BE, "YI SYLLABLE ", "COX;CO;COP;CEX;CE;CEP;CUT;CUX;CU;CUP;CURX;CUR;CYT;CYX;CY;CYP;CYRX"⟩,
     ⟨0xA2CF, "YI SYLLABLE ", "CYR;ZZIT;ZZIX;ZZI;ZZIP;ZZIET;ZZIEX;ZZIE;ZZIEP;ZZAT;ZZAX;ZZA;ZZAP"⟩,
     ⟨0xA2DC, "YI SYLLABLE ", "ZZOX;ZZO;ZZOP;ZZEX;ZZE;ZZEP;ZZUX;ZZU;ZZUP;ZZURX;ZZUR;ZZYT;ZZYX"⟩,
     ⟨0xA2E9, "YI SYLLABLE ", "ZZY;ZZYP;ZZYRX;ZZYR;NZIT;NZIX;NZI;NZIP;NZIEX;NZIE;NZIEP;NZAT;NZAX"⟩,
     ⟨0xA2F6, "YI SYLLABLE ", "NZA;NZAP;NZUOX;NZUO;NZOX;NZOP;NZEX;NZE;NZUX;NZU;NZUP;NZURX;NZUR"⟩,
     ⟨0xA303, "YI SYLLABLE ", "NZYT;NZYX;NZY;NZYP;NZYRX;NZYR;SIT;SIX;SI;SIP;SIEX;SIE;SIEP;SAT;SAX"⟩,
     ⟨0xA312, "YI SYLLABLE ", "SA;SAP;SUOX;SUO;SUOP;SOT;SOX;SO;SOP;SEX;SE;SEP;SUT;SUX;SU;SUP;SURX"⟩,
     ⟨0xA323, "YI SYLLABLE ", "SUR;SYT;SYX;SY;SYP;SYRX;SYR;SSIT;SSIX;SSI;SSIP;SSIEX;SSIE;SSIEP"⟩,
     ⟨0xA331, "YI SYLLABLE ", "SSAT;SSAX;SSA;SSAP;SSOT;SSOX;SSO;SSOP;SSEX;SSE;SSEP;SSUT;SSUX"⟩,
     ⟨0xA33E, "YI SYLLABLE ", "SSU;SSUP;SSYT;SSYX;SSY;SSYP;SSYRX;SSYR;ZHAT;ZHAX;ZHA;ZHAP;ZHUOX"⟩,
     ⟨0xA34B, "YI SYLLABLE ", "ZHUO;ZHUOP;ZHOT;ZHOX;ZHO;ZHOP;ZHET;ZHEX;ZHE;ZHEP;ZHUT;ZHUX;ZHU"⟩,
     ⟨0xA358, "YI SYLLABLE ", "ZHUP;ZHURX;ZHUR;ZHYT;ZHYX;ZHY;ZHYP;ZHYRX;ZHYR;CHAT;CHAX;CHA;CHAP"⟩,
     ⟨0xA365, "YI SYLLABLE ", "CHUOT;CHUOX;CHUO;CHUOP;CHOT;CHOX;CHO;CHOP;CHET;CHEX;CHE;CHEP;CHUX"⟩,
     ⟨0xA372, "YI SYLLABLE ", "CHU;CHUP;CHURX;CHUR;CHYT;CHYX;CHY;CHYP;CHYRX;CHYR;RRAX;RRA;RRUOX"⟩,
     ⟨0xA37F, "YI SYLLABLE ", "RRUO;RROT;RROX;RRO;RROP;RRET;RREX;RRE;RREP;RRUT;RRUX;RRU;RRUP"⟩,
     ⟨0xA38C, "YI SYLLABLE ", "RRURX;RRUR;RRYT;RRYX;RRY;RRYP;RRYRX;RRYR;NRAT;NRAX;NRA;NRAP;NROX"⟩,
     ⟨0xA399, "YI SYLLABLE ", "NRO;NROP;NRET;NREX;NRE;NREP;NRUT;NRUX;NRU;NRUP;NRURX;NRUR;NRYT"⟩,
     ⟨0xA3A6, "YI SYLLABLE ", "NRYX;NRY;NRYP;NRYRX;NRYR;SHAT;SHAX;SHA;SHAP;SHUOX;SHUO;SHUOP;SHOT"⟩,
     ⟨0xA3B3, "YI SYLLABLE ", "SHOX;SHO;SHOP;SHET;SHEX;SHE;SHEP;SHUT;SHUX;SHU;SHUP;SHURX;SHUR"⟩,
     ⟨0xA3C0, "YI SYLLABLE ", "SHYT;SHYX;SHY;SHYP;SHYRX;SHYR;RAT;RAX;RA;RAP;RUOX;RUO;RUOP;ROT"⟩,
     ⟨0xA3CE, "YI SYLLABLE ", "ROX;RO;ROP;REX;RE;REP;RUT;RUX;RU;RUP;RURX;RUR;RYT;RYX;RY;RYP;RYRX"⟩,
     ⟨0xA3DF, "YI SYLLABLE ", "RYR;JIT;JIX;JI;JIP;JIET;JIEX;JIE;JIEP;JUOT;JUOX;JUO;JUOP;JOT;JOX"⟩,
     ⟨0xA3EE, "YI SYLLABLE ", "JO;JOP;JUT;JUX;JU;JUP;JURX;JUR;JYT;JYX;JY;JYP;JYRX;JYR;QIT;QIX;QI"⟩,
     ⟨0xA3FF, "YI SYLLABLE ", "QIP;QIET;QIEX;QIE;QIEP;QUOT;QUOX;QUO;QUOP;QOT;QOX;QO;QOP;QUT;QUX"⟩,
     ⟨0xA40E, "YI SYLLABLE ", "QU;QUP;QURX;QUR;QYT;QYX;QY;QYP;QYRX;QYR;JJIT;JJIX;JJI;JJIP;JJIET"⟩,
     ⟨0xA41D, "YI SYLLABLE ", "JJIEX;JJIE;JJIEP;JJUOX;JJUO;JJUOP;JJOT;JJOX;JJO;JJOP;JJUT;JJUX;JJU"⟩,
     ⟨0xA42A, "YI SYLLABLE ", "JJUP;JJURX;JJUR;JJYT;JJYX;JJY;JJYP;NJIT;NJIX;NJI;NJIP;NJIET;NJIEX"⟩,
     ⟨0xA437, "YI SYLLABLE ", "NJIE;NJIEP;NJUOX;NJUO;NJOT;NJOX;NJO;NJOP;NJUX;NJU;NJUP;NJURX;NJUR"⟩,
     ⟨0xA444, "YI SYLLABLE ", "NJYT;NJYX;NJY;NJYP;NJYRX;NJYR;NYIT;NYIX;NYI;NYIP;NYIET;NYIEX;NYIE"⟩,
     ⟨0xA451, "YI SYLLABLE ", "NYIEP;NYUOX;NYUO;NYUOP;NYOT;NYOX;NYO;NYOP;NYUT;NYUX;NYU;NYUP;XIT"⟩,
     ⟨0xA45E, "YI SYLLABLE ", "XIX;XI;XIP;XIET;XIEX;XIE;XIEP;XUOX;XUO;XOT;XOX;XO;XOP;XYT;XYX;XY"⟩,
     ⟨0xA46E, "YI SYLLABLE ", "XYP;XYRX;XYR;YIT;YIX;YI;YIP;YIET;YIEX;YIE;YIEP;YUOT;YUOX;YUO;YUOP"⟩,
     ⟨0xA47D, "YI SYLLABLE ", "YOT;YOX;YO;YOP;YUT;YUX;YU;YUP;YURX;YUR;YYT;YYX;YY;YYP;YYRX;YYR"⟩]

/-- Names in the block Yi Radicals. -/
def yiRadicals : NameBlock where
  first := 0xA490
  last := 0xA4CF
  rows :=
    [⟨0xA490, "YI RADICAL ", "QOT;LI;KIT;NYIP;CYP;SSI;GGOP"⟩,
     ⟨0xA497, "YI RADICAL ", "GEP;MI;HXIT;LYR;BBUT;MOP;YO;PUT;HXUO;TAT;GA;ZUP;CYT;DDUR;BUR;GGUO"⟩,
     ⟨0xA4A7, "YI RADICAL ", "NYOP;TU;OP;JJUT;ZOT;PYT;HMO;YIT;VUR;SHY;VEP;ZA;JO;NZUP;JJY;GOT;JJIE"⟩,
     ⟨0xA4B8, "YI RADICAL ", "WO;DU;SHUR;LIE;CY;CUOP;CIP;HXOP;SHAT;ZUR;SHOP;CHE;ZZIET;NBIE;KE"⟩]

/-- Names in the block Lisu. -/
def lisu : NameBlock where
  first := 0xA4D0
  last := 0xA4FF
  rows :=
    [⟨0xA4D0, "LISU LETTER ", "BA;PA;PHA;DA;TA;THA;GA;KA;KHA;JA;CA;CHA;DZA;TSA;TSHA;MA;NA;LA"⟩,
     ⟨0xA4E2, "LISU LETTER ", "SA;ZHA;ZA;NGA;HA;XA;HHA;FA;WA;SHA;YA;GHA;A;AE;E;EU;I;O;U;UE;UH;OE"⟩,
     ⟨0xA4F8, "LISU LETTER TONE ", "MYA TI;NA PO;MYA CYA;MYA BO;MYA NA;MYA JEU"⟩,
     ⟨0xA4FE, "LISU PUNCTUATION ", "COMMA;FULL STOP"⟩]

/-- Names in the block Phags-pa. -/
def phagsPa : NameBlock where
  first := 0xA840
  last := 0xA87F
  rows :=
    [⟨0xA840, "PHAGS-PA LETTER ", "KA;KHA"⟩,
     ⟨0xA842, "PHAGS-PA LETTER ", "GA;NGA;CA;CHA;JA;NYA;TA;THA;DA;NA;PA;PHA;BA;MA;TSA;TSHA;DZA"⟩,
     ⟨0xA853, "PHAGS-PA LETTER ", "WA;ZHA;ZA;SMALL A;YA;RA;LA;SHA;SA;HA;A;I;U;E;O;QA;XA;FA;GGA;EE"⟩,
     ⟨0xA867, "PHAGS-PA ", "SUBJOINED LETTER WA;SUBJOINED LETTER YA;LETTER TTA"⟩,
     ⟨0xA86A, "PHAGS-PA LETTER ", "TTHA;DDA;NNA;ALTERNATE YA;VOICELESS SHA;VOICED HA;ASPIRATED FA"⟩,
     ⟨0xA871, "PHAGS-PA ", "SUBJOINED LETTER RA;SUPERFIXED LETTER RA;LETTER CANDRABINDU"⟩,
     ⟨0xA874, "PHAGS-PA ", "SINGLE HEAD MARK;DOUBLE HEAD MARK;MARK SHAD;MARK DOUBLE SHAD"⟩]

/-- Names in the block Hangul Jamo Extended-A. -/
def hangulJamoExtendedA : NameBlock where
  first := 0xA960
  last := 0xA97F
  rows :=
    [⟨0xA960, "HANGUL CHOSEONG TIKEUT-", "MIEUM;PIEUP;SIOS;CIEUC"⟩,
     ⟨0xA964, "HANGUL CHOSEONG RIEUL-", "KIYEOK;SSANGKIYEOK;TIKEUT;SSANGTIKEUT"⟩,
     ⟨0xA968, "HANGUL CHOSEONG RIEUL-", "MIEUM;PIEUP;SSANGPIEUP;KAPYEOUNPIEUP;SIOS;CIEUC;KHIEUKH"⟩,
     ⟨0xA96F, "HANGUL CHOSEONG MIEUM-", "KIYEOK;TIKEUT;SIOS"⟩,
     ⟨0xA972, "HANGUL CHOSEONG PIEUP-", "SIOS-THIEUTH;KHIEUKH;HIEUH"⟩,
     ⟨0xA975, "HANGUL CHOSEONG ", "SSANGSIOS-PIEUP;IEUNG-RIEUL;IEUNG-HIEUH;SSANGCIEUC-HIEUH"⟩,
     ⟨0xA979, "HANGUL CHOSEONG ", "SSANGTHIEUTH;PHIEUPH-HIEUH;HIEUH-SIOS;SSANGYEORINHIEUH"⟩]

/-- Names in the block Hangul Jamo Extended-B. -/
def hangulJamoExtendedB : NameBlock where
  first := 0xD7B0
  last := 0xD7FF
  rows :=
    [⟨0xD7B0, "HANGUL JUNGSEONG ", "O-YEO;O-O-I;YO-A;YO-AE;YO-EO;U-YEO;U-I-I;YU-AE;YU-O"⟩,
     ⟨0xD7B9, "HANGUL JUNGSEONG EU-", "A;EO;E;O"⟩,
     ⟨0xD7BD, "HANGUL JUNGSEONG ", "I-YA-O;I-YAE;I-YEO;I-YE;I-O-I;I-YO;I-YU;I-I;ARAEA-A;ARAEA-E"⟩,
     ⟨0xD7CB, "HANGUL JONGSEONG ", "NIEUN-RIEUL;NIEUN-CHIEUCH;SSANGTIKEUT;SSANGTIKEUT-PIEUP"⟩,
     ⟨0xD7CF, "HANGUL JONGSEONG TIKEUT-", "PIEUP;SIOS;SIOS-KIYEOK;CIEUC;CHIEUCH;THIEUTH"⟩,
     ⟨0xD7D5, "HANGUL JONGSEONG ", "RIEUL-SSANGKIYEOK;RIEUL-KIYEOK-HIEUH;SSANGRIEUL-KHIEUKH"⟩,
     ⟨0xD7D8, "HANGUL JONGSEONG RIEUL-", "MIEUM-HIEUH;PIEUP-TIKEUT;PIEUP-PHIEUPH;YESIEUNG"⟩,
     ⟨0xD7DC, "HANGUL JONGSEONG ", "RIEUL-YEORINHIEUH-HIEUH;KAPYEOUNRIEUL;MIEUM-NIEUN"⟩,
     ⟨0xD7DF, "HANGUL JONGSEONG ", "MIEUM-SSANGNIEUN;SSANGMIEUM;MIEUM-PIEUP-SIOS;MIEUM-CIEUC"⟩,
     ⟨0xD7E3, "HANGUL JONGSEONG ", "PIEUP-TIKEUT;PIEUP-RIEUL-PHIEUPH;PIEUP-MIEUM;SSANGPIEUP"⟩,
     ⟨0xD7E7, "HANGUL JONGSEONG ", "PIEUP-SIOS-TIKEUT;PIEUP-CIEUC;PIEUP-CHIEUCH;SIOS-MIEUM"⟩,
     ⟨0xD7EB, "HANGUL JONGSEONG ", "SIOS-KAPYEOUNPIEUP;SSANGSIOS-KIYEOK;SSANGSIOS-TIKEUT"⟩,
     ⟨0xD7EE, "HANGUL JONGSEONG SIOS-", "PANSIOS;CIEUC;CHIEUCH;THIEUTH;HIEUH"⟩,
     ⟨0xD7F3, "HANGUL JONGSEONG PANSIOS-", "PIEUP;KAPYEOUNPIEUP"⟩,
     ⟨0xD7F5, "HANGUL JONGSEONG ", "YESIEUNG-MIEUM;YESIEUNG-HIEUH;CIEUC-PIEUP"⟩,
     ⟨0xD7F8, "HANGUL JONGSEONG ", "CIEUC-SSANGPIEUP;SSANGCIEUC;PHIEUPH-SIOS;PHIEUPH-THIEUTH"⟩]

/-- Names in the block Mongolian Supplement. -/
def mongolianSupplement : NameBlock where
  first := 0x11660
  last := 0x1167F
  rows :=
    [⟨0x11660, "MONGOLIAN ", "BIRGA WITH ORNAMENT;ROTATED BIRGA;DOUBLE BIRGA WITH ORNAMENT"⟩,
     ⟨0x11663, "MONGOLIAN ", "TRIPLE BIRGA WITH ORNAMENT;BIRGA WITH DOUBLE ORNAMENT"⟩,
     ⟨0x11665, "MONGOLIAN ROTATED BIRGA WITH ", "ORNAMENT;DOUBLE ORNAMENT"⟩,
     ⟨0x11667, "MONGOLIAN INVERTED ", "BIRGA;BIRGA WITH DOUBLE ORNAMENT"⟩,
     ⟨0x11669, "MONGOLIAN SWIRL ", "BIRGA;BIRGA WITH ORNAMENT;BIRGA WITH DOUBLE ORNAMENT"⟩,
     ⟨0x1166C, "", "MONGOLIAN TURNED SWIRL BIRGA WITH DOUBLE ORNAMENT"⟩]

/-- Names in the block Zanabazar Square. -/
def zanabazarSquare : NameBlock where
  first := 0x11A00
  last := 0x11A4F
  rows :=
    [⟨0x11A00, "", "ZANABAZAR SQUARE LETTER A"⟩,
     ⟨0x11A01, "ZANABAZAR SQUARE VOWEL SIGN ", "I;UE;U;E;OE;O;AI;AU;REVERSED I"⟩,
     ⟨0x11A0A, "", "ZANABAZAR SQUARE VOWEL LENGTH MARK"⟩,
     ⟨0x11A0B, "ZANABAZAR SQUARE LETTER ", "KA;KHA;GA;GHA;NGA;CA;CHA;JA;NYA;TTA;TTHA;DDA"⟩,
     ⟨0x11A17, "ZANABAZAR SQUARE LETTER ", "DDHA;NNA;TA;THA;DA;DHA;NA;PA;PHA;BA;BHA;MA;TSA;TSHA"⟩,
     ⟨0x11A25, "ZANABAZAR SQUARE LETTER ", "DZA;DZHA;ZHA;ZA;-A;YA;RA;LA;VA;SHA;SSA;SA;HA;KSSA"⟩,
     ⟨0x11A33, "ZANABAZAR SQUARE ", "FINAL CONSONANT MARK;SIGN VIRAMA;SIGN CANDRABINDU"⟩,
     ⟨0x11A36, "ZANABAZAR SQUARE SIGN ", "CANDRABINDU WITH ORNAMENT;CANDRA WITH ORNAMENT;ANUSVARA"⟩,
     ⟨0x11A39, "ZANABAZAR SQUARE ", "SIGN VISARGA;CLUSTER-INITIAL LETTER RA"⟩,
     ⟨0x11A3B, "ZANABAZAR SQUARE CLUSTER-FINAL LETTER ", "YA;RA;LA;VA"⟩,
     ⟨0x11A3F, "ZANABAZAR SQUARE ", "INITIAL HEAD MARK;CLOSING HEAD MARK"⟩,
     ⟨0x11A41, "ZANABAZAR SQUARE MARK ", "TSHEG;SHAD;DOUBLE SHAD;LONG TSHEG"⟩,
     ⟨0x11A45, "", "ZANABAZAR SQUARE INITIAL DOUBLE-LINED HEAD MARK"⟩,
     ⟨0x11A46, "ZANABAZAR SQUARE ", "CLOSING DOUBLE-LINED HEAD MARK;SUBJOINER"⟩]

/-- Names in the block Soyombo. -/
def soyombo : NameBlock where
  first := 0x11A50
  last := 0x11AAF
  rows :=
    [⟨0x11A50, "", "SOYOMBO LETTER A"⟩,
     ⟨0x11A51, "SOYOMBO VOWEL SIGN ", "I;UE;U;E;O;OE;AI;AU;VOCALIC R;VOCALIC L"⟩,
     ⟨0x11A5B, "", "SOYOMBO VOWEL LENGTH MARK"⟩,
     ⟨0x11A5C, "SOYOMBO LETTER ", "KA;KHA;GA;GHA;NGA;CA;CHA"⟩,
     ⟨0x11A63, "SOYOMBO LETTER ", "JA;JHA;NYA;TTA;TTHA;DDA;DDHA;NNA;TA;THA;DA;DHA;NA;PA;PHA;BA"⟩,
     ⟨0x11A73, "SOYOMBO LETTER ", "BHA;MA;TSA;TSHA;DZA;ZHA;ZA;-A;YA;RA;LA;VA;SHA;SSA;SA;HA;KSSA"⟩,
     ⟨0x11A84, "SOYOMBO SIGN ", "JIHVAMULIYA;UPADHMANIYA"⟩,
     ⟨0x11A86, "SOYOMBO CLUSTER-INITIAL LETTER ", "RA;LA;SHA;SA"⟩,
     ⟨0x11A8A, "SOYOMBO FINAL CONSONANT SIGN ", "G;K;NG;D;N;B;M;R;L;SH;S;-A"⟩,
     ⟨0x11A96, "SOYOMBO ", "SIGN ANUSVARA;SIGN VISARGA;GEMINATION MARK;SUBJOINER"⟩,
     ⟨0x11A9A, "SOYOMBO MARK ", "TSHEG;SHAD;DOUBLE SHAD;PLUTA"⟩,
     ⟨0x11A9E, "SOYOMBO HEAD MARK WITH MOON AND ", "SUN AND TRIPLE FLAME;SUN AND FLAME;SUN"⟩,
     ⟨0x11AA1, "SOYOMBO TERMINAL MARK-", "1;2"⟩]

/-- Names in the block Lisu Supplement. -/
def lisuSupplement : NameBlock where
  first := 0x11FB0
  last := 0x11FBF
  rows :=
    [⟨0x11FB0, "", "LISU LETTER YHA"⟩]

/-- Names in the block Miao. -/
def miao : NameBlock where
  first := 0x16F00
  last := 0x16F9F
  rows :=
    [⟨0x16F00, "MIAO LETTER ", "PA;BA;YI PA;PLA;MA;MHA;ARCHAIC MA;FA;VA"⟩,
     ⟨0x16F09, "MIAO LETTER ", "VFA;TA;DA;YI TTA;YI TA;TTA;DDA;NA;NHA;YI NNA;ARCHAIC NA;NNA;NNHA"⟩,
     ⟨0x16F16, "MIAO LETTER ", "LA;LYA;LHA;LHYA;TLHA;DLHA;TLHYA;DLHYA;KA;GA;YI KA;QA;QGA;NGA;NGHA"⟩,
     ⟨0x16F25, "MIAO LETTER ", "ARCHAIC NGA;HA;XA;GHA;GHHA;TSSA;DZZA;NYA;NYHA;TSHA;DZHA;YI TSHA"⟩,
     ⟨0x16F31, "MIAO LETTER ", "YI DZHA;REFORMED TSHA;SHA;SSA;ZHA;ZSHA;TSA;DZA;YI TSA;SA;ZA;ZSA"⟩,
     ⟨0x16F3D, "MIAO LETTER ", "ZZA;ZZSA;ARCHAIC ZZA;ZZYA;ZZSYA;WA;AH;HHA;BRI;SYI;DZYI;TE;TSE;RTE"⟩,
     ⟨0x16F4F, "MIAO ", "SIGN CONSONANT MODIFIER BAR;LETTER NASALIZATION;SIGN ASPIRATION"⟩,
     ⟨0x16F52, "MIAO SIGN REFORMED ", "VOICING;ASPIRATION"⟩,
     ⟨0x16F54, "MIAO VOWEL SIGN ", "A;AA"⟩,
     ⟨0x16F56, "MIAO VOWEL SIGN ", "AHH;AN;ANG;O;OO;WO;W;E;EN;ENG;OEY;I;IA;IAN;IANG;IO;IE;II;IU"⟩,
     ⟨0x16F69, "MIAO VOWEL SIGN ", "ING;U;UA;UAN;UANG;UU;UEI;UNG;Y;YI;AE;AEE;ERR;ROUNDED ERR;ER"⟩,
     ⟨0x16F78, "MIAO VOWEL SIGN ", "ROUNDED ER;AI;EI;AU;OU;N;NG;UOG;YUI;OG;OER;VW;IG;EA;IONG;UI"⟩,
     ⟨0x16F8F, "MIAO TONE ", "RIGHT;TOP RIGHT;ABOVE;BELOW"⟩,
     ⟨0x16F93, "MIAO LETTER TONE-", "2;3;4;5;6;7;8"⟩,
     ⟨0x16F9A, "MIAO LETTER REFORMED TONE-", "1;2;4;5;6;8"⟩]

/-- Names in the block Ideographic Symbols and Punctuation. -/
def ideographicSymbolsAndPunctuation : NameBlock where
  first := 0x16FE0
  last := 0x16FFF
  rows :=
    [⟨0x16FE0, "", "TANGUT ITERATION MARK;NUSHU ITERATION MARK"⟩,
     ⟨0x16FE2, "", "OLD CHINESE HOOK MARK;OLD CHINESE ITERATION MARK;KHITAN SMALL SCRIPT FILLER"⟩,
     ⟨0x16FF0, "VIETNAMESE ALTERNATE READING MARK ", "CA;NHAY"⟩]

/-- Names in the block Kana Extended-B. -/
def kanaExtendedB : NameBlock where
  first := 0x1AFF0
  last := 0x1AFFF
  rows :=
    [⟨0x1AFF0, "KATAKANA LETTER MINNAN TONE-", "2;3;4;5"⟩,
     ⟨0x1AFF5, "KATAKANA LETTER MINNAN TONE-", "7;8"⟩,
     ⟨0x1AFF7, "KATAKANA LETTER MINNAN NASALIZED TONE-", "1;2;3;4;5"⟩,
     ⟨0x1AFFD, "KATAKANA LETTER MINNAN NASALIZED TONE-", "7;8"⟩]

/-- Names in the block Kana Supplement. -/
def kanaSupplement : NameBlock where
  first := 0x1B000
  last := 0x1B0FF
  rows :=
    [⟨0x1B000, "", "KATAKANA LETTER ARCHAIC E;HIRAGANA LETTER ARCHAIC YE"⟩,
     ⟨0x1B002, "HENTAIGANA LETTER ", "A-1;A-2;A-3;A-WO;I-1;I-2"⟩,
     ⟨0x1B008, "HENTAIGANA LETTER ", "I-3;I-4;U-1;U-2;U-3;U-4;U-5;E-2;E-3;E-4;E-5;E-6;O-1;O-2;O-3"⟩,
     ⟨0x1B017, "HENTAIGANA LETTER KA-", "1;2;3;4;5;6;7;8;9;10;11;KE"⟩,
     ⟨0x1B023, "HENTAIGANA LETTER KI-", "1;2;3;4;5;6;7;8"⟩,
     ⟨0x1B02B, "HENTAIGANA LETTER KU-", "1;2;3;4;5;6;7"⟩,
     ⟨0x1B032, "HENTAIGANA LETTER ", "KE-1;KE-2;KE-3;KE-4;KE-5;KE-6;KO-1;KO-2;KO-3;KO-KI"⟩,
     ⟨0x1B03C, "HENTAIGANA LETTER SA-", "1;2;3;4;5;6;7;8"⟩,
     ⟨0x1B044, "HENTAIGANA LETTER SI-", "1;2;3;4;5;6"⟩,
     ⟨0x1B04A, "HENTAIGANA LETTER SU-", "1;2;3;4;5;6;7;8"⟩,
     ⟨0x1B052, "HENTAIGANA LETTER SE-", "1;2;3;4;5"⟩,
     ⟨0x1B057, "HENTAIGANA LETTER ", "SO-1;SO-2;SO-3;SO-4;SO-5;SO-6;SO-7;TA-1;TA-2;TA-3;TA-4;TI-1"⟩,
     ⟨0x1B063, "HENTAIGANA LETTER ", "TI-2;TI-3;TI-4;TI-5;TI-6;TI-7;TU-1;TU-2;TU-3;TU-4;TU-TO"⟩,
     ⟨0x1B06E, "HENTAIGANA LETTER TE-", "1;2;3;4;5;6;7;8;9"⟩,
     ⟨0x1B077, "HENTAIGANA LETTER TO-", "1;2;3;4;5;6;RA"⟩,
     ⟨0x1B07E, "HENTAIGANA LETTER NA-", "1;2;3;4;5;6;7;8;9"⟩,
     ⟨0x1B087, "HENTAIGANA LETTER NI-", "1;2;3;4;5;6;7;TE"⟩,
     ⟨0x1B08F, "HENTAIGANA LETTER ", "NU-1;NU-2;NU-3;NE-1;NE-2;NE-3;NE-4;NE-5;NE-6;NE-KO"⟩,
     ⟨0x1B099, "HENTAIGANA LETTER NO-", "1;2;3;4;5"⟩,
     ⟨0x1B09E, "HENTAIGANA LETTER HA-", "1;2;3;4;5;6;7;8;9;10;11"⟩,
     ⟨0x1B0A9, "HENTAIGANA LETTER HI-", "1;2;3;4;5;6;7"⟩,
     ⟨0x1B0B0, "HENTAIGANA LETTER ", "HU-1;HU-2;HU-3;HE-1;HE-2;HE-3;HE-4;HE-5;HE-6;HE-7"⟩,
     ⟨0x1B0BA, "HENTAIGANA LETTER HO-", "1;2;3;4;5;6;7;8"⟩,
     ⟨0x1B0C2, "HENTAIGANA LETTER MA-", "1;2;3;4;5;6;7"⟩,
     ⟨0x1B0C9, "HENTAIGANA LETTER ", "MI-1;MI-2;MI-3;MI-4;MI-5;MI-6;MI-7;MU-1;MU-2"⟩,
     ⟨0x1B0D2, "HENTAIGANA LETTER ", "MU-3;MU-4;ME-1;ME-2;ME-MA;MO-1;MO-2;MO-3;MO-4;MO-5;MO-6"⟩,
     ⟨0x1B0DD, "HENTAIGANA LETTER ", "YA-1;YA-2;YA-3;YA-4;YA-5;YA-YO;YU-1;YU-2;YU-3;YU-4;YO-1"⟩,
     ⟨0x1B0E8, "HENTAIGANA LETTER ", "YO-2;YO-3;YO-4;YO-5;YO-6;RA-1;RA-2;RA-3;RA-4;RI-1;RI-2;RI-3"⟩,
     ⟨0x1B0F4, "HENTAIGANA LETTER ", "RI-4;RI-5;RI-6;RI-7;RU-1;RU-2;RU-3;RU-4;RU-5;RU-6;RE-1;RE-2"⟩]

/-- Names in the block Kana Extended-A. -/
def kanaExtendedA : NameBlock where
  first := 0x1B100
  last := 0x1B12F
  rows :=
    [⟨0x1B100, "HENTAIGANA LETTER ", "RE-3;RE-4;RO-1;RO-2;RO-3;RO-4;RO-5;RO-6;WA-1"⟩,
     ⟨0x1B109, "HENTAIGANA LETTER ", "WA-2;WA-3;WA-4;WA-5;WI-1;WI-2;WI-3;WI-4;WI-5;WE-1;WE-2;WE-3"⟩,
     ⟨0x1B115, "HENTAIGANA LETTER ", "WE-4;WO-1;WO-2;WO-3;WO-4;WO-5;WO-6;WO-7;N-MU-MO-1;N-MU-MO-2"⟩,
     ⟨0x1B11F, "", "HIRAGANA LETTER ARCHAIC WU"⟩,
     ⟨0x1B120, "KATAKANA LETTER ARCHAIC ", "YI;YE;WU"⟩]

/-- Names in the block Small Kana Extension. -/
def smallKanaExtension : NameBlock where
  first := 0x1B130
  last := 0x1B16F
  rows :=
    [⟨0x1B132, "", "HIRAGANA LETTER SMALL KO"⟩,
     ⟨0x1B150, "HIRAGANA LETTER SMALL ", "WI;WE;WO"⟩,
     ⟨0x1B155, "", "KATAKANA LETTER SMALL KO"⟩,
     ⟨0x1B164, "KATAKANA LETTER SMALL ", "WI;WE;WO;N"⟩]

/-- Names in the block Enclosed Ideographic Supplement. -/
def enclosedIdeographicSupplement : NameBlock where
  first := 0x1F200
  last := 0x1F2FF
  rows :=
    [⟨0x1F200, "", "SQUARE HIRAGANA HOKA;SQUARED KATAKANA KOKO;SQUARED KATAKANA SA"⟩,
     ⟨0x1F210, "SQUARED CJK UNIFIED IDEOGRAPH-", "624B;5B57;53CC"⟩,
     ⟨0x1F213, "", "SQUARED KATAKANA DE"⟩,
     ⟨0x1F214, "SQUARED CJK UNIFIED IDEOGRAPH-", "4E8C;591A;89E3;5929"⟩,
     ⟨0x1F218, "SQUARED CJK UNIFIED IDEOGRAPH-", "4EA4;6620;7121;6599;524D;5F8C;518D;65B0;521D"⟩,
     ⟨0x1F221, "SQUARED CJK UNIFIED IDEOGRAPH-", "7D42;751F;8CA9;58F0;5439;6F14;6295;6355;4E00"⟩,
     ⟨0x1F22A, "SQUARED CJK UNIFIED IDEOGRAPH-", "4E09;904A;5DE6;4E2D;53F3;6307;8D70;6253;7981"⟩,
     ⟨0x1F233, "SQUARED CJK UNIFIED IDEOGRAPH-", "7A7A;5408;6E80;6709;6708;7533;5272;55B6;914D"⟩,
     ⟨0x1F240, "TORTOISE SHELL BRACKETED CJK UNIFIED IDEOGRAPH-", "672C;4E09;4E8C"⟩,
     ⟨0x1F243, "TORTOISE SHELL BRACKETED CJK UNIFIED IDEOGRAPH-", "5B89;70B9;6253;76D7;52DD;6557"⟩,
     ⟨0x1F250, "CIRCLED IDEOGRAPH ", "ADVANTAGE;ACCEPT"⟩,
     ⟨0x1F260, "ROUNDED SYMBOL FOR ", "FU;LU;SHOU;XI;SHUANGXI;CAI"⟩]

end NameBlock

/-- The blocks of this module. -/
def eastAsianBlocks : List NameBlock :=
  [.hangulJamo, .mongolian, .cjkRadicalsSupplement, .kangxiRadicals,
   .ideographicDescriptionCharacters, .cjkSymbolsAndPunctuation, .hiragana, .katakana, .bopomofo,
   .hangulCompatibilityJamo, .kanbun, .bopomofoExtended, .cjkStrokes,
   .katakanaPhoneticExtensions, .enclosedCjkLettersAndMonths, .cjkCompatibility, .yiSyllables,
   .yiRadicals, .lisu, .phagsPa, .hangulJamoExtendedA, .hangulJamoExtendedB,
   .mongolianSupplement, .zanabazarSquare, .soyombo, .lisuSupplement, .miao,
   .ideographicSymbolsAndPunctuation, .kanaExtendedB, .kanaSupplement, .kanaExtendedA,
   .smallKanaExtension, .enclosedIdeographicSupplement]

end Text
end Scripting
