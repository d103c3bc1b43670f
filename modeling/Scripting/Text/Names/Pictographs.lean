import Scripting.Text.Names.Block

namespace Scripting
namespace Text

/-!
Names of pictographs, of tiles, cards and pieces for games, and of signs for divination.
-/

namespace NameBlock

/-- Names in the block Yijing Hexagram Symbols. -/
def yijingHexagramSymbols : NameBlock where
  first := 0x4DC0
  last := 0x4DFF
  rows :=
    [⟨0x4DC0, "HEXAGRAM FOR THE ", "CREATIVE HEAVEN;RECEPTIVE EARTH"⟩,
     ⟨0x4DC2, "HEXAGRAM FOR ", "DIFFICULTY AT THE BEGINNING;YOUTHFUL FOLLY"⟩,
     ⟨0x4DC4, "HEXAGRAM FOR ", "WAITING;CONFLICT;THE ARMY;HOLDING TOGETHER;SMALL TAMING"⟩,
     ⟨0x4DC9, "HEXAGRAM FOR ", "TREADING;PEACE;STANDSTILL;FELLOWSHIP;GREAT POSSESSION;MODESTY"⟩,
     ⟨0x4DCF, "HEXAGRAM FOR ", "ENTHUSIASM;FOLLOWING;WORK ON THE DECAYED;APPROACH;CONTEMPLATION"⟩,
     ⟨0x4DD4, "HEXAGRAM FOR ", "BITING THROUGH;GRACE;SPLITTING APART;RETURN;INNOCENCE"⟩,
     ⟨0x4DD9, "HEXAGRAM FOR ", "GREAT TAMING;MOUTH CORNERS;GREAT PREPONDERANCE;THE ABYSMAL WATER"⟩,
     ⟨0x4DDD, "HEXAGRAM FOR ", "THE CLINGING FIRE;INFLUENCE;DURATION;RETREAT;GREAT POWER"⟩,
     ⟨0x4DE2, "HEXAGRAM FOR ", "PROGRESS;DARKENING OF THE LIGHT;THE FAMILY;OPPOSITION;OBSTRUCTION"⟩,
     ⟨0x4DE7, "HEXAGRAM FOR ", "DELIVERANCE;DECREASE;INCREASE;BREAKTHROUGH;COMING TO MEET"⟩,
     ⟨0x4DEC, "HEXAGRAM FOR ", "GATHERING TOGETHER;PUSHING UPWARD;OPPRESSION;THE WELL;REVOLUTION"⟩,
     ⟨0x4DF1, "HEXAGRAM FOR THE ", "CAULDRON;AROUSING THUNDER;KEEPING STILL MOUNTAIN"⟩,
     ⟨0x4DF4, "HEXAGRAM FOR ", "DEVELOPMENT;THE MARRYING MAIDEN;ABUNDANCE;THE WANDERER"⟩,
     ⟨0x4DF8, "HEXAGRAM FOR ", "THE GENTLE WIND;THE JOYOUS LAKE;DISPERSION;LIMITATION;INNER TRUTH"⟩,
     ⟨0x4DFD, "HEXAGRAM FOR ", "SMALL PREPONDERANCE;AFTER COMPLETION;BEFORE COMPLETION"⟩]

/-- Names in the block Tai Xuan Jing Symbols. -/
def taiXuanJingSymbols : NameBlock where
  first := 0x1D300
  last := 0x1D35F
  rows :=
    [⟨0x1D300, "", "MONOGRAM FOR EARTH"⟩,
     ⟨0x1D301, "DIGRAM FOR ", "HEAVENLY EARTH;HUMAN EARTH;EARTHLY HEAVEN;EARTHLY HUMAN;EARTH"⟩,
     ⟨0x1D306, "TETRAGRAM FOR ", "CENTRE;FULL CIRCLE;MIRED;BARRIER"⟩,
     ⟨0x1D30A, "TETRAGRAM FOR ", "KEEPING SMALL;CONTRARIETY;ASCENT;OPPOSITION;BRANCHING OUT"⟩,
     ⟨0x1D30F, "TETRAGRAM FOR ", "DEFECTIVENESS OR DISTORTION;DIVERGENCE;YOUTHFULNESS;INCREASE"⟩,
     ⟨0x1D313, "TETRAGRAM FOR ", "PENETRATION;REACH;CONTACT;HOLDING BACK;WAITING;FOLLOWING"⟩,
     ⟨0x1D319, "TETRAGRAM FOR ", "ADVANCE;RELEASE;RESISTANCE;EASE;JOY;CONTENTION;ENDEAVOUR"⟩,
     ⟨0x1D320, "TETRAGRAM FOR ", "DUTIES;CHANGE;DECISIVENESS;BOLD RESOLUTION;PACKING;LEGION"⟩,
     ⟨0x1D326, "TETRAGRAM FOR ", "CLOSENESS;KINSHIP;GATHERING;STRENGTH;PURITY;FULLNESS;RESIDENCE"⟩,
     ⟨0x1D32D, "TETRAGRAM FOR ", "LAW OR MODEL;RESPONSE;GOING TO MEET;ENCOUNTERS;STOVE;GREATNESS"⟩,
     ⟨0x1D333, "TETRAGRAM FOR ", "ENLARGEMENT;PATTERN;RITUAL;FLIGHT;VASTNESS OR WASTING;CONSTANCY"⟩,
     ⟨0x1D339, "TETRAGRAM FOR ", "MEASURE;ETERNITY;UNITY;DIMINISHMENT;CLOSED MOUTH;GUARDEDNESS"⟩,
     ⟨0x1D33F, "TETRAGRAM FOR ", "GATHERING IN;MASSING;ACCUMULATION;EMBELLISHMENT;DOUBT;WATCH"⟩,
     ⟨0x1D345, "TETRAGRAM FOR ", "SINKING;INNER;DEPARTURE;DARKENING;DIMMING;EXHAUSTION;SEVERANCE"⟩,
     ⟨0x1D34C, "TETRAGRAM FOR ", "STOPPAGE;HARDNESS;COMPLETION;CLOSURE;FAILURE;AGGRAVATION"⟩,
     ⟨0x1D352, "TETRAGRAM FOR ", "COMPLIANCE;ON THE VERGE;DIFFICULTIES;LABOURING;FOSTERING"⟩]

/-- Names in the block Mahjong Tiles. -/
def mahjongTiles : NameBlock where
  first := 0x1F000
  last := 0x1F02F
  rows :=
    [⟨0x1F000, "MAHJONG TILE ", "EAST WIND;SOUTH WIND"⟩,
     ⟨0x1F002, "MAHJONG TILE ", "WEST WIND;NORTH WIND;RED DRAGON;GREEN DRAGON;WHITE DRAGON"⟩,
     ⟨0x1F007, "MAHJONG TILE ", "ONE OF CHARACTERS;TWO OF CHARACTERS;THREE OF CHARACTERS"⟩,
     ⟨0x1F00A, "MAHJONG TILE ", "FOUR OF CHARACTERS;FIVE OF CHARACTERS;SIX OF CHARACTERS"⟩,
     ⟨0x1F00D, "MAHJONG TILE ", "SEVEN OF CHARACTERS;EIGHT OF CHARACTERS;NINE OF CHARACTERS"⟩,
     ⟨0x1F010, "MAHJONG TILE ", "ONE OF BAMBOOS;TWO OF BAMBOOS;THREE OF BAMBOOS"⟩,
     ⟨0x1F013, "MAHJONG TILE ", "FOUR OF BAMBOOS;FIVE OF BAMBOOS;SIX OF BAMBOOS;SEVEN OF BAMBOOS"⟩,
     ⟨0x1F017, "MAHJONG TILE ", "EIGHT OF BAMBOOS;NINE OF BAMBOOS;ONE OF CIRCLES;TWO OF CIRCLES"⟩,
     ⟨0x1F01B, "MAHJONG TILE ", "THREE OF CIRCLES;FOUR OF CIRCLES;FIVE OF CIRCLES;SIX OF CIRCLES"⟩,
     ⟨0x1F01F, "MAHJONG TILE ", "SEVEN OF CIRCLES;EIGHT OF CIRCLES;NINE OF CIRCLES;PLUM;ORCHID"⟩,
     ⟨0x1F024, "MAHJONG TILE ", "BAMBOO;CHRYSANTHEMUM;SPRING;SUMMER;AUTUMN;WINTER;JOKER;BACK"⟩]

/-- Names in the block Domino Tiles. -/
def dominoTiles : NameBlock where
  first := 0x1F030
  last := 0x1F09F
  rows :=
    [⟨0x1F030, "", "DOMINO TILE HORIZONTAL BACK"⟩,
     ⟨0x1F031, "DOMINO TILE HORIZONTAL-00-", "00;01;02;03;04;05;06"⟩,
     ⟨0x1F038, "DOMINO TILE HORIZONTAL-01-", "00;01;02;03;04;05;06"⟩,
     ⟨0x1F03F, "DOMINO TILE HORIZONTAL-02-", "00;01;02;03;04;05;06"⟩,
     ⟨0x1F046, "DOMINO TILE HORIZONTAL-03-", "00;01;02;03;04;05;06"⟩,
     ⟨0x1F04D, "DOMINO TILE HORIZONTAL-04-", "00;01;02;03;04;05;06"⟩,
     ⟨0x1F054, "DOMINO TILE HORIZONTAL-05-", "00;01;02;03;04;05;06"⟩,
     ⟨0x1F05B, "DOMINO TILE HORIZONTAL-06-", "00;01;02;03;04;05;06"⟩,
     ⟨0x1F062, "", "DOMINO TILE VERTICAL BACK"⟩,
     ⟨0x1F063, "DOMINO TILE VERTICAL-00-", "00;01;02;03;04;05;06"⟩,
     ⟨0x1F06A, "DOMINO TILE VERTICAL-01-", "00;01;02;03;04;05;06"⟩,
     ⟨0x1F071, "DOMINO TILE VERTICAL-02-", "00;01;02;03;04;05;06"⟩,
     ⟨0x1F078, "DOMINO TILE VERTICAL-03-", "00;01;02;03;04;05;06"⟩,
     ⟨0x1F07F, "DOMINO TILE VERTICAL-04-", "00;01;02;03;04;05;06"⟩,
     ⟨0x1F086, "DOMINO TILE VERTICAL-05-", "00;01;02;03;04;05;06"⟩,
     ⟨0x1F08D, "DOMINO TILE VERTICAL-06-", "00;01;02;03;04;05;06"⟩]

/-- Names in the block Playing Cards. -/
def playingCards : NameBlock where
  first := 0x1F0A0
  last := 0x1F0FF
  rows :=
    [⟨0x1F0A0, "PLAYING CARD ", "BACK;ACE OF SPADES;TWO OF SPADES"⟩,
     ⟨0x1F0A3, "PLAYING CARD ", "THREE OF SPADES;FOUR OF SPADES;FIVE OF SPADES;SIX OF SPADES"⟩,
     ⟨0x1F0A7, "PLAYING CARD ", "SEVEN OF SPADES;EIGHT OF SPADES;NINE OF SPADES;TEN OF SPADES"⟩,
     ⟨0x1F0AB, "PLAYING CARD ", "JACK OF SPADES;KNIGHT OF SPADES;QUEEN OF SPADES;KING OF SPADES"⟩,
     ⟨0x1F0B1, "PLAYING CARD ", "ACE OF HEARTS;TWO OF HEARTS;THREE OF HEARTS"⟩,
     ⟨0x1F0B4, "PLAYING CARD ", "FOUR OF HEARTS;FIVE OF HEARTS;SIX OF HEARTS;SEVEN OF HEARTS"⟩,
     ⟨0x1F0B8, "PLAYING CARD ", "EIGHT OF HEARTS;NINE OF HEARTS;TEN OF HEARTS;JACK OF HEARTS"⟩,
     ⟨0x1F0BC, "PLAYING CARD ", "KNIGHT OF HEARTS;QUEEN OF HEARTS;KING OF HEARTS;RED JOKER"⟩,
     ⟨0x1F0C1, "PLAYING CARD ", "ACE OF DIAMONDS;TWO OF DIAMONDS;THREE OF DIAMONDS"⟩,
     ⟨0x1F0C4, "PLAYING CARD ", "FOUR OF DIAMONDS;FIVE OF DIAMONDS;SIX OF DIAMONDS"⟩,
     ⟨0x1F0C7, "PLAYING CARD ", "SEVEN OF DIAMONDS;EIGHT OF DIAMONDS;NINE OF DIAMONDS"⟩,
     ⟨0x1F0CA, "PLAYING CARD ", "TEN OF DIAMONDS;JACK OF DIAMONDS;KNIGHT OF DIAMONDS"⟩,
     ⟨0x1F0CD, "PLAYING CARD ", "QUEEN OF DIAMONDS;KING OF DIAMONDS;BLACK JOKER"⟩,
     ⟨0x1F0D1, "PLAYING CARD ", "ACE OF CLUBS;TWO OF CLUBS;THREE OF CLUBS"⟩,
     ⟨0x1F0D4, "PLAYING CARD ", "FOUR OF CLUBS;FIVE OF CLUBS;SIX OF CLUBS;SEVEN OF CLUBS"⟩,
     ⟨0x1F0D8, "PLAYING CARD ", "EIGHT OF CLUBS;NINE OF CLUBS;TEN OF CLUBS;JACK OF CLUBS"⟩,
     ⟨0x1F0DC, "PLAYING CARD ", "KNIGHT OF CLUBS;QUEEN OF CLUBS;KING OF CLUBS;WHITE JOKER;FOOL"⟩,
     ⟨0x1F0E1, "PLAYING CARD TRUMP-", "1;2;3;4;5;6;7;8;9;10;11;12;13;14;15;16;17;18;19;20;21"⟩]

/-- Names in the block Miscellaneous Symbols and Pictographs. -/
def miscellaneousSymbolsAndPictographs : NameBlock where
  first := 0x1F300
  last := 0x1F5FF
  rows :=
    [⟨0x1F300, "", "CYCLONE;FOGGY;CLOSED UMBRELLA"⟩,
     ⟨0x1F303, "", "NIGHT WITH STARS;SUNRISE OVER MOUNTAINS;SUNRISE;CITYSCAPE AT DUSK"⟩,
     ⟨0x1F307, "", "SUNSET OVER BUILDINGS;RAINBOW;BRIDGE AT NIGHT;WATER WAVE;VOLCANO;MILKY WAY"⟩,
     ⟨0x1F30D, "EARTH GLOBE ", "EUROPE-AFRICA;AMERICAS;ASIA-AUSTRALIA"⟩,
     ⟨0x1F310, "", "GLOBE WITH MERIDIANS;NEW MOON SYMBOL;WAXING CRESCENT MOON SYMBOL"⟩,
     ⟨0x1F313, "", "FIRST QUARTER MOON SYMBOL;WAXING GIBBOUS MOON SYMBOL"⟩,
     ⟨0x1F315, "", "FULL MOON SYMBOL;WANING GIBBOUS MOON SYMBOL;LAST QUARTER MOON SYMBOL"⟩,
     ⟨0x1F318, "", "WANING CRESCENT MOON SYMBOL;CRESCENT MOON;NEW MOON WITH FACE"⟩,
     ⟨0x1F31B, "", "FIRST QUARTER MOON WITH FACE;LAST QUARTER MOON WITH FACE;FULL MOON WITH FACE"⟩,
     ⟨0x1F31E, "", "SUN WITH FACE;GLOWING STAR;SHOOTING STAR;THERMOMETER;BLACK DROPLET;WHITE SUN"⟩,
     ⟨0x1F324, "WHITE SUN ", "WITH SMALL CLOUD;BEHIND CLOUD;BEHIND CLOUD WITH RAIN"⟩,
     ⟨0x1F327, "CLOUD WITH ", "RAIN;SNOW;LIGHTNING;TORNADO"⟩,
     ⟨0x1F32B, "", "FOG;WIND BLOWING FACE;HOT DOG;TACO;BURRITO;CHESTNUT;SEEDLING;EVERGREEN TREE"⟩,
     ⟨0x1F333, "", "DECIDUOUS TREE;PALM TREE;CACTUS;HOT PEPPER;TULIP;CHERRY BLOSSOM;ROSE;HIBISCUS"⟩,
     ⟨0x1F33B, "", "SUNFLOWER;BLOSSOM;EAR OF MAIZE;EAR OF RICE;HERB;FOUR LEAF CLOVER;MAPLE LEAF"⟩,
     ⟨0x1F342, "", "FALLEN LEAF;LEAF FLUTTERING IN WIND;MUSHROOM;TOMATO;AUBERGINE;GRAPES"⟩,
     ⟨0x1F348, "", "MELON;WATERMELON;TANGERINE;LEMON;BANANA;PINEAPPLE;RED APPLE;GREEN APPLE;PEAR"⟩,
     ⟨0x1F351, "", "PEACH;CHERRIES;STRAWBERRY;HAMBURGER;SLICE OF PIZZA;MEAT ON BONE;POULTRY LEG"⟩,
     ⟨0x1F358, "", "RICE CRACKER;RICE BALL;COOKED RICE;CURRY AND RICE;STEAMING BOWL;SPAGHETTI"⟩,
     ⟨0x1F35E, "", "BREAD;FRENCH FRIES;ROASTED SWEET POTATO;DANGO;ODEN;SUSHI;FRIED SHRIMP"⟩,
     ⟨0x1F365, "", "FISH CAKE WITH SWIRL DESIGN;SOFT ICE CREAM;SHAVED ICE;ICE CREAM;DOUGHNUT"⟩,
     ⟨0x1F36A, "", "COOKIE;CHOCOLATE BAR;CANDY;LOLLIPOP;CUSTARD;HONEY POT;SHORTCAKE;BENTO BOX"⟩,
     ⟨0x1F372, "", "POT OF FOOD;COOKING;FORK AND KNIFE;TEACUP WITHOUT HANDLE;SAKE BOTTLE AND CUP"⟩,
     ⟨0x1F377, "", "WINE GLASS;COCKTAIL GLASS;TROPICAL DRINK;BEER MUG;CLINKING BEER MUGS"⟩,
     ⟨0x1F37C, "", "BABY BOTTLE;FORK AND KNIFE WITH PLATE;BOTTLE WITH POPPING CORK"⟩,
     ⟨0x1F37F, "", "POPCORN;RIBBON;WRAPPED PRESENT;BIRTHDAY CAKE;JACK-O-LANTERN;CHRISTMAS TREE"⟩,
     ⟨0x1F385, "", "FATHER CHRISTMAS;FIREWORKS;FIREWORK SPARKLER;BALLOON;PARTY POPPER"⟩,
     ⟨0x1F38A, "", "CONFETTI BALL;TANABATA TREE;CROSSED FLAGS;PINE DECORATION;JAPANESE DOLLS"⟩,
     ⟨0x1F38F, "", "CARP STREAMER;WIND CHIME;MOON VIEWING CEREMONY;SCHOOL SATCHEL;GRADUATION CAP"⟩,
     ⟨0x1F394, "", "HEART WITH TIP ON THE LEFT;BOUQUET OF FLOWERS;MILITARY MEDAL;REMINDER RIBBON"⟩,
     ⟨0x1F398, "", "MUSICAL KEYBOARD WITH JACKS;STUDIO MICROPHONE;LEVEL SLIDER;CONTROL KNOBS"⟩,
     ⟨0x1F39C, "BEAMED ", "ASCENDING MUSICAL NOTES;DESCENDING MUSICAL NOTES"⟩,
     ⟨0x1F39E, "", "FILM FRAMES;ADMISSION TICKETS;CAROUSEL HORSE;FERRIS WHEEL;ROLLER COASTER"⟩,
     ⟨0x1F3A3, "", "FISHING POLE AND FISH;MICROPHONE;MOVIE CAMERA;CINEMA;HEADPHONE;ARTIST PALETTE"⟩,
     ⟨0x1F3A9, "", "TOP HAT;CIRCUS TENT;TICKET;CLAPPER BOARD;PERFORMING ARTS;VIDEO GAME"⟩,
     ⟨0x1F3AF, "", "DIRECT HIT;SLOT MACHINE;BILLIARDS;GAME DIE;BOWLING;FLOWER PLAYING CARDS"⟩,
     ⟨0x1F3B5, "", "MUSICAL NOTE;MULTIPLE MUSICAL NOTES;SAXOPHONE;GUITAR;MUSICAL KEYBOARD"⟩,
     ⟨0x1F3BA, "", "TRUMPET;VIOLIN;MUSICAL SCORE;RUNNING SHIRT WITH SASH;TENNIS RACQUET AND BALL"⟩,
     ⟨0x1F3BF, "", "SKI AND SKI BOOT;BASKETBALL AND HOOP;CHEQUERED FLAG;SNOWBOARDER;RUNNER;SURFER"⟩,
     ⟨0x1F3C5, "", "SPORTS MEDAL;TROPHY;HORSE RACING;AMERICAN FOOTBALL;RUGBY FOOTBALL;SWIMMER"⟩,
     ⟨0x1F3CB, "", "WEIGHT LIFTER;GOLFER;RACING MOTORCYCLE;RACING CAR;CRICKET BAT AND BALL"⟩,
     ⟨0x1F3D0, "", "VOLLEYBALL;FIELD HOCKEY STICK AND BALL;ICE HOCKEY STICK AND PUCK"⟩,
     ⟨0x1F3D3, "", "TABLE TENNIS PADDLE AND BALL;SNOW CAPPED MOUNTAIN;CAMPING;BEACH WITH UMBRELLA"⟩,
     ⟨0x1F3D7, "", "BUILDING CONSTRUCTION;HOUSE BUILDINGS;CITYSCAPE;DERELICT HOUSE BUILDING"⟩,
     ⟨0x1F3DB, "", "CLASSICAL BUILDING;DESERT;DESERT ISLAND;NATIONAL PARK;STADIUM"⟩,
     ⟨0x1F3E0, "HOUSE ", "BUILDING;WITH GARDEN"⟩,
     ⟨0x1F3E2, "", "OFFICE BUILDING;JAPANESE POST OFFICE;EUROPEAN POST OFFICE;HOSPITAL"⟩,
     ⟨0x1F3E6, "", "BANK;AUTOMATED TELLER MACHINE;HOTEL;LOVE HOTEL;CONVENIENCE STORE;SCHOOL"⟩,
     ⟨0x1F3EC, "", "DEPARTMENT STORE;FACTORY;IZAKAYA LANTERN;JAPANESE CASTLE;EUROPEAN CASTLE"⟩,
     ⟨0x1F3F1, "", "WHITE PENNANT;BLACK PENNANT;WAVING WHITE FLAG;WAVING BLACK FLAG;ROSETTE"⟩,
     ⟨0x1F3F6, "", "BLACK ROSETTE;LABEL;BADMINTON RACQUET AND SHUTTLECOCK;BOW AND ARROW;AMPHORA"⟩,
     ⟨0x1F3FB, "EMOJI MODIFIER FITZPATRICK TYPE-", "1-2;3;4;5;6"⟩,
     ⟨0x1F400, "", "RAT;MOUSE;OX;WATER BUFFALO;COW;TIGER;LEOPARD;RABBIT;CAT;DRAGON;CROCODILE"⟩,
     ⟨0x1F40B, "", "WHALE;SNAIL;SNAKE;HORSE;RAM;GOAT;SHEEP;MONKEY;ROOSTER;CHICKEN;DOG;PIG;BOAR"⟩,
     ⟨0x1F418, "", "ELEPHANT;OCTOPUS;SPIRAL SHELL;BUG;ANT;HONEYBEE;LADY BEETLE;FISH;TROPICAL FISH"⟩,
     ⟨0x1F421, "", "BLOWFISH;TURTLE;HATCHING CHICK;BABY CHICK;FRONT-FACING BABY CHICK"⟩,
     ⟨0x1F426, "", "BIRD;PENGUIN;KOALA;POODLE;DROMEDARY CAMEL;BACTRIAN CAMEL;DOLPHIN;MOUSE FACE"⟩,
     ⟨0x1F42E, "", "COW FACE;TIGER FACE;RABBIT FACE;CAT FACE;DRAGON FACE;SPOUTING WHALE"⟩,
     ⟨0x1F434, "", "HORSE FACE;MONKEY FACE;DOG FACE;PIG FACE;FROG FACE;HAMSTER FACE;WOLF FACE"⟩,
     ⟨0x1F43B, "", "BEAR FACE;PANDA FACE;PIG NOSE;PAW PRINTS;CHIPMUNK;EYES;EYE;EAR;NOSE;MOUTH"⟩,
     ⟨0x1F445, "", "TONGUE;WHITE UP POINTING BACKHAND INDEX;WHITE DOWN POINTING BACKHAND INDEX"⟩,
     ⟨0x1F448, "WHITE ", "LEFT POINTING BACKHAND INDEX;RIGHT POINTING BACKHAND INDEX"⟩,
     ⟨0x1F44A, "", "FISTED HAND SIGN;WAVING HAND SIGN;OK HAND SIGN"⟩,
     ⟨0x1F44D, "", "THUMBS UP SIGN;THUMBS DOWN SIGN;CLAPPING HANDS SIGN;OPEN HANDS SIGN"⟩,
     ⟨0x1F451, "", "CROWN;WOMANS HAT;EYEGLASSES;NECKTIE;T-SHIRT;JEANS;DRESS;KIMONO;BIKINI"⟩,
     ⟨0x1F45A, "", "WOMANS CLOTHES;PURSE;HANDBAG;POUCH;MANS SHOE;ATHLETIC SHOE;HIGH-HEELED SHOE"⟩,
     ⟨0x1F461, "", "WOMANS SANDAL;WOMANS BOOTS;FOOTPRINTS;BUST IN SILHOUETTE;BUSTS IN SILHOUETTE"⟩,
     ⟨0x1F466, "", "BOY;GIRL;MAN;WOMAN;FAMILY;MAN AND WOMAN HOLDING HANDS;TWO MEN HOLDING HANDS"⟩,
     ⟨0x1F46D, "", "TWO WOMEN HOLDING HANDS;POLICE OFFICER;WOMAN WITH BUNNY EARS"⟩,
     ⟨0x1F470, "", "BRIDE WITH VEIL;PERSON WITH BLOND HAIR;MAN WITH GUA PI MAO;MAN WITH TURBAN"⟩,
     ⟨0x1F474, "", "OLDER MAN;OLDER WOMAN;BABY;CONSTRUCTION WORKER;PRINCESS;JAPANESE OGRE"⟩,
     ⟨0x1F47A, "", "JAPANESE GOBLIN;GHOST;BABY ANGEL;EXTRATERRESTRIAL ALIEN;ALIEN MONSTER"⟩,
     ⟨0x1F47F, "", "IMP;SKULL;INFORMATION DESK PERSON;GUARDSMAN;DANCER;LIPSTICK;NAIL POLISH"⟩,
     ⟨0x1F486, "", "FACE MASSAGE;HAIRCUT;BARBER POLE;SYRINGE;PILL;KISS MARK;LOVE LETTER;RING"⟩,
     ⟨0x1F48E, "", "GEM STONE;KISS;BOUQUET;COUPLE WITH HEART;WEDDING;BEATING HEART;BROKEN HEART"⟩,
     ⟨0x1F495, "", "TWO HEARTS;SPARKLING HEART;GROWING HEART;HEART WITH ARROW;BLUE HEART"⟩,
     ⟨0x1F49A, "", "GREEN HEART;YELLOW HEART;PURPLE HEART;HEART WITH RIBBON;REVOLVING HEARTS"⟩,
     ⟨0x1F49F, "", "HEART DECORATION;DIAMOND SHAPE WITH A DOT INSIDE;ELECTRIC LIGHT BULB"⟩,
     ⟨0x1F4A2, "", "ANGER SYMBOL;BOMB;SLEEPING SYMBOL;COLLISION SYMBOL;SPLASHING SWEAT SYMBOL"⟩,
     ⟨0x1F4A7, "", "DROPLET;DASH SYMBOL;PILE OF POO;FLEXED BICEPS;DIZZY SYMBOL"⟩,
     ⟨0x1F4AC, "", "SPEECH BALLOON;THOUGHT BALLOON;WHITE FLOWER;HUNDRED POINTS SYMBOL"⟩,
     ⟨0x1F4B0, "", "MONEY BAG;CURRENCY EXCHANGE;HEAVY DOLLAR SIGN;CREDIT CARD"⟩,
     ⟨0x1F4B4, "BANKNOTE WITH ", "YEN SIGN;DOLLAR SIGN;EURO SIGN;POUND SIGN"⟩,
     ⟨0x1F4B8, "", "MONEY WITH WINGS;CHART WITH UPWARDS TREND AND YEN SIGN;SEAT;PERSONAL COMPUTER"⟩,
     ⟨0x1F4BC, "", "BRIEFCASE;MINIDISC;FLOPPY DISK;OPTICAL DISC;DVD;FILE FOLDER;OPEN FILE FOLDER"⟩,
     ⟨0x1F4C3, "", "PAGE WITH CURL;PAGE FACING UP;CALENDAR;TEAR-OFF CALENDAR;CARD INDEX"⟩,
     ⟨0x1F4C8, "CHART WITH ", "UPWARDS TREND;DOWNWARDS TREND"⟩,
     ⟨0x1F4CA, "", "BAR CHART;CLIPBOARD;PUSHPIN;ROUND PUSHPIN;PAPERCLIP;STRAIGHT RULER"⟩,
     ⟨0x1F4D0, "", "TRIANGULAR RULER;BOOKMARK TABS;LEDGER;NOTEBOOK;NOTEBOOK WITH DECORATIVE COVER"⟩,
     ⟨0x1F4D5, "", "CLOSED BOOK;OPEN BOOK;GREEN BOOK;BLUE BOOK;ORANGE BOOK;BOOKS"⟩,
     ⟨0x1F4DB, "", "NAME BADGE;SCROLL;MEMO;TELEPHONE RECEIVER;PAGER;FAX MACHINE;SATELLITE ANTENNA"⟩,
     ⟨0x1F4E2, "", "PUBLIC ADDRESS LOUDSPEAKER;CHEERING MEGAPHONE;OUTBOX TRAY;INBOX TRAY"⟩,
     ⟨0x1F4E6, "", "PACKAGE;E-MAIL SYMBOL;INCOMING ENVELOPE;ENVELOPE WITH DOWNWARDS ARROW ABOVE"⟩,
     ⟨0x1F4EA, "CLOSED MAILBOX WITH ", "LOWERED FLAG;RAISED FLAG"⟩,
     ⟨0x1F4EC, "OPEN MAILBOX WITH ", "RAISED FLAG;LOWERED FLAG"⟩,
     ⟨0x1F4EE, "", "POSTBOX;POSTAL HORN;NEWSPAPER"⟩,
     ⟨0x1F4F1, "MOBILE ", "PHONE;PHONE WITH RIGHTWARDS ARROW AT LEFT"⟩,
     ⟨0x1F4F3, "", "VIBRATION MODE;MOBILE PHONE OFF;NO MOBILE PHONES;ANTENNA WITH BARS"⟩,
     ⟨0x1F4F7, "", "CAMERA;CAMERA WITH FLASH;VIDEO CAMERA;TELEVISION;RADIO;VIDEOCASSETTE"⟩,
     ⟨0x1F4FD, "", "FILM PROJECTOR;PORTABLE STEREO;PRAYER BEADS;TWISTED RIGHTWARDS ARROWS"⟩,
     ⟨0x1F501, "", "CLOCKWISE RIGHTWARDS AND LEFTWARDS OPEN CIRCLE ARROWS"⟩,
     ⟨0x1F502, "CLOCKWISE RIGHTWARDS AND LEFTWARDS OPEN CIRCLE ARROWS WITH ",
      "CIRCLED ONE OVERLAY"⟩,
     ⟨0x1F503, "", "CLOCKWISE DOWNWARDS AND UPWARDS OPEN CIRCLE ARROWS"⟩,
     ⟨0x1F504, "", "ANTICLOCKWISE DOWNWARDS AND UPWARDS OPEN CIRCLE ARROWS;LOW BRIGHTNESS SYMBOL"⟩,
     ⟨0x1F506, "", "HIGH BRIGHTNESS SYMBOL;SPEAKER WITH CANCELLATION STROKE;SPEAKER"⟩,
     ⟨0x1F509, "SPEAKER WITH ", "ONE SOUND WAVE;THREE SOUND WAVES"⟩,
     ⟨0x1F50B, "", "BATTERY;ELECTRIC PLUG;LEFT-POINTING MAGNIFYING GLASS"⟩,
     ⟨0x1F50E, "", "RIGHT-POINTING MAGNIFYING GLASS;LOCK WITH INK PEN;CLOSED LOCK WITH KEY"⟩,
     ⟨0x1F511, "", "KEY;LOCK;OPEN LOCK;BELL;BELL WITH CANCELLATION STROKE;BOOKMARK;LINK SYMBOL"⟩,
     ⟨0x1F518, "", "RADIO BUTTON;BACK WITH LEFTWARDS ARROW ABOVE;END WITH LEFTWARDS ARROW ABOVE"⟩,
     ⟨0x1F51B, "", "ON WITH EXCLAMATION MARK WITH LEFT RIGHT ARROW ABOVE"⟩,
     ⟨0x1F51C, "", "SOON WITH RIGHTWARDS ARROW ABOVE"⟩,
     ⟨0x1F51D, "", "TOP WITH UPWARDS ARROW ABOVE;NO ONE UNDER EIGHTEEN SYMBOL;KEYCAP TEN"⟩,
     ⟨0x1F520, "INPUT SYMBOL FOR ", "LATIN CAPITAL LETTERS;LATIN SMALL LETTERS;NUMBERS;SYMBOLS"⟩,
     ⟨0x1F524, "", "INPUT SYMBOL FOR LATIN LETTERS;FIRE"⟩,
     ⟨0x1F526, "", "ELECTRIC TORCH;WRENCH;HAMMER;NUT AND BOLT;HOCHO;PISTOL;MICROSCOPE;TELESCOPE"⟩,
     ⟨0x1F52E, "", "CRYSTAL BALL;SIX POINTED STAR WITH MIDDLE DOT;JAPANESE SYMBOL FOR BEGINNER"⟩,
     ⟨0x1F531, "", "TRIDENT EMBLEM;BLACK SQUARE BUTTON;WHITE SQUARE BUTTON"⟩,
     ⟨0x1F534, "LARGE ", "RED CIRCLE;BLUE CIRCLE;ORANGE DIAMOND;BLUE DIAMOND"⟩,
     ⟨0x1F538, "SMALL ", "ORANGE DIAMOND;BLUE DIAMOND"⟩,
     ⟨0x1F53A, "", "UP-POINTING RED TRIANGLE;DOWN-POINTING RED TRIANGLE"⟩,
     ⟨0x1F53C, "", "UP-POINTING SMALL RED TRIANGLE;DOWN-POINTING SMALL RED TRIANGLE"⟩,
     ⟨0x1F53E, "", "LOWER RIGHT SHADOWED WHITE CIRCLE;UPPER RIGHT SHADOWED WHITE CIRCLE"⟩,
     ⟨0x1F540, "", "CIRCLED CROSS POMMEE;CROSS POMMEE WITH HALF-CIRCLE BELOW;CROSS POMMEE"⟩,
     ⟨0x1F543, "NOTCHED ", "LEFT SEMICIRCLE WITH THREE DOTS;RIGHT SEMICIRCLE WITH THREE DOTS"⟩,
     ⟨0x1F545, "", "SYMBOL FOR MARKS CHAPTER"⟩,
     ⟨0x1F546, "", "WHITE LATIN CROSS;HEAVY LATIN CROSS;CELTIC CROSS;OM SYMBOL;DOVE OF PEACE"⟩,
     ⟨0x1F54B, "", "KAABA;MOSQUE;SYNAGOGUE;MENORAH WITH NINE BRANCHES;BOWL OF HYGIEIA"⟩,
     ⟨0x1F550, "CLOCK FACE ", "ONE OCLOCK;TWO OCLOCK;THREE OCLOCK;FOUR OCLOCK"⟩,
     ⟨0x1F554, "CLOCK FACE ", "FIVE OCLOCK;SIX OCLOCK;SEVEN OCLOCK;EIGHT OCLOCK;NINE OCLOCK"⟩,
     ⟨0x1F559, "CLOCK FACE ", "TEN OCLOCK;ELEVEN OCLOCK;TWELVE OCLOCK;ONE-THIRTY;TWO-THIRTY"⟩,
     ⟨0x1F55E, "CLOCK FACE ", "THREE-THIRTY;FOUR-THIRTY;FIVE-THIRTY;SIX-THIRTY;SEVEN-THIRTY"⟩,
     ⟨0x1F563, "CLOCK FACE ", "EIGHT-THIRTY;NINE-THIRTY;TEN-THIRTY;ELEVEN-THIRTY;TWELVE-THIRTY"⟩,
     ⟨0x1F568, "RIGHT ", "SPEAKER;SPEAKER WITH ONE SOUND WAVE;SPEAKER WITH THREE SOUND WAVES"⟩,
     ⟨0x1F56B, "", "BULLHORN;BULLHORN WITH SOUND WAVES;RINGING BELL;BOOK;CANDLE;MANTELPIECE CLOCK"⟩,
     ⟨0x1F571, "", "BLACK SKULL AND CROSSBONES;NO PIRACY;HOLE;MAN IN BUSINESS SUIT LEVITATING"⟩,
     ⟨0x1F575, "", "SLEUTH OR SPY;DARK SUNGLASSES;SPIDER;SPIDER WEB;JOYSTICK"⟩,
     ⟨0x1F57A, "", "MAN DANCING;LEFT HAND TELEPHONE RECEIVER;TELEPHONE RECEIVER WITH PAGE"⟩,
     ⟨0x1F57D, "", "RIGHT HAND TELEPHONE RECEIVER;WHITE TOUCHTONE TELEPHONE"⟩,
     ⟨0x1F57F, "", "BLACK TOUCHTONE TELEPHONE;TELEPHONE ON TOP OF MODEM;CLAMSHELL MOBILE PHONE"⟩,
     ⟨0x1F582, "", "BACK OF ENVELOPE;STAMPED ENVELOPE;ENVELOPE WITH LIGHTNING"⟩,
     ⟨0x1F585, "", "FLYING ENVELOPE;PEN OVER STAMPED ENVELOPE;LINKED PAPERCLIPS;BLACK PUSHPIN"⟩,
     ⟨0x1F589, "LOWER LEFT ", "PENCIL;BALLPOINT PEN;FOUNTAIN PEN;PAINTBRUSH;CRAYON"⟩,
     ⟨0x1F58E, "", "LEFT WRITING HAND;TURNED OK HAND SIGN;RAISED HAND WITH FINGERS SPLAYED"⟩,
     ⟨0x1F591, "REVERSED ", "RAISED HAND WITH FINGERS SPLAYED;THUMBS UP SIGN"⟩,
     ⟨0x1F593, "REVERSED ", "THUMBS DOWN SIGN;VICTORY HAND;HAND WITH MIDDLE FINGER EXTENDED"⟩,
     ⟨0x1F596, "", "RAISED HAND WITH PART BETWEEN MIDDLE AND RING FINGERS"⟩,
     ⟨0x1F597, "", "WHITE DOWN POINTING LEFT HAND INDEX"⟩,
     ⟨0x1F598, "SIDEWAYS WHITE ", "LEFT POINTING INDEX;RIGHT POINTING INDEX"⟩,
     ⟨0x1F59A, "SIDEWAYS BLACK ", "LEFT POINTING INDEX;RIGHT POINTING INDEX"⟩,
     ⟨0x1F59C, "BLACK ", "LEFT POINTING BACKHAND INDEX;RIGHT POINTING BACKHAND INDEX"⟩,
     ⟨0x1F59E, "SIDEWAYS WHITE ", "UP POINTING INDEX;DOWN POINTING INDEX"⟩,
     ⟨0x1F5A0, "SIDEWAYS BLACK ", "UP POINTING INDEX;DOWN POINTING INDEX"⟩,
     ⟨0x1F5A2, "BLACK ", "UP POINTING BACKHAND INDEX;DOWN POINTING BACKHAND INDEX;HEART"⟩,
     ⟨0x1F5A5, "", "DESKTOP COMPUTER;KEYBOARD AND MOUSE;THREE NETWORKED COMPUTERS;PRINTER"⟩,
     ⟨0x1F5A9, "", "POCKET CALCULATOR;BLACK HARD SHELL FLOPPY DISK;WHITE HARD SHELL FLOPPY DISK"⟩,
     ⟨0x1F5AC, "", "SOFT SHELL FLOPPY DISK;TAPE CARTRIDGE;WIRED KEYBOARD;ONE BUTTON MOUSE"⟩,
     ⟨0x1F5B0, "", "TWO BUTTON MOUSE;THREE BUTTON MOUSE;TRACKBALL;OLD PERSONAL COMPUTER"⟩,
     ⟨0x1F5B4, "", "HARD DISK;SCREEN;PRINTER ICON;FAX ICON;OPTICAL DISC ICON"⟩,
     ⟨0x1F5B9, "DOCUMENT WITH ", "TEXT;TEXT AND PICTURE;PICTURE"⟩,
     ⟨0x1F5BC, "FRAME WITH ", "PICTURE;TILES;AN X"⟩,
     ⟨0x1F5BF, "", "BLACK FOLDER;FOLDER;OPEN FOLDER;CARD INDEX DIVIDERS"⟩,
     ⟨0x1F5C3, "", "CARD FILE BOX;FILE CABINET;EMPTY NOTE;EMPTY NOTE PAGE;EMPTY NOTE PAD"⟩,
     ⟨0x1F5C8, "", "NOTE;NOTE PAGE;NOTE PAD;EMPTY DOCUMENT;EMPTY PAGE;EMPTY PAGES;DOCUMENT"⟩,
     ⟨0x1F5CF, "", "PAGE;PAGES;WASTEBASKET;SPIRAL NOTE PAD;SPIRAL CALENDAR PAD;DESKTOP WINDOW"⟩,
     ⟨0x1F5D5, "", "MINIMIZE;MAXIMIZE;OVERLAP;CLOCKWISE RIGHT AND LEFT SEMICIRCLE ARROWS"⟩,
     ⟨0x1F5D9, "", "CANCELLATION X;INCREASE FONT SIZE SYMBOL;DECREASE FONT SIZE SYMBOL"⟩,
     ⟨0x1F5DC, "", "COMPRESSION;OLD KEY;ROLLED-UP NEWSPAPER;PAGE WITH CIRCLED TEXT"⟩,
     ⟨0x1F5E0, "", "STOCK CHART;DAGGER KNIFE;LIPS;SPEAKING HEAD IN SILHOUETTE"⟩,
     ⟨0x1F5E4, "THREE RAYS ", "ABOVE;BELOW;LEFT;RIGHT"⟩,
     ⟨0x1F5E8, "", "LEFT SPEECH BUBBLE;RIGHT SPEECH BUBBLE"⟩,
     ⟨0x1F5EA, "", "TWO SPEECH BUBBLES;THREE SPEECH BUBBLES;LEFT THOUGHT BUBBLE"⟩,
     ⟨0x1F5ED, "", "RIGHT THOUGHT BUBBLE;LEFT ANGER BUBBLE;RIGHT ANGER BUBBLE;MOOD BUBBLE"⟩,
     ⟨0x1F5F1, "LIGHTNING ", "MOOD BUBBLE;MOOD"⟩,
     ⟨0x1F5F3, "BALLOT ", "BOX WITH BALLOT;SCRIPT X;BOX WITH SCRIPT X;BOLD SCRIPT X"⟩,
     ⟨0x1F5F7, "", "BALLOT BOX WITH BOLD SCRIPT X;LIGHT CHECK MARK;BALLOT BOX WITH BOLD CHECK"⟩,
     ⟨0x1F5FA, "", "WORLD MAP;MOUNT FUJI;TOKYO TOWER;STATUE OF LIBERTY;SILHOUETTE OF JAPAN;MOYAI"⟩]

/-- Names in the block Emoticons. -/
def emoticons : NameBlock where
  first := 0x1F600
  last := 0x1F64F
  rows :=
    [⟨0x1F600, "", "GRINNING FACE;GRINNING FACE WITH SMILING EYES;FACE WITH TEARS OF JOY"⟩,
     ⟨0x1F603, "SMILING FACE WITH OPEN ", "MOUTH;MOUTH AND SMILING EYES;MOUTH AND COLD SWEAT"⟩,
     ⟨0x1F606, "SMILING FACE WITH ", "OPEN MOUTH AND TIGHTLY-CLOSED EYES;HALO;HORNS"⟩,
     ⟨0x1F609, "", "WINKING FACE;SMILING FACE WITH SMILING EYES;FACE SAVOURING DELICIOUS FOOD"⟩,
     ⟨0x1F60C, "", "RELIEVED FACE;SMILING FACE WITH HEART-SHAPED EYES"⟩,
     ⟨0x1F60E, "", "SMILING FACE WITH SUNGLASSES;SMIRKING FACE;NEUTRAL FACE;EXPRESSIONLESS FACE"⟩,
     ⟨0x1F612, "", "UNAMUSED FACE;FACE WITH COLD SWEAT;PENSIVE FACE;CONFUSED FACE;CONFOUNDED FACE"⟩,
     ⟨0x1F617, "", "KISSING FACE;FACE THROWING A KISS;KISSING FACE WITH SMILING EYES"⟩,
     ⟨0x1F61A, "", "KISSING FACE WITH CLOSED EYES;FACE WITH STUCK-OUT TONGUE"⟩,
     ⟨0x1F61C, "FACE WITH STUCK-OUT TONGUE AND ", "WINKING EYE;TIGHTLY-CLOSED EYES"⟩,
     ⟨0x1F61E, "", "DISAPPOINTED FACE;WORRIED FACE;ANGRY FACE;POUTING FACE;CRYING FACE"⟩,
     ⟨0x1F623, "", "PERSEVERING FACE;FACE WITH LOOK OF TRIUMPH;DISAPPOINTED BUT RELIEVED FACE"⟩,
     ⟨0x1F626, "", "FROWNING FACE WITH OPEN MOUTH;ANGUISHED FACE;FEARFUL FACE"⟩,
     ⟨0x1F629, "", "WEARY FACE;SLEEPY FACE;TIRED FACE;GRIMACING FACE;LOUDLY CRYING FACE"⟩,
     ⟨0x1F62E, "", "FACE WITH OPEN MOUTH;HUSHED FACE;FACE WITH OPEN MOUTH AND COLD SWEAT"⟩,
     ⟨0x1F631, "", "FACE SCREAMING IN FEAR;ASTONISHED FACE;FLUSHED FACE;SLEEPING FACE;DIZZY FACE"⟩,
     ⟨0x1F636, "FACE ", "WITHOUT MOUTH;WITH MEDICAL MASK"⟩,
     ⟨0x1F638, "", "GRINNING CAT FACE WITH SMILING EYES;CAT FACE WITH TEARS OF JOY"⟩,
     ⟨0x1F63A, "SMILING CAT FACE WITH ", "OPEN MOUTH;HEART-SHAPED EYES"⟩,
     ⟨0x1F63C, "", "CAT FACE WITH WRY SMILE;KISSING CAT FACE WITH CLOSED EYES;POUTING CAT FACE"⟩,
     ⟨0x1F63F, "", "CRYING CAT FACE;WEARY CAT FACE;SLIGHTLY FROWNING FACE;SLIGHTLY SMILING FACE"⟩,
     ⟨0x1F643, "", "UPSIDE-DOWN FACE;FACE WITH ROLLING EYES;FACE WITH NO GOOD GESTURE"⟩,
     ⟨0x1F646, "", "FACE WITH OK GESTURE;PERSON BOWING DEEPLY;SEE-NO-EVIL MONKEY"⟩,
     ⟨0x1F649, "", "HEAR-NO-EVIL MONKEY;SPEAK-NO-EVIL MONKEY;HAPPY PERSON RAISING ONE HAND"⟩,
     ⟨0x1F64C, "PERSON ", "RAISING BOTH HANDS IN CELEBRATION;FROWNING"⟩,
     ⟨0x1F64E, "PERSON WITH ", "POUTING FACE;FOLDED HANDS"⟩]

/-- Names in the block Ornamental Dingbats. -/
def ornamentalDingbats : NameBlock where
  first := 0x1F650
  last := 0x1F67F
  rows :=
    [⟨0x1F650, "", "NORTH WEST POINTING LEAF"⟩,
     ⟨0x1F651, "", "SOUTH WEST POINTING LEAF;NORTH EAST POINTING LEAF;SOUTH EAST POINTING LEAF"⟩,
     ⟨0x1F654, "TURNED ", "NORTH WEST POINTING LEAF;SOUTH WEST POINTING LEAF"⟩,
     ⟨0x1F656, "TURNED ", "NORTH EAST POINTING LEAF;SOUTH EAST POINTING LEAF"⟩,
     ⟨0x1F658, "", "NORTH WEST POINTING VINE LEAF;SOUTH WEST POINTING VINE LEAF"⟩,
     ⟨0x1F65A, "", "NORTH EAST POINTING VINE LEAF;SOUTH EAST POINTING VINE LEAF"⟩,
     ⟨0x1F65C, "HEAVY ", "NORTH WEST POINTING VINE LEAF;SOUTH WEST POINTING VINE LEAF"⟩,
     ⟨0x1F65E, "HEAVY ", "NORTH EAST POINTING VINE LEAF;SOUTH EAST POINTING VINE LEAF"⟩,
     ⟨0x1F660, "", "NORTH WEST POINTING BUD;SOUTH WEST POINTING BUD"⟩,
     ⟨0x1F662, "", "NORTH EAST POINTING BUD;SOUTH EAST POINTING BUD;HEAVY NORTH WEST POINTING BUD"⟩,
     ⟨0x1F665, "HEAVY ", "SOUTH WEST POINTING BUD;NORTH EAST POINTING BUD;SOUTH EAST POINTING BUD"⟩,
     ⟨0x1F668, "HOLLOW QUILT SQUARE ", "ORNAMENT;ORNAMENT IN BLACK SQUARE"⟩,
     ⟨0x1F66A, "SOLID QUILT SQUARE ", "ORNAMENT;ORNAMENT IN BLACK SQUARE"⟩,
     ⟨0x1F66C, "", "LEFTWARDS ROCKET;UPWARDS ROCKET;RIGHTWARDS ROCKET;DOWNWARDS ROCKET"⟩,
     ⟨0x1F670, "", "SCRIPT LIGATURE ET ORNAMENT;HEAVY SCRIPT LIGATURE ET ORNAMENT"⟩,
     ⟨0x1F672, "", "LIGATURE OPEN ET ORNAMENT;HEAVY LIGATURE OPEN ET ORNAMENT"⟩,
     ⟨0x1F674, "", "HEAVY AMPERSAND ORNAMENT;SWASH AMPERSAND ORNAMENT"⟩,
     ⟨0x1F676, "", "SANS-SERIF HEAVY DOUBLE TURNED COMMA QUOTATION MARK ORNAMENT"⟩,
     ⟨0x1F677, "", "SANS-SERIF HEAVY DOUBLE COMMA QUOTATION MARK ORNAMENT"⟩,
     ⟨0x1F678, "", "SANS-SERIF HEAVY LOW DOUBLE COMMA QUOTATION MARK ORNAMENT"⟩,
     ⟨0x1F679, "", "HEAVY INTERROBANG ORNAMENT;SANS-SERIF INTERROBANG ORNAMENT"⟩,
     ⟨0x1F67B, "", "HEAVY SANS-SERIF INTERROBANG ORNAMENT;VERY HEAVY SOLIDUS"⟩,
     ⟨0x1F67D, "", "VERY HEAVY REVERSE SOLIDUS;CHECKER BOARD;REVERSE CHECKER BOARD"⟩]

/-- Names in the block Transport and Map Symbols. -/
def transportAndMapSymbols : NameBlock where
  first := 0x1F680
  last := 0x1F6FF
  rows :=
    [⟨0x1F680, "", "ROCKET;HELICOPTER;STEAM LOCOMOTIVE;RAILWAY CAR"⟩,
     ⟨0x1F684, "HIGH-SPEED ", "TRAIN;TRAIN WITH BULLET NOSE"⟩,
     ⟨0x1F686, "", "TRAIN;METRO;LIGHT RAIL;STATION;TRAM;TRAM CAR"⟩,
     ⟨0x1F68C, "", "BUS;ONCOMING BUS;TROLLEYBUS;BUS STOP;MINIBUS;AMBULANCE;FIRE ENGINE;POLICE CAR"⟩,
     ⟨0x1F694, "", "ONCOMING POLICE CAR;TAXI;ONCOMING TAXI;AUTOMOBILE;ONCOMING AUTOMOBILE"⟩,
     ⟨0x1F699, "", "RECREATIONAL VEHICLE;DELIVERY TRUCK;ARTICULATED LORRY;TRACTOR"⟩,
     ⟨0x1F69D, "", "MONORAIL;MOUNTAIN RAILWAY;SUSPENSION RAILWAY;MOUNTAIN CABLEWAY;AERIAL TRAMWAY"⟩,
     ⟨0x1F6A2, "", "SHIP;ROWBOAT;SPEEDBOAT;HORIZONTAL TRAFFIC LIGHT;VERTICAL TRAFFIC LIGHT"⟩,
     ⟨0x1F6A7, "", "CONSTRUCTION SIGN;POLICE CARS REVOLVING LIGHT;TRIANGULAR FLAG ON POST;DOOR"⟩,
     ⟨0x1F6AB, "", "NO ENTRY SIGN;SMOKING SYMBOL;NO SMOKING SYMBOL;PUT LITTER IN ITS PLACE SYMBOL"⟩,
     ⟨0x1F6AF, "", "DO NOT LITTER SYMBOL;POTABLE WATER SYMBOL;NON-POTABLE WATER SYMBOL"⟩,
     ⟨0x1F6B2, "", "BICYCLE;NO BICYCLES;BICYCLIST;MOUNTAIN BICYCLIST;PEDESTRIAN"⟩,
     ⟨0x1F6B7, "", "NO PEDESTRIANS;CHILDREN CROSSING;MENS SYMBOL;WOMENS SYMBOL;RESTROOM"⟩,
     ⟨0x1F6BC, "", "BABY SYMBOL;TOILET;WATER CLOSET;SHOWER;BATH;BATHTUB;PASSPORT CONTROL;CUSTOMS"⟩,
     ⟨0x1F6C4, "", "BAGGAGE CLAIM;LEFT LUGGAGE;TRIANGLE WITH ROUNDED CORNERS;PROHIBITED SIGN"⟩,
     ⟨0x1F6C8, "", "CIRCLED INFORMATION SOURCE;BOYS SYMBOL;GIRLS SYMBOL;COUCH AND LAMP"⟩,
     ⟨0x1F6CC, "", "SLEEPING ACCOMMODATION;SHOPPING BAGS;BELLHOP BELL;BED;PLACE OF WORSHIP"⟩,
     ⟨0x1F6D1, "", "OCTAGONAL SIGN;SHOPPING TROLLEY;STUPA;PAGODA;HINDU TEMPLE;HUT;ELEVATOR"⟩,
     ⟨0x1F6DC, "", "WIRELESS;PLAYGROUND SLIDE;WHEEL"⟩,
     ⟨0x1F6DF, "", "RING BUOY;HAMMER AND WRENCH;SHIELD;OIL DRUM;MOTORWAY;RAILWAY TRACK;MOTOR BOAT"⟩,
     ⟨0x1F6E6, "UP-POINTING ", "MILITARY AIRPLANE;AIRPLANE;SMALL AIRPLANE"⟩,
     ⟨0x1F6E9, "", "SMALL AIRPLANE;NORTHEAST-POINTING AIRPLANE"⟩,
     ⟨0x1F6EB, "AIRPLANE ", "DEPARTURE;ARRIVING"⟩,
     ⟨0x1F6F0, "", "SATELLITE"⟩,
     ⟨0x1F6F1, "", "ONCOMING FIRE ENGINE;DIESEL LOCOMOTIVE;PASSENGER SHIP;SCOOTER;MOTOR SCOOTER"⟩,
     ⟨0x1F6F6, "", "CANOE;SLED;FLYING SAUCER;SKATEBOARD;AUTO RICKSHAW;PICKUP TRUCK;ROLLER SKATE"⟩]

/-- Names in the block Alchemical Symbols. -/
def alchemicalSymbols : NameBlock where
  first := 0x1F700
  last := 0x1F77F
  rows :=
    [⟨0x1F700, "ALCHEMICAL SYMBOL FOR ", "QUINTESSENCE;AIR;FIRE;EARTH;WATER;AQUAFORTIS;AQUA REGIA"⟩,
     ⟨0x1F707, "ALCHEMICAL SYMBOL FOR ", "AQUA REGIA-2;AQUA VITAE;AQUA VITAE-2;VINEGAR;VINEGAR-2"⟩,
     ⟨0x1F70C, "ALCHEMICAL SYMBOL FOR ", "VINEGAR-3;SULFUR;PHILOSOPHERS SULFUR;BLACK SULFUR"⟩,
     ⟨0x1F710, "ALCHEMICAL SYMBOL FOR MERCURY ", "SUBLIMATE;SUBLIMATE-2;SUBLIMATE-3"⟩,
     ⟨0x1F713, "ALCHEMICAL SYMBOL FOR ", "CINNABAR;SALT;NITRE"⟩,
     ⟨0x1F716, "ALCHEMICAL SYMBOL FOR ", "VITRIOL;VITRIOL-2;ROCK SALT;ROCK SALT-2;GOLD;SILVER"⟩,
     ⟨0x1F71C, "ALCHEMICAL SYMBOL FOR ", "IRON ORE;IRON ORE-2;CROCUS OF IRON;REGULUS OF IRON"⟩,
     ⟨0x1F720, "ALCHEMICAL SYMBOL FOR ", "COPPER ORE;IRON-COPPER ORE;SUBLIMATE OF COPPER"⟩,
     ⟨0x1F723, "ALCHEMICAL SYMBOL FOR CROCUS OF ", "COPPER;COPPER-2"⟩,
     ⟨0x1F725, "ALCHEMICAL SYMBOL FOR ", "COPPER ANTIMONIATE;SALT OF COPPER ANTIMONIATE"⟩,
     ⟨0x1F727, "ALCHEMICAL SYMBOL FOR ", "SUBLIMATE OF SALT OF COPPER;VERDIGRIS;TIN ORE;LEAD ORE"⟩,
     ⟨0x1F72B, "ALCHEMICAL SYMBOL FOR ", "ANTIMONY ORE;SUBLIMATE OF ANTIMONY;SALT OF ANTIMONY"⟩,
     ⟨0x1F72E, "ALCHEMICAL SYMBOL FOR ", "SUBLIMATE OF SALT OF ANTIMONY;VINEGAR OF ANTIMONY"⟩,
     ⟨0x1F730, "ALCHEMICAL SYMBOL FOR REGULUS OF ", "ANTIMONY;ANTIMONY-2"⟩,
     ⟨0x1F732, "ALCHEMICAL SYMBOL FOR ", "REGULUS;REGULUS-2;REGULUS-3;REGULUS-4;ALKALI;ALKALI-2"⟩,
     ⟨0x1F738, "ALCHEMICAL SYMBOL FOR ", "MARCASITE;SAL-AMMONIAC;ARSENIC;REALGAR;REALGAR-2"⟩,
     ⟨0x1F73D, "ALCHEMICAL SYMBOL FOR ", "AURIPIGMENT;BISMUTH ORE;TARTAR;TARTAR-2;QUICK LIME"⟩,
     ⟨0x1F742, "ALCHEMICAL SYMBOL FOR ", "BORAX;BORAX-2;BORAX-3;ALUM;OIL;SPIRIT;TINCTURE"⟩,
     ⟨0x1F749, "ALCHEMICAL SYMBOL FOR ", "GUM;WAX;POWDER;CALX;TUTTY;CAPUT MORTUUM;SCEPTER OF JOVE"⟩,
     ⟨0x1F750, "ALCHEMICAL SYMBOL FOR ", "CADUCEUS;TRIDENT;STARRED TRIDENT;LODESTONE;SOAP;URINE"⟩,
     ⟨0x1F756, "ALCHEMICAL SYMBOL FOR ", "HORSE DUNG;ASHES;POT ASHES;BRICK;POWDERED BRICK;AMALGAM"⟩,
     ⟨0x1F75C, "ALCHEMICAL SYMBOL FOR STRATUM SUPER ", "STRATUM;STRATUM-2"⟩,
     ⟨0x1F75E, "ALCHEMICAL SYMBOL FOR ", "SUBLIMATION;PRECIPITATE;DISTILL"⟩,
     ⟨0x1F761, "ALCHEMICAL SYMBOL FOR ", "DISSOLVE;DISSOLVE-2;PURIFY;PUTREFACTION;CRUCIBLE"⟩,
     ⟨0x1F766, "ALCHEMICAL SYMBOL FOR CRUCIBLE-", "2;3;4;5"⟩,
     ⟨0x1F76A, "ALCHEMICAL SYMBOL FOR ", "ALEMBIC;BATH OF MARY;BATH OF VAPOURS"⟩,
     ⟨0x1F76D, "ALCHEMICAL SYMBOL FOR ", "RETORT;HOUR;NIGHT;DAY-NIGHT;MONTH;HALF DRAM;HALF OUNCE"⟩,
     ⟨0x1F774, "", "LOT OF FORTUNE;OCCULTATION;LUNAR ECLIPSE"⟩,
     ⟨0x1F77B, "", "HAUMEA;MAKEMAKE;GONGGONG;QUAOAR;ORCUS"⟩]

/-- Names in the block Supplemental Symbols and Pictographs. -/
def supplementalSymbolsAndPictographs : NameBlock where
  first := 0x1F900
  last := 0x1F9FF
  rows :=
    [⟨0x1F900, "CIRCLED CROSS ", "FORMEE WITH FOUR DOTS;FORMEE WITH TWO DOTS;FORMEE"⟩,
     ⟨0x1F903, "LEFT HALF CIRCLE WITH ", "FOUR DOTS;THREE DOTS;TWO DOTS;DOT"⟩,
     ⟨0x1F907, "", "LEFT HALF CIRCLE"⟩,
     ⟨0x1F908, "DOWNWARD FACING ", "HOOK;NOTCHED HOOK;HOOK WITH DOT;NOTCHED HOOK WITH DOT"⟩,
     ⟨0x1F90C, "", "PINCHED FINGERS;WHITE HEART;BROWN HEART;PINCHING HAND;ZIPPER-MOUTH FACE"⟩,
     ⟨0x1F911, "", "MONEY-MOUTH FACE;FACE WITH THERMOMETER;NERD FACE;THINKING FACE"⟩,
     ⟨0x1F915, "", "FACE WITH HEAD-BANDAGE;ROBOT FACE;HUGGING FACE;SIGN OF THE HORNS"⟩,
     ⟨0x1F919, "", "CALL ME HAND;RAISED BACK OF HAND;LEFT-FACING FIST;RIGHT-FACING FIST"⟩,
     ⟨0x1F91D, "", "HANDSHAKE;HAND WITH INDEX AND MIDDLE FINGERS CROSSED;I LOVE YOU HAND SIGN"⟩,
     ⟨0x1F920, "", "FACE WITH COWBOY HAT;CLOWN FACE;NAUSEATED FACE;ROLLING ON THE FLOOR LAUGHING"⟩,
     ⟨0x1F924, "", "DROOLING FACE;LYING FACE;FACE PALM;SNEEZING FACE;FACE WITH ONE EYEBROW RAISED"⟩,
     ⟨0x1F929, "GRINNING FACE WITH ", "STAR EYES;ONE LARGE AND ONE SMALL EYE"⟩,
     ⟨0x1F92B, "", "FACE WITH FINGER COVERING CLOSED LIPS"⟩,
     ⟨0x1F92C, "", "SERIOUS FACE WITH SYMBOLS COVERING MOUTH"⟩,
     ⟨0x1F92D, "", "SMILING FACE WITH SMILING EYES AND HAND COVERING MOUTH"⟩,
     ⟨0x1F92E, "", "FACE WITH OPEN MOUTH VOMITING;SHOCKED FACE WITH EXPLODING HEAD;PREGNANT WOMAN"⟩,
     ⟨0x1F931, "", "BREAST-FEEDING;PALMS UP TOGETHER;SELFIE;PRINCE;MAN IN TUXEDO;MOTHER CHRISTMAS"⟩,
     ⟨0x1F937, "", "SHRUG;PERSON DOING CARTWHEEL;JUGGLING;FENCER;MODERN PENTATHLON"⟩,
     ⟨0x1F93C, "", "WRESTLERS;WATER POLO;HANDBALL;DIVING MASK;WILTED FLOWER;DRUM WITH DRUMSTICKS"⟩,
     ⟨0x1F942, "", "CLINKING GLASSES;TUMBLER GLASS;SPOON;GOAL NET;RIFLE;FIRST PLACE MEDAL"⟩,
     ⟨0x1F948, "", "SECOND PLACE MEDAL;THIRD PLACE MEDAL;BOXING GLOVE;MARTIAL ARTS UNIFORM"⟩,
     ⟨0x1F94C, "", "CURLING STONE;LACROSSE STICK AND BALL;SOFTBALL;FLYING DISC;CROISSANT;AVOCADO"⟩,
     ⟨0x1F952, "", "CUCUMBER;BACON;POTATO;CARROT;BAGUETTE BREAD;GREEN SALAD;SHALLOW PAN OF FOOD"⟩,
     ⟨0x1F959, "", "STUFFED FLATBREAD;EGG;GLASS OF MILK;PEANUTS;KIWIFRUIT;PANCAKES"⟩,
     ⟨0x1F95F, "", "DUMPLING;FORTUNE COOKIE;TAKEOUT BOX;CHOPSTICKS;BOWL WITH SPOON;CUP WITH STRAW"⟩,
     ⟨0x1F965, "", "COCONUT;BROCCOLI;PIE;PRETZEL;CUT OF MEAT;SANDWICH;CANNED FOOD;LEAFY GREEN"⟩,
     ⟨0x1F96D, "", "MANGO;MOON CAKE;BAGEL;SMILING FACE WITH SMILING EYES AND THREE HEARTS"⟩,
     ⟨0x1F971, "", "YAWNING FACE;SMILING FACE WITH TEAR"⟩,
     ⟨0x1F973, "FACE WITH ", "PARTY HORN AND PARTY HAT;UNEVEN EYES AND WAVY MOUTH"⟩,
     ⟨0x1F975, "", "OVERHEATED FACE;FREEZING FACE;NINJA;DISGUISED FACE;FACE HOLDING BACK TEARS"⟩,
     ⟨0x1F97A, "", "FACE WITH PLEADING EYES;SARI;LAB COAT;GOGGLES;HIKING BOOT;FLAT SHOE"⟩,
     ⟨0x1F980, "", "CRAB;LION FACE;SCORPION;TURKEY;UNICORN FACE;EAGLE;DUCK;BAT;SHARK;OWL;FOX FACE"⟩,
     ⟨0x1F98B, "", "BUTTERFLY;DEER;GORILLA;LIZARD;RHINOCEROS;SHRIMP;SQUID;GIRAFFE FACE;ZEBRA FACE"⟩,
     ⟨0x1F994, "", "HEDGEHOG;SAUROPOD;T-REX;CRICKET;KANGAROO;LLAMA;PEACOCK;HIPPOPOTAMUS"⟩,
     ⟨0x1F99C, "", "PARROT;RACCOON;LOBSTER;MOSQUITO;MICROBE;BADGER;SWAN;MAMMOTH;DODO;SLOTH;OTTER"⟩,
     ⟨0x1F9A7, "", "ORANGUTAN;SKUNK;FLAMINGO;OYSTER;BEAVER;BISON;SEAL;GUIDE DOG;PROBING CANE"⟩,
     ⟨0x1F9B0, "EMOJI COMPONENT ", "RED HAIR;CURLY HAIR;BALD;WHITE HAIR"⟩,
     ⟨0x1F9B4, "", "BONE;LEG;FOOT;TOOTH;SUPERHERO;SUPERVILLAIN;SAFETY VEST;EAR WITH HEARING AID"⟩,
     ⟨0x1F9BC, "", "MOTORIZED WHEELCHAIR;MANUAL WHEELCHAIR;MECHANICAL ARM;MECHANICAL LEG"⟩,
     ⟨0x1F9C0, "", "CHEESE WEDGE;CUPCAKE;SALT SHAKER;BEVERAGE BOX;GARLIC;ONION;FALAFEL;WAFFLE"⟩,
     ⟨0x1F9C8, "", "BUTTER;MATE DRINK;ICE CUBE;BUBBLE TEA;TROLL;STANDING PERSON;KNEELING PERSON"⟩,
     ⟨0x1F9CF, "", "DEAF PERSON;FACE WITH MONOCLE;ADULT;CHILD;OLDER ADULT;BEARDED PERSON"⟩,
     ⟨0x1F9D5, "PERSON ", "WITH HEADSCARF;IN STEAMY ROOM;CLIMBING;IN LOTUS POSITION"⟩,
     ⟨0x1F9D9, "", "MAGE"⟩,
     ⟨0x1F9DA, "", "FAIRY;VAMPIRE;MERPERSON;ELF;GENIE;ZOMBIE;BRAIN;ORANGE HEART;BILLED CAP;SCARF"⟩,
     ⟨0x1F9E4, "", "GLOVES;COAT;SOCKS;RED GIFT ENVELOPE;FIRECRACKER;JIGSAW PUZZLE PIECE;TEST TUBE"⟩,
     ⟨0x1F9EB, "", "PETRI DISH;DNA DOUBLE HELIX;COMPASS;ABACUS;FIRE EXTINGUISHER;TOOLBOX"⟩,
     ⟨0x1F9F1, "", "BRICK;MAGNET;LUGGAGE;LOTION BOTTLE;SPOOL OF THREAD;BALL OF YARN;SAFETY PIN"⟩,
     ⟨0x1F9F8, "", "TEDDY BEAR;BROOM;BASKET;ROLL OF PAPER;BAR OF SOAP;SPONGE;RECEIPT;NAZAR AMULET"⟩]

/-- Names in the block Chess Symbols. -/
def chessSymbols : NameBlock where
  first := 0x1FA00
  last := 0x1FA6F
  rows :=
    [⟨0x1FA00, "NEUTRAL CHESS ", "KING;QUEEN;ROOK;BISHOP;KNIGHT;PAWN"⟩,
     ⟨0x1FA06, "", "WHITE CHESS KNIGHT ROTATED FORTY-FIVE DEGREES"⟩,
     ⟨0x1FA07, "", "BLACK CHESS KNIGHT ROTATED FORTY-FIVE DEGREES"⟩,
     ⟨0x1FA08, "", "NEUTRAL CHESS KNIGHT ROTATED FORTY-FIVE DEGREES"⟩,
     ⟨0x1FA09, "WHITE CHESS ", "KING ROTATED NINETY DEGREES;QUEEN ROTATED NINETY DEGREES"⟩,
     ⟨0x1FA0B, "WHITE CHESS ", "ROOK ROTATED NINETY DEGREES;BISHOP ROTATED NINETY DEGREES"⟩,
     ⟨0x1FA0D, "WHITE CHESS ", "KNIGHT ROTATED NINETY DEGREES;PAWN ROTATED NINETY DEGREES"⟩,
     ⟨0x1FA0F, "BLACK CHESS ", "KING ROTATED NINETY DEGREES;QUEEN ROTATED NINETY DEGREES"⟩,
     ⟨0x1FA11, "BLACK CHESS ", "ROOK ROTATED NINETY DEGREES;BISHOP ROTATED NINETY DEGREES"⟩,
     ⟨0x1FA13, "BLACK CHESS ", "KNIGHT ROTATED NINETY DEGREES;PAWN ROTATED NINETY DEGREES"⟩,
     ⟨0x1FA15, "NEUTRAL CHESS ", "KING ROTATED NINETY DEGREES;QUEEN ROTATED NINETY DEGREES"⟩,
     ⟨0x1FA17, "NEUTRAL CHESS ", "ROOK ROTATED NINETY DEGREES;BISHOP ROTATED NINETY DEGREES"⟩,
     ⟨0x1FA19, "NEUTRAL CHESS ", "KNIGHT ROTATED NINETY DEGREES;PAWN ROTATED NINETY DEGREES"⟩,
     ⟨0x1FA1B, "", "WHITE CHESS KNIGHT ROTATED ONE HUNDRED THIRTY-FIVE DEGREES"⟩,
     ⟨0x1FA1C, "", "BLACK CHESS KNIGHT ROTATED ONE HUNDRED THIRTY-FIVE DEGREES"⟩,
     ⟨0x1FA1D, "", "NEUTRAL CHESS KNIGHT ROTATED ONE HUNDRED THIRTY-FIVE DEGREES"⟩,
     ⟨0x1FA1E, "WHITE CHESS TURNED ", "KING;QUEEN;ROOK;BISHOP;KNIGHT;PAWN"⟩,
     ⟨0x1FA24, "BLACK CHESS TURNED ", "KING;QUEEN;ROOK;BISHOP;KNIGHT;PAWN"⟩,
     ⟨0x1FA2A, "NEUTRAL CHESS TURNED ", "KING;QUEEN;ROOK;BISHOP;KNIGHT;PAWN"⟩,
     ⟨0x1FA30, "", "WHITE CHESS KNIGHT ROTATED TWO HUNDRED TWENTY-FIVE DEGREES"⟩,
     ⟨0x1FA31, "", "BLACK CHESS KNIGHT ROTATED TWO HUNDRED TWENTY-FIVE DEGREES"⟩,
     ⟨0x1FA32, "", "NEUTRAL CHESS KNIGHT ROTATED TWO HUNDRED TWENTY-FIVE DEGREES"⟩,
     ⟨0x1FA33, "", "WHITE CHESS KING ROTATED TWO HUNDRED SEVENTY DEGREES"⟩,
     ⟨0x1FA34, "", "WHITE CHESS QUEEN ROTATED TWO HUNDRED SEVENTY DEGREES"⟩,
     ⟨0x1FA35, "", "WHITE CHESS ROOK ROTATED TWO HUNDRED SEVENTY DEGREES"⟩,
     ⟨0x1FA36, "", "WHITE CHESS BISHOP ROTATED TWO HUNDRED SEVENTY DEGREES"⟩,
     ⟨0x1FA37, "", "WHITE CHESS KNIGHT ROTATED TWO HUNDRED SEVENTY DEGREES"⟩,
     ⟨0x1FA38, "", "WHITE CHESS PAWN ROTATED TWO HUNDRED SEVENTY DEGREES"⟩,
     ⟨0x1FA39, "", "BLACK CHESS KING ROTATED TWO HUNDRED SEVENTY DEGREES"⟩,
     ⟨0x1FA3A, "", "BLACK CHESS QUEEN ROTATED TWO HUNDRED SEVENTY DEGREES"⟩,
     ⟨0x1FA3B, "", "BLACK CHESS ROOK ROTATED TWO HUNDRED SEVENTY DEGREES"⟩,
     ⟨0x1FA3C, "", "BLACK CHESS BISHOP ROTATED TWO HUNDRED SEVENTY DEGREES"⟩,
     ⟨0x1FA3D, "", "BLACK CHESS KNIGHT ROTATED TWO HUNDRED SEVENTY DEGREES"⟩,
     ⟨0x1FA3E, "", "BLACK CHESS PAWN ROTATED TWO HUNDRED SEVENTY DEGREES"⟩,
     ⟨0x1FA3F, "", "NEUTRAL CHESS KING ROTATED TWO HUNDRED SEVENTY DEGREES"⟩,
     ⟨0x1FA40, "", "NEUTRAL CHESS QUEEN ROTATED TWO HUNDRED SEVENTY DEGREES"⟩,
     ⟨0x1FA41, "", "NEUTRAL CHESS ROOK ROTATED TWO HUNDRED SEVENTY DEGREES"⟩,
     ⟨0x1FA42, "", "NEUTRAL CHESS BISHOP ROTATED TWO HUNDRED SEVENTY DEGREES"⟩,
     ⟨0x1FA43, "", "NEUTRAL CHESS KNIGHT ROTATED TWO HUNDRED SEVENTY DEGREES"⟩,
     ⟨0x1FA44, "", "NEUTRAL CHESS PAWN ROTATED TWO HUNDRED SEVENTY DEGREES"⟩,
     ⟨0x1FA45, "", "WHITE CHESS KNIGHT ROTATED THREE HUNDRED FIFTEEN DEGREES"⟩,
     ⟨0x1FA46, "", "BLACK CHESS KNIGHT ROTATED THREE HUNDRED FIFTEEN DEGREES"⟩,
     ⟨0x1FA47, "", "NEUTRAL CHESS KNIGHT ROTATED THREE HUNDRED FIFTEEN DEGREES"⟩,
     ⟨0x1FA48, "", "WHITE CHESS EQUIHOPPER;BLACK CHESS EQUIHOPPER"⟩,
     ⟨0x1FA4A, "", "NEUTRAL CHESS EQUIHOPPER;WHITE CHESS EQUIHOPPER ROTATED NINETY DEGREES"⟩,
     ⟨0x1FA4C, "", "BLACK CHESS EQUIHOPPER ROTATED NINETY DEGREES"⟩,
     ⟨0x1FA4D, "", "NEUTRAL CHESS EQUIHOPPER ROTATED NINETY DEGREES"⟩,
     ⟨0x1FA4E, "WHITE CHESS KNIGHT-", "QUEEN;ROOK;BISHOP"⟩,
     ⟨0x1FA51, "BLACK CHESS KNIGHT-", "QUEEN;ROOK;BISHOP"⟩,
     ⟨0x1FA60, "XIANGQI RED ", "GENERAL;MANDARIN;ELEPHANT;HORSE;CHARIOT;CANNON;SOLDIER"⟩,
     ⟨0x1FA67, "XIANGQI BLACK ", "GENERAL;MANDARIN;ELEPHANT;HORSE;CHARIOT;CANNON;SOLDIER"⟩]

/-- Names in the block Symbols and Pictographs Extended-A. -/
def symbolsAndPictographsExtendedA : NameBlock where
  first := 0x1FA70
  last := 0x1FAFF
  rows :=
    [⟨0x1FA70, "", "BALLET SHOES;ONE-PIECE SWIMSUIT;BRIEFS;SHORTS;THONG SANDAL;LIGHT BLUE HEART"⟩,
     ⟨0x1FA76, "", "GREY HEART;PINK HEART;DROP OF BLOOD;ADHESIVE BANDAGE;STETHOSCOPE;X-RAY;CRUTCH"⟩,
     ⟨0x1FA80, "", "YO-YO"⟩,
     ⟨0x1FA81, "", "KITE;PARACHUTE;BOOMERANG;MAGIC WAND;PINATA;NESTING DOLLS;MARACAS;FLUTE;HARP"⟩,
     ⟨0x1FA8F, "", "SHOVEL;RINGED PLANET;CHAIR;RAZOR"⟩,
     ⟨0x1FA93, "", "AXE;DIYA LAMP;BANJO;MILITARY HELMET;ACCORDION;LONG DRUM;COIN;CARPENTRY SAW"⟩,
     ⟨0x1FA9B, "", "SCREWDRIVER;LADDER;HOOK;MIRROR;WINDOW;PLUNGER;SEWING NEEDLE;KNOT;BUCKET"⟩,
     ⟨0x1FAA4, "", "MOUSE TRAP;TOOTHBRUSH;HEADSTONE;PLACARD;ROCK;MIRROR BALL;IDENTIFICATION CARD"⟩,
     ⟨0x1FAAB, "", "LOW BATTERY;HAMSA;FOLDING HAND FAN;HAIR PICK;KHANDA;FLY;WORM;BEETLE"⟩,
     ⟨0x1FAB3, "", "COCKROACH;POTTED PLANT;WOOD;FEATHER;LOTUS;CORAL;EMPTY NEST;NEST WITH EGGS"⟩,
     ⟨0x1FABB, "", "HYACINTH;JELLYFISH;WING;LEAFLESS TREE;GOOSE;ANATOMICAL HEART;LUNGS"⟩,
     ⟨0x1FAC2, "", "PEOPLE HUGGING;PREGNANT MAN;PREGNANT PERSON;PERSON WITH CROWN;FINGERPRINT"⟩,
     ⟨0x1FACE, "", "MOOSE;DONKEY;BLUEBERRIES;BELL PEPPER;OLIVE;FLATBREAD;TAMALE"⟩,
     ⟨0x1FAD5, "", "FONDUE;TEAPOT;POURING LIQUID;BEANS;JAR;GINGER ROOT;PEA POD;ROOT VEGETABLE"⟩,
     ⟨0x1FADF, "", "SPLATTER;MELTING FACE;SALUTING FACE"⟩,
     ⟨0x1FAE2, "FACE WITH ", "OPEN EYES AND HAND OVER MOUTH;PEEKING EYE;DIAGONAL MOUTH"⟩,
     ⟨0x1FAE5, "", "DOTTED LINE FACE;BITING LIP;BUBBLES;SHAKING FACE;FACE WITH BAGS UNDER EYES"⟩,
     ⟨0x1FAF0, "", "HAND WITH INDEX FINGER AND THUMB CROSSED;RIGHTWARDS HAND"⟩,
     ⟨0x1FAF2, "", "LEFTWARDS HAND;PALM DOWN HAND;PALM UP HAND;INDEX POINTING AT THE VIEWER"⟩,
     ⟨0x1FAF6, "", "HEART HANDS;LEFTWARDS PUSHING HAND;RIGHTWARDS PUSHING HAND"⟩]

end NameBlock

/-- The blocks of this module. -/
def pictographBlocks : List NameBlock :=
  [.yijingHexagramSymbols, .taiXuanJingSymbols, .mahjongTiles, .dominoTiles, .playingCards,
   .miscellaneousSymbolsAndPictographs, .emoticons, .ornamentalDingbats, .transportAndMapSymbols,
   .alchemicalSymbols, .supplementalSymbolsAndPictographs, .chessSymbols,
   .symbolsAndPictographsExtendedA]

end Text
end Scripting
