import Scripting.Text.Names.Block

namespace Scripting
namespace Text

/-!
Names of signs for music, and for languages made of gestures.
-/

namespace NameBlock

/-- Names in the block Znamenny Musical Notation. -/
def znamennyMusicalNotation : NameBlock where
  first := 0x1CF00
  last := 0x1CFCF
  rows :=
    [⟨0x1CF00, "", "ZNAMENNY COMBINING MARK GORAZDO NIZKO S KRYZHEM ON LEFT"⟩,
     ⟨0x1CF01, "", "ZNAMENNY COMBINING MARK NIZKO S KRYZHEM ON LEFT"⟩,
     ⟨0x1CF02, "ZNAMENNY COMBINING MARK ", "TSATA ON LEFT;GORAZDO NIZKO ON LEFT;NIZKO ON LEFT"⟩,
     ⟨0x1CF05, "ZNAMENNY COMBINING MARK ", "SREDNE ON LEFT;MALO POVYSHE ON LEFT;POVYSHE ON LEFT"⟩,
     ⟨0x1CF08, "ZNAMENNY COMBINING MARK ", "VYSOKO ON LEFT;MALO POVYSHE S KHOKHLOM ON LEFT"⟩,
     ⟨0x1CF0A, "ZNAMENNY COMBINING MARK ", "POVYSHE S KHOKHLOM ON LEFT;VYSOKO S KHOKHLOM ON LEFT"⟩,
     ⟨0x1CF0C, "", "ZNAMENNY COMBINING MARK GORAZDO NIZKO S KRYZHEM ON RIGHT"⟩,
     ⟨0x1CF0D, "ZNAMENNY COMBINING MARK ", "NIZKO S KRYZHEM ON RIGHT;TSATA ON RIGHT"⟩,
     ⟨0x1CF0F, "ZNAMENNY COMBINING MARK ", "GORAZDO NIZKO ON RIGHT;NIZKO ON RIGHT;SREDNE ON RIGHT"⟩,
     ⟨0x1CF12, "ZNAMENNY COMBINING MARK ", "MALO POVYSHE ON RIGHT;POVYSHE ON RIGHT"⟩,
     ⟨0x1CF14, "ZNAMENNY COMBINING MARK ", "VYSOKO ON RIGHT;MALO POVYSHE S KHOKHLOM ON RIGHT"⟩,
     ⟨0x1CF16, "", "ZNAMENNY COMBINING MARK POVYSHE S KHOKHLOM ON RIGHT"⟩,
     ⟨0x1CF17, "ZNAMENNY COMBINING MARK ", "VYSOKO S KHOKHLOM ON RIGHT;TSATA S KRYZHEM"⟩,
     ⟨0x1CF19, "ZNAMENNY COMBINING MARK ", "MALO POVYSHE S KRYZHEM;STRANNO MALO POVYSHE"⟩,
     ⟨0x1CF1B, "ZNAMENNY COMBINING MARK POVYSHE ", "S KRYZHEM;STRANNO"⟩,
     ⟨0x1CF1D, "ZNAMENNY COMBINING MARK ", "VYSOKO S KRYZHEM;MALO POVYSHE STRANNO;GORAZDO VYSOKO"⟩,
     ⟨0x1CF20, "ZNAMENNY COMBINING MARK ", "ZELO;ON;RAVNO;TIKHAYA;BORZAYA;UDARKA;PODVERTKA;LOMKA"⟩,
     ⟨0x1CF28, "ZNAMENNY COMBINING MARK ", "KUPNAYA;KACHKA;ZEVOK;SKOBA;RAZSEKA;KRYZH ON LEFT"⟩,
     ⟨0x1CF30, "ZNAMENNY COMBINING TONAL RANGE MARK ", "MRACHNO;SVETLO;TRESVETLO"⟩,
     ⟨0x1CF33, "ZNAMENNY COMBINING MARK ", "ZADERZHKA;DEMESTVENNY ZADERZHKA;OTSECHKA"⟩,
     ⟨0x1CF36, "ZNAMENNY COMBINING MARK ", "PODCHASHIE;PODCHASHIE WITH VERTICAL STROKE;CHASHKA"⟩,
     ⟨0x1CF39, "ZNAMENNY COMBINING MARK ", "CHASHKA POLNAYA;OBLACHKO;SOROCHYA NOZHKA;TOCHKA"⟩,
     ⟨0x1CF3D, "ZNAMENNY COMBINING ", "MARK DVOETOCHIE;ATTACHING VERTICAL OMET"⟩,
     ⟨0x1CF3F, "ZNAMENNY COMBINING ", "MARK CURVED OMET;MARK KRYZH;LOWER TONAL RANGE INDICATOR"⟩,
     ⟨0x1CF42, "ZNAMENNY PRIZNAK MODIFIER ", "LEVEL-2;LEVEL-3;DIRECTION FLIP;KRYZH;ROG"⟩,
     ⟨0x1CF50, "ZNAMENNY NEUME ", "KRYUK;KRYUK TIKHY;PARAKLIT;DVA V CHELNU;KLYUCH;ZANOZHEK"⟩,
     ⟨0x1CF56, "ZNAMENNY NEUME ", "STOPITSA;STOPITSA S OCHKOM;PEREVODKA;PEREVODKA NEPOSTOYANNAYA"⟩,
     ⟨0x1CF5A, "ZNAMENNY NEUME ", "STOPITSA WITH SOROCHYA NOZHKA;CHELYUSTKA;PALKA;ZAPYATAYA"⟩,
     ⟨0x1CF5E, "ZNAMENNY NEUME GOLUBCHIK ", "BORZY;TIKHY;MRACHNY;SVETLY;TRESVETLY"⟩,
     ⟨0x1CF63, "ZNAMENNY NEUME VRAKHIYA ", "PROSTAYA;MRACHNAYA;SVETLAYA;TRESVETLAYA"⟩,
     ⟨0x1CF67, "ZNAMENNY NEUME VRAKHIYA KLYUCHEVAYA ", "PROSTAYA;MRACHNAYA;SVETLAYA;TRESVETLAYA"⟩,
     ⟨0x1CF6B, "", "ZNAMENNY NEUME DOUBLE ZAPYATAYA"⟩,
     ⟨0x1CF6C, "ZNAMENNY NEUME ", "REVERSED CHELYUSTKA;DERBITSA;KHAMILO;CHASHKA;PODCHASHIE"⟩,
     ⟨0x1CF71, "ZNAMENNY NEUME SKAMEYTSA ", "MRACHNAYA;SVETLAYA;TRESVETLAYA;TIKHAYA"⟩,
     ⟨0x1CF75, "ZNAMENNY NEUME ", "DEMESTVENNY KLYUCH;SKAMEYTSA KLYUCHEVAYA SVETLAYA"⟩,
     ⟨0x1CF77, "ZNAMENNY NEUME SKAMEYTSA ", "KLYUCHENEPOSTOYANNAYA;KLYUCHEVAYA TIKHAYA"⟩,
     ⟨0x1CF79, "ZNAMENNY NEUME SKAMEYTSA DVOECHELNAYA ", "PROSTAYA;SVETLAYA;NEPOSTOYANNAYA"⟩,
     ⟨0x1CF7C, "ZNAMENNY NEUME ", "SKAMEYTSA DVOECHELNAYA KLYUCHEVAYA;SLOZHITIE"⟩,
     ⟨0x1CF7E, "ZNAMENNY NEUME SLOZHITIE ", "S ZAPYATOY;ZAKRYTOE;S KRYZHEM"⟩,
     ⟨0x1CF81, "ZNAMENNY NEUME ", "KRYZH;ROG;FITA;KOBYLA;ZMEYTSA;STATYA"⟩,
     ⟨0x1CF87, "ZNAMENNY NEUME STATYA S ", "ZAPYATOY;KRYZHEM;ZAPYATOY I KRYZHEM"⟩,
     ⟨0x1CF8A, "ZNAMENNY NEUME STATYA ", "S KRYZHEM I ZAPYATOY;ZAKRYTAYA;ZAKRYTAYA S ZAPYATOY"⟩,
     ⟨0x1CF8D, "ZNAMENNY NEUME STATYA S ", "ROGOM;DVUMYA ZAPYATYMI;ZAPYATOY I PODCHASHIEM"⟩,
     ⟨0x1CF90, "ZNAMENNY NEUME ", "POLKULIZMY;STATYA NEPOSTOYANNAYA;STRELA PROSTAYA"⟩,
     ⟨0x1CF93, "ZNAMENNY NEUME STRELA ", "MRACHNOTIKHAYA;KRYZHEVAYA;POLUPOVODNAYA;POVODNAYA"⟩,
     ⟨0x1CF97, "ZNAMENNY NEUME STRELA ", "NEPOSTOYANNAYA;KLYUCHEPOVODNAYA;KLYUCHENEPOSTOYANNAYA"⟩,
     ⟨0x1CF9A, "ZNAMENNY NEUME STRELA ", "TIKHAYA PUTNAYA;DVOECHELNAYA;DVOECHELNOKRYZHEVAYA"⟩,
     ⟨0x1CF9D, "ZNAMENNY NEUME STRELA ", "DVOECHELNOPOVODNAYA;DVOECHELNAYA KLYUCHEVAYA"⟩,
     ⟨0x1CF9F, "", "ZNAMENNY NEUME STRELA DVOECHELNOPOVODNAYA KLYUCHEVAYA"⟩,
     ⟨0x1CFA0, "", "ZNAMENNY NEUME STRELA GROMNAYA WITH SINGLE ZAPYATAYA"⟩,
     ⟨0x1CFA1, "ZNAMENNY NEUME STRELA ", "GROMOPOVODNAYA WITH SINGLE ZAPYATAYA;GROMNAYA"⟩,
     ⟨0x1CFA3, "ZNAMENNY NEUME STRELA ", "GROMOPOVODNAYA;GROMOPOVODNAYA WITH DOUBLE ZAPYATAYA"⟩,
     ⟨0x1CFA5, "ZNAMENNY NEUME ", "STRELA GROMOKRYZHEVAYA;STRELA GROMOKRYZHEVAYA POVODNAYA;MECHIK"⟩,
     ⟨0x1CFA8, "ZNAMENNY NEUME MECHIK ", "POVODNY;KLYUCHEVOY;KLYUCHEPOVODNY;KLYUCHENEPOSTOYANNY"⟩,
     ⟨0x1CFAC, "ZNAMENNY NEUME STRELA ", "TRYASOGLASNAYA;TRYASOPOVODNAYA;TRYASOSTRELNAYA"⟩,
     ⟨0x1CFAF, "ZNAMENNY NEUME ", "OSOKA;OSOKA SVETLAYA"⟩,
     ⟨0x1CFB1, "ZNAMENNY NEUME OSOKA ", "TRESVETLAYA;KRYUKOVAYA SVETLAYA;KLYUCHEVAYA SVETLAYA"⟩,
     ⟨0x1CFB4, "ZNAMENNY NEUME ", "OSOKA KLYUCHEVAYA NEPOSTOYANNAYA;STRELA KRYUKOVAYA"⟩,
     ⟨0x1CFB6, "ZNAMENNY NEUME STRELA KRYUKOVAYA ", "POVODNAYA;GROMNAYA WITH SINGLE ZAPYATAYA"⟩,
     ⟨0x1CFB8, "", "ZNAMENNY NEUME STRELA KRYUKOVAYA GROMOPOVODNAYA WITH SINGLE ZAPYATAYA"⟩,
     ⟨0x1CFB9, "ZNAMENNY NEUME STRELA KRYUKOVAYA ", "GROMNAYA;GROMOPOVODNAYA"⟩,
     ⟨0x1CFBB, "", "ZNAMENNY NEUME STRELA KRYUKOVAYA GROMOPOVODNAYA WITH DOUBLE ZAPYATAYA"⟩,
     ⟨0x1CFBC, "ZNAMENNY NEUME STRELA KRYUKOVAYA ", "GROMOKRYZHEVAYA;GROMOKRYZHEVAYA POVODNAYA"⟩,
     ⟨0x1CFBE, "ZNAMENNY NEUME ", "STRELA KRYUKOVAYA TRYASKA;KUFISMA;OBLAKO;DUDA;NEMKA;PAUK"⟩]

/-- Names in the block Byzantine Musical Symbols. -/
def byzantineMusicalSymbols : NameBlock where
  first := 0x1D000
  last := 0x1D0FF
  rows :=
    [⟨0x1D000, "BYZANTINE MUSICAL SYMBOL ", "PSILI;DASEIA;PERISPOMENI"⟩,
     ⟨0x1D003, "BYZANTINE MUSICAL SYMBOL ", "OXEIA EKFONITIKON;OXEIA DIPLI;VAREIA EKFONITIKON"⟩,
     ⟨0x1D006, "BYZANTINE MUSICAL SYMBOL ", "VAREIA DIPLI;KATHISTI;SYRMATIKI;PARAKLITIKI"⟩,
     ⟨0x1D00A, "BYZANTINE MUSICAL SYMBOL ", "YPOKRISIS;YPOKRISIS DIPLI;KREMASTI;APESO EKFONITIKON"⟩,
     ⟨0x1D00E, "BYZANTINE MUSICAL SYMBOL ", "EXO EKFONITIKON;TELEIA;KENTIMATA;APOSTROFOS"⟩,
     ⟨0x1D012, "BYZANTINE MUSICAL SYMBOL ", "APOSTROFOS DIPLI;SYNEVMA;THITA;OLIGON ARCHAION"⟩,
     ⟨0x1D016, "BYZANTINE MUSICAL SYMBOL ", "GORGON ARCHAION;PSILON;CHAMILON;VATHY"⟩,
     ⟨0x1D01A, "BYZANTINE MUSICAL SYMBOL ", "ISON ARCHAION;KENTIMA ARCHAION;KENTIMATA ARCHAION"⟩,
     ⟨0x1D01D, "BYZANTINE MUSICAL SYMBOL ", "SAXIMATA;PARICHON;STAVROS APODEXIA;OXEIAI ARCHAION"⟩,
     ⟨0x1D021, "BYZANTINE MUSICAL SYMBOL ", "VAREIAI ARCHAION;APODERMA ARCHAION;APOTHEMA;KLASMA"⟩,
     ⟨0x1D025, "BYZANTINE MUSICAL SYMBOL ", "REVMA;PIASMA ARCHAION;TINAGMA;ANATRICHISMA;SEISMA"⟩,
     ⟨0x1D02A, "BYZANTINE MUSICAL SYMBOL SYNAGMA ", "ARCHAION;META STAVROU"⟩,
     ⟨0x1D02C, "BYZANTINE MUSICAL SYMBOL ", "OYRANISMA ARCHAION;THEMA;LEMOI;DYO"⟩,
     ⟨0x1D030, "BYZANTINE MUSICAL SYMBOL ", "TRIA;TESSERA;KRATIMATA;APESO EXO NEO;FTHORA ARCHAION"⟩,
     ⟨0x1D035, "BYZANTINE MUSICAL SYMBOL ", "IMIFTHORA;TROMIKON ARCHAION;KATAVA TROMIKON"⟩,
     ⟨0x1D038, "BYZANTINE MUSICAL SYMBOL ", "PELASTON;PSIFISTON;KONTEVMA;CHOREVMA ARCHAION"⟩,
     ⟨0x1D03C, "BYZANTINE MUSICAL SYMBOL ", "RAPISMA;PARAKALESMA ARCHAION;PARAKLITIKI ARCHAION"⟩,
     ⟨0x1D03F, "BYZANTINE MUSICAL SYMBOL ", "ICHADIN;NANA;PETASMA;KONTEVMA ALLO;TROMIKON ALLO"⟩,
     ⟨0x1D044, "BYZANTINE MUSICAL SYMBOL ", "STRAGGISMATA;GRONTHISMATA;ISON NEO;OLIGON NEO"⟩,
     ⟨0x1D048, "BYZANTINE MUSICAL SYMBOL ", "OXEIA NEO;PETASTI;KOUFISMA;PETASTOKOUFISMA"⟩,
     ⟨0x1D04C, "BYZANTINE MUSICAL SYMBOL ", "KRATIMOKOUFISMA;PELASTON NEO;KENTIMATA NEO ANO"⟩,
     ⟨0x1D04F, "BYZANTINE MUSICAL SYMBOL ", "KENTIMA NEO ANO;YPSILI;APOSTROFOS NEO"⟩,
     ⟨0x1D052, "BYZANTINE MUSICAL SYMBOL ", "APOSTROFOI SYNDESMOS NEO;YPORROI;KRATIMOYPORROON"⟩,
     ⟨0x1D055, "BYZANTINE MUSICAL SYMBOL ", "ELAFRON;CHAMILI;MIKRON ISON;VAREIA NEO"⟩,
     ⟨0x1D059, "BYZANTINE MUSICAL SYMBOL ", "PIASMA NEO;PSIFISTON NEO;OMALON;ANTIKENOMA;LYGISMA"⟩,
     ⟨0x1D05E, "BYZANTINE MUSICAL SYMBOL ", "PARAKLITIKI NEO;PARAKALESMA NEO;ETERON PARAKALESMA"⟩,
     ⟨0x1D061, "BYZANTINE MUSICAL SYMBOL ", "KYLISMA;ANTIKENOKYLISMA;TROMIKON NEO"⟩,
     ⟨0x1D064, "BYZANTINE MUSICAL SYMBOL ", "EKSTREPTON;SYNAGMA NEO;SYRMA;CHOREVMA NEO"⟩,
     ⟨0x1D068, "BYZANTINE MUSICAL SYMBOL ", "EPEGERMA;SEISMA NEO;XIRON KLASMA;TROMIKOPSIFISTON"⟩,
     ⟨0x1D06C, "BYZANTINE MUSICAL SYMBOL ", "PSIFISTOLYGISMA;TROMIKOLYGISMA;TROMIKOPARAKALESMA"⟩,
     ⟨0x1D06F, "BYZANTINE MUSICAL SYMBOL ", "PSIFISTOPARAKALESMA;TROMIKOSYNAGMA;PSIFISTOSYNAGMA"⟩,
     ⟨0x1D072, "BYZANTINE MUSICAL SYMBOL ", "GORGOSYNTHETON;ARGOSYNTHETON;ETERON ARGOSYNTHETON"⟩,
     ⟨0x1D075, "BYZANTINE MUSICAL SYMBOL ", "OYRANISMA NEO;THEMATISMOS ESO;THEMATISMOS EXO"⟩,
     ⟨0x1D078, "BYZANTINE MUSICAL SYMBOL ", "THEMA APLOUN;THES KAI APOTHES;KATAVASMA;ENDOFONON"⟩,
     ⟨0x1D07C, "BYZANTINE MUSICAL SYMBOL ", "YFEN KATO;YFEN ANO;STAVROS;KLASMA ANO;DIPLI ARCHAION"⟩,
     ⟨0x1D081, "BYZANTINE MUSICAL SYMBOL KRATIMA ", "ARCHAION;ALLO;NEO"⟩,
     ⟨0x1D084, "BYZANTINE MUSICAL SYMBOL ", "APODERMA NEO;APLI;DIPLI;TRIPLI;TETRAPLI;KORONIS"⟩,
     ⟨0x1D08A, "BYZANTINE MUSICAL SYMBOL LEIMMA ", "ENOS CHRONOU;DYO CHRONON;TRION CHRONON"⟩,
     ⟨0x1D08D, "BYZANTINE MUSICAL SYMBOL LEIMMA ", "TESSARON CHRONON;IMISEOS CHRONOU"⟩,
     ⟨0x1D08F, "", "BYZANTINE MUSICAL SYMBOL GORGON NEO ANO"⟩,
     ⟨0x1D090, "BYZANTINE MUSICAL SYMBOL GORGON PARESTIGMENON ", "ARISTERA;DEXIA"⟩,
     ⟨0x1D092, "BYZANTINE MUSICAL SYMBOL ", "DIGORGON;DIGORGON PARESTIGMENON ARISTERA KATO"⟩,
     ⟨0x1D094, "BYZANTINE MUSICAL SYMBOL DIGORGON PARESTIGMENON ", "ARISTERA ANO;DEXIA"⟩,
     ⟨0x1D096, "BYZANTINE MUSICAL SYMBOL ", "TRIGORGON;ARGON;IMIDIARGON;DIARGON;AGOGI POLI ARGI"⟩,
     ⟨0x1D09B, "BYZANTINE MUSICAL SYMBOL AGOGI ", "ARGOTERI;ARGI;METRIA;MESI;GORGI;GORGOTERI"⟩,
     ⟨0x1D0A1, "BYZANTINE MUSICAL SYMBOL ", "AGOGI POLI GORGI;MARTYRIA PROTOS ICHOS"⟩,
     ⟨0x1D0A3, "BYZANTINE MUSICAL SYMBOL MARTYRIA ", "ALLI PROTOS ICHOS;DEYTEROS ICHOS"⟩,
     ⟨0x1D0A5, "BYZANTINE MUSICAL SYMBOL MARTYRIA ", "ALLI DEYTEROS ICHOS;TRITOS ICHOS;TRIFONIAS"⟩,
     ⟨0x1D0A8, "BYZANTINE MUSICAL SYMBOL MARTYRIA TETARTOS ", "ICHOS;LEGETOS ICHOS"⟩,
     ⟨0x1D0AA, "BYZANTINE MUSICAL SYMBOL MARTYRIA ", "LEGETOS ICHOS;PLAGIOS ICHOS"⟩,
     ⟨0x1D0AC, "BYZANTINE MUSICAL SYMBOL ", "ISAKIA TELOUS ICHIMATOS;APOSTROFOI TELOUS ICHIMATOS"⟩,
     ⟨0x1D0AE, "BYZANTINE MUSICAL SYMBOL FANEROSIS ", "TETRAFONIAS;MONOFONIAS;DIFONIAS"⟩,
     ⟨0x1D0B1, "BYZANTINE MUSICAL SYMBOL MARTYRIA ", "VARYS ICHOS;PROTOVARYS ICHOS"⟩,
     ⟨0x1D0B3, "BYZANTINE MUSICAL SYMBOL ", "MARTYRIA PLAGIOS TETARTOS ICHOS;GORTHMIKON N APLOUN"⟩,
     ⟨0x1D0B5, "BYZANTINE MUSICAL SYMBOL ", "GORTHMIKON N DIPLOUN;ENARXIS KAI FTHORA VOU"⟩,
     ⟨0x1D0B7, "BYZANTINE MUSICAL SYMBOL ", "IMIFONON;IMIFTHORON;FTHORA ARCHAION DEYTEROU ICHOU"⟩,
     ⟨0x1D0BA, "BYZANTINE MUSICAL SYMBOL FTHORA DIATONIKI ", "PA;NANA"⟩,
     ⟨0x1D0BC, "BYZANTINE MUSICAL SYMBOL FTHORA ", "NAOS ICHOS;DIATONIKI DI;SKLIRON DIATONON DI"⟩,
     ⟨0x1D0BF, "BYZANTINE MUSICAL SYMBOL FTHORA DIATONIKI ", "KE;ZO;NI KATO;NI ANO"⟩,
     ⟨0x1D0C3, "BYZANTINE MUSICAL SYMBOL FTHORA MALAKON CHROMA ", "DIFONIAS;MONOFONIAS"⟩,
     ⟨0x1D0C5, "", "BYZANTINE MUSICAL SYMBOL FHTORA SKLIRON CHROMA VASIS"⟩,
     ⟨0x1D0C6, "BYZANTINE MUSICAL SYMBOL FTHORA ", "SKLIRON CHROMA SYNAFI;NENANO"⟩,
     ⟨0x1D0C8, "BYZANTINE MUSICAL SYMBOL CHROA ", "ZYGOS;KLITON;SPATHI"⟩,
     ⟨0x1D0CB, "BYZANTINE MUSICAL SYMBOL FTHORA ", "I YFESIS TETARTIMORION;ENARMONIOS ANTIFONIA"⟩,
     ⟨0x1D0CD, "", "BYZANTINE MUSICAL SYMBOL YFESIS TRITIMORION"⟩,
     ⟨0x1D0CE, "BYZANTINE MUSICAL SYMBOL DIESIS ", "TRITIMORION;TETARTIMORION;APLI DYO DODEKATA"⟩,
     ⟨0x1D0D1, "", "BYZANTINE MUSICAL SYMBOL DIESIS MONOGRAMMOS TESSERA DODEKATA"⟩,
     ⟨0x1D0D2, "", "BYZANTINE MUSICAL SYMBOL DIESIS DIGRAMMOS EX DODEKATA"⟩,
     ⟨0x1D0D3, "", "BYZANTINE MUSICAL SYMBOL DIESIS TRIGRAMMOS OKTO DODEKATA"⟩,
     ⟨0x1D0D4, "", "BYZANTINE MUSICAL SYMBOL YFESIS APLI DYO DODEKATA"⟩,
     ⟨0x1D0D5, "", "BYZANTINE MUSICAL SYMBOL YFESIS MONOGRAMMOS TESSERA DODEKATA"⟩,
     ⟨0x1D0D6, "", "BYZANTINE MUSICAL SYMBOL YFESIS DIGRAMMOS EX DODEKATA"⟩,
     ⟨0x1D0D7, "", "BYZANTINE MUSICAL SYMBOL YFESIS TRIGRAMMOS OKTO DODEKATA"⟩,
     ⟨0x1D0D8, "BYZANTINE MUSICAL SYMBOL GENIKI ", "DIESIS;YFESIS"⟩,
     ⟨0x1D0DA, "BYZANTINE MUSICAL SYMBOL DIASTOLI ", "APLI MIKRI;APLI MEGALI;DIPLI;THESEOS"⟩,
     ⟨0x1D0DE, "BYZANTINE MUSICAL SYMBOL SIMANSIS ", "THESEOS;THESEOS DISIMOU"⟩,
     ⟨0x1D0E0, "BYZANTINE MUSICAL SYMBOL SIMANSIS ", "THESEOS TRISIMOU;THESEOS TETRASIMOU;ARSEOS"⟩,
     ⟨0x1D0E3, "BYZANTINE MUSICAL SYMBOL SIMANSIS ARSEOS ", "DISIMOU;TRISIMOU;TETRASIMOU"⟩,
     ⟨0x1D0E6, "BYZANTINE MUSICAL SYMBOL ", "DIGRAMMA GG;DIFTOGGOS OU;STIGMA"⟩,
     ⟨0x1D0E9, "BYZANTINE MUSICAL SYMBOL ARKTIKO ", "PA;VOU;GA;DI;KE;ZO;NI"⟩,
     ⟨0x1D0F0, "", "BYZANTINE MUSICAL SYMBOL KENTIMATA NEO MESO"⟩,
     ⟨0x1D0F1, "BYZANTINE MUSICAL SYMBOL ", "KENTIMA NEO MESO;KENTIMATA NEO KATO"⟩,
     ⟨0x1D0F3, "BYZANTINE MUSICAL SYMBOL ", "KENTIMA NEO KATO;KLASMA KATO;GORGON NEO KATO"⟩]

/-- Names in the block Musical Symbols. -/
def musicalSymbols : NameBlock where
  first := 0x1D100
  last := 0x1D1FF
  rows :=
    [⟨0x1D100, "MUSICAL SYMBOL ", "SINGLE BARLINE;DOUBLE BARLINE;FINAL BARLINE"⟩,
     ⟨0x1D103, "MUSICAL SYMBOL ", "REVERSE FINAL BARLINE;DASHED BARLINE;SHORT BARLINE"⟩,
     ⟨0x1D106, "MUSICAL SYMBOL ", "LEFT REPEAT SIGN;RIGHT REPEAT SIGN;REPEAT DOTS;DAL SEGNO"⟩,
     ⟨0x1D10A, "MUSICAL SYMBOL ", "DA CAPO;SEGNO;CODA;REPEATED FIGURE-1;REPEATED FIGURE-2"⟩,
     ⟨0x1D10F, "MUSICAL SYMBOL ", "REPEATED FIGURE-3;FERMATA;FERMATA BELOW;BREATH MARK"⟩,
     ⟨0x1D113, "MUSICAL SYMBOL ", "CAESURA;BRACE;BRACKET;ONE-LINE STAFF;TWO-LINE STAFF"⟩,
     ⟨0x1D118, "MUSICAL SYMBOL ", "THREE-LINE STAFF;FOUR-LINE STAFF;FIVE-LINE STAFF"⟩,
     ⟨0x1D11B, "MUSICAL SYMBOL ", "SIX-LINE STAFF;SIX-STRING FRETBOARD;FOUR-STRING FRETBOARD"⟩,
     ⟨0x1D11E, "MUSICAL SYMBOL ", "G CLEF;G CLEF OTTAVA ALTA;G CLEF OTTAVA BASSA;C CLEF;F CLEF"⟩,
     ⟨0x1D123, "MUSICAL SYMBOL ", "F CLEF OTTAVA ALTA;F CLEF OTTAVA BASSA;DRUM CLEF-1;DRUM CLEF-2"⟩,
     ⟨0x1D129, "MUSICAL SYMBOL ", "MULTIPLE MEASURE REST;DOUBLE SHARP;DOUBLE FLAT"⟩,
     ⟨0x1D12C, "MUSICAL SYMBOL ", "FLAT UP;FLAT DOWN;NATURAL UP;NATURAL DOWN;SHARP UP;SHARP DOWN"⟩,
     ⟨0x1D132, "MUSICAL SYMBOL ", "QUARTER TONE SHARP;QUARTER TONE FLAT;COMMON TIME;CUT TIME"⟩,
     ⟨0x1D136, "MUSICAL SYMBOL ", "OTTAVA ALTA;OTTAVA BASSA;QUINDICESIMA ALTA;QUINDICESIMA BASSA"⟩,
     ⟨0x1D13A, "MUSICAL SYMBOL ", "MULTI REST;WHOLE REST;HALF REST;QUARTER REST;EIGHTH REST"⟩,
     ⟨0x1D13F, "MUSICAL SYMBOL ", "SIXTEENTH REST;THIRTY-SECOND REST;SIXTY-FOURTH REST"⟩,
     ⟨0x1D142, "MUSICAL SYMBOL ", "ONE HUNDRED TWENTY-EIGHTH REST;X NOTEHEAD;PLUS NOTEHEAD"⟩,
     ⟨0x1D145, "MUSICAL SYMBOL ", "CIRCLE X NOTEHEAD;SQUARE NOTEHEAD WHITE;SQUARE NOTEHEAD BLACK"⟩,
     ⟨0x1D148, "MUSICAL SYMBOL TRIANGLE NOTEHEAD ", "UP WHITE;UP BLACK;LEFT WHITE;LEFT BLACK"⟩,
     ⟨0x1D14C, "MUSICAL SYMBOL TRIANGLE NOTEHEAD ", "RIGHT WHITE;RIGHT BLACK;DOWN WHITE"⟩,
     ⟨0x1D14F, "MUSICAL SYMBOL TRIANGLE NOTEHEAD ", "DOWN BLACK;UP RIGHT WHITE;UP RIGHT BLACK"⟩,
     ⟨0x1D152, "MUSICAL SYMBOL MOON NOTEHEAD ", "WHITE;BLACK"⟩,
     ⟨0x1D154, "MUSICAL SYMBOL TRIANGLE-ROUND NOTEHEAD DOWN ", "WHITE;BLACK"⟩,
     ⟨0x1D156, "MUSICAL SYMBOL ", "PARENTHESIS NOTEHEAD;VOID NOTEHEAD"⟩,
     ⟨0x1D158, "MUSICAL SYMBOL ", "NOTEHEAD BLACK;NULL NOTEHEAD;CLUSTER NOTEHEAD WHITE"⟩,
     ⟨0x1D15B, "MUSICAL SYMBOL ", "CLUSTER NOTEHEAD BLACK;BREVE;WHOLE NOTE;HALF NOTE"⟩,
     ⟨0x1D15F, "MUSICAL SYMBOL ", "QUARTER NOTE;EIGHTH NOTE;SIXTEENTH NOTE;THIRTY-SECOND NOTE"⟩,
     ⟨0x1D163, "MUSICAL SYMBOL ", "SIXTY-FOURTH NOTE;ONE HUNDRED TWENTY-EIGHTH NOTE"⟩,
     ⟨0x1D165, "MUSICAL SYMBOL COMBINING ", "STEM;SPRECHGESANG STEM;TREMOLO-1;TREMOLO-2;TREMOLO-3"⟩,
     ⟨0x1D16A, "MUSICAL SYMBOL FINGERED TREMOLO-", "1;2;3"⟩,
     ⟨0x1D16D, "MUSICAL SYMBOL COMBINING ", "AUGMENTATION DOT;FLAG-1;FLAG-2;FLAG-3;FLAG-4;FLAG-5"⟩,
     ⟨0x1D173, "MUSICAL SYMBOL ", "BEGIN BEAM;END BEAM"⟩,
     ⟨0x1D175, "MUSICAL SYMBOL ", "BEGIN TIE;END TIE;BEGIN SLUR;END SLUR;BEGIN PHRASE;END PHRASE"⟩,
     ⟨0x1D17B, "MUSICAL SYMBOL COMBINING ", "ACCENT;STACCATO;TENUTO;STACCATISSIMO"⟩,
     ⟨0x1D17F, "MUSICAL SYMBOL COMBINING ", "MARCATO;MARCATO-STACCATO;ACCENT-STACCATO;LOURE"⟩,
     ⟨0x1D183, "MUSICAL SYMBOL ARPEGGIATO ", "UP;DOWN"⟩,
     ⟨0x1D185, "MUSICAL SYMBOL COMBINING ", "DOIT;RIP;FLIP;SMEAR;BEND;DOUBLE TONGUE;TRIPLE TONGUE"⟩,
     ⟨0x1D18C, "MUSICAL SYMBOL ", "RINFORZANDO;SUBITO;Z;PIANO;MEZZO;FORTE;CRESCENDO;DECRESCENDO"⟩,
     ⟨0x1D194, "MUSICAL SYMBOL GRACE NOTE ", "SLASH;NO SLASH"⟩,
     ⟨0x1D196, "MUSICAL SYMBOL ", "TR;TURN;INVERTED TURN;TURN SLASH;TURN UP"⟩,
     ⟨0x1D19B, "MUSICAL SYMBOL ORNAMENT STROKE-", "1;2;3;4;5;6;7;8;9;10;11"⟩,
     ⟨0x1D1A6, "MUSICAL SYMBOL ", "HAUPTSTIMME;NEBENSTIMME;END OF STIMME;DEGREE SLASH"⟩,
     ⟨0x1D1AA, "MUSICAL SYMBOL COMBINING ", "DOWN BOW;UP BOW;HARMONIC;SNAP PIZZICATO"⟩,
     ⟨0x1D1AE, "MUSICAL SYMBOL ", "PEDAL MARK;PEDAL UP MARK;HALF PEDAL MARK;GLISSANDO UP"⟩,
     ⟨0x1D1B2, "MUSICAL SYMBOL ", "GLISSANDO DOWN;WITH FINGERNAILS;DAMP;DAMP ALL;MAXIMA;LONGA"⟩,
     ⟨0x1D1B8, "MUSICAL SYMBOL ", "BREVIS;SEMIBREVIS WHITE;SEMIBREVIS BLACK;MINIMA;MINIMA BLACK"⟩,
     ⟨0x1D1BD, "MUSICAL SYMBOL ", "SEMIMINIMA WHITE;SEMIMINIMA BLACK;FUSA WHITE;FUSA BLACK"⟩,
     ⟨0x1D1C1, "MUSICAL SYMBOL LONGA ", "PERFECTA REST;IMPERFECTA REST"⟩,
     ⟨0x1D1C3, "MUSICAL SYMBOL ", "BREVIS REST;SEMIBREVIS REST;MINIMA REST;SEMIMINIMA REST"⟩,
     ⟨0x1D1C7, "MUSICAL SYMBOL TEMPUS PERFECTUM CUM PROLATIONE ", "PERFECTA;IMPERFECTA"⟩,
     ⟨0x1D1C9, "", "MUSICAL SYMBOL TEMPUS PERFECTUM CUM PROLATIONE PERFECTA DIMINUTION-1"⟩,
     ⟨0x1D1CA, "MUSICAL SYMBOL TEMPUS IMPERFECTUM CUM PROLATIONE ", "PERFECTA;IMPERFECTA"⟩,
     ⟨0x1D1CC, "MUSICAL SYMBOL TEMPUS IMPERFECTUM CUM PROLATIONE IMPERFECTA DIMINUTION-", "1;2;3"⟩,
     ⟨0x1D1CF, "MUSICAL SYMBOL ", "CROIX;GREGORIAN C CLEF;GREGORIAN F CLEF;SQUARE B;VIRGA;PODATUS"⟩,
     ⟨0x1D1D5, "MUSICAL SYMBOL ", "CLIVIS;SCANDICUS;CLIMACUS;TORCULUS;PORRECTUS;PORRECTUS FLEXUS"⟩,
     ⟨0x1D1DB, "MUSICAL SYMBOL ", "SCANDICUS FLEXUS;TORCULUS RESUPINUS;PES SUBPUNCTIS"⟩,
     ⟨0x1D1DE, "MUSICAL SYMBOL KIEVAN ", "C CLEF;END OF PIECE;FINAL NOTE;RECITATIVE MARK"⟩,
     ⟨0x1D1E2, "MUSICAL SYMBOL KIEVAN ", "WHOLE NOTE;HALF NOTE;QUARTER NOTE STEM DOWN"⟩,
     ⟨0x1D1E5, "MUSICAL SYMBOL KIEVAN ", "QUARTER NOTE STEM UP;EIGHTH NOTE STEM DOWN"⟩,
     ⟨0x1D1E7, "MUSICAL SYMBOL ", "KIEVAN EIGHTH NOTE STEM UP;KIEVAN FLAT SIGN;SORI;KORON"⟩]

/-- Names in the block Ancient Greek Musical Notation. -/
def ancientGreekMusicalNotation : NameBlock where
  first := 0x1D200
  last := 0x1D24F
  rows :=
    [⟨0x1D200, "GREEK VOCAL NOTATION SYMBOL-", "1;2;3;4;5;6;7;8;9;10;11;12;13"⟩,
     ⟨0x1D20D, "GREEK VOCAL NOTATION SYMBOL-", "14;15;16;17;18;19;20;21;22;23;24;50;51;52;53;54"⟩,
     ⟨0x1D21D, "GREEK INSTRUMENTAL NOTATION SYMBOL-", "1;2;4;5;7;8;11;12;13"⟩,
     ⟨0x1D226, "GREEK INSTRUMENTAL NOTATION SYMBOL-", "14;17;18;19;23;24;25;26;27;29;30;32;36;37"⟩,
     ⟨0x1D234, "GREEK INSTRUMENTAL NOTATION SYMBOL-", "38;39;40;42;43;45;47;48;49;50;51;52;53;54"⟩,
     ⟨0x1D242, "COMBINING GREEK MUSICAL ", "TRISEME;TETRASEME;PENTASEME"⟩,
     ⟨0x1D245, "", "GREEK MUSICAL LEIMMA"⟩]

/-- Names in the block Sutton SignWriting. -/
def suttonSignWriting : NameBlock where
  first := 0x1D800
  last := 0x1DAAF
  rows :=
    [⟨0x1D800, "SIGNWRITING HAND-", "FIST INDEX;CIRCLE INDEX"⟩,
     ⟨0x1D802, "SIGNWRITING HAND-", "CUP INDEX;OVAL INDEX;HINGE INDEX;ANGLE INDEX;FIST INDEX BENT"⟩,
     ⟨0x1D807, "SIGNWRITING HAND-", "CIRCLE INDEX BENT;FIST THUMB UNDER INDEX BENT"⟩,
     ⟨0x1D809, "SIGNWRITING HAND-FIST INDEX ", "RAISED KNUCKLE;CUPPED;HINGED;HINGED LOW"⟩,
     ⟨0x1D80D, "SIGNWRITING HAND-", "CIRCLE INDEX HINGE;FIST INDEX MIDDLE;CIRCLE INDEX MIDDLE"⟩,
     ⟨0x1D810, "SIGNWRITING HAND-FIST INDEX MIDDLE ", "BENT;RAISED KNUCKLES;HINGED"⟩,
     ⟨0x1D813, "SIGNWRITING HAND-FIST INDEX ", "UP MIDDLE HINGED;HINGED MIDDLE UP"⟩,
     ⟨0x1D815, "SIGNWRITING HAND-FIST INDEX MIDDLE ", "CONJOINED;CONJOINED INDEX BENT"⟩,
     ⟨0x1D817, "SIGNWRITING HAND-FIST INDEX MIDDLE CONJOINED ", "MIDDLE BENT;CUPPED;HINGED"⟩,
     ⟨0x1D81A, "SIGNWRITING HAND-", "FIST INDEX MIDDLE CROSSED;CIRCLE INDEX MIDDLE CROSSED"⟩,
     ⟨0x1D81C, "SIGNWRITING HAND-FIST ", "MIDDLE BENT OVER INDEX;INDEX BENT OVER MIDDLE"⟩,
     ⟨0x1D81E, "SIGNWRITING HAND-", "FIST INDEX MIDDLE THUMB;CIRCLE INDEX MIDDLE THUMB"⟩,
     ⟨0x1D820, "SIGNWRITING HAND-FIST INDEX MIDDLE ", "STRAIGHT THUMB BENT;BENT THUMB STRAIGHT"⟩,
     ⟨0x1D822, "SIGNWRITING HAND-FIST INDEX MIDDLE ", "THUMB BENT;HINGED SPREAD THUMB SIDE"⟩,
     ⟨0x1D824, "SIGNWRITING HAND-FIST INDEX UP MIDDLE HINGED THUMB ", "SIDE;CONJOINED"⟩,
     ⟨0x1D826, "", "SIGNWRITING HAND-FIST INDEX HINGED MIDDLE UP THUMB SIDE"⟩,
     ⟨0x1D827, "", "SIGNWRITING HAND-FIST INDEX MIDDLE UP SPREAD THUMB FORWARD"⟩,
     ⟨0x1D828, "SIGNWRITING HAND-FIST INDEX MIDDLE THUMB ", "CUPPED;CIRCLED;HOOKED;HINGED"⟩,
     ⟨0x1D82C, "", "SIGNWRITING HAND-FIST THUMB BETWEEN INDEX MIDDLE STRAIGHT"⟩,
     ⟨0x1D82D, "", "SIGNWRITING HAND-FIST INDEX MIDDLE CONJOINED THUMB SIDE"⟩,
     ⟨0x1D82E, "SIGNWRITING HAND-FIST INDEX MIDDLE CONJOINED THUMB SIDE ", "CONJOINED;BENT"⟩,
     ⟨0x1D830, "", "SIGNWRITING HAND-FIST MIDDLE THUMB HOOKED INDEX UP"⟩,
     ⟨0x1D831, "", "SIGNWRITING HAND-FIST INDEX THUMB HOOKED MIDDLE UP"⟩,
     ⟨0x1D832, "", "SIGNWRITING HAND-FIST INDEX MIDDLE CONJOINED HINGED THUMB SIDE"⟩,
     ⟨0x1D833, "SIGNWRITING HAND-FIST INDEX MIDDLE ", "CROSSED THUMB SIDE;CONJOINED THUMB FORWARD"⟩,
     ⟨0x1D835, "", "SIGNWRITING HAND-FIST INDEX MIDDLE CONJOINED CUPPED THUMB FORWARD"⟩,
     ⟨0x1D836, "", "SIGNWRITING HAND-FIST MIDDLE THUMB CUPPED INDEX UP"⟩,
     ⟨0x1D837, "", "SIGNWRITING HAND-FIST INDEX THUMB CUPPED MIDDLE UP"⟩,
     ⟨0x1D838, "SIGNWRITING HAND-FIST MIDDLE THUMB CIRCLED INDEX ", "UP;HINGED"⟩,
     ⟨0x1D83A, "SIGNWRITING HAND-FIST INDEX THUMB ANGLED ", "OUT MIDDLE UP;IN MIDDLE UP"⟩,
     ⟨0x1D83C, "", "SIGNWRITING HAND-FIST INDEX THUMB CIRCLED MIDDLE UP"⟩,
     ⟨0x1D83D, "SIGNWRITING HAND-FIST INDEX MIDDLE THUMB ", "CONJOINED HINGED;ANGLED OUT;ANGLED"⟩,
     ⟨0x1D840, "SIGNWRITING HAND-FIST MIDDLE THUMB ANGLED OUT INDEX ", "UP;CROSSED"⟩,
     ⟨0x1D842, "", "SIGNWRITING HAND-FIST MIDDLE THUMB ANGLED INDEX UP"⟩,
     ⟨0x1D843, "SIGNWRITING HAND-", "FIST INDEX THUMB HOOKED MIDDLE HINGED;FLAT FOUR FINGERS"⟩,
     ⟨0x1D845, "SIGNWRITING HAND-FLAT FOUR FINGERS ", "BENT;HINGED;CONJOINED;CONJOINED SPLIT"⟩,
     ⟨0x1D849, "SIGNWRITING HAND-", "CLAW FOUR FINGERS CONJOINED;FIST FOUR FINGERS CONJOINED BENT"⟩,
     ⟨0x1D84B, "SIGNWRITING HAND-", "HINGE FOUR FINGERS CONJOINED;FLAT FIVE FINGERS SPREAD"⟩,
     ⟨0x1D84D, "SIGNWRITING HAND-FLAT ", "HEEL FIVE FINGERS SPREAD;FIVE FINGERS SPREAD FOUR BENT"⟩,
     ⟨0x1D84F, "", "SIGNWRITING HAND-FLAT HEEL FIVE FINGERS SPREAD FOUR BENT"⟩,
     ⟨0x1D850, "SIGNWRITING HAND-FLAT ", "FIVE FINGERS SPREAD BENT;HEEL FIVE FINGERS SPREAD BENT"⟩,
     ⟨0x1D852, "", "SIGNWRITING HAND-FLAT FIVE FINGERS SPREAD THUMB FORWARD"⟩,
     ⟨0x1D853, "SIGNWRITING HAND-CUP FIVE FINGERS ", "SPREAD;SPREAD OPEN"⟩,
     ⟨0x1D855, "SIGNWRITING HAND-", "HINGE FIVE FINGERS SPREAD OPEN;OVAL FIVE FINGERS SPREAD"⟩,
     ⟨0x1D857, "SIGNWRITING HAND-FLAT FIVE FINGERS SPREAD ", "HINGED;HINGED THUMB SIDE"⟩,
     ⟨0x1D859, "SIGNWRITING HAND-", "FLAT FIVE FINGERS SPREAD HINGED NO THUMB;FLAT"⟩,
     ⟨0x1D85B, "SIGNWRITING HAND-FLAT ", "BETWEEN PALM FACINGS;HEEL;THUMB SIDE;HEEL THUMB SIDE"⟩,
     ⟨0x1D85F, "SIGNWRITING HAND-FLAT THUMB ", "BENT;FORWARD"⟩,
     ⟨0x1D861, "SIGNWRITING HAND-FLAT SPLIT ", "INDEX THUMB SIDE;CENTRE"⟩,
     ⟨0x1D863, "SIGNWRITING HAND-FLAT SPLIT ", "CENTRE THUMB SIDE;CENTRE THUMB SIDE BENT;LITTLE"⟩,
     ⟨0x1D866, "SIGNWRITING HAND-", "CLAW;CLAW THUMB SIDE;CLAW NO THUMB;CLAW THUMB FORWARD"⟩,
     ⟨0x1D86A, "SIGNWRITING HAND-", "HOOK CURLICUE;HOOK;CUP OPEN;CUP;CUP OPEN THUMB SIDE"⟩,
     ⟨0x1D86F, "SIGNWRITING HAND-CUP ", "THUMB SIDE;OPEN NO THUMB;NO THUMB;OPEN THUMB FORWARD"⟩,
     ⟨0x1D873, "SIGNWRITING HAND-", "CUP THUMB FORWARD;CURLICUE OPEN;CURLICUE;CIRCLE;OVAL"⟩,
     ⟨0x1D878, "SIGNWRITING HAND-OVAL ", "THUMB SIDE;NO THUMB;THUMB FORWARD"⟩,
     ⟨0x1D87B, "SIGNWRITING HAND-", "HINGE OPEN;HINGE OPEN THUMB FORWARD;HINGE;HINGE SMALL"⟩,
     ⟨0x1D87F, "SIGNWRITING HAND-HINGE ", "OPEN THUMB SIDE;THUMB SIDE;OPEN NO THUMB;NO THUMB"⟩,
     ⟨0x1D883, "SIGNWRITING HAND-HINGE THUMB ", "SIDE TOUCHING INDEX;BETWEEN MIDDLE RING"⟩,
     ⟨0x1D885, "SIGNWRITING HAND-", "ANGLE;FIST INDEX MIDDLE RING;CIRCLE INDEX MIDDLE RING"⟩,
     ⟨0x1D888, "SIGNWRITING HAND-", "HINGE INDEX MIDDLE RING;ANGLE INDEX MIDDLE RING;HINGE LITTLE"⟩,
     ⟨0x1D88B, "SIGNWRITING HAND-FIST INDEX MIDDLE RING ", "BENT;CONJOINED"⟩,
     ⟨0x1D88D, "", "SIGNWRITING HAND-HINGE INDEX MIDDLE RING CONJOINED"⟩,
     ⟨0x1D88E, "SIGNWRITING HAND-FIST LITTLE ", "DOWN;DOWN RIPPLE STRAIGHT"⟩,
     ⟨0x1D890, "SIGNWRITING HAND-FIST LITTLE ", "DOWN RIPPLE CURVED;DOWN OTHERS CIRCLED;UP"⟩,
     ⟨0x1D893, "", "SIGNWRITING HAND-FIST THUMB UNDER LITTLE UP"⟩,
     ⟨0x1D894, "SIGNWRITING HAND-", "CIRCLE LITTLE UP;OVAL LITTLE UP;ANGLE LITTLE UP"⟩,
     ⟨0x1D897, "SIGNWRITING HAND-FIST LITTLE ", "RAISED KNUCKLE;BENT;TOUCHES THUMB;THUMB"⟩,
     ⟨0x1D89B, "", "SIGNWRITING HAND-HINGE LITTLE THUMB"⟩,
     ⟨0x1D89C, "SIGNWRITING HAND-", "FIST LITTLE INDEX THUMB;HINGE LITTLE INDEX THUMB"⟩,
     ⟨0x1D89E, "SIGNWRITING HAND-ANGLE LITTLE INDEX THUMB INDEX ", "THUMB OUT;THUMB"⟩,
     ⟨0x1D8A0, "", "SIGNWRITING HAND-FIST LITTLE INDEX"⟩,
     ⟨0x1D8A1, "SIGNWRITING HAND-", "CIRCLE LITTLE INDEX;HINGE LITTLE INDEX;ANGLE LITTLE INDEX"⟩,
     ⟨0x1D8A4, "SIGNWRITING HAND-", "FIST INDEX MIDDLE LITTLE;CIRCLE INDEX MIDDLE LITTLE"⟩,
     ⟨0x1D8A6, "SIGNWRITING HAND-HINGE ", "INDEX MIDDLE LITTLE;RING"⟩,
     ⟨0x1D8A8, "SIGNWRITING HAND-", "ANGLE INDEX MIDDLE LITTLE;FIST INDEX MIDDLE CROSS LITTLE"⟩,
     ⟨0x1D8AA, "", "SIGNWRITING HAND-CIRCLE INDEX MIDDLE CROSS LITTLE"⟩,
     ⟨0x1D8AB, "SIGNWRITING HAND-", "FIST RING DOWN;HINGE RING DOWN INDEX THUMB HOOK MIDDLE"⟩,
     ⟨0x1D8AD, "SIGNWRITING HAND-", "ANGLE RING DOWN MIDDLE THUMB INDEX CROSS;FIST RING UP"⟩,
     ⟨0x1D8AF, "SIGNWRITING HAND-", "FIST RING RAISED KNUCKLE;FIST RING LITTLE;CIRCLE RING LITTLE"⟩,
     ⟨0x1D8B2, "SIGNWRITING HAND-", "OVAL RING LITTLE;ANGLE RING LITTLE;FIST RING MIDDLE"⟩,
     ⟨0x1D8B5, "SIGNWRITING HAND-FIST RING ", "MIDDLE CONJOINED;MIDDLE RAISED KNUCKLES;INDEX"⟩,
     ⟨0x1D8B8, "SIGNWRITING HAND-", "FIST RING THUMB;HOOK RING THUMB;FIST INDEX RING LITTLE"⟩,
     ⟨0x1D8BB, "SIGNWRITING HAND-", "CIRCLE INDEX RING LITTLE;CURLICUE INDEX RING LITTLE ON"⟩,
     ⟨0x1D8BD, "SIGNWRITING HAND-HOOK INDEX RING LITTLE ", "OUT;IN;UNDER"⟩,
     ⟨0x1D8C0, "SIGNWRITING HAND-", "CUP INDEX RING LITTLE;HINGE INDEX RING LITTLE"⟩,
     ⟨0x1D8C2, "SIGNWRITING HAND-ANGLE INDEX RING ", "LITTLE OUT;LITTLE"⟩,
     ⟨0x1D8C4, "SIGNWRITING HAND-", "FIST MIDDLE DOWN;HINGE MIDDLE"⟩,
     ⟨0x1D8C6, "SIGNWRITING HAND-", "FIST MIDDLE UP;CIRCLE MIDDLE UP;FIST MIDDLE RAISED KNUCKLE"⟩,
     ⟨0x1D8C9, "SIGNWRITING HAND-", "FIST MIDDLE UP THUMB SIDE;HOOK MIDDLE THUMB"⟩,
     ⟨0x1D8CB, "SIGNWRITING HAND-FIST MIDDLE ", "THUMB LITTLE;LITTLE;RING LITTLE"⟩,
     ⟨0x1D8CE, "SIGNWRITING HAND-", "CIRCLE MIDDLE RING LITTLE;CURLICUE MIDDLE RING LITTLE ON"⟩,
     ⟨0x1D8D0, "SIGNWRITING HAND-", "CUP MIDDLE RING LITTLE;HINGE MIDDLE RING LITTLE"⟩,
     ⟨0x1D8D2, "SIGNWRITING HAND-ANGLE MIDDLE RING ", "LITTLE OUT;LITTLE IN;LITTLE"⟩,
     ⟨0x1D8D5, "", "SIGNWRITING HAND-CIRCLE MIDDLE RING LITTLE BENT"⟩,
     ⟨0x1D8D6, "SIGNWRITING HAND-CLAW MIDDLE RING LITTLE ", "CONJOINED;CONJOINED SIDE"⟩,
     ⟨0x1D8D8, "SIGNWRITING HAND-HOOK MIDDLE RING LITTLE ", "CONJOINED OUT;CONJOINED IN;CONJOINED"⟩,
     ⟨0x1D8DB, "", "SIGNWRITING HAND-HINGE INDEX HINGED"⟩,
     ⟨0x1D8DC, "SIGNWRITING HAND-", "FIST INDEX THUMB SIDE;HINGE INDEX THUMB SIDE"⟩,
     ⟨0x1D8DE, "SIGNWRITING HAND-FIST INDEX THUMB SIDE THUMB ", "DIAGONAL;CONJOINED;BENT"⟩,
     ⟨0x1D8E1, "SIGNWRITING HAND-FIST INDEX THUMB SIDE ", "INDEX BENT;BOTH BENT;INDEX HINGE"⟩,
     ⟨0x1D8E4, "SIGNWRITING HAND-FIST INDEX THUMB FORWARD INDEX ", "STRAIGHT;BENT"⟩,
     ⟨0x1D8E6, "SIGNWRITING HAND-FIST INDEX THUMB ", "HOOK;CURLICUE;CURVE THUMB INSIDE"⟩,
     ⟨0x1D8E9, "", "SIGNWRITING HAND-CLAW INDEX THUMB CURVE THUMB INSIDE"⟩,
     ⟨0x1D8EA, "SIGNWRITING HAND-FIST INDEX THUMB ", "CURVE THUMB UNDER;CIRCLE"⟩,
     ⟨0x1D8EC, "SIGNWRITING HAND-CUP INDEX ", "THUMB;THUMB OPEN"⟩,
     ⟨0x1D8EE, "SIGNWRITING HAND-HINGE INDEX ", "THUMB OPEN;THUMB LARGE;THUMB;THUMB SMALL"⟩,
     ⟨0x1D8F2, "SIGNWRITING HAND-ANGLE INDEX ", "THUMB OUT;THUMB IN;THUMB"⟩,
     ⟨0x1D8F5, "SIGNWRITING HAND-FIST ", "THUMB;THUMB HEEL"⟩,
     ⟨0x1D8F7, "SIGNWRITING HAND-FIST THUMB ", "SIDE DIAGONAL;SIDE CONJOINED;SIDE BENT;FORWARD"⟩,
     ⟨0x1D8FB, "SIGNWRITING HAND-FIST THUMB BETWEEN ", "INDEX MIDDLE;MIDDLE RING;RING LITTLE"⟩,
     ⟨0x1D8FE, "SIGNWRITING HAND-FIST THUMB ", "UNDER TWO FINGERS;OVER TWO FINGERS"⟩,
     ⟨0x1D900, "SIGNWRITING HAND-FIST THUMB UNDER ", "THREE FINGERS;FOUR FINGERS"⟩,
     ⟨0x1D902, "SIGNWRITING HAND-", "FIST THUMB OVER FOUR RAISED KNUCKLES;FIST;FIST HEEL"⟩,
     ⟨0x1D905, "SIGNWRITING TOUCH ", "SINGLE;MULTIPLE;BETWEEN"⟩,
     ⟨0x1D908, "SIGNWRITING GRASP ", "SINGLE;MULTIPLE;BETWEEN"⟩,
     ⟨0x1D90B, "SIGNWRITING STRIKE ", "SINGLE;MULTIPLE;BETWEEN"⟩,
     ⟨0x1D90E, "SIGNWRITING ", "BRUSH SINGLE;BRUSH MULTIPLE;BRUSH BETWEEN;RUB SINGLE;RUB MULTIPLE"⟩,
     ⟨0x1D913, "SIGNWRITING ", "RUB BETWEEN;SURFACE SYMBOLS;SURFACE BETWEEN;SQUEEZE LARGE SINGLE"⟩,
     ⟨0x1D917, "SIGNWRITING SQUEEZE ", "SMALL SINGLE;LARGE MULTIPLE;SMALL MULTIPLE;SEQUENTIAL"⟩,
     ⟨0x1D91B, "SIGNWRITING FLICK ", "LARGE SINGLE;SMALL SINGLE;LARGE MULTIPLE;SMALL MULTIPLE"⟩,
     ⟨0x1D91F, "SIGNWRITING ", "FLICK SEQUENTIAL;SQUEEZE FLICK ALTERNATING"⟩,
     ⟨0x1D921, "SIGNWRITING MOVEMENT-HINGE UP ", "DOWN LARGE;DOWN SMALL;SEQUENTIAL"⟩,
     ⟨0x1D924, "SIGNWRITING MOVEMENT-HINGE ", "DOWN SEQUENTIAL;UP DOWN ALTERNATING LARGE"⟩,
     ⟨0x1D926, "SIGNWRITING MOVEMENT-HINGE ", "UP DOWN ALTERNATING SMALL;SIDE TO SIDE SCISSORS"⟩,
     ⟨0x1D928, "SIGNWRITING MOVEMENT-", "WALLPLANE FINGER CONTACT;FLOORPLANE FINGER CONTACT"⟩,
     ⟨0x1D92A, "SIGNWRITING MOVEMENT-WALLPLANE SINGLE STRAIGHT ", "SMALL;MEDIUM;LARGE;LARGEST"⟩,
     ⟨0x1D92E, "", "SIGNWRITING MOVEMENT-WALLPLANE SINGLE WRIST FLEX"⟩,
     ⟨0x1D92F, "SIGNWRITING MOVEMENT-WALLPLANE DOUBLE ", "STRAIGHT;WRIST FLEX;ALTERNATING"⟩,
     ⟨0x1D932, "SIGNWRITING MOVEMENT-WALLPLANE ", "DOUBLE ALTERNATING WRIST FLEX;CROSS"⟩,
     ⟨0x1D934, "SIGNWRITING MOVEMENT-WALLPLANE TRIPLE ", "STRAIGHT MOVEMENT;WRIST FLEX"⟩,
     ⟨0x1D936, "SIGNWRITING MOVEMENT-WALLPLANE TRIPLE ", "ALTERNATING;ALTERNATING WRIST FLEX"⟩,
     ⟨0x1D938, "SIGNWRITING MOVEMENT-WALLPLANE BEND ", "SMALL;MEDIUM;LARGE"⟩,
     ⟨0x1D93B, "SIGNWRITING MOVEMENT-WALLPLANE CORNER ", "SMALL;MEDIUM;LARGE;ROTATION"⟩,
     ⟨0x1D93F, "SIGNWRITING MOVEMENT-WALLPLANE CHECK ", "SMALL;MEDIUM;LARGE"⟩,
     ⟨0x1D942, "SIGNWRITING MOVEMENT-WALLPLANE BOX ", "SMALL;MEDIUM;LARGE"⟩,
     ⟨0x1D945, "SIGNWRITING MOVEMENT-WALLPLANE ZIGZAG ", "SMALL;MEDIUM;LARGE"⟩,
     ⟨0x1D948, "SIGNWRITING MOVEMENT-WALLPLANE PEAKS ", "SMALL;MEDIUM;LARGE"⟩,
     ⟨0x1D94B, "SIGNWRITING TRAVEL-WALLPLANE ROTATION-WALLPLANE ", "SINGLE;DOUBLE;ALTERNATING"⟩,
     ⟨0x1D94E, "SIGNWRITING TRAVEL-WALLPLANE ROTATION-FLOORPLANE ", "SINGLE;DOUBLE;ALTERNATING"⟩,
     ⟨0x1D951, "", "SIGNWRITING TRAVEL-WALLPLANE SHAKING"⟩,
     ⟨0x1D952, "SIGNWRITING TRAVEL-WALLPLANE ARM SPIRAL ", "SINGLE;DOUBLE;TRIPLE"⟩,
     ⟨0x1D955, "SIGNWRITING MOVEMENT-DIAGONAL AWAY ", "SMALL;MEDIUM;LARGE;LARGEST"⟩,
     ⟨0x1D959, "SIGNWRITING MOVEMENT-DIAGONAL TOWARDS ", "SMALL;MEDIUM;LARGE;LARGEST"⟩,
     ⟨0x1D95D, "SIGNWRITING MOVEMENT-DIAGONAL BETWEEN AWAY ", "SMALL;MEDIUM;LARGE;LARGEST"⟩,
     ⟨0x1D961, "SIGNWRITING MOVEMENT-DIAGONAL BETWEEN TOWARDS ", "SMALL;MEDIUM;LARGE;LARGEST"⟩,
     ⟨0x1D965, "SIGNWRITING MOVEMENT-FLOORPLANE SINGLE STRAIGHT ", "SMALL;MEDIUM;LARGE;LARGEST"⟩,
     ⟨0x1D969, "", "SIGNWRITING MOVEMENT-FLOORPLANE SINGLE WRIST FLEX"⟩,
     ⟨0x1D96A, "SIGNWRITING MOVEMENT-FLOORPLANE DOUBLE ", "STRAIGHT;WRIST FLEX;ALTERNATING"⟩,
     ⟨0x1D96D, "SIGNWRITING MOVEMENT-FLOORPLANE ", "DOUBLE ALTERNATING WRIST FLEX;CROSS"⟩,
     ⟨0x1D96F, "SIGNWRITING MOVEMENT-FLOORPLANE TRIPLE ", "STRAIGHT MOVEMENT;WRIST FLEX"⟩,
     ⟨0x1D971, "SIGNWRITING MOVEMENT-FLOORPLANE TRIPLE ALTERNATING ", "MOVEMENT;WRIST FLEX"⟩,
     ⟨0x1D973, "SIGNWRITING MOVEMENT-FLOORPLANE ", "BEND;CORNER SMALL;CORNER MEDIUM;CORNER LARGE"⟩,
     ⟨0x1D977, "SIGNWRITING MOVEMENT-FLOORPLANE ", "CHECK;BOX SMALL;BOX MEDIUM;BOX LARGE"⟩,
     ⟨0x1D97B, "SIGNWRITING MOVEMENT-FLOORPLANE ZIGZAG ", "SMALL;MEDIUM;LARGE"⟩,
     ⟨0x1D97E, "SIGNWRITING MOVEMENT-FLOORPLANE PEAKS ", "SMALL;MEDIUM;LARGE"⟩,
     ⟨0x1D981, "SIGNWRITING TRAVEL-FLOORPLANE ROTATION-FLOORPLANE ", "SINGLE;DOUBLE;ALTERNATING"⟩,
     ⟨0x1D984, "SIGNWRITING TRAVEL-FLOORPLANE ROTATION-WALLPLANE ", "SINGLE;DOUBLE;ALTERNATING"⟩,
     ⟨0x1D987, "", "SIGNWRITING TRAVEL-FLOORPLANE SHAKING"⟩,
     ⟨0x1D988, "SIGNWRITING MOVEMENT-WALLPLANE CURVE QUARTER ", "SMALL;MEDIUM;LARGE;LARGEST"⟩,
     ⟨0x1D98C, "SIGNWRITING MOVEMENT-WALLPLANE CURVE HALF-CIRCLE ", "SMALL;MEDIUM;LARGE;LARGEST"⟩,
     ⟨0x1D990, "SIGNWRITING MOVEMENT-WALLPLANE CURVE THREE-QUARTER CIRCLE ", "SMALL;MEDIUM"⟩,
     ⟨0x1D992, "SIGNWRITING MOVEMENT-WALLPLANE HUMP ", "SMALL;MEDIUM;LARGE"⟩,
     ⟨0x1D995, "SIGNWRITING MOVEMENT-WALLPLANE LOOP ", "SMALL;MEDIUM;LARGE;SMALL DOUBLE"⟩,
     ⟨0x1D999, "SIGNWRITING MOVEMENT-WALLPLANE WAVE CURVE DOUBLE ", "SMALL;MEDIUM;LARGE"⟩,
     ⟨0x1D99C, "SIGNWRITING MOVEMENT-WALLPLANE WAVE CURVE TRIPLE ", "SMALL;MEDIUM;LARGE"⟩,
     ⟨0x1D99F, "", "SIGNWRITING MOVEMENT-WALLPLANE CURVE THEN STRAIGHT"⟩,
     ⟨0x1D9A0, "SIGNWRITING MOVEMENT-WALLPLANE CURVED CROSS ", "SMALL;MEDIUM"⟩,
     ⟨0x1D9A2, "SIGNWRITING ROTATION-WALLPLANE ", "SINGLE;DOUBLE;ALTERNATE"⟩,
     ⟨0x1D9A5, "SIGNWRITING MOVEMENT-WALLPLANE ", "SHAKING;CURVE HITTING FRONT WALL"⟩,
     ⟨0x1D9A7, "", "SIGNWRITING MOVEMENT-WALLPLANE HUMP HITTING FRONT WALL"⟩,
     ⟨0x1D9A8, "", "SIGNWRITING MOVEMENT-WALLPLANE LOOP HITTING FRONT WALL"⟩,
     ⟨0x1D9A9, "", "SIGNWRITING MOVEMENT-WALLPLANE WAVE HITTING FRONT WALL"⟩,
     ⟨0x1D9AA, "", "SIGNWRITING ROTATION-WALLPLANE SINGLE HITTING FRONT WALL"⟩,
     ⟨0x1D9AB, "", "SIGNWRITING ROTATION-WALLPLANE DOUBLE HITTING FRONT WALL"⟩,
     ⟨0x1D9AC, "", "SIGNWRITING ROTATION-WALLPLANE ALTERNATING HITTING FRONT WALL"⟩,
     ⟨0x1D9AD, "SIGNWRITING MOVEMENT-WALLPLANE ", "CURVE HITTING CHEST;HUMP HITTING CHEST"⟩,
     ⟨0x1D9AF, "SIGNWRITING MOVEMENT-WALLPLANE ", "LOOP HITTING CHEST;WAVE HITTING CHEST"⟩,
     ⟨0x1D9B1, "", "SIGNWRITING ROTATION-WALLPLANE SINGLE HITTING CHEST"⟩,
     ⟨0x1D9B2, "SIGNWRITING ROTATION-WALLPLANE ", "DOUBLE HITTING CHEST;ALTERNATING HITTING CHEST"⟩,
     ⟨0x1D9B4, "SIGNWRITING MOVEMENT-WALLPLANE WAVE DIAGONAL PATH ", "SMALL;MEDIUM;LARGE"⟩,
     ⟨0x1D9B7, "SIGNWRITING MOVEMENT-FLOORPLANE CURVE HITTING CEILING ", "SMALL;LARGE"⟩,
     ⟨0x1D9B9, "", "SIGNWRITING MOVEMENT-FLOORPLANE HUMP HITTING CEILING SMALL DOUBLE"⟩,
     ⟨0x1D9BA, "", "SIGNWRITING MOVEMENT-FLOORPLANE HUMP HITTING CEILING LARGE DOUBLE"⟩,
     ⟨0x1D9BB, "", "SIGNWRITING MOVEMENT-FLOORPLANE HUMP HITTING CEILING SMALL TRIPLE"⟩,
     ⟨0x1D9BC, "", "SIGNWRITING MOVEMENT-FLOORPLANE HUMP HITTING CEILING LARGE TRIPLE"⟩,
     ⟨0x1D9BD, "", "SIGNWRITING MOVEMENT-FLOORPLANE LOOP HITTING CEILING SMALL SINGLE"⟩,
     ⟨0x1D9BE, "", "SIGNWRITING MOVEMENT-FLOORPLANE LOOP HITTING CEILING LARGE SINGLE"⟩,
     ⟨0x1D9BF, "", "SIGNWRITING MOVEMENT-FLOORPLANE LOOP HITTING CEILING SMALL DOUBLE"⟩,
     ⟨0x1D9C0, "", "SIGNWRITING MOVEMENT-FLOORPLANE LOOP HITTING CEILING LARGE DOUBLE"⟩,
     ⟨0x1D9C1, "SIGNWRITING MOVEMENT-FLOORPLANE WAVE HITTING CEILING ", "SMALL;LARGE"⟩,
     ⟨0x1D9C3, "SIGNWRITING ROTATION-FLOORPLANE ", "SINGLE HITTING CEILING;DOUBLE HITTING CEILING"⟩,
     ⟨0x1D9C5, "", "SIGNWRITING ROTATION-FLOORPLANE ALTERNATING HITTING CEILING"⟩,
     ⟨0x1D9C6, "SIGNWRITING MOVEMENT-FLOORPLANE CURVE HITTING FLOOR ", "SMALL;LARGE"⟩,
     ⟨0x1D9C8, "SIGNWRITING MOVEMENT-FLOORPLANE HUMP HITTING FLOOR ", "SMALL DOUBLE;LARGE DOUBLE"⟩,
     ⟨0x1D9CA, "", "SIGNWRITING MOVEMENT-FLOORPLANE HUMP HITTING FLOOR TRIPLE SMALL TRIPLE"⟩,
     ⟨0x1D9CB, "", "SIGNWRITING MOVEMENT-FLOORPLANE HUMP HITTING FLOOR TRIPLE LARGE TRIPLE"⟩,
     ⟨0x1D9CC, "SIGNWRITING MOVEMENT-FLOORPLANE LOOP HITTING FLOOR ", "SMALL SINGLE;LARGE SINGLE"⟩,
     ⟨0x1D9CE, "SIGNWRITING MOVEMENT-FLOORPLANE LOOP HITTING FLOOR ", "SMALL DOUBLE;LARGE DOUBLE"⟩,
     ⟨0x1D9D0, "SIGNWRITING MOVEMENT-FLOORPLANE WAVE HITTING FLOOR ", "SMALL;LARGE"⟩,
     ⟨0x1D9D2, "SIGNWRITING ROTATION-FLOORPLANE ", "SINGLE HITTING FLOOR;DOUBLE HITTING FLOOR"⟩,
     ⟨0x1D9D4, "", "SIGNWRITING ROTATION-FLOORPLANE ALTERNATING HITTING FLOOR"⟩,
     ⟨0x1D9D5, "SIGNWRITING MOVEMENT-FLOORPLANE CURVE ", "SMALL;MEDIUM;LARGE;LARGEST;COMBINED"⟩,
     ⟨0x1D9DA, "SIGNWRITING MOVEMENT-FLOORPLANE ", "HUMP SMALL;LOOP SMALL"⟩,
     ⟨0x1D9DC, "SIGNWRITING MOVEMENT-FLOORPLANE WAVE ", "SNAKE;SMALL;LARGE"⟩,
     ⟨0x1D9DF, "SIGNWRITING ROTATION-FLOORPLANE ", "SINGLE;DOUBLE;ALTERNATING"⟩,
     ⟨0x1D9E2, "", "SIGNWRITING MOVEMENT-FLOORPLANE SHAKING PARALLEL"⟩,
     ⟨0x1D9E3, "SIGNWRITING MOVEMENT-WALLPLANE ARM CIRCLE ", "SMALL SINGLE;MEDIUM SINGLE"⟩,
     ⟨0x1D9E5, "SIGNWRITING MOVEMENT-WALLPLANE ARM CIRCLE ", "SMALL DOUBLE;MEDIUM DOUBLE"⟩,
     ⟨0x1D9E7, "", "SIGNWRITING MOVEMENT-FLOORPLANE ARM CIRCLE HITTING WALL SMALL SINGLE"⟩,
     ⟨0x1D9E8, "", "SIGNWRITING MOVEMENT-FLOORPLANE ARM CIRCLE HITTING WALL MEDIUM SINGLE"⟩,
     ⟨0x1D9E9, "", "SIGNWRITING MOVEMENT-FLOORPLANE ARM CIRCLE HITTING WALL LARGE SINGLE"⟩,
     ⟨0x1D9EA, "", "SIGNWRITING MOVEMENT-FLOORPLANE ARM CIRCLE HITTING WALL SMALL DOUBLE"⟩,
     ⟨0x1D9EB, "", "SIGNWRITING MOVEMENT-FLOORPLANE ARM CIRCLE HITTING WALL MEDIUM DOUBLE"⟩,
     ⟨0x1D9EC, "", "SIGNWRITING MOVEMENT-FLOORPLANE ARM CIRCLE HITTING WALL LARGE DOUBLE"⟩,
     ⟨0x1D9ED, "SIGNWRITING MOVEMENT-WALLPLANE WRIST CIRCLE FRONT ", "SINGLE;DOUBLE"⟩,
     ⟨0x1D9EF, "SIGNWRITING MOVEMENT-FLOORPLANE WRIST CIRCLE HITTING WALL ", "SINGLE;DOUBLE"⟩,
     ⟨0x1D9F1, "SIGNWRITING MOVEMENT-WALLPLANE FINGER CIRCLES ", "SINGLE;DOUBLE"⟩,
     ⟨0x1D9F3, "SIGNWRITING MOVEMENT-FLOORPLANE FINGER CIRCLES HITTING WALL ", "SINGLE;DOUBLE"⟩,
     ⟨0x1D9F5, "SIGNWRITING DYNAMIC ", "ARROWHEAD SMALL;ARROWHEAD LARGE;FAST;SLOW;TENSE;RELAXED"⟩,
     ⟨0x1D9FB, "SIGNWRITING DYNAMIC ", "SIMULTANEOUS;SIMULTANEOUS ALTERNATING;EVERY OTHER TIME"⟩,
     ⟨0x1D9FE, "SIGNWRITING ", "DYNAMIC GRADUAL;HEAD;HEAD RIM;HEAD MOVEMENT-WALLPLANE STRAIGHT"⟩,
     ⟨0x1DA02, "SIGNWRITING HEAD MOVEMENT-", "WALLPLANE TILT;FLOORPLANE STRAIGHT;WALLPLANE CURVE"⟩,
     ⟨0x1DA05, "SIGNWRITING HEAD ", "MOVEMENT-FLOORPLANE CURVE;MOVEMENT CIRCLE"⟩,
     ⟨0x1DA07, "", "SIGNWRITING FACE DIRECTION POSITION NOSE FORWARD TILTING"⟩,
     ⟨0x1DA08, "SIGNWRITING FACE DIRECTION POSITION NOSE UP OR ", "DOWN;DOWN TILTING"⟩,
     ⟨0x1DA0A, "SIGNWRITING EYEBROWS STRAIGHT ", "UP;NEUTRAL;DOWN"⟩,
     ⟨0x1DA0D, "SIGNWRITING DREAMY EYEBROWS ", "NEUTRAL DOWN;DOWN NEUTRAL;UP NEUTRAL;NEUTRAL UP"⟩,
     ⟨0x1DA11, "SIGNWRITING FOREHEAD ", "NEUTRAL;CONTACT;WRINKLED"⟩,
     ⟨0x1DA14, "SIGNWRITING EYES ", "OPEN;SQUEEZED;CLOSED"⟩,
     ⟨0x1DA17, "SIGNWRITING EYE BLINK ", "SINGLE;MULTIPLE"⟩,
     ⟨0x1DA19, "SIGNWRITING EYES ", "HALF OPEN;WIDE OPEN;HALF CLOSED;WIDENING MOVEMENT"⟩,
     ⟨0x1DA1D, "SIGNWRITING ", "EYE WINK;EYELASHES UP;EYELASHES DOWN;EYELASHES FLUTTERING"⟩,
     ⟨0x1DA21, "SIGNWRITING EYEGAZE-WALLPLANE ", "STRAIGHT;STRAIGHT DOUBLE;STRAIGHT ALTERNATING"⟩,
     ⟨0x1DA24, "SIGNWRITING EYEGAZE-FLOORPLANE ", "STRAIGHT;STRAIGHT DOUBLE;STRAIGHT ALTERNATING"⟩,
     ⟨0x1DA27, "SIGNWRITING EYEGAZE-", "WALLPLANE CURVED;FLOORPLANE CURVED;WALLPLANE CIRCLING"⟩,
     ⟨0x1DA2A, "SIGNWRITING CHEEKS ", "PUFFED;NEUTRAL;SUCKED"⟩,
     ⟨0x1DA2D, "SIGNWRITING TENSE CHEEKS ", "HIGH;MIDDLE;LOW"⟩,
     ⟨0x1DA30, "SIGNWRITING ", "EARS;NOSE NEUTRAL;NOSE CONTACT;NOSE WRINKLES;NOSE WIGGLES"⟩,
     ⟨0x1DA35, "SIGNWRITING AIR ", "BLOWING OUT;SUCKING IN;BLOW SMALL ROTATIONS"⟩,
     ⟨0x1DA38, "SIGNWRITING ", "AIR SUCK SMALL ROTATIONS;BREATH INHALE;BREATH EXHALE"⟩,
     ⟨0x1DA3B, "SIGNWRITING MOUTH ", "CLOSED NEUTRAL;CLOSED FORWARD;CLOSED CONTACT;SMILE"⟩,
     ⟨0x1DA3F, "SIGNWRITING MOUTH ", "SMILE WRINKLED;SMILE OPEN;FROWN;FROWN WRINKLED;FROWN OPEN"⟩,
     ⟨0x1DA44, "SIGNWRITING MOUTH OPEN ", "CIRCLE;FORWARD;WRINKLED;OVAL;OVAL WRINKLED"⟩,
     ⟨0x1DA49, "SIGNWRITING MOUTH OPEN ", "OVAL YAWN;RECTANGLE;RECTANGLE WRINKLED;RECTANGLE YAWN"⟩,
     ⟨0x1DA4D, "SIGNWRITING MOUTH ", "KISS;KISS FORWARD;KISS WRINKLED;TENSE"⟩,
     ⟨0x1DA51, "SIGNWRITING MOUTH TENSE ", "FORWARD;SUCKED"⟩,
     ⟨0x1DA53, "SIGNWRITING ", "LIPS PRESSED TOGETHER;LIP LOWER OVER UPPER;LIP UPPER OVER LOWER"⟩,
     ⟨0x1DA56, "SIGNWRITING MOUTH ", "CORNERS;WRINKLES SINGLE;WRINKLES DOUBLE"⟩,
     ⟨0x1DA59, "SIGNWRITING TONGUE ", "STICKING OUT FAR;LICKING LIPS;TIP BETWEEN LIPS"⟩,
     ⟨0x1DA5C, "SIGNWRITING TONGUE ", "TIP TOUCHING INSIDE MOUTH;INSIDE MOUTH RELAXED"⟩,
     ⟨0x1DA5E, "SIGNWRITING TONGUE ", "MOVES AGAINST CHEEK;CENTRE STICKING OUT"⟩,
     ⟨0x1DA60, "SIGNWRITING ", "TONGUE CENTRE INSIDE MOUTH;TEETH;TEETH MOVEMENT"⟩,
     ⟨0x1DA63, "SIGNWRITING TEETH ON ", "TONGUE;TONGUE MOVEMENT;LIPS;LIPS MOVEMENT"⟩,
     ⟨0x1DA67, "SIGNWRITING ", "TEETH BITE LIPS;MOVEMENT-WALLPLANE JAW;MOVEMENT-FLOORPLANE JAW"⟩,
     ⟨0x1DA6A, "SIGNWRITING ", "NECK;HAIR;EXCITEMENT;SHOULDER HIP SPINE;SHOULDER HIP POSITIONS"⟩,
     ⟨0x1DA6F, "SIGNWRITING ", "WALLPLANE SHOULDER HIP MOVE;FLOORPLANE SHOULDER HIP MOVE"⟩,
     ⟨0x1DA71, "SIGNWRITING ", "SHOULDER TILTING FROM WAIST;TORSO-WALLPLANE STRAIGHT STRETCH"⟩,
     ⟨0x1DA73, "SIGNWRITING TORSO-", "WALLPLANE CURVED BEND;FLOORPLANE TWISTING"⟩,
     ⟨0x1DA75, "SIGNWRITING ", "UPPER BODY TILTING FROM HIP JOINTS;LIMB COMBINATION"⟩,
     ⟨0x1DA77, "SIGNWRITING LIMB LENGTH-", "1;2;3;4;5;6;7"⟩,
     ⟨0x1DA7E, "SIGNWRITING ", "FINGER;LOCATION-WALLPLANE SPACE;LOCATION-FLOORPLANE SPACE"⟩,
     ⟨0x1DA81, "SIGNWRITING LOCATION ", "HEIGHT;WIDTH;DEPTH;HEAD NECK;TORSO;LIMBS DIGITS"⟩,
     ⟨0x1DA87, "SIGNWRITING ", "COMMA;FULL STOP;SEMICOLON;COLON;PARENTHESIS"⟩,
     ⟨0x1DA9B, "SIGNWRITING FILL MODIFIER-", "2;3;4;5;6"⟩,
     ⟨0x1DAA1, "SIGNWRITING ROTATION MODIFIER-", "2;3;4;5;6;7;8;9;10;11;12;13;14;15;16"⟩]

end NameBlock

/-- The blocks of this module. -/
def musicAndSigningBlocks : List NameBlock :=
  [.znamennyMusicalNotation, .byzantineMusicalSymbols, .musicalSymbols,
   .ancientGreekMusicalNotation, .suttonSignWriting]

end Text
end Scripting
