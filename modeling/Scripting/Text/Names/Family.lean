import Scripting.Number.Bounded
import Scripting.Text.Quoted

namespace Scripting
namespace Text

/-!
Names that follow a rule.

The members of a family of characters are named by their place in it: digits by
their value, patterns of dots by the dots, the syllables of the Korean script by
the sounds they are made of, and many signs of old scripts by a number.
-/

/-- Consecutive characters whose names start alike and go on by a rule. -/
structure NameFamily where
  first : Nat
  size : Nat
  start : String
  ending : Nat → String

namespace NameFamily

/-- The name of a member by its place. -/
def memberName (family : NameFamily) (place : Nat) : String :=
  family.start ++ family.ending place

/-- The name of a code point. -/
def name? (family : NameFamily) (code : Nat) : Option String :=
  if family.first ≤ code ∧ code < family.first + family.size then
    some (family.memberName (code - family.first))
  else none

/-- The code point with a name. -/
def code? (family : NameFamily) (name : String) : Option Nat :=
  if family.start.toList.isPrefixOf name.toList then
    ((List.range family.size).find? (family.memberName · = name)).map (family.first + ·)
  else none

/-- A name that a family gives a code point for is the name of that code point. -/
theorem name?_of_code? {family : NameFamily} {name : String} {code : Nat}
    (found : family.code? name = some code) : family.name? code = some name := by
  unfold code? at found
  split at found
  · obtain ⟨place, located, rfl⟩ := Option.map_eq_some_iff.mp found
    have inside := List.mem_range.mp (List.mem_of_find?_eq_some located)
    have same := List.find?_some located
    simp only [decide_eq_true_eq] at same
    simp [name?, inside, same]
  · exact absurd found (by simp)

end NameFamily

/-! ## Digits -/

/-- Scripts with digits of their own, by the code point of the digit zero. -/
def digitScripts : List (Nat × String) :=
  [(0x0660, "ARABIC-INDIC"), (0x06F0, "EXTENDED ARABIC-INDIC"), (0x07C0, "NKO"),
   (0x0966, "DEVANAGARI"), (0x09E6, "BENGALI"), (0x0A66, "GURMUKHI"), (0x0AE6, "GUJARATI"),
   (0x0B66, "ORIYA"), (0x0BE6, "TAMIL"), (0x0C66, "TELUGU"), (0x0CE6, "KANNADA"),
   (0x0D66, "MALAYALAM"), (0x0DE6, "SINHALA LITH"), (0x0E50, "THAI"), (0x0ED0, "LAO"),
   (0x0F20, "TIBETAN"), (0x1040, "MYANMAR"), (0x1090, "MYANMAR SHAN"), (0x17E0, "KHMER"),
   (0x1810, "MONGOLIAN"), (0x1946, "LIMBU"), (0x19D0, "NEW TAI LUE"), (0x1A80, "TAI THAM HORA"),
   (0x1A90, "TAI THAM THAM"), (0x1B50, "BALINESE"), (0x1BB0, "SUNDANESE"), (0x1C40, "LEPCHA"),
   (0x1C50, "OL CHIKI"), (0xA620, "VAI"), (0xA8D0, "SAURASHTRA"),
   (0xA8E0, "COMBINING DEVANAGARI"), (0xA900, "KAYAH LI"), (0xA9D0, "JAVANESE"),
   (0xA9F0, "MYANMAR TAI LAING"), (0xAA50, "CHAM"), (0xABF0, "MEETEI MAYEK"),
   (0xFF10, "FULLWIDTH"), (0x104A0, "OSMANYA"), (0x10D30, "HANIFI ROHINGYA"), (0x10D40, "GARAY"),
   (0x11066, "BRAHMI"), (0x110F0, "SORA SOMPENG"), (0x11136, "CHAKMA"), (0x111D0, "SHARADA"),
   (0x112F0, "KHUDAWADI"), (0x11450, "NEWA"), (0x114D0, "TIRHUTA"), (0x11650, "MODI"),
   (0x116C0, "TAKRI"), (0x116D0, "MYANMAR PAO"), (0x116DA, "MYANMAR EASTERN PWO KAREN"),
   (0x11730, "AHOM"), (0x118E0, "WARANG CITI"), (0x11950, "DIVES AKURU"), (0x11BF0, "SUNUWAR"),
   (0x11C50, "BHAIKSUKI"), (0x11D50, "MASARAM GONDI"), (0x11DA0, "GUNJALA GONDI"),
   (0x11F50, "KAWI"), (0x16130, "GURUNG KHEMA"), (0x16A60, "MRO"), (0x16AC0, "TANGSA"),
   (0x16B50, "PAHAWH HMONG"), (0x16D70, "KIRAT RAI"), (0x16E80, "MEDEFAIDRIN"),
   (0x1CCF0, "OUTLINED"), (0x1D7CE, "MATHEMATICAL BOLD"),
   (0x1D7D8, "MATHEMATICAL DOUBLE-STRUCK"), (0x1D7E2, "MATHEMATICAL SANS-SERIF"),
   (0x1D7EC, "MATHEMATICAL SANS-SERIF BOLD"), (0x1D7F6, "MATHEMATICAL MONOSPACE"),
   (0x1E140, "NYIAKENG PUACHUE HMONG"), (0x1E2F0, "WANCHO"), (0x1E4F0, "NAG MUNDARI"),
   (0x1E5F1, "OL ONAL"), (0x1E950, "ADLAM"), (0x1FBF0, "SEGMENTED"), (0xE0030, "TAG")]

/-- The names of the digits. -/
def digitWords : List String :=
  ["ZERO", "ONE", "TWO", "THREE", "FOUR", "FIVE", "SIX", "SEVEN", "EIGHT", "NINE"]

/-- The digits of all these scripts. -/
def digitFamilies : List NameFamily :=
  digitScripts.map fun (first, script) =>
    ⟨first, digitWords.length, script ++ " DIGIT ", fun value => digitWords.getD value ""⟩

/-! ## Numbered characters -/

/-- A code point in the capital digits of base sixteen. -/
def codeText (code : Nat) : String :=
  String.ofList ((hexDigits code).map Char.toUpper)

/-- Characters that are named by their own code points, with the first and the last of each run. -/
def codedRuns : List (String × Nat × Nat) :=
  [("CJK COMPATIBILITY IDEOGRAPH-", 0xF900, 0xFA6D),
   ("CJK COMPATIBILITY IDEOGRAPH-", 0xFA70, 0xFAD9),
   ("EGYPTIAN HIEROGLYPH-", 0x13460, 0x143FA),
   ("KHITAN SMALL SCRIPT CHARACTER-", 0x18B00, 0x18CD5),
   ("KHITAN SMALL SCRIPT CHARACTER-", 0x18CFF, 0x18CFF),
   ("NUSHU CHARACTER-", 0x1B170, 0x1B2FB),
   ("CJK COMPATIBILITY IDEOGRAPH-", 0x2F800, 0x2FA1D)]

/-- The characters that are named by their code points. -/
def codedFamilies : List NameFamily :=
  codedRuns.map fun (start, first, last) =>
    ⟨first, last + 1 - first, start, fun place => codeText (first + place)⟩

/-- Signs that choose a form of the character before them, counted from one in two runs. -/
def selectorFamilies (start : String) : List NameFamily :=
  [⟨0xFE00, 16, start, fun place => toString (place + 1)⟩,
   ⟨0xE0100, 240, start, fun place => toString (place + 17)⟩]

/-- A number in three digits. -/
def threeDigits (n : Nat) : String :=
  String.ofList [Nat.digitChar (n / 100), Nat.digitChar (n / 10 % 10), Nat.digitChar (n % 10)]

/-- Parts that the characters of the Tangut script are put together from. -/
def componentFamily : NameFamily :=
  ⟨0x18800, 768, "TANGUT COMPONENT-", fun place => threeDigits (place + 1)⟩

/-! ## Patterns of dots -/

/-- The numbers of the dots in a pattern: the places of the bits that are set. -/
def raisedDots (pattern : Nat) : List Nat :=
  (List.range 8).filter pattern.testBit

/-- A pattern of up to eight dots is named by their numbers, counted from one. -/
def dotsText (pattern : Nat) : String :=
  if pattern = 0 then "BLANK"
  else "DOTS-" ++ String.ofList ((raisedDots pattern).map fun dot => Nat.digitChar (dot + 1))

/-- All patterns of dots. -/
def brailleFamily : NameFamily :=
  ⟨0x2800, 256, "BRAILLE PATTERN ", dotsText⟩

/-! ## Syllables -/

/-- How the initial sounds of a syllable are written, in their order. -/
def initialSounds : List String :=
  ["G", "GG", "N", "D", "DD", "R", "M", "B", "BB", "S", "SS", "", "J", "JJ", "C", "K", "T", "P",
   "H"]

/-- How the middle sounds of a syllable are written, in their order. -/
def middleSounds : List String :=
  ["A", "AE", "YA", "YAE", "EO", "E", "YEO", "YE", "O", "WA", "WAE", "OE", "YO", "U", "WEO", "WE",
   "WI", "YU", "EU", "YI", "I"]

/-- How the final sounds of a syllable are written, in their order; the first is none. -/
def finalSounds : List String :=
  ["", "G", "GG", "GS", "N", "NJ", "NH", "D", "L", "LG", "LM", "LB", "LS", "LT", "LP", "LH", "M",
   "B", "BS", "S", "SS", "NG", "J", "C", "K", "T", "P", "H"]

/-- The sounds of a syllable by its place: the final sound changes fastest, the initial last. -/
def syllableSounds (place : Nat) : String :=
  let finals := finalSounds.length
  let middles := middleSounds.length
  initialSounds.getD (place / (middles * finals)) "" ++
    middleSounds.getD (place / finals % middles) "" ++ finalSounds.getD (place % finals) ""

/-- All syllables. -/
def syllableFamily : NameFamily :=
  ⟨0xAC00, initialSounds.length * middleSounds.length * finalSounds.length, "HANGUL SYLLABLE ",
   syllableSounds⟩

/-- All families except the ideographs, whose names are read less strictly. -/
def nameFamilies : List NameFamily :=
  digitFamilies ++ codedFamilies ++ selectorFamilies "VARIATION SELECTOR-" ++
    [componentFamily, brailleFamily, syllableFamily]

/-! ## Ideographs -/

/-- Ideographs that are the same in all scripts that use them. -/
def ideographRanges : Ranges :=
  [(0x3400, 0x4DBF), (0x4E00, 0x9FFF), (0x20000, 0x2A6DF), (0x2A700, 0x2B739),
   (0x2B740, 0x2B81D), (0x2B820, 0x2CEA1), (0x2CEB0, 0x2EBE0), (0x2EBF0, 0x2EE5D),
   (0x30000, 0x3134A), (0x31350, 0x323AF)]

/-- Whether a code point is that of an ideograph. -/
def isIdeograph (code : Nat) : Bool :=
  ideographRanges.any fun range => range.1 ≤ code && code ≤ range.2

/-- What the names of all ideographs start with. -/
def ideographStart : String := "CJK UNIFIED IDEOGRAPH-"

/-- The name of an ideograph. -/
def ideographName? (code : Nat) : Option String :=
  if isIdeograph code then some (ideographStart ++ codeText code) else none

/-- The ideograph with a name, which gives its code point in at most five digits. -/
def ideograph? (name : List Char) : Option Nat :=
  let digits := name.drop ideographStart.toList.length
  let code := Number.textValue 16 digits
  if ideographStart.toList.isPrefixOf name && digits.all (Number.isDigitOf 16) &&
      digits.length ≤ 5 && isIdeograph code then
    some code
  else none

end Text
end Scripting
