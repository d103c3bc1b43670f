import Scripting.Text.Names.AfricanAndAmerican
import Scripting.Text.Names.Alias
import Scripting.Text.Names.Ancient
import Scripting.Text.Names.Arabic
import Scripting.Text.Names.Computing
import Scripting.Text.Names.EastAsian
import Scripting.Text.Names.European
import Scripting.Text.Names.Latin
import Scripting.Text.Names.Marks
import Scripting.Text.Names.Mathematics
import Scripting.Text.Names.MiddleEastern
import Scripting.Text.Names.MusicAndSigning
import Scripting.Text.Names.Pictographs
import Scripting.Text.Names.Punctuation
import Scripting.Text.Names.SouthAsian
import Scripting.Text.Names.SoutheastAsian
import Scripting.Text.Names.Symbols

namespace Scripting
namespace Text

/-!
Names of characters.

A character that no token can start with is reported by its standard name, and a
string literal may name a character instead of holding it.  The names are those of
version 16 of the Unicode standard: most stand in tables, and others follow rules.
-/

/-- All tables of names. -/
def nameBlocks : List NameBlock :=
  latinBlocks ++ punctuationBlocks ++ symbolBlocks ++ mathematicsBlocks ++ markBlocks ++
    europeanBlocks ++ pictographBlocks ++ eastAsianBlocks ++ arabicBlocks ++
    middleEasternBlocks ++ southAsianBlocks ++ southeastAsianBlocks ++
    africanAndAmericanBlocks ++ ancientBlocks ++ musicAndSigningBlocks ++ computingBlocks

/-- The standard name of a code point, if it has one. -/
def codeName? (code : Nat) : Option String :=
  (nameBlocks.findSome? (·.name? code)).or <|
    (nameFamilies.findSome? (·.name? code)).or (ideographName? code)

/-- The standard name of a character, if it has one. -/
def nameOf? (c : Char) : Option String :=
  codeName? c.toNat

/-- The code point that a name stands for: its standard name or a second one. -/
def namedCode? (name : String) : Option Nat :=
  (nameBlocks.findSome? (·.code? name.toList)).or <|
    (nameFamilies.findSome? (·.code? name)).or <|
      (ideograph? name.toList).or (aliasCode? name)

/-- The character a name stands for; the case of the letters does not matter. -/
def named? (name : String) : Option Char :=
  (namedCode? (name.map Char.toUpper)).map Char.ofNat

end Text
end Scripting
