import Scripting.Data.Heap
import Scripting.Lexical.Keyword
import Scripting.Text.Suggestion

namespace Scripting
namespace Data

/-!
Suggestions for names that are not defined.
-/

/-- The visible name or reserved word that is closest to a name, the nearest scope first. -/
def Heap.suggest? (heap : Heap) (scope : Scope) (name : String) : Option String :=
  Text.suggest? name
    (heap.visibleNames scope ++ Lexical.Keyword.all.map Lexical.Keyword.spelling)

end Data
end Scripting
