import Scripting.Source.Excerpt

namespace Scripting
namespace Source

/-!
Reports of errors that are found before a program runs.
-/

/-- What went wrong, under the name of its kind. -/
def headline (kind message : String) : String :=
  s!"{kind}: {message}"

/-- The place of an error, the excerpt that shows it, and what went wrong. -/
def Place.report (place : Place) (kind message : String) : String :=
  s!"In file {place.document.name}, line {place.span.start.line + 1}:\n" ++
    excerpt place.document.text place.span ++ headline kind message

end Source
end Scripting
