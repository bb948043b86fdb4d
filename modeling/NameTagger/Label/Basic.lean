/-!
# Labels

Models may use short labels; outside they are known by the names of name components.

* `renames`, `rename`: the name of the component that a label stands for;
* `unknown`: the name for a label that a model does not have.
-/

namespace NameTagger.Label

/-- The labels that stand for components of another name. -/
def renames : List (String × String) := [
  ("GIVEN", "GivenName"),
  ("SURNAME", "Surname"),
  ("MIDDLE", "MiddleName"),
  ("PREFIX", "PrefixMarital"),
  ("SUFFIX", "SuffixGenerational"),
  ("NICKNAME", "Nickname"),
  ("TITLE", "PrefixOther")]

/-- The component that a label stands for; a label that is not listed stands for itself. -/
def rename (label : String) : String := (renames.lookup label).getD label

/-- The name for a label that a model does not have. -/
def unknown : String := "Unknown"

end NameTagger.Label
