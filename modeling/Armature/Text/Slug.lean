import Armature.Text.Lowercase
/-!
Slugs: texts of the characters `a`–`z`, `0`–`9` and `_`, made from any text.
-/

namespace Armature.Text

def isSlugChar (c : Char) : Bool := ('a' ≤ c && c ≤ 'z') || ('0' ≤ c && c ≤ '9')

/-- The longest runs of characters with `keep`, in order. -/
def runs (keep : Char → Bool) (cs : List Char) : List (List Char) :=
  (cs.splitBy fun a b => keep a == keep b).filter fun run => run.any keep

/-- The runs of kept characters of the lower case text, joined by underscores. -/
def slug (s : String) : String :=
  String.intercalate "_" ((runs isSlugChar (lowercase s).toList).map String.ofList)

end Armature.Text
