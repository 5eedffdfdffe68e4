import DicePools.Text.Blank
import DicePools.Text.Case
import DicePools.Text.Split

/-! Names and their keys: blanks dropped, each character lowercased on its own. -/

namespace DicePools
namespace Name

/-- The key of a name: blanks dropped, each character lowercased on its own. -/
def key (name : String) : String :=
  String.ofList ((name.toList.filter fun c => !Text.isBlank c).flatMap Text.lowerChar)

/-- A label for a key: the first character uppercased, and a space before every later
uppercase character. -/
def displayLabel (k : String) : String :=
  match k.toList with
  | [] => ""
  | c :: rest =>
    String.ofList (Text.upperChar c ++ rest.flatMap fun c => if Text.isUpper c then [' ', c] else [c])

/-- The keys of a comma separated list, empty keys dropped. -/
def splitKeys (text : String) : List String :=
  ((Text.splitAll text ',').map key).filter (· ≠ "")

example : key "Half Buried" = "halfburied" ∧ key "ΣΑΣ" = "σασ" ∧
    displayLabel "meleeCombat" = "Melee Combat" ∧ splitKeys "Melee Combat, , dodge" =
      ["meleecombat", "dodge"] := by decide

end Name
end DicePools
