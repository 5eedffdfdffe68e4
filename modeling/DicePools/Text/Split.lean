/-! Cutting a string at the first occurrence of a character, and at every occurrence. -/

namespace DicePools
namespace Text

/-- The text before and after the first occurrence of `sep`. -/
def splitOnce (s : String) (sep : Char) : Option (String × String) :=
  let cs := s.toList
  if cs.contains sep then
    some (String.ofList (cs.takeWhile (· != sep)), String.ofList ((cs.dropWhile (· != sep)).drop 1))
  else none

/-- The pieces of a character list between occurrences of `sep`, empty pieces included. -/
def splitChars (sep : Char) : List Char → List (List Char)
  | [] => [[]]
  | c :: cs =>
    if c = sep then [] :: splitChars sep cs
    else match splitChars sep cs with
      | p :: ps => (c :: p) :: ps
      | [] => [[c]]

/-- The pieces between occurrences of `sep`, empty pieces included. -/
def splitAll (s : String) (sep : Char) : List String := (splitChars sep s.toList).map String.ofList

theorem splitChars_ne_nil (sep : Char) (cs : List Char) : splitChars sep cs ≠ [] := by
  induction cs with
  | nil => simp [splitChars]
  | cons c cs ih =>
    unfold splitChars
    split
    · simp
    · split <;> simp

example : splitOnce "2d8d6" 'd' = some ("2", "8d6") ∧ splitOnce "x" 'd' = none ∧
    splitAll "a,,b" ',' = ["a", "", "b"] ∧ splitAll "" ',' = [""] := by decide

end Text
end DicePools
