import GraphMapper.Text.LetterCase

/-!
# Names of options

Configuration files write the names of options in several ways: `UserName`, `userName`,
`User_Name`. They all stand for the name in small letters with an underscore between the
words. A capital starts a word, unless it follows another capital or an underscore.
-/

namespace GraphMapper.OptionName

/-- Whether an underscore goes between two neighbouring characters. -/
def startsWord (previous current : Char) : Bool :=
  Text.isCapital current && !Text.isCapital previous && previous != '_'

/-- The rest of a name in small letters, an underscore before each word. -/
def continued (previous : Char) : List Char → List Char
  | [] => []
  | c :: rest =>
    (if startsWord previous c then ['_'] else []) ++ Text.lowered c ++ continued c rest

/-- A name in small letters, with an underscore between its words. -/
def normalized : List Char → List Char
  | [] => []
  | c :: rest => Text.lowered c ++ continued c rest

/-- The option that a key of a configuration stands for, as far as its words go. -/
def ofKey (key : String) : String := String.ofList (normalized key.toList)

/-- Names in use for options that have another name. -/
def aliases : List (String × String) := [("user_name", "username")]

/-- The option that a key of a configuration stands for. -/
def resolved (key : String) : String :=
  let name := ofKey key
  (aliases.lookup name).getD name

end GraphMapper.OptionName
