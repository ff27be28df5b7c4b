-- Searching and joining texts by their characters.

namespace FlowGate.Text

def occurs (part : List Char) : List Char → Bool
  | [] => part.isEmpty
  | c :: rest => part.isPrefixOf (c :: rest) || occurs part rest

def replaceChar (c : Char) (others : List Char) (s : String) : String :=
  String.ofList (s.toList.flatMap fun d => if d = c then others else [d])

-- The pieces of a text between the occurrences of a character; there is always one more piece than there are
-- occurrences.
def splitChars (c : Char) : List Char → List (List Char)
  | [] => [[]]
  | d :: rest =>
    if d = c then [] :: splitChars c rest
    else match splitChars c rest with
      | [] => [[d]]
      | piece :: pieces => (d :: piece) :: pieces

end FlowGate.Text
