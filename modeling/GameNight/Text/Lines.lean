/-!
# GameNight.Text.Lines

Lines in a file.

Written, every line ends with a line feed.  Read, a line ends at a line feed
or at the end of the text, and a carriage return right before a line feed
belongs to the line's end; any other carriage return is part of the line.
-/

namespace GameNight.Text.Lines

/-- Lines as one text. -/
def join (lines : List (List Char)) : List Char := lines.flatMap (· ++ ['\n'])

/-- A line without the carriage return at its end.  The line is given last
character first. -/
def dropReturn : List Char → List Char
  | '\r' :: cs => cs
  | cs => cs

/-- The lines of a text whose first line began with `line`, given last
character first. -/
def splitAfter (line : List Char) : List Char → List (List Char)
  | [] => if line = [] then [] else [line.reverse]
  | c :: cs =>
    if c = '\n' then (dropReturn line).reverse :: splitAfter [] cs
    else splitAfter (c :: line) cs

/-- The lines of a text. -/
def split (cs : List Char) : List (List Char) := splitAfter [] cs

/-- Lines as the bytes of a file. -/
def encode (lines : List String) : ByteArray :=
  (String.ofList (join (lines.map String.toList))).toUTF8

/-- The lines of a file, if its bytes are text. -/
def decode? (bytes : ByteArray) : Option (List String) :=
  (String.fromUTF8? bytes).map fun s => (split s.toList).map String.ofList

end GameNight.Text.Lines
