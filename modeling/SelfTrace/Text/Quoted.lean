import SelfTrace.Text.Shown
import SelfTrace.Text.Utf8

/-!
# Quoted text

Text between double quotes, as it is shown in messages: quotes and backslashes escaped, the
common controls by letter, every other character that is not shown as itself by its number.
-/

namespace SelfTrace.Text

/-- One character inside quotes; `single` escapes the single quote too. -/
def quotedChar (single : Bool) (c : Char) : List Char :=
  if c == '\t' then ['\\', 't']
  else if c == '\r' then ['\\', 'r']
  else if c == '\n' then ['\\', 'n']
  else if c.toNat == 0 then ['\\', '0']
  else if c == '\\' then ['\\', '\\']
  else if c == '"' then ['\\', '"']
  else if single && c == '\'' then ['\\', '\'']
  else if shown c then [c]
  else ['\\', 'u', '\x7b'] ++ hex c.toNat ++ ['\x7d']

/-- A text in quotes. -/
def quoted (s : String) : String :=
  String.ofList ('"' :: s.toList.flatMap (quotedChar false) ++ ['"'])

/-- One piece of a path inside quotes; octets that are no text are shown by number. -/
def quotedPiece : Piece → List Char
  | .char c => quotedChar true c
  | .junk bs => bs.flatMap fun b => ['\\', 'x'] ++ upperHexOctet b

/-- A path in quotes. -/
def quotedPath (bs : Bytes) : String :=
  String.ofList ('"' :: (scan bs).flatMap quotedPiece ++ ['"'])

end SelfTrace.Text
