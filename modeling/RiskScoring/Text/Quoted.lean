import RiskScoring.Text.Invisible

/-!
# Quoted text

`quoteVisibly` puts a text between quotes so that every character can be seen: quotes, backslashes
and line breaks are escaped, and invisible characters are written by their numbers.
-/

namespace RiskScoring

/-- A character between quotes. -/
def visibleChar (c : Char) : List Char :=
  if c = '"' then ['\\', '"']
  else if c = '\\' then ['\\', '\\']
  else if c = '\n' then ['\\', 'n']
  else if c = '\r' then ['\\', 'r']
  else if c = '\t' then ['\\', 't']
  else if c.toNat = 0 then ['\\', '0']
  else if isInvisible c then
    ['\\', 'u', '\x7b'] ++ Nat.toDigits 16 c.toNat ++ ['\x7d']
  else [c]

/-- A text between quotes, with every character visible. -/
def quoteVisibly (text : String) : String :=
  String.ofList ('"' :: (text.toList.flatMap visibleChar ++ ['"']))

end RiskScoring
