import Relay.Text.Ascii
import Relay.Text.Visible

/-!
Texts between double quotes, as error messages show them: quotes and backslashes are escaped, and
so is every character that does not show by itself.
-/

namespace Relay.Quoted

def escape (c : Char) : List Char :=
  if c == '"' then ['\\', '"']
  else if c == '\\' then ['\\', '\\']
  else if c == '\n' then ['\\', 'n']
  else if c == '\r' then ['\\', 'r']
  else if c == '\t' then ['\\', 't']
  else if c.toNat == 0 then ['\\', '0']
  else if isVisible c then [c]
  else "\\u\x7b".toList ++ (Ascii.hexText c.toNat).toList ++ "\x7d".toList

def quote (s : String) : String :=
  String.ofList ('"' :: s.toList.flatMap escape ++ ['"'])

end Relay.Quoted
