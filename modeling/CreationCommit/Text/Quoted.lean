import CreationCommit.Text.Graphic

/-!
# Quoted texts

A quoted text stands between double quotes.  Within it the double quote, the
backslash, the tab, the line ends and the null character have an escape of
their own, every other character that is not graphic is written by its code,
and a graphic character stands for itself.
-/

namespace CreationCommit.Text

def escape (c : Char) : List Char :=
  if c = '"' then ['\\', '"']
  else if c = '\\' then ['\\', '\\']
  else if c = '\t' then ['\\', 't']
  else if c = '\r' then ['\\', 'r']
  else if c = '\n' then ['\\', 'n']
  else if c = '\x00' then ['\\', '0']
  else if isGraphic c then [c]
  else ['\\', 'u', '\x7b'] ++ Nat.toDigits 16 c.toNat ++ ['\x7d']

def quote (text : String) : String :=
  String.ofList ('"' :: text.toList.flatMap escape ++ ['"'])

end CreationCommit.Text
