import RemoteMounts.Text.Hidden

/-!
# Text in display quotes

A rejected value is shown in a message between double quotes, so that the reader sees where it
begins and ends and which characters it holds: quotes and backslashes are escaped, the common
controls by a letter, and a hidden character by its number.
-/

namespace RemoteMounts.Text

/-- The code point in hexadecimal, lower case and without leading zeros. -/
def hexadecimal (n : Nat) : List Char :=
  Nat.toDigits 16 n

def displayChar (c : Char) : List Char :=
  match c with
  | '"' => ['\\', '"']
  | '\\' => ['\\', '\\']
  | '\n' => ['\\', 'n']
  | '\r' => ['\\', 'r']
  | '\t' => ['\\', 't']
  | '\x00' => ['\\', '0']
  | c => if isHidden c then "\\u\x7b".toList ++ hexadecimal c.toNat ++ ['}'] else [c]

def quoted (s : String) : String :=
  String.ofList ('"' :: (s.toList.flatMap displayChar ++ ['"']))

end RemoteMounts.Text
