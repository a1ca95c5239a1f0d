import Resilience.Text.Char
import Resilience.Text.Hidden
/-! # Escaped text

Text in double quotes that shows every character: quotes, backslashes and the common controls
by an escape, any other hidden character by its number. In a query letters, digits and four marks
stand for themselves, a plus sign for a blank, and every other byte is written by its number.
-/
namespace Resilience.Text

def quotedChar (c : Char) : List Char :=
  match c with
  | '"' => ['\\', '"']
  | '\\' => ['\\', '\\']
  | '\n' => ['\\', 'n']
  | '\r' => ['\\', 'r']
  | '\t' => ['\\', 't']
  | c =>
    if c.toNat = 0 then ['\\', '0']
    else if isHidden c then ['\\', 'u', '{'] ++ Nat.toDigits 16 c.toNat ++ ['}']
    else [c]

def quoted (s : String) : String :=
  String.ofList ('"' :: (s.toList.flatMap quotedChar ++ ['"']))

def formByte (b : UInt8) : List Char :=
  let c := Char.ofNat b.toNat
  if c.isAlphanum || c = '*' || c = '-' || c = '.' || c = '_' then [c]
  else if c = ' ' then ['+']
  else ['%', (hexDigit (b.toNat / 16)).toUpper, (hexDigit (b.toNat % 16)).toUpper]

def formEncoded (s : String) : String :=
  String.ofList (s.toUTF8.toList.flatMap formByte)

end Resilience.Text
