import TokenAuthority.Text.Printable

/-!
# Quoted text

A text between quotes, as messages quote what they were given. The quote, the backslash and the line
and tabulator characters have short escapes; any other character that is not printable is written by its
code.
-/

namespace TokenAuthority
namespace Text

/-- The hexadecimal digits of a code, in lower case. -/
def codeDigits (code : Nat) : List Char :=
  Nat.toDigits 16 code

def quotedChar (character : Char) : List Char :=
  if character = '"' then ['\\', '"']
  else if character = '\\' then ['\\', '\\']
  else if character = '\n' then ['\\', 'n']
  else if character = '\r' then ['\\', 'r']
  else if character = '\t' then ['\\', 't']
  else if character.toNat = 0 then ['\\', '0']
  else if isPrintable character then [character]
  else '\\' :: 'u' :: Char.ofNat 0x7b :: codeDigits character.toNat ++ [Char.ofNat 0x7d]

def quoted (text : String) : String :=
  String.ofList ('"' :: text.toList.flatMap quotedChar ++ ['"'])

end Text
end TokenAuthority
