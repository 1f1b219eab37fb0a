import GraphQL.Text.Marks
import GraphQL.Text.Unprintable

/-! Quoted names, as they appear in descriptions.

Inside the quotes a quote and a backslash are escaped, as is every character that
would not show: line ends, tabs and the null character by a letter or a digit, other
unprintable characters and marks by their code in hexadecimal. -/
namespace GraphQL.Text

def escapeQuoted (c : Char) : List Char :=
  match c with
  | '"' => ['\\', '"']
  | '\\' => ['\\', '\\']
  | '\n' => ['\\', 'n']
  | '\r' => ['\\', 'r']
  | '\t' => ['\\', 't']
  | '\x00' => ['\\', '0']
  | c =>
    if isUnprintable c || isMark c then
      '\\' :: 'u' :: '\x7b' :: (Nat.toDigits 16 c.toNat ++ ['\x7d'])
    else [c]

def quoted (s : String) : String := String.ofList ('"' :: (s.toList.flatMap escapeQuoted ++ ['"']))

end GraphQL.Text
