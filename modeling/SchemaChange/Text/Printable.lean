import SchemaChange.Text.Digits
import SchemaChange.Text.HiddenTable

/-!
# Text.Printable — texts in messages

A text in a message stands between double quotes; what would not show in it is written as an escape.

- `escapeHidden` : one character
- `printable`    : the whole text
-/

namespace SchemaChange
namespace Text

/-- The character does not show. -/
def isHidden (c : Char) : Bool :=
  let n := c.toNat
  n < 0x20 || n == 0x7F || (0x80 ≤ n && hiddenRanges.any fun range => range.1 ≤ n && n ≤ range.2)

def escapeHidden (c : Char) : List Char :=
  if c = '\x22' then ['\\', '\x22']
  else if c = '\\' then ['\\', '\\']
  else if c = '\t' then ['\\', 't']
  else if c = '\n' then ['\\', 'n']
  else if c = '\r' then ['\\', 'r']
  else if c.toNat = 0 then ['\\', '0']
  else if isHidden c then
    '\\' :: 'u' :: '\x7b' :: (hexadecimal c.toNat).toList ++ ['\x7d']
  else [c]

def printable (s : String) : String :=
  String.ofList ('\x22' :: s.toList.flatMap escapeHidden ++ ['\x22'])

end Text
end SchemaChange
