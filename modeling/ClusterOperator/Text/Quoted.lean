import ClusterOperator.Text.Numeral
import ClusterOperator.Text.Printable

/-!
# Quoted text

A value shown to an operator stands between double quotes, so that blanks at its
ends and characters that would not show can be seen.  The quote, the backslash and
the common control characters have a short escape; every other character that is
not plain is written by its code point.
-/

namespace ClusterOperator.Text

/-- The written form of one character between the quotes. -/
def escapeQuoted (c : Char) : List Char :=
  if c = '\x00' then ['\\', '0']
  else if c = '\t' then ['\\', 't']
  else if c = '\r' then ['\\', 'r']
  else if c = '\n' then ['\\', 'n']
  else if c = '"' then ['\\', '"']
  else if c = '\\' then ['\\', '\\']
  else if isPlain c then [c]
  else ['\\', 'u', '\x7b'] ++ (hexDigits c.toNat).toList ++ ['\x7d']

/-- The text between double quotes, with what would not show escaped. -/
def quote (s : String) : String :=
  String.ofList ('"' :: s.toList.flatMap escapeQuoted ++ ['"'])

end ClusterOperator.Text
