import NodeDiagnostics.Text.Printable
import NodeDiagnostics.Text.Numeral

/-!
A text in double quotes in which everything that a reader could miss is spelled out: backslash
forms for the quote, the backslash and four control characters, and the code point in braces for
every other character that has no glyph or joins the one before it.
-/
namespace NodeDiagnostics.Text

def quotedChar (c : Char) : List Char :=
  if c = '\x00' then ['\\', '0']
  else if c = '\t' then ['\\', 't']
  else if c = '\n' then ['\\', 'n']
  else if c = '\r' then ['\\', 'r']
  else if c = '"' then ['\\', '"']
  else if c = '\\' then ['\\', '\\']
  else if isPrintable c && !isExtending c then [c]
  else ['\\', 'u', '\x7b'] ++ hex c.toNat ++ ['\x7d']

def quoted (s : String) : String :=
  String.ofList ('"' :: s.toList.flatMap quotedChar ++ ['"'])

example : quoted "a\"\\\u0301\u2003'é\x00" = "\"a\\\"\\\\\\u\x7b301\x7d\\u\x7b2003\x7d'é\\0\"" := by
  decide +kernel

end NodeDiagnostics.Text
