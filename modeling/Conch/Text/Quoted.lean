import Conch.Text.Printable
/-!
The quoted form of a text, as error messages show names: the text between single quotes, or
between double quotes when it holds a single quote and no double quote. Inside, the chosen quote
and the backslash get a backslash, tab, line feed and carriage return are written `\t`, `\n` and
`\r`, other characters that are not printable are written as hexadecimal escapes of two, four or
eight digits, and printable characters stand for themselves.
-/

namespace Conch.Text

/-- The lowercase hexadecimal digits of `n`, padded with zeros to `width` digits. -/
def hexDigits (width n : Nat) : String :=
  let ds := Nat.toDigits 16 n
  String.ofList (List.replicate (width - ds.length) '0' ++ ds)

/-- How one character is written inside quotes `q`. -/
def quoteChar (q c : Char) : String :=
  if c = q || c = '\\' then String.ofList ['\\', c]
  else if c = '\t' then "\\t"
  else if c = '\n' then "\\n"
  else if c = '\r' then "\\r"
  else if isPrintable c then String.singleton c
  else if c.toNat < 0x100 then "\\x" ++ hexDigits 2 c.toNat
  else if c.toNat < 0x10000 then "\\u" ++ hexDigits 4 c.toNat
  else "\\U" ++ hexDigits 8 c.toNat

/-- The quote character a text is written between. -/
def quoteFor (s : String) : Char :=
  if s.contains '\'' && !s.contains '"' then '"' else '\''

/-- The quoted form of a text. -/
def quote (s : String) : String :=
  let q := quoteFor s
  String.singleton q ++ String.join (s.toList.map (quoteChar q)) ++ String.singleton q


example : quote "a.txt" = "'a.txt'" := by cbv
example : quote "it's" = "\"it's\"" := by cbv
example : quote "a\tb\x01\\" = "'a\\tb\\x01\\\\'" := by cbv

end Conch.Text
