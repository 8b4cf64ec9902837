import ImportScan.Text.Printable

/-!
# Escaped characters

Two ways to show a character in a message.  The first keeps printable ASCII only; the second, used
for quoted paths, keeps whatever has a shape of its own.

## Main definitions

* `hexDigits`, `hexValue?` — a number in lower-case hexadecimal digits, and the value of a digit.
* `escapeAscii` — a character as printable ASCII.
* `escapeQuoted`, `quoted` — a character inside quotes, and a whole quoted text.
-/

namespace ImportScan

/-- The lower-case hexadecimal digits of a number, without leading zeros. -/
def hexDigits (n : Nat) : String := String.ofList (Nat.toDigits 16 n)

/-- The value of a hexadecimal digit, in either case. -/
def hexValue? (c : Char) : Option Nat :=
  if c.isDigit then some (c.toNat - '0'.toNat)
  else if 'a' ≤ c && c ≤ 'f' then some (c.toNat - 'a'.toNat + 10)
  else if 'A' ≤ c && c ≤ 'F' then some (c.toNat - 'A'.toNat + 10)
  else none

/-- The number with some hexadecimal digits. -/
def hexNumber? (digits : List Char) : Option Nat :=
  (digits.mapM hexValue?).map fun vs => vs.foldl (fun n d => 16 * n + d) 0

/-- A character by its code point. -/
def escapeCode (c : Char) : String := "\\u\x7b" ++ hexDigits c.toNat ++ "\x7d"

/-- A character as printable ASCII: the three usual control characters, both quotes and the
backslash are escaped with a backslash, all else beyond printable ASCII by its code point. -/
def escapeAscii (c : Char) : String :=
  if c = '\t' then "\\t"
  else if c = '\r' then "\\r"
  else if c = '\n' then "\\n"
  else if c = '\x27' || c = '\x22' || c = '\\' then String.ofList ['\\', c]
  else if 0x20 ≤ c.toNat && c.toNat ≤ 0x7E then String.singleton c
  else escapeCode c

/-- A character inside quotes: as it is when it has a shape of its own. -/
def escapeQuoted (c : Char) : String :=
  if c = '\x00' then "\\0"
  else if c = '\t' then "\\t"
  else if c = '\r' then "\\r"
  else if c = '\n' then "\\n"
  else if c = '\x27' || c = '\x22' || c = '\\' then String.ofList ['\\', c]
  else if isGraphemeExtender c || !isPrintable c then escapeCode c
  else String.singleton c

/-- A text between double quotes, its characters escaped where needed. -/
def quoted (s : String) : String :=
  "\"" ++ String.join (s.toList.map escapeQuoted) ++ "\""

end ImportScan
