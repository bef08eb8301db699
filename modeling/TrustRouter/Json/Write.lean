import TrustRouter.Json.Basic

/-! # Writing JSON

Compact JSON: no blanks, members in the order of the object. A string is written as it is except
for the quote, the backslash and the characters below the space, which no JSON string may hold
unescaped. Nothing written contains a line feed, whatever the value.

## What it stands for

`Json.chars` stands for two writers: that of `serde_json`, for the lines of an audit log, and that
of `serde_jcs`, for reports, whose values have their members in ascending order of the keys already.
What is relied on is documented behaviour of both:

* **Strings are escaped** (`escape`): `"` and `\` behind a backslash, and every character below
  U+0020 as one of `\b`, `\t`, `\n`, `\f` and `\r` or by its code behind `\u00`, in lower case. All
  other characters stand for themselves. That an audit log has one line for each event, and that no
  text of a document can forge one, rests on this.
* Nothing is written between the values, commas, colons and brackets.
* A number is written in as few digits as read back as it (`Number.chars`). Those of reports are
  integers, written in decimal.
-/

namespace TrustRouter.Json

/-- A hexadecimal digit below sixteen, in lower case. -/
def hexDigit (n : Nat) : Char := Nat.digitChar n

/-- A character inside a string. -/
def escape (c : Char) : List Char :=
  match c with
  | '"' => ['\\', '"']
  | '\\' => ['\\', '\\']
  | '\x08' => ['\\', 'b']
  | '\t' => ['\\', 't']
  | '\n' => ['\\', 'n']
  | '\x0c' => ['\\', 'f']
  | '\r' => ['\\', 'r']
  | c =>
    if c < ' ' then ['\\', 'u', '0', '0', hexDigit (c.toNat / 16), hexDigit (c.toNat % 16)]
    else [c]

/-- A string between quotes. -/
def quote (s : String) : List Char := '"' :: (s.toList.flatMap escape ++ ['"'])

mutual

/-- A value written compactly. -/
def chars : Json → List Char
  | .null => "null".toList
  | .bool true => "true".toList
  | .bool false => "false".toList
  | .number n => n.chars
  | .string s => quote s
  | .array [] => ['[', ']']
  | .array (v :: items) => '[' :: (v.chars ++ itemChars items)
  | .object [] => ['{', '}']
  | .object ((key, v) :: members) => '{' :: (quote key ++ ':' :: (v.chars ++ memberChars members))

/-- The elements after the first, and the end of the array. -/
def itemChars : List Json → List Char
  | [] => [']']
  | v :: items => ',' :: (v.chars ++ itemChars items)

/-- The members after the first, and the end of the object. -/
def memberChars : List (String × Json) → List Char
  | [] => ['}']
  | (key, v) :: members => ',' :: (quote key ++ ':' :: (v.chars ++ memberChars members))

end

/-- A value as compact text. -/
def text (v : Json) : String := String.ofList v.chars

/-! ### Objects of written values -/

/-- The members after the first, with their values written already, and the end of the object. -/
def writtenMembers : List (String × List Char) → List Char
  | [] => ['}']
  | (key, value) :: members => ',' :: (quote key ++ ':' :: (value ++ writtenMembers members))

/-- An object whose values are written already; they may be numbers that no value holds. -/
def writtenObject : List (String × List Char) → List Char
  | [] => ['{', '}']
  | (key, value) :: members => '{' :: (quote key ++ ':' :: (value ++ writtenMembers members))

end TrustRouter.Json
