import TrustRouter.Json.Token

/-! # Reading JSON

The grammatical half of JSON: a machine that takes one token at a time and keeps the containers
that are open. `Reader.step` is undefined exactly where the grammar has no rule, so a text is JSON
when the machine runs through all its tokens and ends with one complete value and nothing open
(`Json.ofTokens?`, `Json.ofText?`). Folding over tokens needs no recursion on the nesting, and the
depth of nesting is the number of open containers, which may be at most `maxDepth`.

## What it stands for

`Json.ofText?` stands for the reader of the library `serde_json`. What is relied on is documented
behaviour of that library:

* a text is one value by the JSON grammar, with blanks around it and nothing else;
* a string holds no control character unescaped and no escape of a lone surrogate;
* an integer that fits into 64 bits is kept, and every other number is the nearest double; a number
  without a finite one is refused;
* of several members with one key the last counts (`Json.Members.lookup`);
* the 128th container open at once is refused.

In what **words** a text is refused is left open (`Json.Diagnosis`). They may be any function of the
text, and whatever is proved of documents holds for all such functions.
-/

namespace TrustRouter.Json

/-- The number of containers that may be open at once. -/
def maxDepth : Nat := 127

/-- An open container with what it holds so far, latest first. -/
inductive Frame where
  /-- An array, one of whose elements is being read. -/
  | element (before : List Json)
  /-- An object, the value of whose member `key` is being read. -/
  | member (before : Members) (key : String)

/-- What the machine expects next. `stack` holds the open containers, innermost first; the object
whose key or colon is expected is not among them. -/
inductive Reader where
  /-- A value, or the end of an array just begun when `first` is set. -/
  | value (stack : List Frame) (first : Bool)
  /-- A key, or the end of an object just begun when `first` is set. -/
  | key (stack : List Frame) (before : Members) (first : Bool)
  /-- The colon after a key. -/
  | colon (stack : List Frame) (before : Members) (key : String)
  /-- A comma or the end of the innermost container, or the end of the text. -/
  | after (stack : List Frame) (v : Json)

namespace Reader

/-- The value that a token is by itself. -/
def scalar? : Token → Option Json
  | .null => some .null
  | .bool b => some (.bool b)
  | .number n => some (.number n)
  | .string s => some (.string s)
  | _ => none

/-- Takes one token. -/
def step : Reader → Token → Option Reader
  | .value stack _, .beginArray =>
    if stack.length < maxDepth then some (.value (.element [] :: stack) true) else none
  | .value stack _, .beginObject =>
    if stack.length < maxDepth then some (.key stack [] true) else none
  | .value (.element [] :: stack) true, .endArray => some (.after stack (.array []))
  | .value stack _, t => (scalar? t).map (.after stack)
  | .key stack before _, .string k => some (.colon stack before k)
  | .key stack [] true, .endObject => some (.after stack (.object []))
  | .colon stack before k, .colon => some (.value (.member before k :: stack) false)
  | .after (.element before :: stack) v, .comma =>
    some (.value (.element (v :: before) :: stack) false)
  | .after (.element before :: stack) v, .endArray =>
    some (.after stack (.array (v :: before).reverse))
  | .after (.member before k :: stack) v, .comma => some (.key stack ((k, v) :: before) false)
  | .after (.member before k :: stack) v, .endObject =>
    some (.after stack (.object ((k, v) :: before).reverse))
  | _, _ => none

/-- The value read, when it is complete and nothing is open. -/
def result? : Reader → Option Json
  | .after [] v => some v
  | _ => none

end Reader

/-- The value of a sequence of tokens. -/
def ofTokens? (ts : List Token) : Option Json :=
  (ts.foldlM Reader.step (.value [] false)).bind Reader.result?

/-- The value of a text, or none when the text is no JSON. -/
def ofText? (s : String) : Option Json := (tokens s.toList).bind ofTokens?

/-! ### Texts that are no JSON -/

/-- What the reader says about a text that is no JSON. -/
class Diagnosis where
  words : String → String

/-- The words in which the program refuses a text. For a text of blanks, which ends where a value is
expected, they are those of the library, with the line and the column of its end. -/
instance : Diagnosis where
  words text :=
    if text.toList.all isBlank then
      let line := text.toList.count '\n' + 1
      let column := (text.toList.reverse.takeWhile (· ≠ '\n')).length
      "EOF while parsing a value at line " ++ toString line ++ " column " ++ toString column
    else "no JSON value"

end TrustRouter.Json
