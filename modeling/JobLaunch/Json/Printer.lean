import JobLaunch.Json.Basic
import JobLaunch.Text.Decimal

/-!
# Writing JSON text

* `Json.render` — the text of a value without blanks; quotes, backslashes and control characters
  are escaped, all else stands for itself.
-/

namespace JobLaunch.Json

/-- A lower-case hexadecimal digit. -/
def hexChar (d : Nat) : Char :=
  if d < 10 then Char.ofNat (48 + d) else Char.ofNat (87 + d)

/-- A character as it stands in a string. -/
def escapeChar (c : Char) : List Char :=
  if c = '"' then ['\\', '"']
  else if c = '\\' then ['\\', '\\']
  else if c = '\x08' then ['\\', 'b']
  else if c = '\t' then ['\\', 't']
  else if c = '\n' then ['\\', 'n']
  else if c = '\x0c' then ['\\', 'f']
  else if c = '\r' then ['\\', 'r']
  else if c.toNat < 0x20 then
    ['\\', 'u', '0', '0', hexChar (c.toNat / 16), hexChar (c.toNat % 16)]
  else [c]

def quoted (cs : List Char) : List Char := '"' :: cs.flatMap escapeChar ++ ['"']

/-- The text of a string or a key; one that no text holds is written as half a pair. -/
def stringChars : Option String → List Char
  | some s => quoted s.toList
  | none => ['"', '\\', 'u', 'd', '8', '0', '0', '"']

def numberChars : Number → List Char
  | .integer i => Decimal.ofInt i
  | .decimal negative s e =>
    (if negative then ['-'] else []) ++ Decimal.digits s ++ 'e' :: Decimal.ofInt e

mutual
def chars : Json → List Char
  | .null => ['n', 'u', 'l', 'l']
  | .bool true => ['t', 'r', 'u', 'e']
  | .bool false => ['f', 'a', 'l', 's', 'e']
  | .number n => numberChars n
  | .string t => stringChars t
  | .array [] => ['[', ']']
  | .array (j :: js) => '[' :: chars j ++ moreElements js
  | .object [] => ['\x7b', '\x7d']
  | .object ((k, j) :: ms) => '\x7b' :: stringChars k ++ ':' :: chars j ++ moreMembers ms

/-- The rest of an array after an element. -/
def moreElements : List Json → List Char
  | [] => [']']
  | j :: js => ',' :: chars j ++ moreElements js

/-- The rest of an object after a member. -/
def moreMembers : List (Option String × Json) → List Char
  | [] => ['\x7d']
  | (k, j) :: ms => ',' :: stringChars k ++ ':' :: chars j ++ moreMembers ms
end

def render (j : Json) : String := String.ofList j.chars

end JobLaunch.Json
