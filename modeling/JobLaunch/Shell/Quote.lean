import JobLaunch.Text.Blank

/-!
# Quoting for a POSIX shell

* `Shell.quote` — a word that a shell reads as the given text: unchanged if every character is
  plain, in single quotes otherwise.
* `Shell.quoteWords` — words on one line.
-/

namespace JobLaunch.Shell

/-- A character that a shell passes through unchanged. -/
def isPlain (c : Char) : Bool :=
  ('a' ≤ c && c ≤ 'z') || ('A' ≤ c && c ≤ 'Z') || Text.isDigit c || "_-./=:,+@%".toList.contains c

/-- A character inside single quotes; a single quote leaves them, is escaped, and enters them. -/
def quoteChar (c : Char) : List Char :=
  if c = '\x27' then ['\x27', '\\', '\x27', '\x27'] else [c]

/-- A word that a shell reads as the given characters. -/
def quoteChars (cs : List Char) : List Char :=
  if !cs.isEmpty && cs.all isPlain then cs
  else '\x27' :: cs.flatMap quoteChar ++ ['\x27']

/-- A word that a shell reads as the given text. -/
def quote (word : String) : String := String.ofList (quoteChars word.toList)

def quoteWords (words : List String) : String := " ".intercalate (words.map quote)

end JobLaunch.Shell
