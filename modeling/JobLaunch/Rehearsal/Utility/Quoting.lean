import JobLaunch.Rehearsal.Bytes

/-!
# Names in messages

* `Quoting.typographic` — a text between typographic quotes.
* `Quoting.shell` — a text in such quotes that a shell reads it back.
* `Quoting.shellIfNeeded` — the same, without quotes if none are needed.
-/

namespace JobLaunch.Rehearsal.Quoting

def octal (n : Nat) : List Char :=
  let digit (d : Nat) : Char := Char.ofNat (48 + d % 8)
  [digit (n / 64), digit (n / 8), digit n]

def isHidden (c : Char) : Bool :=
  c < ' ' || c == '\x7f' || (Bytes.firstStandIn ≤ c.toNat && c.toNat < Bytes.firstStandIn + 256)

/-- A character that is shown by a letter or by its number, after a backslash. -/
def escaped (c : Char) : List Char :=
  match c with
  | '\x07' => ['\\', 'a']
  | '\x08' => ['\\', 'b']
  | '\t' => ['\\', 't']
  | '\n' => ['\\', 'n']
  | '\x0b' => ['\\', 'v']
  | '\x0c' => ['\\', 'f']
  | '\r' => ['\\', 'r']
  | c => (Bytes.ofChar c).flatMap fun b => '\\' :: octal b.toNat

def typographic (text : String) : String :=
  let inside := text.toList.flatMap fun c =>
    if c == '\\' then ['\\', '\\'] else if isHidden c then escaped c else [c]
  "\u2018" ++ String.ofList inside ++ "\u2019"

def isSpecial (place length : Nat) (c : Char) : Bool :=
  " !\"$&()*;<=>[^\x60|\\?':".toList.contains c || isHidden c ||
    (place == 0 && (c == '#' || c == '~')) || (length == 1 && (c == '\x7b' || c == '\x7d'))

/-- A text between quotes, after some characters that are shown by escapes. -/
def runs : List Char → Bool → List Char
  | [], inEscapes => if inEscapes then ['\''] else []
  | c :: cs, inEscapes =>
    if isHidden c then
      (if inEscapes then [] else "'$'".toList) ++ escaped c ++ runs cs true
    else
      (if inEscapes then "''".toList else []) ++
        (if c == '\'' then "'\\''".toList else [c]) ++ runs cs false

def shell (text : String) : String :=
  let cs := text.toList
  let length := cs.length
  let plain (c : Char) : Bool := c.isAlphanum || "%+,-./:]_ '".toList.contains c || 0x80 ≤ c.toNat
  let special := cs.zipIdx.any fun (c, i) => !plain c && !(c == '\x7b' || c == '\x7d') &&
    isSpecial i length c
  if cs.contains '\'' && !special then "\"" ++ text ++ "\""
  else
    let ends := cs.getLast?.any isHidden
    "'" ++ String.ofList (runs cs false) ++ (if ends then "" else "'")

/-- A text in quotes if a shell would not read it back without them. -/
def shellIfNeeded (text : String) : String :=
  let cs := text.toList
  if cs.isEmpty || cs.zipIdx.any fun (c, i) => isSpecial i cs.length c then shell text else text

end JobLaunch.Rehearsal.Quoting
