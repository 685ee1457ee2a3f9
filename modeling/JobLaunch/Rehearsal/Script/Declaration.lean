import JobLaunch.Rehearsal.Script.Shell

/-!
# Texts that a shell reads back

* `quotedText`, `sparinglyQuoted`, `doublyQuoted` — a text in quotes.
* `Variable.declaration` — the command that declares a variable again.
-/

namespace JobLaunch.Rehearsal.Script

/-! ## Quotes -/

def quotedText (d : Dialect) (s : String) : String :=
  let pieces := (s.toList.splitOn '\'').map String.ofList
  match d with
  | .plain => if s.isEmpty then "''" else joined pieces 0
  | .extended => "'" ++ "'\\''".intercalate pieces ++ "'"
where
  quotes (n : Nat) : String :=
    if n = 0 then "" else "\"" ++ String.ofList (List.replicate n '\'') ++ "\""
  joined : List String → Nat → String
    | [], n => quotes n
    | p :: rest, n =>
      let more := if rest.isEmpty then 0 else 1
      if p.isEmpty then joined rest (n + more) else quotes n ++ "'" ++ p ++ "'" ++ joined rest more

def isHidden (c : Char) : Bool := c < ' ' || c = '\x7f'

def escapedText (text : String) : String :=
  let shown (c : Char) : String := match c with
    | '\n' => "\\n"
    | '\t' => "\\t"
    | '\r' => "\\r"
    | '\x07' => "\\a"
    | '\x08' => "\\b"
    | '\x0b' => "\\v"
    | '\x0c' => "\\f"
    | '\x1b' => "\\E"
    | '\\' => "\\\\"
    | '\'' => "\\'"
    | c =>
      if isHidden c then
        let ds := Nat.toDigits 8 c.toNat
        "\\" ++ String.ofList (List.replicate (3 - ds.length) '0' ++ ds)
      else c.toString
  "$'" ++ "".intercalate (text.toList.map shown) ++ "'"

/-- A text that the shell reads back, with as few quotes as possible. -/
def sparinglyQuoted (text : String) : String :=
  let cs := text.toList
  if cs.isEmpty then "''"
  else if cs.any isHidden then escapedText text
  else
    let special := " '\"\\|&;()<>!\x7b\x7d*[]?^$\x60,".toList
    String.ofList ((cs.zipIdx).flatMap fun (c, i) =>
      if special.contains c || (i = 0 && (c = '#' || c = '~')) then ['\\', c] else [c])

def singlyQuoted (text : String) : String :=
  if text.toList.any isHidden then escapedText text else quotedText .extended text

def doublyQuoted (text : String) : String :=
  if text.toList.any isHidden then escapedText text
  else "\"" ++ String.ofList (text.toList.flatMap fun c =>
    if "\"\\$\x60".toList.contains c then ['\\', c] else [c]) ++ "\""

/-! ## Declarations -/

def Variable.letters (v : Variable) : String :=
  (match v.table with
    | some t => if t.isNamed then "A" else "a"
    | none => "") ++
  (if v.isInteger then "i" else "") ++ (if v.isReference then "n" else "") ++
  (if v.fixed then "r" else "") ++ (if v.exported then "x" else "") ++
  (match v.casing with
    | some .capital => "c"
    | some .lower => "l"
    | some .upper => "u"
    | none => "")

def Table.text (t : Table) : String :=
  let key (k : String) : String :=
    if t.isNamed && (k.isEmpty || !k.toList.all isNameChar) then doublyQuoted k else k
  let entries := (t.keys.zip t.values).map fun (k, s) => "[" ++ key k ++ "]=" ++ doublyQuoted s
  "(" ++ " ".intercalate entries ++ (if t.isNamed && !entries.isEmpty then " )" else ")")

def Variable.declaration (v : Variable) (name : String) : String :=
  let value := match v.table, v.value with
    | some t, _ => if v.isBare then "" else "=" ++ t.text
    | none, some s => "=" ++ doublyQuoted s
    | none, none => ""
  "declare -" ++ (if v.letters.isEmpty then "-" else v.letters) ++ " " ++ name ++ value

end JobLaunch.Rehearsal.Script
