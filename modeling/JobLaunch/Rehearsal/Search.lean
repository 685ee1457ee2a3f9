import JobLaunch.Rehearsal.Regex

/-!
# Searching in lines

A search goes through the lines of a file and shows those with a match, with lines around them if
they are wanted.

* `Search` — what is searched for, and what is shown of lines.
* `Search.Progress` — how far a search has come.
* `Search.line`, `Search.lines` — what lines do to a search.
-/

namespace JobLaunch.Rehearsal

structure Search where
  patterns : List Regex
  folds : Bool := false
  inverts : Bool := false
  wholeLine : Bool := false
  wholeWord : Bool := false
  counts : Bool := false
  onlyMatches : Bool := false
  numbers : Bool := false
  places : Bool := false
  silent : Bool := false
  names : Option Bool := none
  most : Option Nat := none
  before : Option Nat := none
  after : Option Nat := none
  divider : Option String := some "--"
  stop : UInt8 := 10
  zeros : Bool := false
  tab : Option Nat := none
  takesAll : Bool := false
  colors : Bool := false
  deriving Inhabited

namespace Search

/-- How far a search has come. -/
structure Progress where
  number : Nat := 0
  place : Nat := 0
  found : Nat := 0
  foundEnd : Nat := 0
  /-- The last lines, which may have to be shown before a match; the last one comes first. -/
  recent : List (Nat × Nat × Bytes) := []
  left : Nat := 0
  shown : Option Nat := none
  begun : Bool := false
  isHidden : Bool := false
  isBroken : Bool := false
  isOver : Bool := false
  deriving Inhabited

def showsLines (s : Search) : Bool := !s.counts && !s.silent && s.names.isNone

/-! ## Matches -/

def matchFrom (s : Search) (f : Regex.Field) (place : Nat) : Option Regex.Match :=
  let fits (start finish : Nat) : Bool :=
    (!s.wholeLine || (start = 0 && finish = f.chars.size)) &&
      (!s.wholeWord || ((start = 0 || !f.isWord (start - 1)) && !f.isWord finish))
  let all := s.patterns.filterMap fun r =>
    if s.wholeLine || s.wholeWord then
      ((List.range (f.chars.size + 1 - place)).findSome? fun i =>
        -- Of the matches at a place the longest one that fits is taken.
        let start := place + i
        match r.matchAt? f start with
        | none => none
        | some m =>
          if fits start m.finish then some m
          else
            let good := (r.ends f [start]).filter (fits start)
            if good.isEmpty || r.hasReference then none else some ⟨start, good.foldl max 0, []⟩)
    else r.find? f place
  all.foldl (fun best m =>
    match best with
    | none => some m
    | some b =>
      if m.start < b.start || (m.start = b.start && b.finish < m.finish) then some m else best) none

def allMatches (s : Search) (f : Regex.Field) : Nat → Nat → List Regex.Match
  | 0, _ => []
  | n + 1, place =>
    match s.matchFrom f place with
    | none => []
    | some m =>
      if m.finish = m.start then allMatches s f n (m.start + 1)
      else m :: allMatches s f n m.finish

/-! ## Showing lines -/

def painted (s : Search) (color text : String) : String :=
  if s.colors && !text.isEmpty then "\x1b[" ++ color ++ "m\x1b[K" ++ text ++ "\x1b[m\x1b[K" else text

def signed (s : Search) (sign : Char) : String := s.painted "36" (String.ofList [sign])

def titled (s : Search) (title : String) (sign : Char) : String :=
  s.painted "35" title ++ if s.zeros then "\x00" else s.signed sign

def numbered (s : Search) (n : Nat) (sign : Char) : String :=
  let text := Decimal.text n
  let blanks := String.ofList (List.replicate (s.tab.getD 0 - text.length) ' ')
  s.painted "32" (blanks ++ text) ++ s.signed sign

def label (s : Search) (title : Option String) (sign : Char) (number place : Nat) : Bytes :=
  let text := (title.map (s.titled · sign)).getD "" ++
    (if s.numbers then s.numbered number sign else "") ++
    if s.places then s.numbered place sign else ""
  Bytes.ofText (if s.tab.isSome && !text.isEmpty then text ++ "\t" else text)

def body (s : Search) (isMatch : Bool) (bytes : Bytes) : Bytes :=
  if s.colors && isMatch && !s.inverts then
    let f : Regex.Field := { chars := (Bytes.chars bytes).toArray, folds := s.folds }
    let chars := f.chars.toList
    let (out, place) := (s.allMatches f (f.chars.size + 2) 0).foldl (fun (r : String × Nat) m =>
      let part (i j : Nat) : String := String.ofList ((chars.take j).drop i)
      (r.1 ++ part r.2 m.start ++ s.painted "01;31" (part m.start m.finish), m.finish)) ("", 0)
    Bytes.ofText (out ++ String.ofList (chars.drop place))
  else bytes

def isBroken (s : Search) (bytes : Bytes) : Bool :=
  !s.takesAll && bytes.any (0x80 ≤ ·) && (Bytes.chars bytes).any (Bytes.firstStandIn ≤ ·.toNat)

/-- Shows lines, with a mark before them if lines have been left out. A line that is no text is not
shown. -/
def showLines (s : Search) (title : Option String) (lines : List (Nat × Nat × Char × Bytes))
    (p : Progress) : Bytes × Progress :=
  lines.foldl (fun (r : Bytes × Progress) (number, place, sign, bytes) =>
    let (out, p) := r
    if s.isBroken bytes then (out, { p with isBroken := true, isOver := !s.inverts })
    else
      let hasGap := p.begun && p.shown.all (· + 1 < number)
      let mark := match s.divider with
        | some text =>
          if (s.before.isSome || s.after.isSome) && hasGap then s.painted "36" text ++ "\n" else ""
        | none => ""
      (out ++ Bytes.ofText mark ++ s.label title sign number place ++ s.body (sign = ':') bytes ++
        [s.stop], { p with shown := some number, begun := true })) ([], p)

def showMatches (s : Search) (title : Option String) (f : Regex.Field) (number place : Nat)
    (p : Progress) : Bytes × Progress :=
  let chars := f.chars.toList
  (s.allMatches f (f.chars.size + 2) 0).foldl (fun (r : Bytes × Progress) m =>
    let (out, p) := r
    let bytes := Bytes.ofChars ((chars.take m.finish).drop m.start)
    if p.isBroken then r
    else if s.isBroken bytes then (out, { p with isBroken := true, isOver := true })
    else
      let origin := place + (Bytes.ofChars (chars.take m.start)).length
      let text := if s.colors then Bytes.ofText (s.painted "01;31" (Bytes.text bytes)) else bytes
      (out ++ s.label title ':' number origin ++ text ++ [s.stop], { p with begun := true })) ([], p)

/-! ## Lines -/

def hit (s : Search) (title : Option String) (f : Regex.Field) (bytes : Bytes) (start : Nat)
    (p : Progress) : Bytes × Progress :=
  let found := p.found + 1
  let after := s.after.getD 0
  let p := { p with found, foundEnd := p.place, isOver := s.most.any (· ≤ found) && after = 0, left := after }
  if s.silent || s.names.isSome then ([], { p with isOver := true })
  else if s.counts then ([], p)
  else if p.isHidden then ([], { p with isOver := true })
  else if s.onlyMatches then
    if s.inverts then ([], p) else s.showMatches title f p.number start p
  else
    let before := (p.recent.take (s.before.getD 0)).reverse.filter fun r => p.shown.all (· < r.1)
    let (out, p) := s.showLines title
      (before.map (fun (n, i, b) => (n, i, '-', b)) ++ [(p.number, start, ':', bytes)]) p
    (out, { p with recent := [] })

def line (s : Search) (title : Option String) (bytes : Bytes) (p : Progress) : Bytes × Progress :=
  let start := p.place
  let p := { p with number := p.number + 1, place := p.place + bytes.length + 1 }
  let isSpent := s.most.any (· ≤ p.found)
  let f : Regex.Field := { chars := (Bytes.chars bytes).toArray, folds := s.folds }
  if !isSpent && (s.matchFrom f 0).isSome != s.inverts then s.hit title f bytes start p
  else
    let p := { p with recent := (p.number, start, bytes) :: p.recent.take (s.before.getD 0) }
    if 0 < p.left && s.showsLines && !s.onlyMatches then
      let (out, p) := s.showLines title [(p.number, start, '-', bytes)] p
      (out, { p with left := p.left - 1, isOver := p.isOver || (p.left ≤ 1 && isSpent) })
    else ([], if isSpent || p.isBroken then { p with isOver := true } else p)

def lines (s : Search) (title : Option String) :
    List Bytes → Progress → List Bytes → Bytes × Progress
  | [], p, out => (out.reverse.flatten, p)
  | bytes :: rest, p, out =>
    if p.isOver then (out.reverse.flatten, p)
    else
      let (shown, p) := s.line title bytes p
      lines s title rest p (shown :: out)

end Search

end JobLaunch.Rehearsal
