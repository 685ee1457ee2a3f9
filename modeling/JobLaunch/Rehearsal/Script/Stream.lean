import JobLaunch.Rehearsal.Script.Expansion

/-!
# Redirecting streams

* `Opening` — what a stream is redirected to, once all words have been expanded.
* `Sh.redirect` — redirects streams and keeps what they were.
* `Sh.withStreams` — does something while streams are redirected.
-/

namespace JobLaunch.Rehearsal.Script

inductive Opening where
  | file (stream : Nat) (use : FileUse) (path : String)
  | copy (stream : Nat) (source : Option Nat)
  | text (stream : Nat) (bytes : Bytes)
  | refused (reason : String)
  | numbered (variableName : String) (opening : Opening)
  deriving Inhabited

def Opening.at (n : Nat) : Opening → Opening
  | file _ use path => file n use path
  | copy _ source => copy n source
  | text _ bytes => text n bytes
  | o => o

/-- A stream with the number under which it is kept, if it was open. -/
abbrev Kept := List (Nat × Option Nat)

def firstKept : Nat := 10

namespace Sh

def fileOpenings (nested : Runner) (w : Word) (openings : String → List Opening) :
    Sh (List Opening) := do
  if ← isExtended then
    match ← fieldsOf nested w with
    | [path] => pure (openings path)
    | _ => pure [.refused (wordText w ++ ": ambiguous redirect")]
  else return openings (← textOf nested (← withHome w))

def openings (nested : Runner) : Redirection → Sh (List Opening)
  | .file n use w => fileOpenings nested w fun path => [.file n use path]
  | .everything append w => fileOpenings nested w fun path =>
    [.file 1 (if append then .append else .write) path, .copy 2 (some 1)]
  | .document n number => do
    let text ← textOf nested (((← get).documents[number]?).getD [])
    return [.text n (Bytes.ofText text)]
  | .inline n w => do
    let text ← textOf nested (← withHome w)
    return [.text n (Bytes.ofText (text ++ "\n"))]
  | .copy n w => do
    let text ← textOf nested w
    let extended ← isExtended
    if text = "-" then return [.copy n none]
    else if !text.isEmpty && text.toList.all Text.isDigit && (extended || text.length = 1) then
      return [.copy n (some (Decimal.value text.toList))]
    else if extended then
      if n = 1 && !text.isEmpty then return [.file 1 .write text, .copy 2 (some 1)]
      else return [.refused (wordText w ++ ": ambiguous redirect")]
    else fail "Syntax error: Bad fd number"
  | .numbered name r => do
    let isClosing : Bool ← match r with
      | .copy _ w => do pure ((← textOf nested w) == "-")
      | _ => pure false
    if isClosing then
      let (x, key) := nameAndKey name
      let text ← match key with
        | none => value x
        | some key => do
          let key ← keyOf x key
          pure (((← values? x).bind (·.get? key)).getD "")
      if !text.isEmpty && text.toList.all Text.isDigit then
        return [.copy (Decimal.value text.toList) none]
      else return [.refused (name ++ ": ambiguous redirect")]
    else return (← openings nested r).map (.numbered name ·)

def modeOf : FileUse → OpenMode
  | .read => .input
  | .write | .overwrite => .output
  | .append => .appending
  | .readWrite => .both

def refusalOf (use : FileUse) (path : String) (e : OsError) : Sh String := do
  if ← isExtended then
    pure (path ++ ": " ++ if e matches .alreadyExists then "cannot overwrite existing file"
      else e.reason)
  else
    let (verb, action) := match use with
      | .read => ("open", FileAction.opening)
      | _ => ("create", .creating)
    pure ("cannot " ++ verb ++ " " ++ path ++ ": " ++ errorText e action)

def keep (n : Nat) (kept : Kept) : Sh Kept := do
  if kept.any (·.1 = n) then pure kept
  else
    let other := (← ask (.reserve n firstKept)).toOption
    pure ((n, other) :: kept)

def putBack (kept : Kept) : Sh Unit := do
  for (n, other) in kept do
    match other with
    | some k =>
      let _ ← ask (.duplicate k n)
      let _ ← ask (.close k)
    | none =>
      let _ ← ask (.close n)

def become (n opened : Nat) (keeps : Bool) (kept : Kept) : Sh Kept := do
  if opened = n then
    pure (if !keeps || kept.any (·.1 = n) then kept else (n, none) :: kept)
  else
    let kept ← if keeps then keep n kept else pure kept
    let _ ← ask (.duplicate opened n)
    let _ ← ask (.close opened)
    pure kept

def protects (use : FileUse) (path : String) : Sh Bool := do
  if use = .write && (← isOn "noclobber") then
    match ← ask (.inspect path true) with
    | .ok info => return (info.node.content matches .regular _)
    | .error _ => pure false
  else pure false

/-- Redirects a stream with a given number, or tells why that is not possible. -/
def redirectGiven (keeps : Bool) (kept : Kept) (o : Opening) : Sh (Except String Unit × Kept) := do
  match o with
  | .file n use path =>
    if ← protects use path then return (.error (← refusalOf use path .alreadyExists), kept)
    match ← ask (.openFile path (modeOf use)) with
    | .ok opened => return (.ok (), ← become n opened keeps kept)
    | .error e => return (.error (← refusalOf use path e), kept)
  | .copy n none =>
    let kept ← if keeps then keep n kept else pure kept
    let _ ← ask (.close n)
    return (.ok (), kept)
  | .copy n (some source) =>
    if source = n then
      match ← ask (.inspectStream n) with
      | .error .badDescriptor =>
        return (.error (Decimal.text source ++ ": " ++ OsError.badDescriptor.reason), kept)
      | _ => return (.ok (), kept)
    else
      let kept ← if keeps then keep n kept else pure kept
      match ← ask (.duplicate source n) with
      | .ok () => return (.ok (), kept)
      | .error e => return (.error (Decimal.text source ++ ": " ++ e.reason), kept)
  | .refused reason => return (.error reason, kept)
  | .text n bytes =>
    match ← ask .pipe with
    | .error e => return (.error e.reason, kept)
    | .ok (r, w) =>
      let _ ← lift (Routine.write w bytes)
      let _ ← ask (.close w)
      return (.ok (), ← become n r keeps kept)
  | .numbered .. => return (.ok (), kept)

def redirectOne (keeps : Bool) (kept : Kept) (o : Opening) : Sh (Except String Unit × Kept) := do
  match o with
  | .numbered name o =>
    -- The stream is opened under some number, and then gets a great one.
    match ← ask (.openFile "/dev/null" .input) with
    | .error e => return (.error e.reason, kept)
    | .ok place =>
      match ← redirectGiven false kept (o.at place) with
      | (.error text, kept) =>
        let _ ← ask (.close place)
        return (.error text, kept)
      | (.ok (), kept) =>
        match ← ask (.reserve place firstKept) with
        | .error e => return (.error e.reason, kept)
        | .ok number =>
          let _ ← ask (.duplicate place number)
          let _ ← ask (.close place)
          giveNamed name (Decimal.text number)
          return (.ok (), kept)
  | o => redirectGiven keeps kept o

/-- Redirects streams, and tells what they were. If that is not possible they are what they were,
and the reason is told. -/
def redirect (keeps : Bool) (os : List Opening) : Sh (Except String Kept) := do
  let mut kept := []
  for o in os do
    let (r, k) ← redirectOne keeps kept o
    kept := k
    match r with
    | .ok () => pure ()
    | .error text =>
      putBack kept
      return .error text
  return .ok kept

def allOpenings (nested : Runner) (rs : List Redirection) : Sh (List Opening) := do
  let mut os := []
  for r in rs do
    os := os ++ (← openings nested r)
  pure os

/-- Does something while streams are redirected; complains if that is not possible. -/
def withStreams {α : Type} (nested : Runner) (rs : List Redirection) (body refused : Sh α) :
    Sh α := do
  if rs.isEmpty then body
  else
    match ← redirect true (← allOpenings nested rs) with
    | .ok kept => ensuring body (putBack kept)
    | .error text =>
      complain text
      refused

end Sh

end JobLaunch.Rehearsal.Script
