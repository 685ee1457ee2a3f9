import JobLaunch.Rehearsal.Calendar
import JobLaunch.Rehearsal.Script.Arithmetic
import JobLaunch.Rehearsal.Script.Brace
import JobLaunch.Rehearsal.Script.Declaration
import JobLaunch.Rehearsal.Script.Job
import JobLaunch.Text.Case

/-!
# Expanding words

Parameters, outputs of commands and numbers are put into words. What comes from outside quotes is
cut into fields, and fields with patterns become the paths they stand for.

* `Sh.expandParts` — the items of a word.
* `cutFields` — the fields of items.
* `Sh.expandPaths` — the paths that a field stands for.
* `Sh.fieldsOf`, `Sh.textOf`, `Sh.patternOf` — words as several fields, as one text, as a pattern.
-/

namespace JobLaunch.Rehearsal.Script

/-! ## Units -/

/-- The characters of a text that a shell looks at: to a small one, each byte is one. -/
def Dialect.units (d : Dialect) (cs : List Char) : List Char :=
  match d with
  | .extended => cs
  | .plain => cs.flatMap fun c =>
    if c < '\x80' then [c] else (Bytes.ofChar c).map Bytes.standIn

/-- A text of such characters; bytes that belong together are joined. -/
def joinUnits (cs : List Char) : List Char :=
  if cs.all (· < '\x80') then cs else Bytes.chars (Bytes.ofChars cs)

def Dialect.glyphs (d : Dialect) (gs : List Glyph) : List Glyph :=
  gs.flatMap fun g => (d.units [g.char]).map fun c => { g with char := c }

/-! ## Fields -/

def itemsOf (o : Origin) (cs : List Char) : List Item := cs.map fun c => .glyph ⟨c, o⟩

def itemsFrom (quoted : Bool) (text : String) : List Item :=
  if quoted then .present :: itemsOf .quoted text.toList else itemsOf .expanded text.toList

def Dialect.items (d : Dialect) (items : List Item) : List Item :=
  items.flatMap fun
    | .glyph g => (d.glyphs [g]).map .glyph
    | i => [i]

/-- How far items have been cut into fields. -/
structure Cutting where
  fields : List (List Glyph) := []
  current : Option (List Glyph) := none
  afterBlank : Bool := false

namespace Cutting

def close (c : Cutting) : Cutting :=
  match c.current with
  | some gs => { fields := gs.reverse :: c.fields }
  | none => { c with afterBlank := false }

/-- Goes on with an item; the characters that separate fields are given. -/
def next (separators : List Char) (c : Cutting) : Item → Cutting
  | .present => { c with current := some (c.current.getD []), afterBlank := false }
  | .boundary => c.close
  | .glyph g =>
    if g.origin = .expanded && separators.contains g.char then
      if g.char = ' ' || g.char = '\t' || g.char = '\n' then
        match c.current with
        | some gs => { fields := gs.reverse :: c.fields, afterBlank := true }
        | none => c
      else match c.current with
        | some gs => { fields := gs.reverse :: c.fields }
        | none => if c.afterBlank then { c with afterBlank := false }
          else { c with fields := [] :: c.fields }
    else { c with current := some (g :: c.current.getD []), afterBlank := false }

end Cutting

def cutFields (separators : List Char) (items : List Item) : List (List Glyph) :=
  (items.foldl (Cutting.next separators) {}).close.fields.reverse

def textOfGlyphs (gs : List Glyph) : String := String.ofList (joinUnits (gs.map (·.char)))

def uncut (joint : List Char) (items : List Item) : List Glyph :=
  items.flatMap fun
    | .glyph g => [g]
    | .present => []
    | .boundary => joint.map fun c => ⟨c, .expanded⟩

namespace Sh

/-! ## Parameters -/

def separators : Sh (List Char) := do
  return (← get).dialect.units ((← value? "IFS").getD " \t\n").toList

def joint : Sh (List Char) := do return (← separators).take 1

def parameter? (name : String) : Sh (Option String) := do
  let s ← get
  match name with
  | "#" => return some (Decimal.text s.parameters.length)
  | "?" => return some (Decimal.text s.status)
  | "$" => return some (Decimal.text s.pid)
  | "!" => return s.lastBackground.map Decimal.text
  | "-" =>
    return some (String.ofList (Switch.letters s.dialect s.switches ++ s.origin.toList))
  | "0" => return some s.name
  | _ =>
    if !name.isEmpty && name.toList.all Text.isDigit then
      return s.parameters[Decimal.value name.toList - 1]?
    else if s.dialect = .plain then value? name
    else match name with
      | "LINENO" => return some (Decimal.text s.line)
      | "BASHPID" => do
        let pid : Pid ← ask .pid
        return some (Decimal.text pid)
      | "BASH_SUBSHELL" => return some (Decimal.text s.depth)
      | "EPOCHSECONDS" => do
        let now : Nat ← ask .time
        return some (Decimal.intText (Calendar.clockStart + now / 1000000))
      | "EPOCHREALTIME" => do
        let now : Nat ← ask .time
        let ds := Decimal.text (now % 1000000)
        let zeros := String.ofList (List.replicate (6 - ds.length) '0')
        return some (Decimal.intText (Calendar.clockStart + now / 1000000) ++ "." ++ zeros ++ ds)
      | "SECONDS" => do
        let now : Nat ← ask .time
        return some (Decimal.text ((now - s.started) / 1000000))
      | "RANDOM" => do
        -- Any number will do; this one changes with time.
        let now : Nat ← ask .time
        return some (Decimal.text ((now * 7919 + s.line * 104729) % 32768))
      | _ => return (← values? name).bind fun t => t.get? t.firstKey

def isList (name : String) : Bool := name = "@" || name = "*"

def joinItems (name : String) (quoted : Bool) (values : List String) : Sh (List Item) := do
  if quoted && name = "*" then
    return itemsFrom true ((String.ofList (← joint)).intercalate values)
  else
    let items := values.map (itemsFrom quoted)
    return items.tail.foldl (fun acc i => acc ++ .boundary :: i) (items.headD [])

def refuseUnset {α : Type} (name : String) : Sh α := do
  if ← isExtended then
    failWith (← lackCode) (name ++ ": unbound variable")
  else fail (name ++ ": parameter not set")

/-! ## Home directories -/

def homes : List (String × String) :=
  [("root", "/root"), ("daemon", "/usr/sbin"), ("bin", "/bin"), ("sys", "/dev"), ("sync", "/bin"),
    ("games", "/usr/games"), ("man", "/var/cache/man"), ("lp", "/var/spool/lpd"),
    ("mail", "/var/mail"), ("news", "/var/spool/news"), ("uucp", "/var/spool/uucp"),
    ("proxy", "/bin"), ("www-data", "/var/www"), ("backup", "/var/backups"),
    ("list", "/var/list"), ("irc", "/run/ircd"), ("nobody", "/nonexistent")]

def home? (user : String) : Sh (Option String) := do
  let extended ← isExtended
  match user with
  | "" => value? "HOME"
  | "+" => if extended then value? "PWD" else pure none
  | "-" => if extended then value? "OLDPWD" else pure none
  | _ => pure (homes.lookup user)

/-- The parts of a text at whose start a home directory may be named; nothing more of the word
follows, or something does. -/
def homeParts (ends : List Char) (followed : Bool) (cs : List Char) : Sh (List Part) := do
  match cs with
  | '~' :: rest =>
    let (user, after) := rest.span fun c => !ends.contains c
    if after.isEmpty && followed then pure [.text cs false]
    else match ← home? (String.ofList user) with
      | some h =>
        pure (.text h.toList true :: if after.isEmpty then [] else [.text after false])
      | none => pure [.text cs false]
  | _ => pure [.text cs false]

def withHome (w : Word) : Sh Word := do
  match w with
  | .text cs false :: rest => return (← homeParts ['/'] (!rest.isEmpty) cs) ++ rest
  | _ => pure w

/-- A value in which the home directories at its start and after colons have been found. -/
def withHomes (w : Word) : Sh Word := do
  let mut parts := []
  let mut first := true
  let mut rest := w
  for p in w do
    rest := rest.drop 1
    match p with
    | .text cs false =>
      let pieces := cs.splitOn ':'
      let last := pieces.length
      let mut i := 0
      for piece in pieces do
        i := i + 1
        if 1 < i then parts := parts ++ [.text [':'] false]
        if i = 1 && !first then parts := parts ++ [.text piece false]
        else parts := parts ++ (← homeParts ['/'] (i = last && !rest.isEmpty) piece)
    | p => parts := parts ++ [p]
    first := false
  pure parts

/-! ## Outputs of commands -/

/-- The text of bytes without ends of lines at its end and without zeros. -/
def outputText (bytes : Bytes) : String :=
  let cs := (Bytes.chars bytes).filter (· ≠ '\x00')
  String.ofList (cs.reverse.dropWhile (· = '\n')).reverse

def copyFile (nested : Runner) (line : Nat) (w : Word) : Sh Nat := do
  modify fun s => { s with line }
  let items ← nested.expand (← withHome w) false
  let path := textOfGlyphs (uncut [' '] items)
  match ← lift (Routine.readFile path) with
  | .ok bytes =>
    let _ ← lift (Routine.write 1 bytes)
    pure 0
  | .error e =>
    complain (path ++ ": " ++ e.reason)
    pure 1

def outputOf (nested : Runner) (body : Command) : Sh String := do
  let extended ← isExtended
  match ← ask .pipe with
  | .error e => fail e.reason
  | .ok (r, w) =>
    let p ← forkInner nested do
      let _ ← ask (.close r)
      if w ≠ 1 then
        let _ ← ask (.duplicate w 1)
        let _ ← ask (.close w)
      match body, extended with
      -- A large shell takes the input of a redirection that has no command.
      | .simple line [] [] [.file 0 .read path], true => copyFile nested line path
      | _, _ => nested.run body true false
    let _ ← ask (.close w)
    let bytes ← lift (Routine.readAll r)
    let _ ← ask (.close r)
    let code ← await p
    modify fun s => { s with outputStatus := code }
    if extended then setStatus code
    pure (outputText (bytes.toOption.getD []))

/-! ## Words -/

def textOf (nested : Runner) (w : Word) : Sh String := do
  let items ← nested.expand w false
  let joint ← if ← isExtended then pure [' '] else joint
  return textOfGlyphs (uncut joint items)

def patternOf (nested : Runner) (w : Word) : Sh Pattern := do
  let items ← nested.expand w false
  return Pattern.ofGlyphs ((← get).dialect.glyphs (uncut [' '] items))

def changedLetter (change : LetterChange) (c : Char) : Char :=
  match change with
  | .upper => Text.capital c
  | .lower => Text.small c
  | .other => if Text.small c = c then Text.capital c else Text.small c

def recased (change : LetterChange) (all : Bool) (matching : Char → Bool) (s : String) : String :=
  let f (c : Char) : Char := if matching c then changedLetter change c else c
  String.ofList (match s.toList with
    | [] => []
    | c :: cs => f c :: if all then cs.map f else cs)

def inForm (form : Char) (v : String) : String :=
  match form with
  | 'Q' | 'K' | 'k' => singlyQuoted v
  | 'U' => recased .upper true (fun _ => true) v
  | 'u' => recased .upper false (fun _ => true) v
  | 'L' => recased .lower true (fun _ => true) v
  | 'E' => String.ofList (unescaped (v.length + 1) v.toList)
  | _ => v

/-- Some members of a list; negative places count from its end. -/
def sliceOf {α : Type} (start : Int) (count : Option Int) (cs : List α) : List α :=
  let n := Int.ofNat cs.length
  let start := if start < 0 then start + n else start
  if start < 0 then []
  else
    let rest := cs.drop start.toNat
    match count with
    | none => rest
    | some c => if c < 0 then rest.take (n - start + c).toNat else rest.take c.toNat

def countOf (nested : Runner) (name : String) : Option Word → Sh (Option Int)
  | some w => do return some (← calculate (← textOf nested w).toList (name ++ ": ")).toInt
  | none => pure none

/-- Complains about a number that leads from the end to before the start. -/
def refuseCount (start : Int) (count : Option Int) (length : Nat) (zero : Bool) : Sh Unit := do
  let first := if start < 0 then start + Int.ofNat length else start
  match count with
  | some c =>
    if c < 0 && 0 ≤ first && (zero || Int.ofNat length + c < first) then
      giveUp (Decimal.intText c ++ ": substring expression < 0")
  | none => pure ()

def changed? (nested : Runner) (name : String) (use : Use) : Sh (Option (String → String)) := do
  match use with
  | .trimmed atEnd longest pattern =>
    let p ← patternOf nested pattern
    let units := (← get).dialect.units
    pure (some fun v => String.ofList (joinUnits
      (if atEnd then p.withoutEnd longest (units v.toList)
        else p.withoutStart longest (units v.toList))))
  | .replaced all atEnd pattern replacement =>
    let p ← patternOf nested pattern
    let new ← textOf nested replacement
    pure (some fun v => String.ofList (p.replace new.toList all atEnd v.toList))
  | .slice start count =>
    let first ← calculate (← textOf nested start).toList (name ++ ": ")
    let count ← countOf nested name count
    pure (some fun v => String.ofList (sliceOf first.toInt count v.toList))
  | .recased change all pattern =>
    let p ← patternOf nested pattern
    pure (some (recased change all fun c => pattern.isEmpty || p.accepts [c]))
  | _ => pure none

def refuseMissing {α : Type} (nested : Runner) (name : String) (emptyToo : Bool) (w : Word) :
    Sh α := do
  let text ← textOf nested w
  let extended ← isExtended
  let standard := if !emptyToo then "parameter not set"
    else if extended then "parameter null or not set"
    else "parameter not set or null"
  let code ← if extended then lackCode else pure 2
  failWith code (name ++ ": " ++ if w.isEmpty then standard else text)

/-- What a parameter names. -/
structure Target where
  label : String
  all : Option String
  values : Sh (Option (List String))
  assign : String → Sh Unit
  zeroth : List String := []

namespace Target

def ofName (name : String) : Target where
  label := name
  all := if isList name then some name else none
  values := do
    if isList name then
      let ps := (← get).parameters
      pure (if ps.isEmpty then none else some ps)
    else return (← parameter? name).map ([·])
  assign := fun text => do
    if isName name.toList then give name text false
    else if ← isExtended then giveUp ("$" ++ name ++ ": cannot assign in this way")
    else fail (name ++ ": bad variable name")

def ofAll (name all : String) : Target where
  label := name ++ "[" ++ all ++ "]"
  all := some all
  values := do return (← values? name).map (·.values)
  assign := fun _ => giveUp (name ++ "[" ++ all ++ "]: bad array subscript")

def ofKey (nested : Runner) (name : String) (key : Word) : Sh Target := do
  match (literal? key).map String.ofList with
  | some "@" => return ofAll name "@"
  | some "*" => return ofAll name "*"
  | _ =>
    let text ← textOf nested key
    let key ← keyOf name text
    return {
      label := name ++ "[" ++ text ++ "]", all := none
      values := do return ((← values? name).bind (·.get? key)).map ([·])
      assign := fun text => giveElement name key text false }

def required (t : Target) : Sh String := do
  match ← t.values with
  | some (v :: _) => pure v
  | _ => if ← isOn "nounset" then refuseUnset t.label else pure ""

def present (t : Target) : Sh (List String) := do
  if t.all.isSome then return (← t.values).getD [] else return [← t.required]

def items (t : Target) (quoted : Bool) (vs : List String) : Sh (List Item) :=
  match t.all with
  | some all => joinItems all quoted vs
  | none => pure (itemsFrom quoted (vs.headD ""))

end Target

def expandTarget (nested : Runner) (t : Target) (use : Use) (quoted : Bool) : Sh (List Item) := do
  match use with
  | .value => t.items quoted (← t.present)
  | .length =>
    let vs ← t.present
    let n ← if ← isExtended then
        pure (if t.all.isSome then vs.length else (vs.headD "").length)
      else do
        let joint ← joint
        pure (Bytes.ofText ((String.ofList joint).intercalate vs)).length
    return itemsFrom quoted (Decimal.text n)
  | .unreadable text =>
    if ← isExtended then giveUp (text ++ ": bad substitution") else fail "Bad substitution"
  | .fallback how emptyToo word =>
    let found ← t.values
    let given := match found with
      | some vs => !emptyToo || vs.any (!·.isEmpty) || 1 < vs.length
      | none => false
    let shown := t.items quoted (found.getD [])
    let other : Sh (List Item) := do
      let items ← nested.expand word true
      if quoted then
        let joint ← joint
        return .present :: (uncut joint items).map fun g => .glyph ⟨g.char, .quoted⟩
      else pure items
    match how with
    | .use => if given then shown else other
    | .replace => if given then other else pure (if quoted then [.present] else [])
    | .assign =>
      if given then shown
      else
        let text ← textOf nested word
        t.assign text
        return itemsFrom quoted text
    | .complain => if given then shown else refuseMissing nested t.label emptyToo word
  | .keys | .names _ | .indirect _ => pure []
  | .slice start count =>
    let first ← calculate (← textOf nested start).toList (t.label ++ ": ")
    let count ← countOf nested t.label count
    if t.all.isSome then
      let vs := t.zeroth ++ (← t.present)
      refuseCount first.toInt count vs.length true
      t.items quoted (sliceOf first.toInt count vs)
    else
      let v ← t.required
      refuseCount first.toInt count v.length false
      t.items quoted [String.ofList (sliceOf first.toInt count v.toList)]
  | .transformed form =>
    match ← t.values with
    | none =>
      let _ ← if t.all.isNone then t.required else pure ""
      pure []
    | some vs => t.items quoted (vs.map (inForm form))
  | _ => applied
where
  applied : Sh (List Item) := do
    let vs ← t.present
    match ← changed? nested t.label use with
    | some f => t.items quoted (vs.map f)
    | none => t.items quoted vs

def referred (nested : Runner) (t : Target) : Sh Target := do
  match ← t.values with
  | none => giveUp (t.label ++ ": invalid indirect expansion")
  | some vs =>
    let text := " ".intercalate vs
    match nameAndKey text with
    | (name, some "@") => return .ofAll name "@"
    | (name, some "*") => return .ofAll name "*"
    | (name, some key) => Target.ofKey nested name [.text key.toList true]
    | (name, none) =>
      let cs := name.toList
      if isName cs || isList name || (!cs.isEmpty && cs.all Text.isDigit) ||
          (cs.length = 1 && cs.all isSpecialName) then
        return .ofName name
      else giveUp (name ++ ": invalid variable name")

def described (nested : Runner) (t : Target) (name : String) (form : Char) (all quoted : Bool) :
    Sh (List Item) := do
  let v ← binding? name
  match form, v with
  | 'a', _ =>
    match v, ← t.values with
    | some v, some vs => t.items quoted (if all then vs.map fun _ => v.letters else [v.letters])
    | _, _ => pure []
  | 'A', some v =>
    if all && v.table.isSome then return itemsFrom quoted (v.declaration name)
    else match ← t.values with
      | some (text :: _) =>
        let start := if v.letters.isEmpty then "" else "declare -" ++ v.letters ++ " "
        return itemsFrom quoted (start ++ name ++ "=" ++ singlyQuoted text)
      | _ => pure []
  | 'A', none =>
    if isList name then
      match ← t.values with
      | some vs => return itemsFrom quoted ("set -- " ++ " ".intercalate (vs.map singlyQuoted))
      | none => pure []
    else pure []
  | _, _ =>
    match if all then v.bind (·.table) else none with
    | some table =>
      let pairs := (table.keys.zip table.values).map fun (k, v) => (k, doublyQuoted v)
      if form = 'k' then
        let values := (table.keys.zip table.values).flatMap fun (k, v) => [k, v]
        t.items quoted values
      else return itemsFrom quoted (" ".intercalate (pairs.map fun (k, v) => k ++ " " ++ v))
    | none => expandTarget nested t (.transformed form) quoted

def expandUse (nested : Runner) (t : Target) (name : String) (use : Use) (quoted : Bool) :
    Sh (List Item) := do
  match use with
  | .keys => t.items quoted (((← values? name).map (·.keys)).getD [])
  | .indirect use =>
    match ← binding? name, (← get).bindings.get? name with
    | some _, some v =>
      if v.isReference then return itemsFrom quoted (v.value.getD "")
    | _, _ => pure ()
    expandTarget nested (← referred nested t) use quoted
  | .names joined =>
    let found := (← get).bindings.entries.filterMap fun (x, v) =>
      if name.toList.isPrefixOf x.toList && (v.value.isSome || v.table.isSome) then some x
      else none
    joinItems (if joined then "*" else "@") quoted found
  | .transformed form =>
    if "aAKk".toList.contains form then described nested t name form t.all.isSome quoted
    else expandTarget nested t use quoted
  | use => expandTarget nested t use quoted

def expandParameter (nested : Runner) (name : String) (use : Use) (quoted : Bool) :
    Sh (List Item) := do
  let t := Target.ofName name
  let own := (← get).name
  expandUse nested (if isList name then { t with zeroth := [own] } else t) name use quoted

def expandElement (nested : Runner) (name : String) (key : Word) (use : Use) (quoted : Bool) :
    Sh (List Item) := do
  expandUse nested (← Target.ofKey nested name key) name use quoted

def greatestStream : Nat := 63

/-- Starts a command whose output can be read from a stream, or whose input can be written to one,
and tells the path of the stream. -/
def streamPath (nested : Runner) (body : Command) (reads : Bool) : Sh String := do
  match ← ask .pipe with
  | .error e => fail e.reason
  | .ok (r, w) =>
    let (own, its, place) := if reads then (r, w, 1) else (w, r, 0)
    let _ ← forkInner nested do
      let _ ← ask (.close own)
      let _ ← ask (.duplicate its place)
      let _ ← ask (.close its)
      nested.run body true false
    let _ ← ask (.close its)
    let number := greatestStream - (← get).streams
    let _ ← ask (.duplicate own number)
    let _ ← ask (.close own)
    modify fun s => { s with streams := s.streams + 1 }
    return "/dev/fd/" ++ Decimal.text number

def closeStreams (kept : Nat) : Sh Unit := do
  let count := (← get).streams
  for i in List.range (count - kept) do
    let _ ← ask (.close (greatestStream - (kept + i)))
  if kept < count then modify fun s => { s with streams := kept }

def expandPart (nested : Runner) (inParameter : Bool) : Part → Sh (List Item)
  | .text cs true => pure (.present :: itemsOf .quoted cs)
  | .text cs false => pure (itemsOf (if inParameter then .expanded else .literal) cs)
  | .parameter name use quoted => expandParameter nested name use quoted
  | .output body quoted => do return itemsFrom quoted (← outputOf nested body)
  | .number expression quoted => do
    let text ← textOf nested expression
    return itemsFrom quoted (Decimal.intText (← calculate text.toList).toInt)
  | .element name key use quoted => expandElement nested name key use quoted
  | .stream body reads => do return itemsOf .quoted (← streamPath nested body reads).toList
  | .list .. => pure []

def expandParts (nested : Runner) (inParameter : Bool) (w : Word) : Sh (List Item) := do
  let mut items := []
  for p in w do
    items := items ++ (← expandPart nested inParameter p)
  pure items

/-! ## Paths -/

def components (gs : List Glyph) : List (List Glyph) :=
  gs.foldr (fun g acc =>
    match acc with
    | c :: cs => if g.char = '/' then [] :: c :: cs else (g :: c) :: cs
    | [] => [[g]]) [[]]

def pathsAfter (base : String) : List (List Glyph) → Sh (List String)
  | [] => pure [base]
  | c :: rest => do
    let units := (← get).dialect.units
    let slash := if rest.isEmpty then "" else "/"
    let p := Pattern.ofGlyphs c
    if !p.isProper then
      let path := base ++ String.ofList (joinUnits (p.filterMap fun
        | .char c => some c
        | _ => none)) ++ slash
      if rest.isEmpty then
        match ← ask (.inspect path false) with
        | .ok _ => pure [path]
        | .error _ => pure []
      else pathsAfter path rest
    else
      match ← ask (.list (if base.isEmpty then "." else base)) with
      | .error _ => pure []
      | .ok names =>
        let dots := if ← isExtended then [] else [".", ".."]
        let isAll ← isOn "dotglob"
        let names := (dots ++ names).filter fun n =>
          p.accepts (units n.toList) &&
            (isAll || n.toList.head? != some '.' || p.head? == some (.char '.'))
        let mut found := []
        for n in names.mergeSort do
          found := found ++ (← pathsAfter (base ++ n ++ slash) rest)
        pure found

/-- The paths that a field stands for, or its text if it stands for none. -/
def expandPaths (gs : List Glyph) : Sh (List String) := do
  if (← isOn "noglob") || !(Pattern.ofGlyphs gs).isProper then pure [textOfGlyphs gs]
  else match ← pathsAfter "" (components gs) with
    | [] => if ← isOn "nullglob" then pure [] else pure [textOfGlyphs gs]
    | paths => pure paths

/-- The fields of a word; in a large shell it may stand for several words. -/
def fieldsOf (nested : Runner) (w : Word) : Sh (List String) := do
  let words := if (← isExtended) && (← isOn "braceexpand") then Brace.words w else [w]
  let mut fields := []
  for w in words do
    let items ← nested.expand (← withHome w) false
    let items := (← get).dialect.items items
    for f in cutFields (← separators) items do
      fields := fields ++ (← expandPaths f)
  pure fields

def valueOf (nested : Runner) (w : Word) : Sh String := do textOf nested (← withHomes w)

end Sh

end JobLaunch.Rehearsal.Script
