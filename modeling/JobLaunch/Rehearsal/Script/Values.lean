import JobLaunch.Rehearsal.Script.Input

/-!
# Builtin commands for values

* `Sh.exportNames`, `Sh.fixNames`, `Sh.unsetNames`, `Sh.localNames`, `Sh.declareNames` — variables.
* `Sh.setWords`, `Sh.turnOptions` — switches.
* `Sh.shift`, `Sh.getopts` — parameters.
-/

namespace JobLaunch.Rehearsal.Script.Sh

/-! ## Variables -/

def nameAndValue (arg : String) : String × Option String :=
  match arg.toList.span (· ≠ '=') with
  | (name, _ :: value) => (String.ofList name, some (String.ofList value))
  | (name, []) => (String.ofList name, none)

def refuseName (command arg name : String) : Sh Nat := do
  if ← isExtended then
    complain (command ++ ": \x60" ++ arg ++ "': not a valid identifier")
    pure 1
  else fail (name ++ ": bad variable name")

def declarations (word : String) (p : Variable → Bool) : Sh String := do
  let s ← get
  let lines := (s.bindings.entries.filter fun e => p e.2).map fun (name, v) =>
    match s.dialect with
    | .plain => word ++ " " ++ name ++ (match v.value with
      | some t => "=" ++ quotedText .plain t
      | none => "") ++ "\n"
    | .extended => v.declaration name ++ "\n"
  pure ("".intercalate lines)

def markNames (command : String) (mark : Variable → Variable) (p : Variable → Bool)
    (given : Givens) (args : List String) : Sh Nat := do
  let extended ← isExtended
  let tables := given.has 'a' || given.has 'A'
  if args.isEmpty || (!extended && given.has 'p') then
    emitText (← declarations command fun v => p v && (!tables || v.table.isSome))
  else
    let mut status := 0
    for arg in args do
      let (name, value) := nameAndValue arg
      if given.has 'f' then
        if !(← get).functions.contains name then
          complain (command ++ ": " ++ name ++ ": not a function")
          status := 1
      else if !isName name.toList then status ← refuseName command arg name
      else
        match value with
        | some v => assign name v
        | none => pure ()
        modifyVariable name mark
    pure status

def exportNames (given : Givens) (args : List String) : Sh Nat :=
  let on := !given.has 'n'
  markNames "export" (fun v => { v with exported := on }) (·.exported) given args

def fixNames (given : Givens) (args : List String) : Sh Nat :=
  markNames "readonly" (fun v => { v with fixed := true }) (·.fixed) given args

/-- Takes a variable away, or one of its values, or a function; tells whether that is possible. -/
def unsetName (extended : Bool) (arg : String) : Sh Bool := do
  let (name, key) := nameAndKey arg
  let known := (← get).bindings.get? name
  if !extended && !isName arg.toList then fail (arg ++ ": bad variable name")
  else if !isName name.toList then pure true
  else if extended && known.any (·.fixed) then
    complain ("unset: " ++ name ++ ": cannot unset: readonly variable")
    pure false
  else match key, known with
    | some text, some v =>
      let key ← keyOf name text
      match v.table with
      | some t => modifyVariable name (·.withTable (t.erase key))
      | none => unset name
      pure true
    | none, none =>
      if extended then modify fun s => { s with functions := s.functions.erase name }
      else unset name
      pure true
    | _, _ =>
      unset name
      pure true

def unsetNames (given : Givens) (names : List String) : Sh Nat := do
  let extended ← isExtended
  let letters := given.map (·.letter)
  let functions := if extended then given.has 'f' else letters.getLast? = some 'f'
  if extended && given.has 'f' && given.has 'v' then
    complain "unset: cannot simultaneously unset a function and a variable"
    return 1
  let mut status := 0
  for name in names do
    if functions then modify fun s => { s with functions := s.functions.erase name }
    else if !(← unsetName extended name) then status := 1
  pure status

def keepSwitches : Sh Unit :=
  modify fun s => { s with locals := match s.locals with
    | frame :: rest => { frame with switches := frame.switches.or (some s.switches) } :: rest
    | [] => [] }

def keepVariable (name : String) : Sh Unit :=
  modify fun s => { s with locals := match s.locals with
    | frame :: rest =>
      (if frame.bindings.any (·.1 = name) then frame
        else { frame with bindings := (name, s.bindings.get? name) :: frame.bindings }) :: rest
    | [] => [] }

/-- Lets a running function have variables of its own, in a small shell. -/
def localNames (args : List String) : Sh Nat := do
  if (← get).calls = 0 then fail "not in a function"
  for arg in args do
    let (name, value) := nameAndValue arg
    if arg = "-" then keepSwitches
    else if !isName name.toList then fail (name ++ ": bad variable name")
    else
      keepVariable name
      match value with
      | some v => assign name v
      | none => pure ()
  pure 0

def showDeclarations (command : String) (names : List String) : Sh Nat := do
  let mut status := 0
  for name in names do
    match (← get).bindings.get? name with
    | some v =>
      let _ ← emitText (v.declaration name ++ "\n")
    | none =>
      complain (command ++ ": " ++ name ++ ": not found")
      status := 1
  pure status

def declared (given : Givens) (v : Variable) : Variable :=
  let casing (c : Char) (k : Casing) (old : Option Casing) : Option Casing :=
    if given.has c then some k else if given.lacks c && old = some k then none else old
  let has (c : Char) (old : Bool) : Bool := (old || given.has c) && !given.lacks c
  { v with
    exported := has 'x' v.exported
    fixed := v.fixed || given.has 'r'
    isInteger := has 'i' v.isInteger
    isReference := has 'n' v.isReference
    casing := if given.has 'u' && given.has 'l' then none
      else casing 'c' .capital (casing 'l' .lower (casing 'u' .upper v.casing)) }

/-- Lists variables or functions, as a declaration without names asks for. -/
def listDeclared (command : String) (given : Givens) : Sh Nat := do
  let s ← get
  if given.has 'f' || given.has 'F' then
    emitText ("".intercalate (s.functions.entries.map fun (name, _) =>
      "declare -f " ++ name ++ "\n"))
  else if command = "local" then
    let names := ((s.locals.headD {}).bindings.map (·.1)).mergeSort fun a b => a ≤ b
    showDeclarations command names
  else
    let wanted (v : Variable) : Bool := given.all fun g => match g.letter with
      | 'x' => v.exported
      | 'r' => v.fixed
      | 'i' => v.isInteger
      | 'n' => v.isReference
      | 'a' => v.table.any (!·.isNamed)
      | 'A' => v.table.any (·.isNamed)
      | 'u' => v.casing = some .upper
      | 'l' => v.casing = some .lower
      | _ => true
    emitText (← declarations "declare" fun v => wanted v && !v.isBare)

def declareOne (command : String) (given : Givens) (arg : String) : Sh Nat := do
  let (target, value) := nameAndValue arg
  let adds := target.toList.getLast? == some '+' && value.isSome
  let target := if adds then String.ofList target.toList.dropLast else target
  let (name, key) := nameAndKey target
  if !isName name.toList then return ← refuseName command arg name
  let isLocal := 0 < (← get).calls && (command = "local" || !given.has 'g')
  if isLocal then
    let isNew := (← get).locals.head?.all fun f => f.bindings.all (·.1 ≠ name)
    keepVariable name
    if isNew && !((← get).bindings.get? name).any (·.fixed) then restore name (some {})
  if ((← get).bindings.get? name).any (·.fixed) && (value.isSome || given.lacks 'r') then
    complain (command ++ ": " ++ name ++ ": readonly variable")
    return 1
  if given.has 'A' || given.has 'a' || key.isSome then
    if (((← get).bindings.get? name).bind (·.table)).isNone then
      modifyVariable name fun v =>
        let old := v.value.map fun s => (0, s)
        let t : Table := if given.has 'A' then .named [] else .numbered old.toList
        { v.withTable t with isBare := v.value.isNone }
  let isFixed := ((← get).bindings.get? name).any (·.fixed)
  modifyVariable name fun v => { declared given v with fixed := isFixed }
  match value, key with
  | some v, _ =>
    if given.has 'n' then modifyVariable name (·.withValue v)
    else match key with
      | none => give name v adds
      | some text => giveElement name (← keyOf name text) v adds
  | none, _ => pure ()
  modifyVariable name (declared given)
  pure 0

def declareNames (command : String) (given : Givens) (names : List String) : Sh Nat := do
  if command = "local" && (← get).calls = 0 then
    complain "local: can only be used in a function"
    return 1
  if names.isEmpty then return ← listDeclared command given
  if given.has 'p' then return ← showDeclarations command names
  let mut status := 0
  for name in names do
    if given.has 'f' || given.has 'F' then
      if !(← get).functions.contains name then status := 1
      else if given.has 'F' then
        let _ ← emitText (name ++ "\n")
    else if name = "-" && command = "local" then keepSwitches
    else if (← declareOne command given name) ≠ 0 then status := 1
  pure status

/-! ## Options and parameters -/

def turnNamed (name : String) (on : Bool) : Sh Unit := do
  match Switch.named? (← get).dialect name with
  | some s => turn s.name on
  | none =>
    if ← isExtended then failWith 2 ("set: " ++ name ++ ": invalid option name")
    else fail ("Illegal option -o " ++ name)

/-- Sets options, and tells which arguments are parameters, if any are given. -/
def setOptions : Nat → List String → Sh (Option (List String))
  | 0, _ => pure none
  | n + 1, args => do
    match args with
    | [] => pure none
    | "--" :: rest => pure (some rest)
    | "-" :: rest =>
      turn "xtrace" false
      turn "verbose" false
      pure (if rest.isEmpty then none else some rest)
    | "-o" :: name :: rest =>
      turnNamed name true
      setOptions n rest
    | "+o" :: name :: rest =>
      turnNamed name false
      setOptions n rest
    | arg :: rest =>
      match arg.toList with
      | sign :: c :: cs =>
        if sign = '-' || sign = '+' then
          let on := sign = '-'
          let mut rest := rest
          for c in c :: cs do
            if c = 'o' then
              match rest with
              | name :: more =>
                turnNamed name on
                rest := more
              | [] => pure ()
            else match Switch.withLetter? (← get).dialect c with
              | some s => turn s.name on
              | none =>
                let letter := String.ofList [c]
                if ← isExtended then
                  complain ("set: " ++ String.ofList [sign] ++ letter ++ ": invalid option")
                  say 2 ("set: usage: set [-abefhkmnptuvxBCEHPT] [-o option-name] [--] [-] " ++
                    "[arg ...]\n")
                  setStatus 2
                  throw .failure
                else fail ("Illegal option -" ++ letter)
          setOptions n rest
        else pure (some args)
      | _ => pure (some args)

def setWords (args : List String) : Sh Nat := do
  match args with
  | [] =>
    let s ← get
    let isPlain (t : String) : Bool :=
      s.dialect = .extended && t.toList.all fun c => c.isAlphanum || "_-./:".toList.contains c
    let lines := s.bindings.entries.filterMap fun (name, v) =>
      match v.table with
      | some t => some (name ++ "=" ++ t.text ++ "\n")
      | none => v.value.map fun t =>
        name ++ "=" ++ (if isPlain t then t else if s.dialect = .plain then quotedText .plain t
          else singlyQuoted t) ++ "\n"
    emitText ("".intercalate lines)
  | ["-o"] =>
    let s ← get
    let padded (name : String) : String :=
      let width := if s.dialect = .extended then 15 else 16
      name ++ String.ofList (List.replicate (width - name.length) ' ')
    let lines := (Switch.known s.dialect).map fun w =>
      padded w.name ++ (if s.dialect = .extended then "\t" else "") ++
        (if s.switches.contains w.name then "on" else "off") ++ "\n"
    emitText ((if s.dialect = .plain then "Current option settings\n" else "") ++
      "".intercalate lines)
  | ["+o"] =>
    let s ← get
    emitText ("".intercalate ((Switch.known s.dialect).map fun w =>
      "set " ++ (if s.switches.contains w.name then "-o " else "+o ") ++ w.name ++ "\n"))
  | _ =>
    match ← setOptions (args.length + 1) args with
    | some parameters => modify fun s => { s with parameters }
    | none => pure ()
    pure 0

def shift (args : List String) : Sh Nat := do
  let count := (← get).parameters.length
  if ← isExtended then
    match if args.head? = some "--" then args.tail else args with
    | [] =>
      if count = 0 then pure 1
      else
        modify fun s => { s with parameters := s.parameters.drop 1 }
        pure 0
    | arg :: more =>
      let (negative, ds) := match arg.toList with
        | '-' :: ds => (true, ds)
        | ds => (false, ds)
      if ds.isEmpty || !ds.all Text.isDigit then
        complain ("shift: " ++ arg ++ ": numeric argument required")
        pure 1
      else if !more.isEmpty then giveUp "shift: too many arguments"
      else if negative then
        complain ("shift: " ++ arg ++ ": shift count out of range")
        pure 1
      else if count < Decimal.value ds then pure 1
      else
        modify fun s => { s with parameters := s.parameters.drop (Decimal.value ds) }
        pure 0
  else
    let n ← match args with
      | [] => pure 1
      | arg :: _ => natural arg
    if count < n then fail "can't shift that many"
    modify fun s => { s with parameters := s.parameters.drop n }
    pure 0

def getopts (args : List String) : Sh Nat := do
  match args with
  | spec :: name :: rest =>
    if !isName name.toList then return ← refuseName "getopts" name name
    let words ← if rest.isEmpty then pure (← get).parameters else pure rest
    let index := Decimal.value (((← value? "OPTIND").getD "1").toList.filter Text.isDigit)
    let index := max index 1
    -- The place inside an argument that holds several options.
    let inside := (← get).optionPlace
    let quiet := spec.toList.head? == some ':'
    let finish (index : Nat) : Sh Nat := do
      assign "OPTIND" (Decimal.text index)
      modify fun s => { s with optionPlace := 0 }
      assign name "?"
      unset "OPTARG"
      pure 1
    match words[index - 1]? with
    | none => finish index
    | some word =>
      if word = "--" then finish (index + 1)
      else
        match word.toList with
        | '-' :: letters =>
          match letters.drop inside with
          | [] => finish index
          | c :: more =>
            let known := c ≠ ':' && spec.toList.contains c
            let takes := known && (spec.toList.dropWhile (· ≠ c)).tail.head? == some ':'
            let goOn (index inside : Nat) : Sh Unit := do
              assign "OPTIND" (Decimal.text index)
              modify fun s => { s with optionPlace := inside }
            let after : Sh Unit :=
              if more.isEmpty then goOn (index + 1) 0 else goOn index (inside + 1)
            let letter := String.ofList [c]
            if !known then
              after
              assign name "?"
              if quiet then assign "OPTARG" letter
              else
                unset "OPTARG"
                if ← isExtended then
                  say 2 ((← get).name ++ ": illegal option -- " ++ letter ++ "\n")
                else say 2 ("Illegal option -" ++ letter ++ "\n")
              pure 0
            else if takes then
              if !more.isEmpty then
                goOn (index + 1) 0
                assign name letter
                assign "OPTARG" (String.ofList more)
                pure 0
              else match words[index]? with
                | some arg =>
                  goOn (index + 2) 0
                  assign name letter
                  assign "OPTARG" arg
                  pure 0
                | none =>
                  goOn (index + 1) 0
                  if quiet then
                    assign name ":"
                    assign "OPTARG" letter
                  else
                    assign name "?"
                    unset "OPTARG"
                    if ← isExtended then
                      say 2 ((← get).name ++ ": option requires an argument -- " ++ letter ++ "\n")
                    else say 2 ("No arg for -" ++ letter ++ " option\n")
                  pure 0
            else
              after
              assign name letter
              unset "OPTARG"
              pure 0
        | _ => finish index
  | _ =>
    if ← isExtended then
      say 2 "getopts: usage: getopts optstring name [arg ...]\n"
      pure 2
    else fail "Usage: getopts optstring var [arg...]"

/-- The switches of a large shell that have no letters and are known by longer names. -/
def furtherSwitches : List String :=
  ["assoc_expand_once", "autocd", "cdable_vars", "cdspell", "checkhash", "checkjobs",
    "checkwinsize", "cmdhist", "direxpand", "dirspell", "dotglob", "execfail", "expand_aliases",
    "extdebug", "extglob", "extquote", "failglob", "force_fignore", "globasciiranges",
    "globskipdots", "globstar", "gnu_errfmt", "histappend", "histreedit", "histverify",
    "hostcomplete", "huponexit", "inherit_errexit", "interactive_comments", "lastpipe", "lithist",
    "localvar_inherit", "localvar_unset", "login_shell", "mailwarn", "no_empty_cmd_completion",
    "nocaseglob", "nocasematch", "noexpand_translation", "nullglob", "patsub_replacement",
    "progcomp", "progcomp_alias", "promptvars", "restricted_shell", "shift_verbose", "sourcepath",
    "varredir_close", "xpg_echo"]

def furtherInitially : List String :=
  ["checkwinsize", "cmdhist", "extquote", "force_fignore", "globasciiranges", "globskipdots",
    "hostcomplete", "interactive_comments", "patsub_replacement", "progcomp", "promptvars",
    "sourcepath"]

/-- Is one of these switches on? Those that are on from the start are kept as the others. -/
def isFurtherOn (name : String) : Sh Bool := do
  return (← isOn name) != furtherInitially.contains name

def turnOptions (given : Givens) (names : List String) : Sh Nat := do
  let withLetters := given.has 'o'
  let d := (← get).dialect
  let known := if withLetters then (Switch.known d).map (·.name) else furtherSwitches
  let isOn (name : String) : Sh Bool := if withLetters then Sh.isOn name else isFurtherOn name
  let turns := given.has 's' || given.has 'u'
  if given.has 's' && given.has 'u' then
    complain "shopt: cannot set and unset shell options simultaneously"
    return 1
  let tell (name : String) (on : Bool) : Sh Unit := do
    let text := if given.has 'p' then
        if withLetters then "set " ++ (if on then "-o " else "+o ") ++ name
        else "shopt " ++ (if on then "-s " else "-u ") ++ name
      else toWidth (if withLetters then 15 else 20) name ++ "\t" ++ (if on then "on" else "off")
    let _ ← emitText (text ++ "\n")
  if names.isEmpty then
    for name in known do
      let on ← isOn name
      if !turns || on = given.has 's' then
        if !given.has 'q' then tell name on
    return 0
  let mut status := 0
  for name in names do
    if !known.contains name then
      complain ("shopt: " ++ name ++ ": invalid " ++
        (if withLetters then "option name" else "shell option name"))
      status := 1
    else if turns then
      turn name (given.has 's' != (!withLetters && furtherInitially.contains name))
    else
      let on ← isOn name
      if !on then status := 1
      if !given.has 'q' then tell name on
  pure status
where
  toWidth (n : Nat) (text : String) : String :=
    text ++ String.ofList (List.replicate (n - text.length) ' ')

end JobLaunch.Rehearsal.Script.Sh
