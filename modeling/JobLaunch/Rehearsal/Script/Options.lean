import JobLaunch.Rehearsal.Script.Shell

/-!
# Options of builtin commands

* `Usage`, `usage?` — the options that a builtin command knows.
* `Sh.options` — the options and the operands among its arguments.
-/

namespace JobLaunch.Rehearsal.Script

/-- The options that a builtin command knows. -/
structure Usage where
  /-- Their letters; a colon follows those that take an argument. -/
  letters : String
  text : String := ""
  hasPlus : Bool := false
  deriving DecidableEq, Inhabited

/-- The options of the builtin commands of a small shell; others take their arguments as they
are. -/
def plainUsages : List (String × Usage) :=
  [(".", ⟨"", "", false⟩), ("bg", ⟨"", "", false⟩), ("cd", ⟨"LP", "", false⟩),
    ("chdir", ⟨"LP", "", false⟩), ("command", ⟨"pvV", "", false⟩), ("export", ⟨"p", "", false⟩),
    ("fg", ⟨"", "", false⟩), ("hash", ⟨"r", "", false⟩), ("jobs", ⟨"lp", "", false⟩),
    ("printf", ⟨"", "", false⟩), ("pwd", ⟨"LP", "", false⟩), ("read", ⟨"p:r", "", false⟩),
    ("readonly", ⟨"p", "", false⟩), ("trap", ⟨"", "", false⟩), ("umask", ⟨"S", "", false⟩),
    ("ulimit", ⟨"HSatfdscmlpnvwr", "", false⟩), ("unalias", ⟨"a", "", false⟩),
    ("unset", ⟨"vf", "", false⟩), ("wait", ⟨"", "", false⟩)]

def declaringLetters : String := "acfgilnprtuxAFGI"

/-- The options of the builtin commands of a large shell; others take their arguments as they
are. -/
def extendedUsages : List (String × Usage) :=
  let declaring : String := " [-aAfFgiIlnrtux] [name[=value] ...] or "
  let lines : String := " [-d delim] [-n count] [-O origin] [-s count] [-t] [-u fd] " ++
    "[-C callback] [-c quantum] [array]"
  [(".", ⟨"", ". filename [arguments]", false⟩),
    ("alias", ⟨"p", "alias [-p] [name[=value] ... ]", false⟩),
    ("builtin", ⟨"", "builtin [shell-builtin [arg ...]]", false⟩),
    ("caller", ⟨"", "caller [expr]", false⟩),
    ("cd", ⟨"eLP@", "cd [-L|[-P [-e]] [-@]] [dir]", false⟩),
    ("command", ⟨"pvV", "command [-pVv] command [arg ...]", false⟩),
    ("declare", ⟨declaringLetters,
      "declare" ++ declaring ++ "declare -p [-aAfFilnrtux] [name ...]", true⟩),
    ("disown", ⟨"ahr", "disown [-h] [-ar] [jobspec ... | pid ...]", false⟩),
    ("enable", ⟨"adnpsf:", "enable [-a] [-dnps] [-f filename] [name ...]", false⟩),
    ("eval", ⟨"", "eval [arg ...]", false⟩),
    ("exec", ⟨"cla:", "exec [-cl] [-a name] [command [argument ...]] [redirection ...]", false⟩),
    ("export", ⟨"aAfnp", "export [-fn] [name[=value] ...] or export -p", false⟩),
    ("getopts", ⟨"", "getopts optstring name [arg ...]", false⟩),
    ("hash", ⟨"dlp:rt", "hash [-lr] [-p pathname] [-dt] [name ...]", false⟩),
    ("help", ⟨"dms", "help [-dms] [pattern ...]", false⟩),
    ("jobs", ⟨"lpnxrs", "jobs [-lnprs] [jobspec ...] or jobs -x command [args]", false⟩),
    ("local", ⟨declaringLetters, "local [option] name[=value] ...", true⟩),
    ("mapfile", ⟨"d:u:n:O:tC:c:s:", "mapfile" ++ lines, false⟩),
    ("printf", ⟨"v:", "printf [-v var] format [arguments]", false⟩),
    ("pwd", ⟨"LP", "pwd [-LP]", false⟩),
    ("read", ⟨"ersa:d:i:n:p:t:u:N:", "read [-ers] [-a array] [-d delim] [-i text] [-n nchars] " ++
      "[-N nchars] [-p prompt] [-t timeout] [-u fd] [name ...]", false⟩),
    ("readarray", ⟨"d:u:n:O:tC:c:s:", "readarray" ++ lines, false⟩),
    ("readonly", ⟨"aAfnp", "readonly [-aAf] [name[=value] ...] or readonly -p", false⟩),
    ("shopt", ⟨"psuoq", "shopt [-pqsu] [-o] [optname ...]", false⟩),
    ("source", ⟨"", "source filename [arguments]", false⟩),
    ("suspend", ⟨"f", "suspend [-f]", false⟩),
    ("times", ⟨"", "times", false⟩),
    ("trap", ⟨"lp", "trap [-lp] [[arg] signal_spec ...]", false⟩),
    ("type", ⟨"afptP", "type [-afptP] name [name ...]", false⟩),
    ("typeset", ⟨declaringLetters,
      "typeset" ++ declaring ++ "typeset -p [-aAfFilnrtux] [name ...]", true⟩),
    ("ulimit", ⟨"SHabcdefiklmnpqrstuvxPRT", "ulimit [-SHabcdefiklmnpqrstuvxPRT] [limit]", false⟩),
    ("umask", ⟨"Sp", "umask [-p] [-S] [mode]", false⟩),
    ("unalias", ⟨"a", "unalias [-a] name [name ...]", false⟩),
    ("unset", ⟨"fnv", "unset [-f] [-v] [-n] [name ...]", false⟩),
    ("wait", ⟨"fnp:", "wait [-fn] [-p var] [id ...]", false⟩)]

def usage? (d : Dialect) (name : String) : Option Usage :=
  (match d with
    | .plain => plainUsages
    | .extended => extendedUsages).lookup name

structure Given where
  letter : Char
  argument : String := ""
  isOff : Bool := false
  deriving DecidableEq, Inhabited

abbrev Givens := List Given

def Givens.has (gs : Givens) (c : Char) : Bool := gs.any fun g => g.letter = c && !g.isOff

def Givens.lacks (gs : Givens) (c : Char) : Bool := gs.any fun g => g.letter = c && g.isOff

def Givens.argument? (gs : Givens) (c : Char) : Option String :=
  (gs.reverse.find? (·.letter = c)).map (·.argument)

/-- Are the paths meant that are there in fact? The last option decides. -/
def Givens.isPhysical (gs : Givens) : Bool :=
  ((gs.filter fun g => g.letter = 'P' || g.letter = 'L').map (·.letter)).getLast? = some 'P'

/-- What is wrong with an option. -/
inductive GivenFault where
  | unknown (sign letter : Char)
  | alone (letter : Char)
  deriving DecidableEq, Inhabited

namespace Usage

def knows (u : Usage) (c : Char) : Bool := c ≠ ':' && u.letters.toList.contains c

def takes (u : Usage) (c : Char) : Bool :=
  ((u.letters.toList.dropWhile (· ≠ c)).drop 1).head? == some ':'

/-- The options in the letters of a word, and the words after it. -/
def readLetters (u : Usage) (sign : Char) :
    List Char → List String → Givens → Except GivenFault (Givens × List String)
  | [], rest, gs => .ok (gs, rest)
  | c :: cs, rest, gs =>
    if !u.knows c then .error (.unknown sign c)
    else if !u.takes c then u.readLetters sign cs rest (gs ++ [⟨c, "", sign = '+'⟩])
    else if !cs.isEmpty then .ok (gs ++ [⟨c, String.ofList cs, false⟩], rest)
    else match rest with
      | arg :: rest => .ok (gs ++ [⟨c, arg, false⟩], rest)
      | [] => .error (.alone c)

/-- The options and the operands among words, of which there are at most so many. -/
def readWithin (u : Usage) : Nat → List String → Givens → Except GivenFault (Givens × List String)
  | 0, args, gs => .ok (gs, args)
  | n + 1, args, gs =>
    match args with
    | [] => .ok (gs, [])
    | "--" :: rest => .ok (gs, rest)
    | arg :: rest =>
      match arg.toList with
      | sign :: c :: cs =>
        if sign = '-' || (sign = '+' && u.hasPlus) then do
          let (gs, rest) ← u.readLetters sign (c :: cs) rest gs
          u.readWithin n rest gs
        else .ok (gs, args)
      | _ => .ok (gs, args)

def read (u : Usage) (args : List String) : Except GivenFault (Givens × List String) :=
  u.readWithin (args.length + 1) args []

end Usage

namespace Sh

def misuse {α : Type} (name text : String) : Sh α := do
  say 2 (name ++ ": usage: " ++ text ++ "\n")
  setStatus 2
  throw .failure

/-- The options and the operands among the arguments of a builtin command that is used so. -/
def optionsBy (u : Usage) (name : String) (args : List String) : Sh (Givens × List String) := do
  match (← get).dialect, u.read args with
  | _, .ok r => pure r
  | .plain, .error (.unknown _ c) => fail ("Illegal option -" ++ String.ofList [c])
  | .plain, .error (.alone c) => fail ("No arg for -" ++ String.ofList [c] ++ " option")
  | .extended, .error f => do
    complain (name ++ ": " ++ match f with
      | .unknown sign c => String.ofList [sign, c] ++ ": invalid option"
      | .alone c => "-" ++ String.ofList [c] ++ ": option requires an argument")
    misuse name u.text

/-- The options and the operands among the arguments of a builtin command. -/
def options (name : String) (args : List String) : Sh (Givens × List String) := do
  let s ← get
  match usage? s.dialect name with
  | none => pure ([], args)
  | some u =>
    -- Outside functions `local` is refused whatever its arguments are.
    if name = "local" && s.calls = 0 then pure ([], args) else optionsBy u name args

end Sh

end JobLaunch.Rehearsal.Script
