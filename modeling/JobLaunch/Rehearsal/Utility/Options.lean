import JobLaunch.Rehearsal.Utility.Basic
import JobLaunch.Rehearsal.Utility.Quoting

/-!
# Options

* `OptionForm` — an option, with its letter and its long name.
* `OptionForm.read` — the options and the operands among words.
* `Utility.options` — the same, with a complaint about options that are not right.
* `Utility.unknownWord` — the complaint about an argument that is not one of some words.
-/

namespace JobLaunch.Rehearsal

/-- Does an option take an argument? -/
inductive Arity where
  | none
  | required
  | optional
  deriving DecidableEq, Inhabited

structure OptionForm where
  letter : Char
  long : String := ""
  arity : Arity := .none
  short : Bool := true
  deriving DecidableEq, Inhabited

inductive OptionFault where
  | unknownLetter (c : Char)
  | letterAlone (c : Char)
  | unknownName (text : String)
  | ambiguous (text : String) (names : List String)
  | nameAlone (name : String)
  | superfluous (name : String)
  deriving DecidableEq, Inhabited

namespace OptionFault

def message : OptionFault → String
  | unknownLetter c => "invalid option -- '" ++ String.ofList [c] ++ "'"
  | letterAlone c => "option requires an argument -- '" ++ String.ofList [c] ++ "'"
  | unknownName text => "unrecognized option '--" ++ text ++ "'"
  | ambiguous text names =>
    "option '--" ++ text ++ "' is ambiguous; possibilities:" ++
      "".intercalate (names.map fun n => " '--" ++ n ++ "'")
  | nameAlone name => "option '--" ++ name ++ "' requires an argument"
  | superfluous name => "option '--" ++ name ++ "' doesn't allow an argument"

end OptionFault

namespace OptionForm

def flag (letter : Char) (long : String) : OptionForm := { letter, long }

def taking (letter : Char) (long : String) : OptionForm := { letter, long, arity := .required }

/-- An option that has no letter. It is known by one that nobody gives. -/
def named (letter : Char) (long : String) (arity : Arity) : OptionForm :=
  { letter, long, arity, short := false }

abbrev Given := Char × Option String

def readLetters (forms : List OptionForm) :
    List Char → List String → List Given → Except OptionFault (List Given × List String)
  | [], rest, given => .ok (given, rest)
  | c :: cs, rest, given =>
    match forms.find? fun f => f.short && f.letter = c with
    | none => .error (.unknownLetter c)
    | some f =>
      let attached := if cs.isEmpty then none else some (String.ofList cs)
      match f.arity with
      | .none => readLetters forms cs rest ((c, none) :: given)
      | .optional => .ok ((c, attached) :: given, rest)
      | .required =>
        match attached, rest with
        | some arg, _ => .ok ((c, some arg) :: given, rest)
        | none, arg :: rest => .ok ((c, some arg) :: given, rest)
        | none, [] => .error (.letterAlone c)

def find (forms : List OptionForm) (name : String) : Except OptionFault OptionForm :=
  match forms.find? (·.long = name) with
  | some f => .ok f
  | none =>
    match forms.filter fun f => !f.long.isEmpty && name.toList.isPrefixOf f.long.toList with
    | [f] => .ok f
    | [] => .error (.unknownName name)
    | fs => .error (.ambiguous name (fs.map (·.long)))

def readName (forms : List OptionForm) (text : List Char) (rest : List String)
    (given : List Given) : Except OptionFault (List Given × List String) := do
  let name := text.takeWhile (· ≠ '=')
  let attached := if name.length < text.length then
      some (String.ofList (text.drop (name.length + 1)))
    else none
  let f ← match find forms (String.ofList name) with
    | .error (.unknownName _) => .error (.unknownName (String.ofList text))
    | .error (.ambiguous _ names) => .error (.ambiguous (String.ofList text) names)
    | r => r
  match f.arity, attached, rest with
  | .none, some _, _ => .error (.superfluous f.long)
  | .required, none, arg :: rest => .ok ((f.letter, some arg) :: given, rest)
  | .required, none, [] => .error (.nameAlone f.long)
  | _, attached, _ => .ok ((f.letter, attached) :: given, rest)

/-- The options and the operands among words, after some that have been read; the last of them comes
first. -/
def readWithin (forms : List OptionForm) (ordered : Bool) :
    Nat → List String → List Given → List String → Except OptionFault (List Given × List String)
  | 0, _, given, operands => .ok (given.reverse, operands.reverse)
  | n + 1, args, given, operands =>
    match args with
    | [] => .ok (given.reverse, operands.reverse)
    | "--" :: rest => .ok (given.reverse, operands.reverse ++ rest)
    | arg :: rest =>
      match arg.toList with
      | '-' :: '-' :: text =>
        match readName forms text rest given with
        | .ok (given, rest) => readWithin forms ordered n rest given operands
        | .error f => .error f
      | '-' :: c :: cs =>
        match readLetters forms (c :: cs) rest given with
        | .ok (given, rest) => readWithin forms ordered n rest given operands
        | .error f => .error f
      | _ =>
        if ordered then .ok (given.reverse, operands.reverse ++ args)
        else readWithin forms ordered n rest given (arg :: operands)

/-- The options and the operands among words. Options may stand behind operands unless they are
ordered. -/
def read (forms : List OptionForm) (ordered : Bool) (args : List String) :
    Except OptionFault (List Given × List String) :=
  readWithin forms ordered (args.length + 1) args [] []

end OptionForm

namespace Utility

/-- The options and the operands among words; ends the utility with an exit code if the options are
not right. -/
def options (forms : List OptionForm) (ordered : Bool) (code : Nat) (args : List String) :
    Work (List OptionForm.Given × List String) := do
  match OptionForm.read forms ordered args with
  | .ok r => pure r
  | .error f => misused code f.message

/-- An argument that is none of the words that there are. Words with the same meaning stand
together. -/
def unknownChoice {α : Type} (code : Nat) (what word : String) (choices : List (List String)) :
    Work α := do
  let shown := choices.map fun words => "\n  - " ++ ", ".intercalate (words.map Quoting.typographic)
  misused code ("invalid argument " ++ Quoting.typographic word ++ " for " ++
    Quoting.typographic what ++ "\nValid arguments are:" ++ "".intercalate shown)

def unknownWord {α : Type} (code : Nat) (option word : String) (words : List String) : Work α :=
  unknownChoice code option word (words.map ([·]))

def choiceOf (code : Nat) (what word : String) (choices : List (List String)) : Work String := do
  match choices.find? (·.contains word) with
  | some c => pure (c.headD "")
  | none =>
    match choices.filter fun c => c.any fun w => word.toList.isPrefixOf w.toList with
    | [c] => pure (c.headD "")
    | [] => unknownChoice code what word choices
    | _ =>
      let shown := choices.map fun words =>
        "\n  - " ++ ", ".intercalate (words.map Quoting.typographic)
      misused code ("ambiguous argument " ++ Quoting.typographic word ++ " for " ++
        Quoting.typographic what ++ "\nValid arguments are:" ++ "".intercalate shown)

def isGiven (given : List OptionForm.Given) (c : Char) : Bool := given.any (·.1 = c)

def argument? (given : List OptionForm.Given) (c : Char) : Option String :=
  (given.reverse.find? (·.1 = c)).bind (·.2)

end Utility

end JobLaunch.Rehearsal
