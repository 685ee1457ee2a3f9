import JobLaunch.Rehearsal.Script.Command

/-!
# Switches of shells

* `Switch.known` — the switches of a shell, in the order in which they are listed.
* `Switch.withLetter?` — the switch that a letter stands for.
* `Switch.letters` — the letters of those that are on.
-/

namespace JobLaunch.Rehearsal.Script

structure Switch where
  name : String
  letter : Option Char := none
  deriving DecidableEq, Inhabited

namespace Switch

def small : List Switch :=
  [⟨"errexit", 'e'⟩, ⟨"noglob", 'f'⟩, ⟨"ignoreeof", 'I'⟩, ⟨"interactive", 'i'⟩, ⟨"monitor", 'm'⟩,
    ⟨"noexec", 'n'⟩, ⟨"stdin", 's'⟩, ⟨"xtrace", 'x'⟩, ⟨"verbose", 'v'⟩, ⟨"vi", 'V'⟩,
    ⟨"emacs", 'E'⟩, ⟨"noclobber", 'C'⟩, ⟨"allexport", 'a'⟩, ⟨"notify", 'b'⟩, ⟨"nounset", 'u'⟩,
    ⟨"privileged", 'p'⟩, ⟨"nolog", none⟩, ⟨"debug", none⟩]

def large : List Switch :=
  [⟨"allexport", 'a'⟩, ⟨"braceexpand", 'B'⟩, ⟨"emacs", none⟩, ⟨"errexit", 'e'⟩, ⟨"errtrace", 'E'⟩,
    ⟨"functrace", 'T'⟩, ⟨"hashall", 'h'⟩, ⟨"histexpand", 'H'⟩, ⟨"history", none⟩,
    ⟨"ignoreeof", none⟩, ⟨"interactive-comments", none⟩, ⟨"keyword", 'k'⟩, ⟨"monitor", 'm'⟩,
    ⟨"noclobber", 'C'⟩, ⟨"noexec", 'n'⟩, ⟨"noglob", 'f'⟩, ⟨"nolog", none⟩, ⟨"notify", 'b'⟩,
    ⟨"nounset", 'u'⟩, ⟨"onecmd", 't'⟩, ⟨"physical", 'P'⟩, ⟨"pipefail", none⟩, ⟨"posix", none⟩,
    ⟨"privileged", 'p'⟩, ⟨"verbose", 'v'⟩, ⟨"vi", none⟩, ⟨"xtrace", 'x'⟩]

def known : Dialect → List Switch
  | .plain => small
  | .extended => large

def initial : Dialect → List String
  | .plain => []
  | .extended => ["braceexpand", "hashall", "interactive-comments"]

def withLetter? (d : Dialect) (c : Char) : Option Switch :=
  (known d).find? (·.letter = some c)

def named? (d : Dialect) (name : String) : Option Switch := (known d).find? (·.name = name)

def order : Dialect → List Char
  | .plain => (small.filterMap (·.letter)).reverse
  | .extended => "abefhkmnptuvxBCEHPT".toList

def letters (d : Dialect) (on : List String) : List Char :=
  (order d).filter fun c => (withLetter? d c).any fun s => on.contains s.name

end Switch

end JobLaunch.Rehearsal.Script
