/-!
# Paths

* `Path.join` — a path taken relative to a directory.
-/

namespace JobLaunch.Path

/-- Does a path start at the root? -/
def isAbsolute (p : String) : Bool := p.toList.head? == some '/'

/-- The second path taken relative to the first: one slash stands between them, unless the first
is empty or ends in one; an absolute second path stands alone. -/
def join (dir p : String) : String :=
  if isAbsolute p then p
  else if dir.isEmpty || dir.toList.getLast? == some '/' then dir ++ p
  else dir ++ "/" ++ p

end JobLaunch.Path
