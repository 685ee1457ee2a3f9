import JobLaunch.Rehearsal.Bytes

/-!
# Differences between sequences

Two sequences of numbers are compared; what is common to both is as long as possible. The search
for it goes from both ends along the diagonals of the grid of their places until the two meet, and
is then repeated on both sides of the place where they do.

* `Frontier`, `Grid.middle` — the search from both ends.
* `Grid.strangers` — what is not common.
* `Sliding.settle` — moves each run of strangers as far to the end as possible.
* `Change`, `Change.all` — what makes one sequence out of the other.
-/

namespace JobLaunch.Rehearsal

/-- A part of the grid of the places of two sequences. -/
structure Grid where
  left : Array Nat
  right : Array Nat
  left₁ : Nat
  left₂ : Nat
  right₁ : Nat
  right₂ : Nat
  deriving Inhabited

/-- How far a search has come on each of some diagonals, of which every second one counts. -/
structure Frontier where
  reached : Array Int
  low : Int
  high : Int
  deriving Inhabited

namespace Grid

/-- How many elements from places on are equal, at most so many. -/
def runAfter (g : Grid) (x y : Nat) : Nat → Nat
  | 0 => 0
  | n + 1 => if g.left[x]? = g.right[y]? then g.runAfter (x + 1) (y + 1) n + 1 else 0

/-- How many elements before places are equal, at most so many. -/
def runBefore (g : Grid) (x y : Nat) : Nat → Nat
  | 0 => 0
  | n + 1 => if g.left[x - 1]? = g.right[y - 1]? then g.runBefore (x - 1) (y - 1) n + 1 else 0

/-! ## The search from both ends -/

def slot (g : Grid) (d : Int) : Nat := (d + g.right.size + 1).toNat

def reach (g : Grid) (f : Frontier) (d : Int) : Int := f.reached.getD (g.slot d) 0

def record (g : Grid) (f : Frontier) (d x : Int) : Frontier :=
  { f with reached := f.reached.setIfInBounds (g.slot d) x }

def frontier (g : Grid) (d : Int) (x : Nat) : Frontier :=
  g.record ⟨Array.replicate (g.left.size + g.right.size + 3) 0, d, d⟩ d (Int.ofNat x)

/-- A search on diagonals that are one further out; the ones beyond hold a value that is never
chosen. -/
def widen (g : Grid) (f : Frontier) (unused : Int) : Frontier :=
  let lowest := Int.ofNat g.left₁ - Int.ofNat g.right₂
  let highest := Int.ofNat g.left₂ - Int.ofNat g.right₁
  let f := if lowest < f.low then { g.record f (f.low - 2) unused with low := f.low - 1 }
    else { f with low := f.low + 1 }
  if f.high < highest then { g.record f (f.high + 2) unused with high := f.high + 1 }
  else { f with high := f.high - 1 }

def covers (f : Frontier) (d : Int) : Bool := f.low ≤ d && d ≤ f.high

/-- One more step of the search from the start, on so many diagonals down from one; ends when it
meets the other search. -/
def forward (g : Grid) (other : Option Frontier) :
    Nat → Int → Frontier → Except (Nat × Nat) Frontier
  | 0, _, f => .ok f
  | n + 1, d, f =>
    let before := g.reach f (d - 1)
    let after := g.reach f (d + 1)
    let x := (if before < after then after else before + 1).toNat
    let y := (Int.ofNat x - d).toNat
    let k := g.runAfter x y (min (g.left₂ - x) (g.right₂ - y))
    let x := x + k
    let f := g.record f d (Int.ofNat x)
    if other.any fun o => covers o d && g.reach o d ≤ Int.ofNat x then .error (x, y + k)
    else g.forward other n (d - 2) f

def backward (g : Grid) (other : Option Frontier) :
    Nat → Int → Frontier → Except (Nat × Nat) Frontier
  | 0, _, f => .ok f
  | n + 1, d, f =>
    let before := g.reach f (d - 1)
    let after := g.reach f (d + 1)
    let x := (if before < after then before else after - 1).toNat
    let y := (Int.ofNat x - d).toNat
    let k := g.runBefore x y (min (x - g.left₁) (y - g.right₁))
    let x := x - k
    let f := g.record f d (Int.ofNat x)
    if other.any fun o => covers o d && Int.ofNat x ≤ g.reach o d then .error (x, y - k)
    else g.backward other n (d - 2) f

def steps (f : Frontier) : Nat := ((f.high - f.low) / 2 + 1).toNat

def meeting (g : Grid) (isOdd : Bool) : Nat → Frontier → Frontier → Except (Nat × Nat) Unit
  | 0, _, _ => .ok ()
  | n + 1, f, b => do
    let f := g.widen f (-1)
    let f ← g.forward (if isOdd then some b else none) (steps f) f.high f
    let b := g.widen b (Int.ofNat (g.left.size + g.right.size + 1))
    let b ← g.backward (if isOdd then none else some f) (steps b) b.high b
    g.meeting isOdd n f b

def middle (g : Grid) : Nat × Nat :=
  let first := Int.ofNat g.left₁ - Int.ofNat g.right₁
  let last := Int.ofNat g.left₂ - Int.ofNat g.right₂
  match g.meeting ((first - last) % 2 ≠ 0) (g.left.size + g.right.size + 2)
      (g.frontier first g.left₁) (g.frontier last g.left₂) with
  | .error place => place
  | .ok () => (g.left₁, g.right₂)

/-! ## What is not common -/

/-- The places in both sequences that are not common, for a bound on the number of divisions. -/
def strangersWithin : Nat → Grid → List Nat × List Nat
  | 0, _ => ([], [])
  | n + 1, g =>
    let k := g.runAfter g.left₁ g.right₁ (min (g.left₂ - g.left₁) (g.right₂ - g.right₁))
    let g := { g with left₁ := g.left₁ + k, right₁ := g.right₁ + k }
    let k := g.runBefore g.left₂ g.right₂ (min (g.left₂ - g.left₁) (g.right₂ - g.right₁))
    let g := { g with left₂ := g.left₂ - k, right₂ := g.right₂ - k }
    if g.left₁ = g.left₂ then ([], List.range' g.right₁ (g.right₂ - g.right₁))
    else if g.right₁ = g.right₂ then (List.range' g.left₁ (g.left₂ - g.left₁), [])
    else
      let (x, y) := g.middle
      let (left, right) := strangersWithin n { g with left₂ := x, right₂ := y }
      let (left', right') := strangersWithin n { g with left₁ := x, right₁ := y }
      (left ++ left', right ++ right')

def strangers (left right : Array Nat) : List Nat × List Nat :=
  strangersWithin (left.size + right.size + 2)
    { left, right, left₁ := 0, left₂ := left.size, right₁ := 0, right₂ := right.size }

end Grid

/-! ## Runs -/

/-- A run of strangers that is being moved. -/
structure Sliding where
  isStranger : Array Bool
  start : Nat
  stop : Nat
  across : Nat
  deriving Inhabited

namespace Sliding

def skip (marks : Array Bool) : Nat → Nat → Nat
  | 0, i => i
  | n + 1, i => if marks.getD i false then skip marks n (i + 1) else i

/-- The place after the last one before a place that has no mark. -/
def skipBack (marks : Array Bool) : Nat → Nat
  | 0 => 0
  | i + 1 => if marks.getD i false then skipBack marks i else i + 1

/-- The run moved by one to the start, as far as the marks across allow. -/
def back (others : Array Bool) (s : Sliding) : Sliding :=
  let isStranger := (s.isStranger.setIfInBounds (s.start - 1) true).setIfInBounds (s.stop - 1) false
  { isStranger, start := skipBack isStranger (s.start - 1), stop := s.stop - 1,
    across := skipBack others s.across - 1 }

def toStart (classes : Array Nat) (others : Array Bool) : Nat → Sliding → Sliding
  | 0, s => s
  | n + 1, s =>
    if 0 < s.start && classes[s.start - 1]? = classes[s.stop - 1]? then
      toStart classes others n (s.back others)
    else s

/-- The run moved to the end as far as possible, and the last of its ends that was across from a
run of strangers. -/
def toEnd (classes : Array Nat) (others : Array Bool) :
    Nat → Sliding → Option Nat → Sliding × Option Nat
  | 0, s, best => (s, best)
  | n + 1, s, best =>
    if s.stop < classes.size && classes[s.start]? = classes[s.stop]? then
      let isStranger := (s.isStranger.setIfInBounds s.start false).setIfInBounds s.stop true
      let stop := skip isStranger classes.size (s.stop + 1)
      let across := skip others others.size (s.across + 1)
      let best := if s.across + 1 < across then some stop else best
      toEnd classes others n { isStranger, start := s.start + 1, stop, across } best
    else (s, best)

def grow (classes : Array Nat) (others : Array Bool) : Nat → Sliding → Sliding × Option Nat
  | 0, s => (s, none)
  | n + 1, s =>
    let length := s.stop - s.start
    let s := s.toStart classes others (classes.size + 1)
    let best := if 0 < s.across && others.getD (s.across - 1) false then some s.stop else none
    let (s, best) := s.toEnd classes others (classes.size + 1) best
    if s.stop - s.start = length then (s, best) else grow classes others n s

def backTo (others : Array Bool) (stop : Nat) : Nat → Sliding → Sliding
  | 0, s => s
  | n + 1, s =>
    if stop < s.stop then
      let isStranger :=
        (s.isStranger.setIfInBounds (s.start - 1) true).setIfInBounds (s.stop - 1) false
      backTo others stop n { isStranger, start := s.start - 1, stop := s.stop - 1,
                             across := skipBack others s.across - 1 }
    else s

/-- The strangers after every run from places on has been moved. -/
def settleFrom (classes : Array Nat) (others : Array Bool) :
    Nat → Nat → Nat → Array Bool → Array Bool
  | 0, _, _, isStranger => isStranger
  | n + 1, i, j, isStranger =>
    if classes.size ≤ i then isStranger
    else
      let j := skip others others.size j
      if !isStranger.getD i false then settleFrom classes others n (i + 1) (j + 1) isStranger
      else
        let stop := skip isStranger classes.size i
        let (s, best) := grow classes others (classes.size + 1) ⟨isStranger, i, stop, j⟩
        let s := match best with
          | some stop => s.backTo others stop (classes.size + 1)
          | none => s
        settleFrom classes others n s.stop s.across s.isStranger

/-- The strangers after every run has been moved as far to the end as possible, unless it can be
across from a run of the other sequence. -/
def settle (classes : Array Nat) (others isStranger : Array Bool) : Array Bool :=
  settleFrom classes others (2 * classes.size + 1) 0 0 isStranger

end Sliding

/-! ## Changes -/

/-- Something is taken out of a sequence, and something is put in its place. -/
structure Change where
  old : Nat
  new : Nat
  taken : Nat
  put : Nat
  deriving DecidableEq, Inhabited

namespace Change

def marks (size : Nat) (places : List Nat) : Array Bool :=
  places.foldl (fun marks i => marks.setIfInBounds i true) (Array.replicate size false)

def fromMarks (left right : Array Bool) : Nat → Nat → Nat → List Change
  | 0, _, _ => []
  | n + 1, i, j =>
    if left.size ≤ i && right.size ≤ j then []
    else
      let i' := Sliding.skip left left.size i
      let j' := Sliding.skip right right.size j
      let rest := fromMarks left right n (i' + 1) (j' + 1)
      if i < i' || j < j' then ⟨i, j, i' - i, j' - j⟩ :: rest else rest

/-- Elements without those that are nowhere in the other sequence, with their places. -/
def known (classes others : Array Nat) : Array (Nat × Nat) :=
  let count := classes.foldl max (others.foldl max 0) + 1
  let occurs := marks count others.toList
  classes.zipIdx.filter fun (c, _) => occurs.getD c false

def all (left right : Array Nat) : List Change :=
  let left' := known left right
  let right' := known right left
  let (gone, come) := Grid.strangers (left'.map (·.1)) (right'.map (·.1))
  let marksOf (classes : Array Nat) (known : Array (Nat × Nat)) (places : List Nat) : Array Bool :=
    let common := marks classes.size (known.toList.map (·.2))
    (places.filterMap fun i => known[i]?.map (·.2)).foldl
      (fun marks i => marks.setIfInBounds i true) (common.map (!·))
  let isGone := marksOf left left' gone
  let isCome := marksOf right right' come
  let isGone := Sliding.settle left isCome isGone
  let isCome := Sliding.settle right isGone isCome
  fromMarks isGone isCome (left.size + right.size + 1) 0 0

end Change

end JobLaunch.Rehearsal
