import JobLaunch.Error
import JobLaunch.Rehearsal.Bytes

/-!
# Files

A tree of directories whose files are numbered. A file keeps its number when it is renamed, and its
bytes as long as somebody has it open. Resolving a path walks its names from a directory, follows
symbolic links, and refuses what is no directory on the way.

* `FileNode`, `Files` — what is kept.
* `Files.resolve` — the place that a path denotes, which need not be taken.
* `Files.find` — the file at a place that is taken.
* `Files.create`, `Files.unlink`, `Files.rename`, … — changes of the tree.
* `Files.writeAt`, `Files.truncate` — changes of a file.
-/

namespace JobLaunch.Rehearsal

abbrev FileId := Nat

/-- What a special file does. -/
inductive Device where
  | null
  | zero
  | full
  | stream (number : Nat)
  deriving DecidableEq, Inhabited

/-- What a file is. -/
inductive Content where
  | regular (bytes : Bytes)
  | directory (parent : FileId) (entries : List (String × FileId))
  | symlink (target : String)
  | device (d : Device)
  | program (name : String)
  deriving DecidableEq, Inhabited

structure FileNode where
  content : Content
  mode : Nat
  /-- When it was changed, by the clock of the machine in microseconds; negative before its start. -/
  changed : Int := 0
  deriving DecidableEq, Inhabited

namespace FileNode

def isDirectory (n : FileNode) : Bool :=
  match n.content with
  | .directory .. => true
  | _ => false

def isExecutable (n : FileNode) : Bool :=
  n.mode % 2 == 1 || n.mode / 8 % 2 == 1 || n.mode / 64 % 2 == 1

def size (n : FileNode) : Nat :=
  match n.content with
  | .regular bytes => bytes.length
  | .symlink target => Utf8.byteLength target
  | .directory .. => 4096
  | _ => 0

def blocks (n : FileNode) : Nat :=
  match n.content with
  | .regular bytes => (bytes.length + 4095) / 4096 * 4
  | .directory .. => 4
  | _ => 0

end FileNode

structure Files where
  nodes : Array FileNode
  deriving Inhabited

/-- A place in the tree: a name in a directory, and the file there if the place is taken. -/
structure Place where
  directory : FileId
  name : String
  file : Option FileId
  slash : Bool
  deriving DecidableEq, Inhabited

namespace Files

def root : FileId := 0

def empty : Files := ⟨#[{ content := .directory root [], mode := 0o755 }]⟩

def node? (fs : Files) (i : FileId) : Option FileNode := fs.nodes[i]?

def content? (fs : Files) (i : FileId) : Option Content := (fs.node? i).map (·.content)

def modify (fs : Files) (i : FileId) (f : FileNode → FileNode) : Files := ⟨fs.nodes.modify i f⟩

def directory? (fs : Files) (i : FileId) : Option (FileId × List (String × FileId)) :=
  match fs.content? i with
  | some (.directory parent entries) => some (parent, entries)
  | _ => none

def isDirectory (fs : Files) (i : FileId) : Bool := (fs.directory? i).isSome

/-- How many names a file has. A directory has one in the directory above it, one in itself, and one
in each directory in it. -/
def links (fs : Files) (i : FileId) : Nat :=
  match fs.directory? i with
  | some (_, entries) => 2 + entries.countP fun e => fs.isDirectory e.2
  | none => fs.nodes.foldl (fun count n =>
      match n.content with
      | .directory _ entries => count + entries.countP (·.2 = i)
      | _ => count) 0

def modifyEntries (fs : Files) (i : FileId) (time : Int)
    (f : List (String × FileId) → List (String × FileId)) : Files :=
  fs.modify i fun n =>
    match n.content with
    | .directory parent entries =>
      { n with content := .directory parent (f entries), changed := time }
    | _ => n

/-! ## Paths -/

def longestName : Nat := 255

def longestPath : Nat := 4095

def mostLinks : Nat := 40

def names (path : String) : List String :=
  ((path.toList.splitOn '/').filter (!·.isEmpty)).map String.ofList

def endsInSlash (path : String) : Bool := path.toList.getLast? == some '/'

def startOf (dir : FileId) (path : String) : FileId :=
  if path.toList.head? == some '/' then root else dir

/-- Walks names from a directory. The number of links that are still followed is given, and whether
one at the end is. -/
def walk (fs : Files) (follow slash : Bool) :
    Nat → Nat → FileId → List String → Except OsError Place
  | 0, _, _, _ => .error .linkLoop
  | _, _, dir, [] =>
    if fs.isDirectory dir then .ok ⟨dir, ".", some dir, slash⟩ else .error .notADirectory
  | fuel + 1, links, dir, name :: rest =>
    match fs.directory? dir with
    | none => .error .notADirectory
    | some (parent, entries) =>
      if name = "." then walk fs follow slash fuel links dir rest
      else if name = ".." then walk fs follow slash fuel links parent rest
      else if longestName < Utf8.byteLength name then .error .nameTooLong
      else match entries.lookup name with
        | none => if rest.isEmpty then .ok ⟨dir, name, none, slash⟩ else .error .notFound
        | some i =>
          match fs.content? i with
          | some (.symlink target) =>
            if rest.isEmpty && !follow && !slash then .ok ⟨dir, name, some i, slash⟩
            else match links with
              | 0 => .error .linkLoop
              | links + 1 =>
                walk fs follow slash fuel links (startOf dir target) (names target ++ rest)
          | _ =>
            if rest.isEmpty then .ok ⟨dir, name, some i, slash⟩
            else walk fs follow slash fuel links i rest

def resolve (fs : Files) (dir : FileId) (path : String) (follow : Bool) : Except OsError Place :=
  if path.toList.contains '\x00' then .error .zeroInPath
  else if path.isEmpty then .error .notFound
  else if longestPath < Utf8.byteLength path then .error .nameTooLong
  else
    let steps := (mostLinks + 1) * (longestPath + 1)
    fs.walk follow (endsInSlash path) steps mostLinks (startOf dir path) (names path)

def find (fs : Files) (dir : FileId) (path : String) (follow : Bool) :
    Except OsError (FileId × FileNode) := do
  let p ← fs.resolve dir path follow
  match p.file with
  | none => .error .notFound
  | some i =>
    match fs.node? i with
    | none => .error .notFound
    | some n => if p.slash && !n.isDirectory then .error .notADirectory else .ok (i, n)

def findDirectory (fs : Files) (dir : FileId) (path : String) : Except OsError FileId := do
  let (i, n) ← fs.find dir path true
  if n.isDirectory then .ok i else .error .notADirectory

def location (fs : Files) : Nat → FileId → List String
  | 0, _ => []
  | fuel + 1, i =>
    if i = root then []
    else match fs.directory? i with
      | none => []
      | some (parent, _) =>
        match (fs.directory? parent).bind fun d => d.2.find? (·.2 = i) with
        | some (name, _) => fs.location fuel parent ++ [name]
        | none => []

def pathOf (fs : Files) (i : FileId) : String :=
  "/" ++ "/".intercalate (fs.location (longestPath + 1) i)

/-! ## Changes of the tree -/

def add (fs : Files) (dir : FileId) (name : String) (n : FileNode) : FileId × Files :=
  let i := fs.nodes.size
  (i, modifyEntries ⟨fs.nodes.push n⟩ dir n.changed fun es => es ++ [(name, i)])

def makeDirectory (fs : Files) (dir : FileId) (path : String) (mode time : Nat) :
    Except OsError Files := do
  let p ← fs.resolve dir path false
  match p.file with
  | some _ => .error .alreadyExists
  | none =>
    .ok (fs.add p.directory p.name ⟨.directory p.directory [], mode, time⟩).2

def makeSymlink (fs : Files) (dir : FileId) (target path : String) (time : Nat) :
    Except OsError Files := do
  let p ← fs.resolve dir path false
  match p.file with
  | some _ => .error .alreadyExists
  | none =>
    if p.slash then .error .notFound
    else .ok (fs.add p.directory p.name ⟨.symlink target, 0o777, time⟩).2

def makeLink (fs : Files) (dir : FileId) (old path : String) (time : Nat) :
    Except OsError Files := do
  let (i, n) ← fs.find dir old false
  let p ← fs.resolve dir path false
  if n.isDirectory then .error .notPermitted
  else match p.file with
    | some _ => .error .alreadyExists
    | none =>
      if p.slash then .error .notFound
      else .ok (fs.modifyEntries p.directory time fun es => es ++ [(p.name, i)])

def unlink (fs : Files) (dir : FileId) (path : String) (time : Nat) : Except OsError Files := do
  let p ← fs.resolve dir path false
  match p.file with
  | none => .error .notFound
  | some i =>
    if fs.isDirectory i then .error .isADirectory
    else if p.slash then .error .notADirectory
    else .ok (fs.modifyEntries p.directory time fun es => es.filter (·.1 ≠ p.name))

def removeDirectory (fs : Files) (dir : FileId) (path : String) (time : Nat) :
    Except OsError Files := do
  let p ← fs.resolve dir path false
  match p.file with
  | none => .error .notFound
  | some i =>
    match fs.directory? i with
    | none => .error .notADirectory
    | some (parent, entries) =>
      if (names path).getLast? = some "." then .error .invalidArgument
      else if !entries.isEmpty then .error .notEmpty
      else .ok (fs.modifyEntries parent time fun es => es.filter (·.2 ≠ i))

def isInside (fs : Files) (outer : FileId) : Nat → FileId → Bool
  | 0, _ => false
  | fuel + 1, i =>
    i = outer || (i ≠ root && match fs.directory? i with
      | some (parent, _) => fs.isInside outer fuel parent
      | none => false)

def rename (fs : Files) (dir : FileId) (old new : String) (time : Nat) : Except OsError Files := do
  let p ← fs.resolve dir old false
  let q ← fs.resolve dir new false
  match p.file with
  | none => .error .notFound
  | some i =>
    let isDir := fs.isDirectory i
    let move (fs : Files) : Files :=
      let fs := fs.modifyEntries p.directory time fun es => es.filter (·.1 ≠ p.name)
      let fs := fs.modifyEntries q.directory time fun es =>
        es.filter (·.1 ≠ q.name) ++ [(q.name, i)]
      fs.modify i fun n =>
        match n.content with
        | .directory _ entries => { n with content := .directory q.directory entries }
        | _ => n
    if (p.slash || q.slash) && !isDir then .error .notADirectory
    else if isDir && fs.isInside i (longestPath + 1) q.directory then .error .invalidArgument
    else match q.file with
      | none => .ok (move fs)
      | some j =>
        if i = j then .ok fs
        else match isDir, fs.directory? j with
          | true, none => .error .notADirectory
          | false, some _ => .error .isADirectory
          | true, some (_, _ :: _) => .error .notEmpty
          | _, _ => .ok (move fs)

/-! ## Changes of a file -/

/-- The bytes of a file with some of them replaced from a place on; a gap is filled with zeros. -/
def overwrite (old : Bytes) (place : Nat) (new : Bytes) : Bytes :=
  if place = old.length then old ++ new
  else
    old.take place ++ List.replicate (place - old.length) 0 ++ new ++
      old.drop (place + new.length)

def writeAt (fs : Files) (i : FileId) (place : Nat) (bytes : Bytes) (time : Nat) : Files :=
  fs.modify i fun n =>
    match n.content with
    | .regular old => { n with content := .regular (overwrite old place bytes), changed := time }
    | _ => n

def truncate (fs : Files) (i : FileId) (time : Nat) : Files :=
  fs.modify i fun n =>
    match n.content with
    | .regular _ => { n with content := .regular [], changed := time }
    | _ => n

/-- The file that is to be written at a path; it is made if the place is free. -/
def create (fs : Files) (dir : FileId) (path : String) (mode time : Nat) :
    Except OsError (FileId × Files) := do
  let p ← fs.resolve dir path true
  if p.slash then .error .isADirectory
  else match p.file with
    | none => .ok (fs.add p.directory p.name ⟨.regular [], mode, time⟩)
    | some i =>
      match fs.content? i with
      | some (.directory ..) => .error .isADirectory
      | some (.program _) => .error .textBusy
      | _ => .ok (i, fs)

def write (fs : Files) (dir : FileId) (path : String) (bytes : Bytes) (mode time : Nat) :
    Except OsError Files := do
  let (i, fs) ← fs.create dir path mode time
  .ok ((fs.truncate i time).writeAt i 0 bytes time)

def changeMode (fs : Files) (dir : FileId) (path : String) (mode : Nat) : Except OsError Files := do
  let (i, _) ← fs.find dir path true
  .ok (fs.modify i fun n => { n with mode })

def read (fs : Files) (dir : FileId) (path : String) : Except OsError Bytes := do
  let (_, n) ← fs.find dir path true
  match n.content with
  | .regular bytes => .ok bytes
  | .directory .. => .error .isADirectory
  | _ => .ok []

def readText? (fs : Files) (dir : FileId) (path : String) : Option String :=
  match fs.read dir path with
  | .ok bytes => if Utf8.encode (Utf8.decode bytes) = bytes then some (Utf8.text bytes) else none
  | .error _ => none

/-- Makes a directory and those above it; what cannot be made is left out. -/
def makeDirectories (fs : Files) (dir : FileId) (path : String) : Files :=
  ((names path).foldl (fun (s : Files × Option FileId) name =>
    match s.2 with
    | none => s
    | some d =>
      match s.1.walk true false (mostLinks * longestPath) mostLinks d [name] with
      | .ok ⟨_, _, some i, _⟩ => (s.1, some i)
      | .ok ⟨parent, name, none, _⟩ =>
        let (i, fs) := s.1.add parent name ⟨.directory parent [], 0o755, 0⟩
        (fs, some i)
      | .error _ => (s.1, none)) (fs, some (startOf dir path))).1

end Files

end JobLaunch.Rehearsal
