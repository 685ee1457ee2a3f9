import JobLaunch.Machine
import JobLaunch.Rehearsal.Program
import JobLaunch.Rehearsal.Signal

/-!
# A system for rehearsals

A host has files, a clock and processes, each of which goes on with its program when it can. On it a
launcher can be tried without touching the world. Calls take a nominal time, so that the order of
what happens is settled; times are in microseconds. Programs are given by the modules below
`Rehearsal.Script` (shells) and `Rehearsal.Utility`; a host knows nothing of them but their moves.

* `Host` — its state.
* `Host.advance` — lets processes go on up to a time.
* `Host.nextMove?` — when a process goes on next.
* `Host.ended?`, `Host.closed?` — has a process ended, and has its output?
-/

namespace JobLaunch.Rehearsal

/-- What an open stream leads to. -/
inductive Target where
  | file (id : FileId)
  | pipe (number : Nat)
  | capture (number : Nat)
  deriving DecidableEq, Inhabited

/-- Something that has been opened. Streams that are duplicates of each other share it. -/
structure Opened where
  target : Target
  mode : OpenMode
  place : Nat := 0
  deriving DecidableEq, Inhabited

structure Stream where
  number : Nat
  opened : Nat
  passed : Bool := true
  deriving DecidableEq, Inhabited

/-- A process. -/
structure Process where
  parent : Pid
  group : Pid := 0
  program : Program
  directory : FileId
  streams : List Stream := []
  mask : Nat := 0o022
  dispositions : List (Nat × Disposition) := []
  arrived : List Nat := []
  isStopped : Bool := false
  held : List Nat := []
  outcome : Option Outcome := none
  readyAt : Nat := 0
  captures : Option Nat × Option Nat := (none, none)
  deriving Inhabited

abbrev Installed := String → List String → List (String × String) → Program

/-- A system for rehearsals. -/
structure Host where
  files : Files
  now : Nat := 0
  processes : List (Pid × Process) := []
  opened : Array Opened := #[]
  pipes : Array Bytes := #[]
  captured : Array Bytes := #[]
  nextPid : Pid := 1000
  deriving Inhabited

namespace Host

/-! ## Nominal times -/

def callTime : Nat := 2

def forkTime : Nat := 60

def childTime : Nat := 200

def executeTime : Nat := 400

def launchTime : Nat := 2000

/-! ## Processes -/

def launcher : Pid := 0

/-- The process that looks after processes whose parents have ended. -/
def guardian : Pid := 1

def process? (h : Host) (p : Pid) : Option Process := h.processes.lookup p

def modify (h : Host) (p : Pid) (f : Process → Process) : Host :=
  { h with processes := h.processes.map fun e => if e.1 = p then (e.1, f e.2) else e }

def resume (h : Host) (p : Pid) (program : Program) (duration : Nat) : Host :=
  h.modify p fun q => { q with program, readyAt := h.now + duration }

def dispositionOf (q : Process) (signal : Nat) : Disposition :=
  if signal = Signal.kill || signal = Signal.stop then .standard
  else (q.dispositions.lookup signal).getD .standard

def takeNote (signal : Nat) (q : Process) : Process :=
  if q.outcome.isNone && dispositionOf q signal = .noted then
    { q with arrived := q.arrived ++ [signal] }
  else q

/-- A process ends. What it has open is closed, its parent is told, and its children get another
parent. -/
def finish (h : Host) (p : Pid) (o : Outcome) : Host :=
  let parent := (h.process? p).map (·.parent)
  let h := h.modify p fun q =>
    { q with outcome := some o, streams := [], program := .finish o }
  let h := parent.elim h fun parent => h.modify parent (takeNote Signal.childEnded)
  let orphaned := h.processes.map fun e =>
    if e.2.parent = p then (e.1, { e.2 with parent := guardian }) else e
  { h with processes := orphaned.filter fun e => e.2.parent ≠ guardian || e.2.outcome.isNone }

def act (h : Host) (p : Pid) (signal : Nat) : Host :=
  match h.process? p with
  | none => h
  | some q =>
    if q.outcome.isSome then h
    else match dispositionOf q signal with
      | .ignored => h
      | .noted => h.modify p (takeNote signal)
      | .standard =>
        if Signal.isStopping signal then h.modify p fun q => { q with isStopped := true }
        else if Signal.isDeadly signal then h.finish p (.signal signal)
        else h

/-- A signal arrives at a process. While it is stopped most signals are held back. -/
def deliver (h : Host) (p : Pid) (signal : Nat) : Host :=
  match h.process? p with
  | none => h
  | some q =>
    if signal = Signal.goOn then
      q.held.foldl (fun h s => h.act p s)
        ((h.modify p fun q => { q with isStopped := false, held := [] }).act p signal)
    else if q.isStopped && signal ≠ Signal.kill then
      if dispositionOf q signal = .ignored || q.held.contains signal then h
      else h.modify p fun q => { q with held := q.held ++ [signal] }
    else h.act p signal

/-! ## Streams -/

def stream? (h : Host) (q : Process) (n : Nat) : Option (Nat × Opened) :=
  (q.streams.find? (·.number = n)).bind fun s => (h.opened[s.opened]?).map (s.opened, ·)

def freeNumber (q : Process) (low : Nat) : Nat :=
  ((List.range (q.streams.length + 1)).find? fun k =>
    q.streams.all (·.number ≠ low + k)).elim (low + q.streams.length) (low + ·)

def setStream (h : Host) (p : Pid) (s : Stream) : Host :=
  h.modify p fun q => { q with streams := s :: q.streams.filter (·.number ≠ s.number) }

def addOpened (h : Host) (p : Pid) (q : Process) (o : Opened) : Nat × Host :=
  let n := freeNumber q 0
  (n, { h with opened := h.opened.push o }.setStream p ⟨n, h.opened.size, true⟩)

def anyOpen (h : Host) (f : Opened → Bool) : Bool :=
  h.processes.any fun e => e.2.streams.any fun s => (h.opened[s.opened]?).any f

def hasWriter (h : Host) (pipe : Nat) : Bool :=
  h.anyOpen fun o => o.target = .pipe pipe && o.mode.writes

def hasReader (h : Host) (pipe : Nat) : Bool :=
  h.anyOpen fun o => o.target = .pipe pipe && o.mode.reads

def pipeRoom : Nat := 65535

def inPipe (h : Host) (pipe : Nat) : Bytes := (h.pipes[pipe]?).getD []

def pipe? (h : Host) (q : Process) (n : Nat) : Option (Nat × OpenMode) :=
  match h.stream? q n with
  | some (_, o) =>
    match o.target with
    | .pipe k => some (k, o.mode)
    | _ => none
  | none => none

def setPlace (h : Host) (opened place : Nat) : Host :=
  { h with opened := h.opened.modify opened fun o => { o with place } }

/-! ## Calls -/

def childrenOf (h : Host) (p : Pid) (child : Option Pid) : List (Pid × Process) :=
  h.processes.filter fun e => e.2.parent = p && child.all (· = e.1)

/-- Can a process go on now, or does it have to wait for others? -/
def canMove (h : Host) (p : Pid) (q : Process) : Bool :=
  !q.isStopped && match q.program with
  | .call (.read n _) _ =>
    match h.pipe? q n with
    | some (k, mode) => !mode.reads || !(h.inPipe k).isEmpty || !h.hasWriter k
    | none => true
  | .call (.write n _) _ =>
    match h.pipe? q n with
    | some (k, mode) => !mode.writes || (h.inPipe k).length ≤ pipeRoom || !h.hasReader k
    | none => true
  | .call (.wait child stays) _ =>
    let children := h.childrenOf p child
    !stays || children.isEmpty || !q.arrived.isEmpty || children.any (·.2.outcome.isSome)
  | .finish _ => q.outcome.isNone
  | _ => true

def openFile (h : Host) (p : Pid) (q : Process) (path : String) (mode : OpenMode) :
    Except OsError Nat × Host :=
  let opening (h : Host) (i : FileId) : Except OsError Nat × Host :=
    match h.files.content? i with
    | some (.device (.stream n)) =>
      match h.stream? q n with
      | some (_, o) =>
        let h := match o.target with
          | .file i => if mode.truncates then { h with files := h.files.truncate i h.now } else h
          | _ => h
        let (n, h) := h.addOpened p q { o with mode, place := 0 }
        (.ok n, h)
      | none => (.error .notFound, h)
    | some (.directory ..) =>
      if mode.writes then (.error .isADirectory, h)
      else
        let (n, h) := h.addOpened p q ⟨.file i, mode, 0⟩
        (.ok n, h)
    | _ =>
      let h := if mode.truncates then { h with files := h.files.truncate i h.now } else h
      let (n, h) := h.addOpened p q ⟨.file i, mode, 0⟩
      (.ok n, h)
  if mode.creates then
    match h.files.resolve q.directory path true with
    | .ok ⟨_, _, some _, _⟩ =>
      if mode.excludes then (.error .alreadyExists, h)
      else match h.files.create q.directory path 0 h.now with
        | .ok (i, _) => opening h i
        | .error e => (.error e, h)
    | _ =>
      let granted := 0o666 - (0o666 &&& q.mask)
      match h.files.create q.directory path granted h.now with
      | .ok (i, files) => opening { h with files } i
      | .error e => (.error e, h)
  else match h.files.find q.directory path true with
    | .ok (i, _) => opening h i
    | .error e => (.error e, h)

def readOpened (h : Host) (n : Nat) (o : Opened) (count : Nat) : Except OsError Bytes × Host :=
  if !o.mode.reads then (.error .badDescriptor, h)
  else match o.target with
    | .pipe k =>
      let bytes := h.inPipe k
      (.ok (bytes.take count), { h with pipes := h.pipes.setIfInBounds k (bytes.drop count) })
    | .capture _ => (.error .badDescriptor, h)
    | .file i =>
      match h.files.content? i with
      | some (.regular bytes) =>
        let found := (bytes.drop o.place).take count
        (.ok found, h.setPlace n (o.place + found.length))
      | some (.directory ..) => (.error .isADirectory, h)
      | some (.device .zero) | some (.device .full) => (.ok (List.replicate count 0), h)
      | _ => (.ok [], h)

/-- Writes to what is open; a pipe that nobody reads takes nothing. -/
def writeOpened (h : Host) (n : Nat) (o : Opened) (bytes : Bytes) : Except OsError Unit × Host :=
  if !o.mode.writes then (.error .badDescriptor, h)
  else match o.target with
    | .pipe k =>
      if h.hasReader k then
        (.ok (), { h with pipes := h.pipes.setIfInBounds k (h.inPipe k ++ bytes) })
      else (.error .brokenPipe, h)
    | .capture k =>
      (.ok (), { h with
        captured := h.captured.setIfInBounds k ((h.captured[k]?).getD [] ++ bytes) })
    | .file i =>
      match h.files.node? i with
      | some ⟨.regular old, _, _⟩ =>
        let place := if o.mode.appends then old.length else o.place
        (.ok (), { h with files := h.files.writeAt i place bytes h.now }.setPlace n
          (place + bytes.length))
      | some ⟨.device .full, _, _⟩ => (.error .noSpace, h)
      | _ => (.ok (), h)

def inspectOpened (h : Host) (o : Opened) : Except OsError FileInfo :=
  match o.target with
  | .file i =>
    match h.files.node? i with
    | some node => .ok ⟨i, node, h.files.links i⟩
    | none => .error .badDescriptor
  | .pipe _ | .capture _ => .error .illegalSeek

def change (h : Host) (r : Except OsError Files) : Except OsError Unit × Host :=
  match r with
  | .ok files => (.ok (), { h with files })
  | .error e => (.error e, h)

def answer (h : Host) (p : Pid) (q : Process) (c : Call) : c.Answer × Host :=
  match c with
  | .openFile path mode => h.openFile p q path mode
  | .close n =>
    if q.streams.any (·.number = n) then
      (.ok (), h.modify p fun q => { q with streams := q.streams.filter (·.number ≠ n) })
    else (.error .badDescriptor, h)
  | .duplicate n target =>
    match q.streams.find? (·.number = n) with
    | some s => (.ok (), h.setStream p ⟨target, s.opened, true⟩)
    | none => (.error .badDescriptor, h)
  | .reserve n low =>
    match q.streams.find? (·.number = n) with
    | some s =>
      let free := freeNumber q low
      (.ok free, h.setStream p ⟨free, s.opened, false⟩)
    | none => (.error .badDescriptor, h)
  | .pipe =>
    let k := h.pipes.size
    let (r, h) := { h with pipes := h.pipes.push [] }.addOpened p q ⟨.pipe k, .input, 0⟩
    let q := (h.process? p).getD q
    let (w, h) := h.addOpened p q ⟨.pipe k, { writes := true }, 0⟩
    (.ok (r, w), h)
  | .read n count =>
    match h.stream? q n with
    | some (i, o) => h.readOpened i o count
    | none => (.error .badDescriptor, h)
  | .write n bytes =>
    match h.stream? q n with
    | some (i, o) => h.writeOpened i o bytes
    | none => (.error .badDescriptor, h)
  | .goBack n count =>
    match h.stream? q n with
    | some (i, o) =>
      match o.target with
      | .file _ => (.ok (), h.setPlace i (o.place - count))
      | _ => (.error .illegalSeek, h)
    | none => (.error .badDescriptor, h)
  | .inspect path follow =>
    ((h.files.find q.directory path follow).map fun (i, n) => ⟨i, n, h.files.links i⟩, h)
  | .inspectStream n =>
    match h.stream? q n with
    | some (_, o) => (h.inspectOpened o, h)
    | none => (.error .badDescriptor, h)
  | .list path =>
    (do
      let i ← h.files.findDirectory q.directory path
      .ok (((h.files.directory? i).map fun d => d.2.map (·.1)).getD []), h)
  | .readLink path =>
    (do
      let (_, n) ← h.files.find q.directory path false
      match n.content with
      | .symlink target => .ok target
      | _ => .error .invalidArgument, h)
  | .makeDirectory path mode =>
    h.change (h.files.makeDirectory q.directory path (mode - (mode &&& q.mask)) h.now)
  | .makeSymlink target path => h.change (h.files.makeSymlink q.directory target path h.now)
  | .makeLink old path => h.change (h.files.makeLink q.directory old path h.now)
  | .unlink path => h.change (h.files.unlink q.directory path h.now)
  | .removeDirectory path => h.change (h.files.removeDirectory q.directory path h.now)
  | .rename old new => h.change (h.files.rename q.directory old new h.now)
  | .changeMode path mode => h.change (h.files.changeMode q.directory path mode)
  | .touch path time => h.change do
      let (i, _) ← h.files.find q.directory path true
      .ok (h.files.modify i fun n => { n with changed := time.getD h.now })
  | .truncate path size => h.change do
      let (i, n) ← h.files.find q.directory path true
      match n.content with
      | .regular bytes =>
        .ok (h.files.modify i fun n => { n with
          content := .regular (bytes.take size ++ List.replicate (size - bytes.length) 0) })
      | .directory .. => .error .isADirectory
      | _ => .error .invalidArgument
  | .changeDirectory path =>
    match h.files.findDirectory q.directory path with
    | .ok i => (.ok (), h.modify p fun q => { q with directory := i })
    | .error e => (.error e, h)
  | .directory => (h.files.pathOf q.directory, h)
  | .setMask mask => (q.mask, h.modify p fun q => { q with mask })
  | .pid => (p, h)
  | .parent => (q.parent, h)
  | .time => (h.now, h)
  | .pause _ => ((), h)
  | .wait child _ =>
    let children := h.childrenOf p child
    match children.find? (·.2.outcome.isSome) with
    | some (c, r) =>
      (.ended c (r.outcome.getD default), { h with processes := h.processes.filter (·.1 ≠ c) })
    | none =>
      if children.isEmpty then (.childless, h)
      else if q.arrived.isEmpty then (.none, h)
      else (.interrupted, h)
  | .kill target signal =>
    match h.process? target with
    | some _ => (.ok (), if signal = 0 then h else h.deliver target signal)
    | none => (if target = guardian then .ok () else .error .noSuchProcess, h)
  | .killGroup group signal =>
    let members := h.processes.filter fun e => e.2.group = group.getD q.group
    if members.isEmpty then (.error .noSuchProcess, h)
    else (.ok (), if signal = 0 then h else members.foldl (fun h e => h.deliver e.1 signal) h)
  | .lead => ((), h.modify p fun q => { q with group := p })
  | .handle signal disposition =>
    ((q.dispositions.lookup signal).getD .standard, h.modify p fun q =>
      { q with dispositions := (signal, disposition) :: q.dispositions.filter (·.1 ≠ signal) })
  | .arrived => (q.arrived, h.modify p fun q => { q with arrived := [] })

def durationOf : Call → Nat
  | .pause d => d
  | _ => callTime

/-! ## Starting programs -/

def longestWord : Nat := 131071

def mostReaders : Nat := 5

/-- The reader that a script names on its first line, with the word after it. -/
def reader? (content : Bytes) : Option (String × Option String) :=
  let blank (c : Char) : Bool := c == ' ' || c == '\t'
  match Bytes.chars (content.takeWhile (· ≠ 10)) with
  | '#' :: '!' :: rest =>
    let rest := rest.dropWhile blank
    let path := rest.takeWhile (!blank ·)
    let word := ((rest.drop path.length).dropWhile blank).reverse.dropWhile blank |>.reverse
    if path.isEmpty then none
    else some (String.ofList path, if word.isEmpty then none else some (String.ofList word))
  | _ => none

def load (fs : Files) (dir : FileId) : Nat → String → List String →
    Except OsError (String × List String)
  | depth, path, words => do
    let (_, n) ← fs.find dir path true
    if !n.isExecutable then .error .permissionDenied
    else match n.content with
      | .program name => .ok (name, words)
      | .regular content =>
        match reader? content, depth with
        | none, _ => .error .badFormat
        | some _, 0 => .error .linkLoop
        | some (reader, word), depth + 1 =>
          load fs dir depth reader (reader :: word.toList ++ path :: words.tail)
      | _ => .error .permissionDenied

/-- What is started for an execution: a word may not be too long. -/
def loadExecution (fs : Files) (dir : FileId) (e : Execution) :
    Except OsError (String × List String) :=
  if e.words.any fun w => longestWord < Utf8.byteLength w then .error .argumentsTooLong
  else load fs dir mostReaders e.path e.words

def execute (installed : Installed) (h : Host) (p : Pid) (q : Process) (e : Execution)
    (refused : OsError → Program) : Host :=
  match loadExecution h.files q.directory e with
  | .error error => h.resume p (refused error) executeTime
  | .ok (name, words) =>
    let h := h.modify p fun q => { q with
      streams := q.streams.filter (·.passed)
      dispositions := q.dispositions.filter (·.2 = .ignored)
      arrived := [] }
    h.resume p (installed name words e.environment) executeTime

def fork (h : Host) (p : Pid) (q : Process) (child : Program) (next : Pid → Program) : Host :=
  let c := h.nextPid
  let r : Process := { q with
    parent := p, program := child, arrived := [], readyAt := h.now + childTime
    captures := (none, none) }
  { h with processes := h.processes ++ [(c, r)], nextPid := c + 1 }.resume p (next c) forkTime

/-! ## Time -/

def move (installed : Installed) (h : Host) (p : Pid) (q : Process) : Host :=
  match q.program with
  | .finish o => h.finish p o
  | .call (.write n bytes) next =>
    let (r, h) := h.answer p q (.write n bytes)
    if r matches .error .brokenPipe then
      if dispositionOf q Signal.brokenPipe = .standard then
        h.finish p (.signal Signal.brokenPipe)
      else h.resume p (next r) callTime
    else h.resume p (next r) callTime
  | .call c next =>
    let (r, h) := h.answer p q c
    if ((h.process? p).bind (·.outcome)).isSome then h else h.resume p (next r) (durationOf c)
  | .fork child next => h.fork p q child next
  | .execute e refused => h.execute installed p q e refused

def nextMover (h : Host) : Option (Nat × Pid × Process) :=
  h.processes.foldl (fun best (p, q) =>
    if q.outcome.isSome || !h.canMove p q then best
    else
      let time := max q.readyAt h.now
      match best with
      | some (t, _, _) => if time < t then some (time, p, q) else best
      | none => some (time, p, q)) none

def nextMove? (h : Host) : Option Nat := h.nextMover.map (·.1)

def advanceWithin (installed : Installed) (time : Nat) : Nat → Host → Host
  | 0, h => { h with now := max h.now time }
  | fuel + 1, h =>
    match h.nextMover with
    | some (t, p, q) =>
      if t ≤ time then advanceWithin installed time fuel ({ h with now := t }.move installed p q)
      else { h with now := max h.now time }
    | none => { h with now := max h.now time }

def mostMoves : Nat := 50000000

def advance (installed : Installed) (h : Host) (time : Nat) : Host :=
  h.advanceWithin installed time mostMoves

/-! ## What the launcher sees -/

def ended? (h : Host) (p : ProcessId) : Option Int :=
  (h.process? p).bind fun q => q.outcome.map (·.raw)

def isCapturing (h : Host) (k : Option Nat) : Bool :=
  k.any fun k => h.anyOpen fun o => o.target = .capture k

def capturedBy (h : Host) (k : Option Nat) : Bytes := (k.bind (h.captured[·]?)).getD []

/-- How a process ended and what it wrote, once nobody can write to its output any more. -/
def closed? (h : Host) (p : ProcessId) : Option Exit :=
  (h.process? p).bind fun q => q.outcome.bind fun o =>
    if h.isCapturing q.captures.1 || h.isCapturing q.captures.2 then none
    else some ⟨o.raw, h.capturedBy q.captures.1, h.capturedBy q.captures.2⟩

end Host

end JobLaunch.Rehearsal
