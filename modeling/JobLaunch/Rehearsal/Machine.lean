import JobLaunch.Rehearsal.Programs

/-!
# The machine of a rehearsal

* `Host.fresh` — a host with the installed programs and an empty directory for the launcher.
* `Host.machine` — a host as a `Machine`.
* `Host.goOn` — lets the processes of a host go on up to a time.
-/

namespace JobLaunch.Rehearsal.Host

/-! ## The start -/

def workplace : String := "/tmp/scratch"

def environment : List (String × String) :=
  [("PATH", "/usr/local/sbin:/usr/local/bin:/usr/sbin:/usr/bin:/sbin:/bin"), ("HOME", "/root"),
    ("LANG", "C.UTF-8")]

def directories : List String :=
  ["/tmp", workplace, "/usr", "/usr/bin", "/usr/local", "/usr/local/bin", "/etc", "/root", "/var",
    "/dev", "/dev/fd"]

def devices : List (String × Device) :=
  [("null", .null), ("zero", .zero), ("full", .full), ("stdin", .stream 0), ("stdout", .stream 1),
    ("stderr", .stream 2)] ++
  (List.range 64).map fun n => ("fd/" ++ Decimal.text n, .stream n)

def knownFiles : List (String × String) :=
  [("passwd", "root:x:0:0:root:/root:/bin/bash\n"), ("group", "root:x:0:\n"),
    ("hostname", "localhost\n")]

def freshFiles : Files :=
  let made := directories.foldl (fun fs d => fs.makeDirectories Files.root d) Files.empty
  let linked := match made.makeSymlink Files.root "usr/bin" "/bin" 0 with
    | .ok fs => fs
    | .error _ => made
  let add (fs : Files) (directory name : String) (content : Content) (mode : Nat) : Files :=
    match fs.resolve Files.root (directory ++ "/" ++ name) true with
    | .ok p => (fs.add p.directory p.name ⟨content, mode, 0⟩).2
    | .error _ => fs
  let special := devices.foldl (fun fs d => add fs "/dev" d.1 (.device d.2) 0o666) linked
  let known := knownFiles.foldl (fun fs (name, text) =>
    add fs "/etc" name (.regular (Bytes.ofText text)) 0o644) special
  Programs.all.foldl (fun fs e => add fs "/usr/bin" e.1 (.program e.1) 0o755) known

/-- A host with the installed programs and an empty directory for the launcher. -/
def fresh : Host := { files := freshFiles }

def workplaceId (h : Host) : FileId :=
  match h.files.findDirectory Files.root workplace with
  | .ok i => i
  | .error _ => Files.root

/-! ## Files -/

def modifyFiles (h : Host) (f : Files → FileId → Files) : Host :=
  { h with files := f h.files h.workplaceId }

def writeFile (path text : String) (h : Host) : Except OsError Unit × Host :=
  match h.files.write h.workplaceId path (Utf8.encode text.toList) 0o644 h.now with
  | .ok files => (.ok (), { h with files })
  | .error e => (.error e, h)

def writeProgram (path text : String) (h : Host) : Host :=
  let (_, h) := h.writeFile path text
  h.modifyFiles fun fs dir =>
    match fs.changeMode dir path 0o755 with
    | .ok fs => fs
    | .error _ => fs

def readText? (h : Host) (path : String) : Option String := h.files.readText? h.workplaceId path

def makeDirectories (h : Host) (path : String) : Host :=
  h.modifyFiles fun fs dir => fs.makeDirectories dir path

/-! ## Processes -/

/-- What is started by a name: a path, or a program that is found in the usual directories. -/
def findProgram (h : Host) (directory : FileId) (words : List String) :
    Except OsError (String × List String) :=
  let name := words.headD ""
  let load (path : String) : Except OsError (String × List String) :=
    loadExecution h.files directory ⟨path, words, environment⟩
  if name.toList.contains '/' || name.isEmpty then load name
  else
    let path := (environment.lookup "PATH").getD ""
    (((path.toList.splitOn ':').map String.ofList).foldl
      (fun (r : Except OsError (String × List String)) d =>
        match r with
        | .error .notFound | .error .notADirectory | .error .permissionDenied =>
          match load (d ++ "/" ++ name), r with
          | .error .notFound, r | .error .notADirectory, r => r
          | new, _ => new
        | r => r)
      (.error .notFound))

def openSink (h : Host) (sink : Sink) : Opened × Option Nat × Host :=
  match sink with
  | .capture =>
    (⟨.capture h.captured.size, { writes := true }, 0⟩, some h.captured.size,
      { h with captured := h.captured.push [] })
  | .discard => (⟨.file (openSink.fileId h "/dev/null"), { writes := true }, 0⟩, none, h)
  | .file path => (⟨.file (openSink.fileId h path), { writes := true }, 0⟩, none, h)
where
  fileId (h : Host) (path : String) : FileId :=
    match h.files.find h.workplaceId path true with
    | .ok (i, _) => i
    | .error _ => Files.root

def spawn (c : Spawn) (h : Host) : Except OsError ProcessId × Host :=
  let words := c.program :: c.args
  if (c.cwd :: words).any fun w => w.toList.contains '\x00' then (.error .zeroInCommand, h)
  else match h.files.findDirectory h.workplaceId c.cwd with
    | .error e => (.error e, h)
    | .ok directory =>
      match h.findProgram directory words with
      | .error e => (.error e, h)
      | .ok (name, words) =>
        let nothing : Opened := ⟨.file (openSink.fileId h "/dev/null"), .input, 0⟩
        let (out, outCapture, h) := h.openSink c.stdout
        let (err, errCapture, h) := h.openSink c.stderr
        let n := h.opened.size
        let p := h.nextPid
        let process : Process :=
          { parent := launcher, program := Programs.start name words environment, directory
            streams := [⟨0, n, true⟩, ⟨1, n + 1, true⟩, ⟨2, n + 2, true⟩]
            readyAt := h.now + launchTime, captures := (outCapture, errCapture) }
        (.ok p, { h with
          opened := ((h.opened.push nothing).push out).push err
          processes := h.processes ++ [(p, process)], nextPid := p + 1 })

def kill (p : ProcessId) (h : Host) : Host := h.deliver p Signal.kill

def machine : Machine Host := { writeFile, spawn, kill }

def goOn (h : Host) (time : Nat) : Host := h.advance Programs.start time

end JobLaunch.Rehearsal.Host
