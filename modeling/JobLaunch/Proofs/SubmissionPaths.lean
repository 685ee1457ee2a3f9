import JobLaunch.Proofs.Launch
import JobLaunch.Rehearsal.Files

/-!
# The files of a submission

The script of a batch step is written from where the launcher is, and submitted from the working directory of the step.

* `Tree` : directories and where names lead from them; `Tree.place?` : the place of a file that a path leads to;
* `Tree.machine` : a machine that follows the paths that it is given in a tree;
* `Launcher.beginRun_waiting` : what a submission has done to a machine, whatever the machine is;
* `Step.exists_place?_scriptFile` : where the path of a script leads, from wherever it is followed;
* `Tree.ladder` : a tree in which every name leads up;
* `Step.exists_not_finds` : there a submission misses its script, unless its path does not depend on where it runs;
* `Step.submission_finds_files_iff` : a submission finds its files in every tree exactly if their paths do not depend on
  where it runs.
-/

namespace JobLaunch

open Rehearsal.Files (names endsInSlash)

/-! ## Trees -/

/-- Directories of a type `δ`. A name in a directory may be a link, so it may lead to any directory. -/
structure Tree (δ : Type) where
  root : δ
  above : δ → δ
  entry : δ → String → Option δ
  above_root : above root = root

/-- What is done to a tree. -/
inductive Deed (δ : Type) where
  | wrote (place : δ × String) (text : String)
  | started (directory : δ) (process : Spawn)

namespace Tree

variable {δ : Type} (t : Tree δ)

/-- Where a name leads from a directory. -/
def step (d : δ) (name : String) : Option δ :=
  if name = "." then some d else if name = ".." then some (t.above d) else t.entry d name

def walk (d : δ) (ns : List String) : Option δ := ns.foldlM t.step d

def start (here : δ) (path : String) : δ := if Path.isAbsolute path then t.root else here

def directory? (here : δ) (path : String) : Option δ :=
  if path.isEmpty then none else t.walk (t.start here path) (names path)

/-- The place of a file: a name in a directory. A path that ends in a slash or in dots leads to a directory. -/
def place? (here : δ) (path : String) : Option (δ × String) :=
  match (names path).getLast? with
  | none => none
  | some last =>
    if last = "." || last = ".." || endsInSlash path then none
    else (t.walk (t.start here path) (names path).dropLast).map fun d => (d, last)

/-- A machine in a directory of the tree. It notes what it has done. -/
def machine (here : δ) : Machine (List (Deed δ)) where
  writeFile path text ds :=
    match t.place? here path with
    | none => (.error .notFound, ds)
    | some place =>
      if (t.step place.1 place.2).isSome then (.error .isADirectory, ds) else (.ok (), ds ++ [.wrote place text])
  spawn process ds :=
    match t.directory? here process.cwd with
    | none => (.error .notFound, ds)
    | some there => (.ok ds.length, ds ++ [.started there process])
  kill _ ds := ds

theorem walk_dots {ns : List String} (h : ∀ n ∈ ns, n = ".") (d : δ) : t.walk d ns = some d := by
  induction ns with
  | nil => rfl
  | cons n ns ih =>
    rw [List.forall_mem_cons] at h
    rw [walk, List.foldlM_cons, step, if_pos h.1]
    exact ih h.2

theorem place?_of_absolute {path : String} (h : Path.isAbsolute path = true) (d e : δ) :
    t.place? d path = t.place? e path := by
  have hstart : t.start d path = t.start e path := by
    rw [start, start, if_pos h, if_pos h]
  rw [place?, place?, hstart]

theorem directory?_of_relative {t : Tree δ} {path : String} (relative : Path.isAbsolute path = false)
    (h : names path ≠ []) (d : δ) : t.directory? d path = t.walk d (names path) := by
  have hnonempty : ¬ path.isEmpty = true := by
    intro hempty
    rw [String.isEmpty_iff.1 hempty] at h
    exact h rfl
  rw [directory?, if_neg hnonempty, start, relative, if_neg Bool.false_ne_true]

theorem place?_of_relative {path last : String} {folder : List String} (relative : Path.isAbsolute path = false)
    (slash : endsInSlash path = false) (hnames : names path = folder ++ [last]) (plain : last ≠ "." ∧ last ≠ "..") (d : δ) :
    t.place? d path = (t.walk d folder).map fun e => (e, last) := by
  rw [place?, hnames, List.getLast?_append, List.dropLast_concat, start, relative]
  simp [plain.1, plain.2, slash]

end Tree

/-! ## What a submission has done -/

namespace Supervisor

theorem spawn_captured {μ : Type} {m : Machine μ} {program cwd : String} {args : List String} {w w' : μ} {p : ProcessId} :
    spawn m (program :: args) cwd .capture .capture w = (.ok p, w') ↔
      m.spawn ⟨program, args, cwd, .capture, .capture⟩ w = (.ok p, w') := by
  simp only [spawn, openSink]
  rcases m.spawn ⟨program, args, cwd, .capture, .capture⟩ w with ⟨_ | _, _⟩ <;> simp

end Supervisor

theorem Step.exists_command {s : Step} {script : Script} (h : s.script? = some script) :
    ∃ submit, s.command = [submit, s.scriptFile] := by
  unfold script? at h
  unfold command
  cases hlaunch : s.launch <;> simp [hlaunch] at h ⊢

theorem Step.exists_directives {s : Step} {script : Script} (h : s.script? = some script) :
    ∃ rest, script.directives = ("-o " ++ s.outFile) :: ("-e " ++ s.errFile) :: rest := by
  unfold script? at h
  cases hlaunch : s.launch <;> simp only [hlaunch] at h <;> cases h <;> exact ⟨_, rfl⟩

namespace Launcher

variable {μ : Type} {m : Machine μ} {l l' : Launcher} {s : Step} {w w' : μ}

/-- **A launch that waits has written its script and started the submission of this script.** -/
theorem beginRun_waiting {r : Run} (h : beginRun m l s w = (.waiting r, l', w')) :
    ∃ script submit w₁ p, s.script? = some script ∧ m.writeFile s.scriptFile script.text w = (.ok (), w₁) ∧
      m.spawn ⟨submit, [s.scriptFile], s.cwd, .capture, .capture⟩ w₁ = (.ok p, w') := by
  unfold beginRun beginRunOn at h
  split at h
  · cases h
  · split at h
    · next script hscript =>
      obtain ⟨submit, hcommand⟩ := s.exists_command hscript
      unfold launchBatch at h
      simp only [hcommand] at h
      split at h
      · cases h
      · next w₁ hwrite =>
        split at h
        · cases h
        · split at h
          · cases h
          · next p w₂ hspawn =>
            cases h
            exact ⟨script, submit, w₁, p, hscript, hwrite, Supervisor.spawn_captured.1 hspawn⟩
    · unfold launchDirect at h
      dsimp only at h
      split at h <;> cases h

theorem exists_beginRun_waiting {script : Step.Script} {scheduler : Scheduler} {held : Registry} {w₁ : μ} {p : ProcessId}
    {after : String → μ} (free : l.registry.reserve s.name = .ok held) (owner : l.backend.scheduler? = some scheduler)
    (hscript : s.script? = some script) (hwrite : m.writeFile s.scriptFile script.text w = (.ok (), w₁))
    (hspawn : ∀ submit, m.spawn ⟨submit, [s.scriptFile], s.cwd, .capture, .capture⟩ w₁ = (.ok p, after submit)) :
    ∃ r l' submit, beginRun m l s w = (.waiting r, l', after submit) := by
  obtain ⟨submit, hcommand⟩ := s.exists_command hscript
  have hstarted := Supervisor.spawn_captured.2 (hspawn submit)
  rw [beginRun_eq m w free, attempt, hscript]
  simp only [hwrite, owner, hcommand, hstarted]
  exact ⟨_, _, submit, rfl⟩

end Launcher

/-! ## The names of a step's file -/

namespace Path

theorem isAbsolute_append (s : String) {t : String} (h : isAbsolute t = false) :
    isAbsolute (s ++ t) = isAbsolute s := by
  unfold isAbsolute at h ⊢
  rw [String.toList_append]
  cases hs : s.toList with
  | nil => exact h
  | cons c cs => rfl

theorem isAbsolute_join (dir p : String) : isAbsolute (join dir p) = (isAbsolute p || isAbsolute dir) := by
  unfold join
  cases hp : isAbsolute p with
  | true => rw [if_pos rfl, hp, Bool.true_or]
  | false =>
    rw [if_neg Bool.false_ne_true, Bool.false_or]
    split
    · exact isAbsolute_append dir hp
    · next hdir =>
      obtain ⟨c, cs, hcs⟩ : ∃ c cs, dir.toList = c :: cs := by
        refine List.exists_cons_of_ne_nil fun heq => hdir ?_
        rw [show dir.isEmpty = true from String.isEmpty_iff.2 (String.toList_eq_nil_iff.1 heq), Bool.true_or]
      simp [isAbsolute, String.toList_append, hcs]

theorem names_of_append_slash (cs ds : List Char) :
    names (String.ofList (cs ++ '/' :: ds)) = names (String.ofList cs) ++ names (String.ofList ds) := by
  simp only [names, String.toList_ofList, List.splitOn_eq_splitOnP]
  rw [List.splitOnP_append_cons (p := (· == '/')) cs ds (by decide), List.filter_append, List.map_append]

theorem names_of_plain {cs : List Char} (slash : '/' ∉ cs) (h : cs ≠ []) :
    names (String.ofList cs) = [String.ofList cs] := by
  have hempty : (!cs.isEmpty) = true := by simpa using h
  rw [names, String.toList_ofList, List.splitOn_eq_singleton slash]
  simp [hempty]

theorem last_slash (cs : List Char) : '/' ∉ cs ∨ ∃ pre post, cs = pre ++ '/' :: post ∧ '/' ∉ post := by
  induction cs with
  | nil => exact Or.inl List.not_mem_nil
  | cons c cs ih =>
    rcases ih with hplain | ⟨pre, post, rfl, hpost⟩
    · by_cases hc : c = '/'
      · exact Or.inr ⟨[], cs, by rw [hc]; rfl, hplain⟩
      · refine Or.inl fun hmem => ?_
        rcases List.mem_cons.1 hmem with heq | hmem
        · exact hc heq.symm
        · exact hplain hmem
    · exact Or.inr ⟨c :: pre, post, rfl, hpost⟩

theorem names_join {dir p : String} (relative : isAbsolute p = false) : names (join dir p) = names dir ++ names p := by
  have hslash : ∀ a b : String, names (a ++ "/" ++ b) = names a ++ names b := by
    intro a b
    have hlist : a ++ "/" ++ b = String.ofList (a.toList ++ '/' :: b.toList) := by
      apply String.toList_inj.1
      simp
    rw [hlist, names_of_append_slash, String.ofList_toList, String.ofList_toList]
  rw [join, relative, if_neg Bool.false_ne_true]
  split
  · next hend =>
    rw [Bool.or_eq_true] at hend
    rcases hend with hempty | hend
    · obtain rfl : dir = "" := String.isEmpty_iff.1 hempty
      rfl
    · -- the slash at the end parts the directory from the path, and nothing follows it in the directory
      obtain ⟨cs, hcs⟩ : ∃ cs, dir.toList = cs ++ ['/'] := List.getLast?_eq_some_iff.1 (eq_of_beq hend)
      have hdir : dir = String.ofList cs ++ "/" ++ "" := by
        apply String.toList_inj.1
        simp [hcs]
      rw [hdir, hslash, String.append_empty, hslash]
      rw [show names "" = [] from rfl, List.append_nil]
  · exact hslash dir p

end Path

namespace Step

variable {s : Step} {ending : String}

theorem exists_names_append (name ending : String) (plain : '/' ∉ ending.toList) (long : 2 < ending.toList.length) :
    ∃ folder last, names (name ++ ending) = folder ++ [last] ∧ last ≠ "." ∧ last ≠ ".." := by
  have hshort : ∀ (cs : List Char) (d : String), d.toList.length ≤ 2 → String.ofList (cs ++ ending.toList) ≠ d := by
    intro cs d hd heq
    rw [← heq, String.toList_ofList, List.length_append] at hd
    omega
  have hdots : ∀ cs : List Char, String.ofList (cs ++ ending.toList) ≠ "." ∧ String.ofList (cs ++ ending.toList) ≠ ".." :=
    fun cs => ⟨hshort cs "." (by decide), hshort cs ".." (by decide)⟩
  have hnonempty : ∀ cs : List Char, cs ++ ending.toList ≠ [] := by
    intro cs heq
    rw [(List.append_eq_nil_iff.1 heq).2] at long
    cases long
  have hlist : name ++ ending = String.ofList (name.toList ++ ending.toList) := by
    apply String.toList_inj.1
    simp
  rw [hlist]
  rcases Path.last_slash name.toList with hplain | ⟨pre, post, hname, hpost⟩
  · have hall : '/' ∉ name.toList ++ ending.toList := by simp [hplain, plain]
    exact ⟨[], _, Path.names_of_plain hall (hnonempty _), hdots _⟩
  · have hall : '/' ∉ post ++ ending.toList := by simp [hpost, plain]
    rw [hname, List.append_assoc, List.cons_append, Path.names_of_append_slash,
      Path.names_of_plain hall (hnonempty _)]
    exact ⟨_, _, rfl, hdots _⟩

theorem endsInSlash_file (plain : '/' ∉ ending.toList) (long : ending.toList ≠ []) :
    endsInSlash (s.file ending) = false := by
  obtain ⟨cs, hcs⟩ : ∃ cs, (s.file ending).toList = cs ++ ending.toList := by
    unfold file Path.join
    split
    · exact ⟨s.name.toList, by simp⟩
    · split
      · exact ⟨s.cwd.toList ++ s.name.toList, by simp⟩
      · exact ⟨s.cwd.toList ++ '/' :: s.name.toList, by simp⟩
  rw [endsInSlash, hcs, List.getLast?_append, List.getLast?_eq_some_getLast long, Option.some_or, beq_eq_false_iff_ne]
  intro hlast
  exact plain (Option.some.inj hlast ▸ List.getLast_mem long)

theorem isAbsolute_file (plain : '/' ∉ ending.toList) :
    Path.isAbsolute (s.file ending) = (Path.isAbsolute s.name || Path.isAbsolute s.cwd) := by
  have hending : Path.isAbsolute ending = false := by
    rw [Path.isAbsolute, beq_eq_false_iff_ne]
    exact fun heq => plain (List.mem_of_head? heq)
  rw [file, Path.isAbsolute_join, Path.isAbsolute_append s.name hending]

/-- A relative path of a script leads through the names of the working directory, from wherever it is followed. -/
theorem exists_place?_scriptFile (hcwd : Path.isAbsolute s.cwd = false) (hname : Path.isAbsolute s.name = false) :
    ∃ folder last, (last ≠ "." ∧ last ≠ "..") ∧ ∀ {δ : Type} (t : Tree δ) (d : δ),
      t.place? d s.scriptFile = (t.walk d (names s.cwd ++ folder)).map fun e => (e, last) := by
  obtain ⟨folder, last, hlast, plain⟩ := exists_names_append s.name ".sh" (by decide) (by decide)
  have hrelative : Path.isAbsolute s.scriptFile = false := by
    rw [scriptFile, isAbsolute_file (by decide), hcwd, hname]
    rfl
  have hnames : names s.scriptFile = (names s.cwd ++ folder) ++ [last] := by
    have hfile : Path.isAbsolute (s.name ++ ".sh") = false := by
      rw [Path.isAbsolute_append s.name (by decide), hname]
    rw [scriptFile, file, Path.names_join hfile, hlast, List.append_assoc]
  have hslash : endsInSlash s.scriptFile = false := endsInSlash_file (by decide) (by decide)
  exact ⟨folder, last, plain, fun t d => t.place?_of_relative hrelative hslash hnames plain d⟩

/-- The paths of a step's files mean the same where the launcher is as where the step runs. -/
def Settled (s : Step) : Prop :=
  Path.isAbsolute s.cwd = true ∨ Path.isAbsolute s.name = true ∨ ∀ n ∈ names s.cwd, n = "."

theorem place?_file {δ : Type} {t : Tree δ} {here there : δ} (settled : s.Settled)
    (h : t.directory? here s.cwd = some there) (ending : String) (plain : '/' ∉ ending.toList) :
    t.place? there (s.file ending) = t.place? here (s.file ending) := by
  have habsolute := isAbsolute_file (s := s) plain
  by_cases hcwd : Path.isAbsolute s.cwd = true
  · rw [hcwd, Bool.or_true] at habsolute
    exact t.place?_of_absolute habsolute there here
  · rcases settled with hcwd' | hname | hdots
    · exact absurd hcwd' hcwd
    · rw [hname, Bool.true_or] at habsolute
      exact t.place?_of_absolute habsolute there here
    · -- a directory without names of its own is the one where the launcher is
      unfold Tree.directory? at h
      split at h
      · cases h
      · rw [t.walk_dots hdots, Tree.start, if_neg hcwd] at h
        rw [Option.some.inj h]

end Step

/-! ## A tree in which every name leads up -/

namespace Tree

/-- A chain of directories. All names lead to the directory above, and the lowest directories have no names. -/
def ladder (bottom : Nat) : Tree Nat where
  root := 0
  above d := d - 1
  entry d _ := if bottom < d then some (d - 1) else none
  above_root := rfl

/-- How many names lead to another directory. -/
def moves (ns : List String) : Nat := ns.countP (· ≠ ".")

variable {bottom d e : Nat}

theorem moves_append (ns ms : List String) : moves (ns ++ ms) = moves ns + moves ms := List.countP_append

theorem moves_cons (n : String) (ns : List String) : moves (n :: ns) = moves ns + if n = "." then 0 else 1 := by
  rw [moves, List.countP_cons]
  by_cases h : n = "." <;> simp [h, moves]

theorem moves_pos {ns : List String} (h : ¬ ∀ n ∈ ns, n = ".") : 0 < moves ns := by
  obtain ⟨n, hn, hne⟩ : ∃ n ∈ ns, n ≠ "." := by simpa using h
  exact List.countP_pos_iff.2 ⟨n, hn, decide_eq_true hne⟩

theorem step_ladder_eq {n : String} (h : (ladder bottom).step d n = some e) : e = d - if n = "." then 0 else 1 := by
  unfold step at h
  split at h
  · next hdot => rw [if_pos hdot, Nat.sub_zero, ← Option.some.inj h]
  · next hdot =>
    rw [if_neg hdot]
    split at h
    · exact (Option.some.inj h).symm
    · simp only [ladder] at h
      split at h <;> cases h
      rfl

theorem step_ladder {n : String} (h : bottom + (if n = "." then 0 else 1) ≤ d) :
    (ladder bottom).step d n = some (d - if n = "." then 0 else 1) := by
  unfold step
  split
  · rfl
  · next hdot =>
    rw [if_neg hdot] at h
    split
    · rfl
    · exact if_pos (by omega)

theorem walk_ladder_eq {ns : List String} (h : (ladder bottom).walk d ns = some e) : e = d - moves ns := by
  induction ns generalizing d with
  | nil => exact (Option.some.inj h).symm
  | cons n ns ih =>
    obtain ⟨d', hstep, hrest⟩ := Option.bind_eq_some_iff.1 (show ((ladder bottom).step d n).bind _ = some e from h)
    have hfirst := step_ladder_eq hstep
    have hlast := ih hrest
    rw [moves_cons]
    omega

theorem walk_ladder {ns : List String} (h : bottom + moves ns ≤ d) : (ladder bottom).walk d ns = some (d - moves ns) := by
  induction ns generalizing d with
  | nil => rfl
  | cons n ns ih =>
    rw [moves_cons] at h ⊢
    have hrest := ih (d := d - if n = "." then 0 else 1) (by omega)
    show ((ladder bottom).step d n).bind _ = _
    rw [step_ladder (by omega), Option.bind_some]
    show (ladder bottom).walk _ ns = _
    rw [hrest]
    congr 1
    omega

end Tree

/-! ## Submissions -/

namespace Tree

variable {δ : Type} (t : Tree δ)

/-- What is asked of a submission: its argument leads from where it runs to the script that has been written, and so do
the paths of the script to the files for the output. -/
def Finds (here : δ) (s : Step) (ds : List (Deed δ)) : Prop :=
  ∃ script place there process argument out err rest, s.script? = some script ∧
    ds = [.wrote place script.text, .started there process] ∧
    process.args = [argument] ∧ t.place? there argument = some place ∧
    script.directives = ("-o " ++ out) :: ("-e " ++ err) :: rest ∧
    t.place? there out = t.place? here s.outFile ∧ t.place? there err = t.place? here s.errFile

variable {t} {here there : δ} {place : δ × String} {ds ds' : List (Deed δ)} {s : Step}

theorem Finds.place?_eq {text path : String} {process : Spawn} (h : t.Finds here s [.wrote place text, .started there process])
    (argument : process.args = [path]) : t.place? there path = some place := by
  obtain ⟨script, place', there', process', path', -, -, -, -, hds, hargs, hfound, -⟩ := h
  simp only [List.cons.injEq, Deed.wrote.injEq, Deed.started.injEq] at hds
  obtain ⟨⟨rfl, -⟩, ⟨rfl, rfl⟩, -⟩ := hds
  rw [argument] at hargs
  rw [(List.cons.inj hargs).1]
  exact hfound

theorem writeFile_machine {path text : String} :
    (t.machine here).writeFile path text ds = (.ok (), ds') ↔
      ∃ place, t.place? here path = some place ∧ t.step place.1 place.2 = none ∧ ds ++ [.wrote place text] = ds' := by
  simp only [machine]
  cases t.place? here path with
  | none => simp
  | some place => cases hstep : t.step place.1 place.2 <;> simp [hstep]

theorem spawn_machine {process : Spawn} {p : ProcessId} :
    (t.machine here).spawn process ds = (.ok p, ds') ↔
      ∃ there, t.directory? here process.cwd = some there ∧ ds.length = p ∧ ds ++ [.started there process] = ds' := by
  simp only [machine]
  cases t.directory? here process.cwd <;> simp

end Tree

namespace Step

variable {s : Step}

theorem Settled.finds (settled : s.Settled) {δ : Type} {t : Tree δ} {here : δ} {l l' : Launcher} {r : Run}
    {ds : List (Deed δ)} (h : Launcher.beginRun (t.machine here) l s [] = (.waiting r, l', ds)) : t.Finds here s ds := by
  obtain ⟨script, submit, ds₁, p, hscript, hwrite, hspawn⟩ := Launcher.beginRun_waiting h
  obtain ⟨place, hplace, -, rfl⟩ := Tree.writeFile_machine.1 hwrite
  obtain ⟨there, hthere, -, rfl⟩ := Tree.spawn_machine.1 hspawn
  obtain ⟨rest, hdirectives⟩ := exists_directives hscript
  have hsh := place?_file settled hthere ".sh" (by decide)
  have hout := place?_file settled hthere ".out" (by decide)
  have herr := place?_file settled hthere ".err" (by decide)
  exact ⟨script, place, there, _, s.scriptFile, s.outFile, s.errFile, rest, hscript, rfl, rfl, hsh.trans hplace,
    hdirectives, hout, herr⟩

theorem exists_not_finds (batch : s.managed = true) (h : ¬ s.Settled) :
    ∃ (t : Tree Nat) (here : Nat) (l l' : Launcher) (r : Run) (ds : List (Deed Nat)),
      Launcher.beginRun (t.machine here) l s [] = (.waiting r, l', ds) ∧ ¬ t.Finds here s ds := by
  obtain ⟨hcwd, hname, hdots⟩ : Path.isAbsolute s.cwd = false ∧ Path.isAbsolute s.name = false ∧
      ¬ ∀ n ∈ names s.cwd, n = "." := by
    simpa only [Settled, not_or, Bool.not_eq_true] using h
  obtain ⟨script, hscript⟩ := Option.isSome_iff_exists.1 (s.managed_eq_isSome_script? ▸ batch)
  obtain ⟨folder, last, plain, hplace⟩ := exists_place?_scriptFile hcwd hname
  have hmoves := Tree.moves_pos hdots
  -- the working directory leads up `k` names, and the folder in the name of the step another `c`
  obtain ⟨k, hk⟩ : ∃ k, Tree.moves (names s.cwd) = k := ⟨_, rfl⟩
  obtain ⟨c, hc⟩ : ∃ c, Tree.moves folder = c := ⟨_, rfl⟩
  have hall : Tree.moves (names s.cwd ++ folder) = k + c := by rw [Tree.moves_append, hk, hc]
  have hhere : (Tree.ladder k).place? (2 * k + c) s.scriptFile = some (k, last) := by
    rw [hplace, Tree.walk_ladder (by omega), hall, Option.map_some]
    congr 2
    omega
  have hthere : (Tree.ladder k).directory? (2 * k + c) s.cwd = some (k + c) := by
    have hnames : names s.cwd ≠ [] := fun heq => hdots (by rw [heq]; nofun)
    rw [Tree.directory?_of_relative hcwd hnames, Tree.walk_ladder (by omega), hk]
    congr 1
    omega
  have hfree : (Tree.ladder k).step k last = none := by
    rw [Tree.step, if_neg plain.1, if_neg plain.2]
    exact if_neg (Nat.lt_irrefl k)
  obtain ⟨r, l', submit, hrun⟩ := Launcher.exists_beginRun_waiting (m := (Tree.ladder k).machine (2 * k + c)) (s := s)
    (l := { backend := .scheduled (.pbs {}) }) (w := []) rfl rfl hscript
    (Tree.writeFile_machine.2 ⟨(k, last), hhere, hfree, rfl⟩)
    fun submit => Tree.spawn_machine.2 ⟨k + c, hthere, rfl, rfl⟩
  refine ⟨_, _, _, l', r, _, hrun, fun hfinds => ?_⟩
  -- seen from the working directory, the same names lead up once more, below the place of the script
  have hfound := hfinds.place?_eq rfl
  rw [hplace] at hfound
  obtain ⟨e, hwalk, heq⟩ := Option.map_eq_some_iff.1 hfound
  have hlow := Tree.walk_ladder_eq hwalk
  cases heq
  omega

/-- A root directory with one directory in it. -/
def folderTree (folder : String) : Tree Bool where
  root := false
  above _ := false
  entry d name := if !d && name = folder then some true else none
  above_root := rfl

/-- A launcher for PBS that has launched nothing yet. -/
def pbsLauncher : Launcher := { backend := .scheduled (.pbs {}) }

/-- **A submission finds its files in every tree exactly if they do not depend on where it runs:** the working directory or
the name of the step is absolute, or the working directory is the one of the launcher. -/
theorem submission_finds_files_iff (batch : s.managed = true) :
    (∀ (δ : Type) (t : Tree δ) (here : δ) (l l' : Launcher) (r : Run) (ds : List (Deed δ)),
        Launcher.beginRun (t.machine here) l s [] = (.waiting r, l', ds) → t.Finds here s ds) ↔ s.Settled := by
  constructor
  · intro h
    refine Classical.byContradiction fun hsettled => ?_
    obtain ⟨t, here, l, l', r, ds, hrun, hlost⟩ := exists_not_finds batch hsettled
    exact hlost (h Nat t here l l' r ds hrun)
  · intro settled δ t here l l' r ds hrun
    exact settled.finds hrun

/-- A launcher in the directory `/jobs` submits a step of this directory. -/
theorem submission_finds_files_absolute :
    ∃ r l' ds, Launcher.beginRun ((folderTree "jobs").machine true) pbsLauncher ⟨"a", "/jobs", true, .pbsBatch {} [], rfl⟩ [] =
        (.waiting r, l', ds) ∧ (folderTree "jobs").Finds true ⟨"a", "/jobs", true, .pbsBatch {} [], rfl⟩ ds := by
  obtain ⟨r, l', ds, hrun⟩ : ∃ r l' ds, Launcher.beginRun ((folderTree "jobs").machine true) pbsLauncher
      ⟨"a", "/jobs", true, .pbsBatch {} [], rfl⟩ [] = (.waiting r, l', ds) := ⟨_, _, _, rfl⟩
  exact ⟨r, l', ds, hrun, (submission_finds_files_iff rfl).2 (Or.inl rfl) _ _ _ _ _ _ _ hrun⟩

/-- A launcher in the root submits a step of its directory `jobs`. The script is in `jobs`, and the submission, which runs
there, looks for it in `jobs/jobs`. -/
theorem submission_finds_files_fails :
    pbsLauncher.createStep "a" "jobs" (.pbsBatch {}) = .ok ⟨"a", "jobs", true, .pbsBatch {} [], rfl⟩ ∧
      ∃ r l' text, Launcher.beginRun ((folderTree "jobs").machine false) pbsLauncher ⟨"a", "jobs", true, .pbsBatch {} [], rfl⟩ [] =
          (.waiting r, l', [.wrote (true, "a.sh") text, .started true ⟨"qsub", ["jobs/a.sh"], "jobs", .capture, .capture⟩]) ∧
        (folderTree "jobs").place? true "jobs/a.sh" = none ∧
        ¬ (folderTree "jobs").Finds false ⟨"a", "jobs", true, .pbsBatch {} [], rfl⟩
          [.wrote (true, "a.sh") text, .started true ⟨"qsub", ["jobs/a.sh"], "jobs", .capture, .capture⟩] := by
  have hlost : (folderTree "jobs").place? true "jobs/a.sh" = none := rfl
  refine ⟨rfl, _, _, _, rfl, hlost, fun hfinds => ?_⟩
  have hfound := hfinds.place?_eq rfl
  rw [hlost] at hfound
  cases hfound

end Step

end JobLaunch
