import JobLaunch.Proofs.Commands
import JobLaunch.Proofs.Members

/-!
# When a submission script runs its members

The words of a script are read back as they were written. Whether a member's words are also taken for a program with its
arguments depends on the first of them, which is written without quotes if all its characters are plain.

* `Step.Script.membersTokens` : the words of a script as a shell should read them (`Step.Script.tokens_membersText`);
* `Step.Script.membersJobs` : the commands that it should read them as;
* `Step.Misread` : the members whose first word is taken for something else;
* `Step.script_runs_members_iff` : the script of a batch step runs its members if none of them is misread.
-/

namespace JobLaunch.Step

variable {s : Step}

theorem script?_withMembers (batch : s.managed = true) (members : List (List String)) :
    ∃ script, (s.withMembers members).script? = some script ∧ script.members = members ∧
      ∀ others, (s.withMembers others).script? = some { script with members := others } := by
  obtain ⟨name, cwd, managed, launch, rfl⟩ := s
  cases launch with
  | pbsBatch b ms => exact ⟨_, rfl, rfl, fun others => rfl⟩
  | gridBatch b ms => exact ⟨_, rfl, rfl, fun others => rfl⟩
  | aprun r => cases batch
  | mpirun r => cases batch
  | plain r => cases batch

/-! ## Scripts -/

namespace Script

open Shell (Job Token jobs? literal simple? Scan)

/-- A script up to its commands. -/
def head (s : Script) : String := s.shebang ++ "\n\n" ++ linesText s.directiveLines ++ linesText s.preamble

/-- A command as a shell should read it: its words, run in the background, on a line of its own. -/
def memberTokens (words : List String) : List Token :=
  .operator "\n" :: words.map (.word <| literal ·) ++ [.operator "&", .operator "\n"]

/-- The commands as a shell should read them, and the wait for them. -/
def membersTokens (members : List (List String)) : List Token :=
  members.flatMap memberTokens ++
    if members.isEmpty then [] else [.operator "\n", .word (literal "wait"), .operator "\n"]

variable {scan : Scan} {ts : List Token}

theorem at_memberText (h : scan.At ts none .plain) (words : List String) :
    (scan.feed (memberText words).toList).At ((memberTokens words).reverse ++ ts) none .plain := by
  have hchars : (memberText words).toList =
      '\n' :: ((Shell.quoteWords words).toList ++ [' ']) ++ ['&', '\n'] := by
    simp [memberText]
  have htokens : (memberTokens words).reverse ++ ts =
      .operator "\n" :: .operator "&" :: ((words.map (.word <| literal ·)).reverse ++ .operator "\n" :: ts) := by
    simp [memberTokens]
  rw [hchars, htokens, Scan.feed_append]
  exact (h.newline_none.quoteWords words).background

theorem at_flatMap_memberText (h : scan.At ts none .plain) (members : List (List String)) :
    (scan.feed (members.flatMap fun words => (memberText words).toList)).At
      ((members.flatMap memberTokens).reverse ++ ts) none .plain := by
  induction members generalizing scan ts with
  | nil => exact h
  | cons words members ih =>
    rw [List.flatMap_cons, List.flatMap_cons, List.reverse_append, List.append_assoc, Scan.feed_append]
    exact ih (at_memberText h words)

theorem at_waitText (h : scan.At ts none .plain) :
    (scan.feed "\nwait\n".toList).At (.operator "\n" :: .word (literal "wait") :: .operator "\n" :: ts) none
      .plain := by
  have hword := (h.newline_none.quote "wait").newline
  rwa [List.reverse_reverse] at hword

theorem at_membersText (h : scan.At ts none .plain) (members : List (List String)) :
    (scan.feed (membersText members).toList).At ((membersTokens members).reverse ++ ts) none .plain := by
  have hchars : (membersText members).toList = (members.flatMap fun words => (memberText words).toList) ++
      (if members.isEmpty then "" else "\nwait\n").toList := by
    simp [membersText, List.flatMap_map]
  have hmembers := at_flatMap_memberText h members
  rw [hchars, Scan.feed_append, membersTokens, List.reverse_append, List.append_assoc]
  cases members.isEmpty with
  | true => exact hmembers
  | false => exact at_waitText hmembers

/-- **A shell reads the commands of a script as they should be read,** and no quote is left open. -/
theorem tokens_membersText (members : List (List String)) :
    (Shell.tokens (membersText members).toList).1.map (·.1) = membersTokens members ∧
      (Shell.tokens (membersText members).toList).2 = none := by
  have hend := at_membersText Scan.at_start members
  rw [List.append_nil] at hend
  unfold Shell.tokens
  rw [show (membersText members).toList.foldl Scan.step {} = Scan.feed {} (membersText members).toList from rfl]
  generalize Scan.feed {} (membersText members).toList = scan at hend
  have hfinish : scan.finish = scan := by
    rw [Scan.finish, hend.mode]
    dsimp only
    rw [Scan.endWord, hend.word]
  have hclosed : scan.isOpen = false := by rw [Scan.isOpen, hend.mode]
  dsimp only
  rw [hfinish, hclosed, List.map_reverse, hend.tokens, List.reverse_reverse]
  exact ⟨rfl, rfl⟩

/-! ### Commands -/

/-- A command in the background, as a shell should read it. -/
def memberJob (words : List String) : Job := ⟨⟨[], words.map literal⟩, true⟩

/-- The commands as a shell should read them, and the wait for them. -/
def membersJobs (members : List (List String)) : List Job :=
  members.map memberJob ++ if members.isEmpty then [] else [⟨⟨[], [literal "wait"]⟩, false⟩]

theorem jobs?_memberTokens {words : List String} (h : words ≠ []) (ts : List Token) :
    jobs? (memberTokens words ++ ts) = (simple? (words.map literal)).bind fun c => (jobs? ts).map (⟨c, true⟩ :: ·) := by
  have htokens : memberTokens words ++ ts =
      .operator "\n" :: ((words.map literal).map .word ++ .operator "&" :: .operator "\n" :: ts) := by
    simp [memberTokens]
  have hwords : words.map literal ≠ [] := fun h' => h (List.map_eq_nil_iff.1 h')
  rw [htokens, Shell.jobs?_newline, Shell.jobs?_words hwords (.inr rfl), Shell.jobs?_newline]
  rfl

theorem jobs?_flatMap_iff {members : List (List String)} (h : ∀ words ∈ members, words ≠ []) {ts : List Token}
    {js : List Job} (hts : jobs? ts = some js) :
    jobs? (members.flatMap memberTokens ++ ts) = some (members.map memberJob ++ js) ↔
      ∀ words ∈ members, simple? (words.map literal) = some ⟨[], words.map literal⟩ := by
  induction members with
  | nil => exact ⟨nofun, fun _ => hts⟩
  | cons words members ih =>
    have ih := ih fun ws hws => h ws (List.mem_cons_of_mem words hws)
    rw [List.flatMap_cons, List.append_assoc, jobs?_memberTokens (h words List.mem_cons_self), List.forall_mem_cons,
      ← ih, List.map_cons, List.cons_append]
    cases simple? (words.map literal) with
    | none => exact ⟨nofun, nofun⟩
    | some c =>
      cases jobs? (members.flatMap memberTokens ++ ts) with
      | none => exact ⟨nofun, nofun⟩
      | some rest => simp [memberJob]

theorem jobs?_membersTokens_iff {members : List (List String)} (h : ∀ words ∈ members, words ≠ []) :
    jobs? (membersTokens members) = some (membersJobs members) ↔
      ∀ words ∈ members, simple? (words.map literal) = some ⟨[], words.map literal⟩ := by
  refine jobs?_flatMap_iff h ?_
  cases members.isEmpty with
  | true => rfl
  | false => decide

end Script

/-! ## Members -/

/-- A member that a shell takes for something else: it is started as it is, without variables, and its program has the
name of a reserved word or of an assignment. -/
def Misread (member : Step) : Prop :=
  ∃ r, member.launch = .plain r ∧ r.assignments = [] ∧ Shell.Misread r.exe

theorem exists_command_eq {member : Step} (direct : member.managed = false) :
    ∃ word words, member.command = word :: words ∧ (Shell.Misread word ↔ member.Misread) := by
  obtain ⟨name, cwd, managed, launch, rfl⟩ := member
  have hlauncher : ∀ word ∈ ["aprun", "mpirun", "env"], ¬ Shell.Misread word := by
    simp only [← Shell.misread_iff]
    decide
  cases launch with
  | pbsBatch b members => cases direct
  | gridBatch b members => cases direct
  | aprun r => exact ⟨"aprun", _, rfl, iff_of_false (hlauncher _ (by decide)) nofun⟩
  | mpirun r => exact ⟨"mpirun", _, rfl, iff_of_false (hlauncher _ (by decide)) nofun⟩
  | plain r =>
    have hcommand : command ⟨name, cwd, _, .plain r, rfl⟩ =
        (if r.assignments.isEmpty then [] else "env" :: r.assignments) ++ r.exeWords := rfl
    cases hassignments : r.assignments with
    | nil =>
      rw [hassignments] at hcommand
      refine ⟨r.exe, r.exeArgs, hcommand, fun h => ⟨r, rfl, hassignments, h⟩, ?_⟩
      rintro ⟨_, ⟨⟩, -, h⟩
      exact h
    | cons a rest =>
      rw [hassignments] at hcommand
      refine ⟨"env", _, hcommand, iff_of_false (hlauncher _ (by decide)) ?_⟩
      rintro ⟨_, ⟨⟩, hnone, -⟩
      rw [hassignments] at hnone
      cases hnone

/-- **When the script of a batch step runs exactly its members.** Whatever members are added to a new batch step, batch
steps among them are refused, and the step stays the same but for the commands of the others. Behind its last preamble
line, a shell reads from its script the words of these commands in order, each with an ampersand behind it, and the word
`wait` if there are any; and outside single quotes the words have escaped single quotes and plain characters only, of
which four are special in some places. One of these places is in front of a command: the words are read as these commands
and a wait for them if and only if no member is misread. -/
theorem script_runs_members_iff {name cwd : String} {settings : Settings}
    (created : Step.create name cwd settings = .ok s) (batch : s.managed = true) (members : List Step) :
    let t := (s.addMembers members).1
    let commands := (s.addMembers members).2.map command
    (s.addMembers members).2 = members.filter (!·.managed) ∧ t = s.withMembers commands ∧
      ∃ script, t.script? = some script ∧ s.script? = some { script with members := [] } ∧
        script.text = script.head ++ Script.membersText commands ∧
        (Shell.tokens (Script.membersText commands).toList).1.map (·.1) = Script.membersTokens commands ∧
        (Shell.tokens (Script.membersText commands).toList).2 = none ∧
        (∀ words ∈ commands, ∀ word ∈ words, ∀ x ∈ Shell.exposed false (Shell.quote word).toList,
          (∃ c, x = .bare c ∧ Shell.isPlain c = true ∧ c ∉ Shell.special ∧
            (c ∈ Shell.conditional → c ∈ ['-', '=', '%', ','])) ∨ x = .escaped '\x27') ∧
        (Shell.jobs? ((Shell.tokens (Script.membersText commands).toList).1.map (·.1)) =
            some (Script.membersJobs commands) ↔ ∀ member ∈ (s.addMembers members).2, ¬ member.Misread) := by
  intro t commands
  have hempty := (of_create created).empty
  have hadded : s.addMembers members = (s.withMembers commands, members.filter (!·.managed)) := by
    have h := addMembers_eq batch [] members
    rw [hempty] at h
    show _ = (s.withMembers ((s.addMembers members).2.map command), _)
    rw [h]
    rfl
  have ht : t = s.withMembers commands := congrArg (·.1) hadded
  obtain ⟨script, hscript, hmembers, hothers⟩ := script?_withMembers batch commands
  obtain ⟨htokens, hclosed⟩ := Script.tokens_membersText commands
  refine ⟨congrArg (·.2) hadded, ht, script, ht ▸ hscript, ?_, ?_, htokens, hclosed, fun words _ word _ x hx => ?_, ?_⟩
  · rw [← hothers [], hempty]
  · rw [← hmembers]
    rfl
  · rw [Shell.quote, String.toList_ofList] at hx
    refine (Shell.exposed_quoteChars word.toList x hx).imp_left ?_
    rintro ⟨c, rfl, hc⟩
    exact ⟨c, rfl, hc, Shell.not_special_of_isPlain hc, Shell.mem_of_isPlain_of_conditional hc⟩
  · have hfirst : ∀ member ∈ (s.addMembers members).2, ∃ word words, member.command = word :: words ∧
        (Shell.Misread word ↔ member.Misread) := by
      intro member hmember
      rw [hadded] at hmember
      have hdirect := (List.mem_filter.1 hmember).2
      exact exists_command_eq (by simpa using hdirect)
    have hne : ∀ words ∈ commands, words ≠ [] := by
      intro words hwords
      obtain ⟨member, hmember, rfl⟩ := List.mem_map.1 hwords
      obtain ⟨word, rest, hcommand, -⟩ := hfirst member hmember
      rw [hcommand]
      exact List.cons_ne_nil word rest
    rw [htokens, Script.jobs?_membersTokens_iff hne, List.forall_mem_map]
    refine forall₂_congr fun member hmember => ?_
    obtain ⟨word, rest, hcommand, hmisread⟩ := hfirst member hmember
    rw [hcommand, Shell.simple?_literals_iff, hmisread]

/-- A member whose words need quotes and one with an assignment among its arguments are read as they are, and a batch step
is refused. -/
theorem script_runs_members_iff_quoted :
    let members : List Step := [⟨"a", "/", false, .plain { exe := "echo", exeArgs := ["it\x27s", "", "$HOME"] }, rfl⟩,
      ⟨"b", "/", true, .gridBatch {} [], rfl⟩, ⟨"c", "/", false, .plain { exe := "./sim", exeArgs := ["alpha=0.1"] }, rfl⟩]
    let commands := [["echo", "it\x27s", "", "$HOME"], ["./sim", "alpha=0.1"]]
    ∃ s, Step.create "job" "/" (.pbsBatch {}) = .ok s ∧ s.managed = true ∧
      (s.addMembers members).2.map command = commands ∧
      (∃ script, (s.addMembers members).1.script? = some script ∧
        script.text = script.head ++ Script.membersText commands) ∧
      Shell.jobs? ((Shell.tokens (Script.membersText commands).toList).1.map (·.1)) =
        some (Script.membersJobs commands) := by
  intro members commands
  have created : Step.create "job" "/" (.pbsBatch {}) = .ok ⟨"job", "/", true, .pbsBatch {} [], rfl⟩ := rfl
  obtain ⟨-, -, script, hscript, -, htext, -, -, -, hjobs⟩ := script_runs_members_iff created rfl members
  refine ⟨_, created, rfl, rfl, ⟨script, hscript, htext⟩, hjobs.2 ?_⟩
  have hplain : ∀ word ∈ ["echo", "./sim"], ¬ Shell.Misread word := by
    simp only [← Shell.misread_iff]
    decide
  rintro member hmember ⟨r, hlaunch, -, hexe⟩
  rcases List.mem_cons.1 (show member ∈ [members[0], members[2]] from hmember) with rfl | hmember
  · cases hlaunch
    exact hplain _ (by decide) hexe
  · obtain rfl := List.mem_singleton.1 hmember
    cases hlaunch
    exact hplain _ (by decide) hexe

/-- A program in the directory `alpha=0.1` is not run, and one with the name `done` keeps the whole script from being
read. -/
theorem script_runs_members_fails :
    let sim : Step := ⟨"m", "/", false, .plain { exe := "alpha=0.1/sim" }, rfl⟩
    let done : Step := ⟨"n", "/", false, .plain { exe := "done" }, rfl⟩
    ∃ s, Step.create "job" "/" (.pbsBatch {}) = .ok s ∧
      Step.create "m" "/" (.plain { exe := "alpha=0.1/sim" }) = .ok sim ∧
      Step.create "n" "/" (.plain { exe := "done" }) = .ok done ∧
      (∃ script, (s.addMembers [sim]).1.script? = some script ∧
        script.text = script.head ++ "\nalpha=0.1/sim &\n\nwait\n" ∧
        Shell.jobs? ((Shell.tokens "\nalpha=0.1/sim &\n\nwait\n".toList).1.map (·.1)) =
          some [⟨⟨[Shell.literal "alpha=0.1/sim"], []⟩, true⟩, ⟨⟨[], [Shell.literal "wait"]⟩, false⟩]) ∧
      ∃ script, (s.addMembers [done]).1.script? = some script ∧ script.text = script.head ++ "\ndone &\n\nwait\n" ∧
        Shell.jobs? ((Shell.tokens "\ndone &\n\nwait\n".toList).1.map (·.1)) = none := by
  refine ⟨_, rfl, rfl, rfl, ⟨_, rfl, ?_, by decide +kernel⟩, _, rfl, ?_, by decide +kernel⟩
  · decide +kernel
  · decide +kernel

end JobLaunch.Step
