import JobLaunch.Backend
import JobLaunch.Proofs.JobArrays
import JobLaunch.Proofs.Script
import JobLaunch.Proofs.SubmissionPaths

/-!
# What the header of a script says

A script begins with its first line, a blank line, and a line for each directive.

* `Text.feedPieces` : a text between its line feeds; `Text.length_feedPieces_eq_one_iff` : texts of one line;
* `Step.Script.feedPieces_text` : the lines of a script;
* `Step.HeaderSays` : the header has one line for each directive, and names the files and the step in one word each;
* `Step.Tidy` : no value breaks a line, and no blank breaks a name or a path;
* `Step.headerSays_iff` : the first holds exactly if the second does; `Step.header_says_iff` : for the steps that a
  backend makes.
-/

namespace JobLaunch

/-! ## Texts of one line -/

namespace Text

/-- The pieces of a text between its line feeds. -/
def feedPieces (cs : List Char) : List (List Char) := pieces (· == '\n') cs

variable {cs : List Char}

theorem feedPieces_append (cs ds : List Char) : feedPieces (cs ++ '\n' :: ds) = feedPieces cs ++ feedPieces ds :=
  pieces_append (p := (· == '\n')) rfl cs ds

theorem feedPieces_of_not_mem (whole : '\n' ∉ cs) : feedPieces cs = [cs] := by
  refine pieces_of_none fun c hc => beq_false_of_ne ?_
  rintro rfl
  exact whole hc

theorem length_feedPieces_pos (cs : List Char) : 1 ≤ (feedPieces cs).length :=
  List.length_pos_iff.2 (pieces_ne_nil _ cs)

theorem length_feedPieces_eq_one_iff : (feedPieces cs).length = 1 ↔ '\n' ∉ cs := by
  constructor
  · intro h hfeed
    obtain ⟨front, rest, rfl⟩ := List.append_of_mem hfeed
    have hfront := length_feedPieces_pos front
    have hrest := length_feedPieces_pos rest
    rw [feedPieces_append, List.length_append] at h
    omega
  · intro whole
    rw [feedPieces_of_not_mem whole]
    rfl

theorem words_eq_singleton_iff : words cs = [cs] ↔ IsWord cs := by
  refine ⟨fun h => ?_, words_of_isWord⟩
  have hmem : cs ∈ words cs := by
    rw [h]
    exact List.mem_singleton_self cs
  obtain ⟨hpiece, hne⟩ := List.mem_filter.1 hmem
  exact ⟨by simpa using hne, not_cut_of_mem_pieces hpiece⟩

theorem length_flatMap_feedPieces (ls : List (List Char)) : ls.length ≤ (ls.flatMap feedPieces).length ∧
    ((ls.flatMap feedPieces).length = ls.length → ∀ line ∈ ls, '\n' ∉ line) := by
  induction ls with
  | nil => exact ⟨Nat.le_refl _, nofun⟩
  | cons line ls ih =>
    have hline := length_feedPieces_pos line
    rw [List.flatMap_cons, List.length_append, List.length_cons]
    refine ⟨by omega, fun h => List.forall_mem_cons.2 ⟨?_, ih.2 (by omega)⟩⟩
    exact length_feedPieces_eq_one_iff.1 (by omega)

theorem flatMap_feedPieces_of_whole {ls : List (List Char)} (whole : ∀ line ∈ ls, '\n' ∉ line) :
    ls.flatMap feedPieces = ls := by
  induction ls with
  | nil => rfl
  | cons line ls ih =>
    rw [List.forall_mem_cons] at whole
    rw [List.flatMap_cons, feedPieces_of_not_mem whole.1, ih whole.2]
    rfl

end Text

/-! ## The lines of a script -/

namespace Step.Script

open Text (feedPieces)

def bodyText (s : Script) : String := linesText s.preamble ++ membersText s.members

def directiveLine (s : Script) (directive : String) : List Char := s.marker.toList ++ ' ' :: directive.toList

theorem feedPieces_linesText (ls : List String) (cs : List Char) :
    feedPieces ((linesText ls).toList ++ cs) = (ls.map String.toList).flatMap feedPieces ++ feedPieces cs := by
  induction ls with
  | nil => rfl
  | cons line ls ih =>
    have hcons : (linesText (line :: ls)).toList = line.toList ++ '\n' :: (linesText ls).toList := by
      simp [linesText, String.join_cons]
    rw [hcons, List.append_assoc, List.cons_append, Text.feedPieces_append, ih, List.map_cons, List.flatMap_cons,
      List.append_assoc]

theorem toList_directiveLines (s : Script) :
    s.directiveLines.map String.toList = s.directives.map s.directiveLine := by
  simp [directiveLines, directiveLine, Function.comp_def]

/-- **The lines of a script** are those of its parts. -/
theorem feedPieces_text (s : Script) : feedPieces s.text.toList = feedPieces s.shebang.toList ++
    [] :: ((s.directives.map s.directiveLine).flatMap feedPieces ++ feedPieces s.bodyText.toList) := by
  have hparts : s.text.toList =
      s.shebang.toList ++ '\n' :: ([] ++ '\n' :: ((linesText s.directiveLines).toList ++ s.bodyText.toList)) := by
    simp [text, bodyText]
  rw [hparts, Text.feedPieces_append, Text.feedPieces_append, feedPieces_linesText, toList_directiveLines]
  rfl

/-- Behind its first line and a blank line, a script has one line for each directive exactly if no line is broken, and
these are the lines of the directives. -/
theorem feedPieces_text_iff {s : Script} {header : List (List Char)} :
    feedPieces s.text.toList = s.shebang.toList :: [] :: (header ++ feedPieces s.bodyText.toList) ∧
        header.length = s.directives.length ↔
      '\n' ∉ s.shebang.toList ∧ (∀ line ∈ s.directives.map s.directiveLine, '\n' ∉ line) ∧
        header = s.directives.map s.directiveLine := by
  rw [feedPieces_text]
  constructor
  · rintro ⟨hlines, hlength⟩
    have hcount := congrArg List.length hlines
    have hfirst := Text.length_feedPieces_pos s.shebang.toList
    obtain ⟨hle, hwhole⟩ := Text.length_flatMap_feedPieces (s.directives.map s.directiveLine)
    simp only [List.length_append, List.length_cons, List.length_map] at hcount hle hwhole
    have first : '\n' ∉ s.shebang.toList := Text.length_feedPieces_eq_one_iff.1 (by omega)
    have whole := hwhole (by omega)
    rw [Text.feedPieces_of_not_mem first, Text.flatMap_feedPieces_of_whole whole] at hlines
    obtain ⟨-, hlines⟩ := List.cons.inj hlines
    obtain ⟨-, hlines⟩ := List.cons.inj hlines
    exact ⟨first, whole, (List.append_cancel_right hlines).symm⟩
  · rintro ⟨first, whole, rfl⟩
    rw [Text.feedPieces_of_not_mem first, Text.flatMap_feedPieces_of_whole whole]
    exact ⟨rfl, List.length_map _⟩

theorem feed_not_mem_directiveLines_iff {s : Script} (marker : Text.IsWord s.marker.toList) :
    (∀ line ∈ s.directives.map s.directiveLine, '\n' ∉ line) ↔ ∀ d ∈ s.directives, '\n' ∉ d.toList := by
  have hmarker : '\n' ∉ s.marker.toList := GridListing.feed_not_mem_of_isWord marker
  simp [directiveLine, hmarker]

theorem words_directiveLine {s : Script} (marker : Text.IsWord s.marker.toList) {flag directive : String}
    (isWord : Text.IsWord flag.toList) {value : List Char} (h : directive.toList = flag.toList ++ ' ' :: value) :
    Text.words (s.directiveLine directive) = s.marker.toList :: flag.toList :: Text.words value := by
  rw [directiveLine, h, Text.words_append rfl, Text.words_append rfl, Text.words_of_isWord marker,
    Text.words_of_isWord isWord]
  rfl

end Step.Script

/-! ## Headers -/

namespace Step

open Text (IsWord feedPieces)

/-- The header of a script says what the step says. Between the blank line behind the first line and the lines of the
body it has one line for each directive, which begins with the marker; and the first three lines consist of the marker,
a flag, and the file for the output, the file for the error text, or the name of the step in one word. -/
def HeaderSays (s : Step) (script : Script) : Prop :=
  ∃ header, feedPieces script.text.toList =
      script.shebang.toList :: [] :: (header ++ feedPieces script.bodyText.toList) ∧
    header.length = script.directives.length ∧ (∀ line ∈ header, script.marker.toList ++ [' '] <+: line) ∧
    (header.take 3).map Text.words = [("-o", s.outFile), ("-e", s.errFile), ("-N", s.name)].map fun e =>
      [script.marker.toList, e.1.toList, e.2.toList]

/-- No value of a header breaks a line, and no blank breaks the name of the step or the paths of its files. -/
structure Tidy (s : Step) (script : Script) : Prop where
  shebang : '\n' ∉ script.shebang.toList
  directives : ∀ d ∈ script.directives, '\n' ∉ d.toList
  name : IsWord s.name.toList
  directory : Path.isAbsolute s.name = true ∨ ∀ c ∈ s.cwd.toList, Text.isBlank c = false

variable {s : Step} {script : Script}

theorem forall_mem_join {P : Char → Prop} (slash : P '/') (dir p : String) : (∀ c ∈ (Path.join dir p).toList, P c) ↔
    (Path.isAbsolute p = true ∨ ∀ c ∈ dir.toList, P c) ∧ ∀ c ∈ p.toList, P c := by
  unfold Path.join
  split
  · next h => simp [h]
  · next h =>
    split
    · simp [h, or_imp, forall_and]
    · simp [h, slash, or_imp, forall_and]

theorem isWord_file_iff {ending : String} (relative : Path.isAbsolute ending = false) (isWord : IsWord ending.toList) :
    IsWord (s.file ending).toList ↔ (Path.isAbsolute s.name = true ∨ ∀ c ∈ s.cwd.toList, Text.isBlank c = false) ∧
      ∀ c ∈ s.name.toList, Text.isBlank c = false := by
  have hplain := forall_mem_join (P := (Text.isBlank · = false)) rfl s.cwd (s.name ++ ending)
  rw [Path.isAbsolute_append s.name relative, String.toList_append, List.forall_mem_append] at hplain
  constructor
  · intro h
    obtain ⟨hdirectory, hname, -⟩ := hplain.1 h.plain
    exact ⟨hdirectory, hname⟩
  · rintro ⟨hdirectory, hname⟩
    refine ⟨?_, hplain.2 ⟨hdirectory, hname, isWord.plain⟩⟩
    unfold file Path.join
    split
    · simp [isWord.ne_nil]
    · split <;> simp [isWord.ne_nil]

theorem exists_ownDirectives (h : s.script? = some script) :
    ∃ own, script.directives = s.commonDirectives ++ own ∧ IsWord script.marker.toList := by
  obtain ⟨name, cwd, managed, launch, rfl⟩ := s
  cases launch with
  | pbsBatch b members =>
    cases h
    exact ⟨b.directives, rfl, show IsWord "#PBS".toList by decide⟩
  | gridBatch b members =>
    cases h
    exact ⟨b.directives, rfl, show IsWord "#$".toList by decide⟩
  | aprun r => cases h
  | mpirun r => cases h
  | plain r => cases h

theorem words_header_iff (h : s.script? = some script) :
    ((script.directives.map script.directiveLine).take 3).map Text.words =
        ([("-o", s.outFile), ("-e", s.errFile), ("-N", s.name)].map fun e =>
          [script.marker.toList, e.1.toList, e.2.toList]) ↔
      IsWord s.outFile.toList ∧ IsWord s.errFile.toList ∧ IsWord s.name.toList := by
  obtain ⟨own, hdirectives, marker⟩ := exists_ownDirectives h
  have hlines : (script.directives.map script.directiveLine).take 3 =
      ["-o " ++ s.outFile, "-e " ++ s.errFile, "-N " ++ s.name].map script.directiveLine := by
    rw [hdirectives]
    rfl
  have hwords : ∀ flag value : String, IsWord flag.toList →
      Text.words (script.directiveLine (flag ++ " " ++ value)) =
        script.marker.toList :: flag.toList :: Text.words value.toList := by
    intro flag value isWord
    exact Script.words_directiveLine marker isWord (by simp)
  have hout := hwords "-o" s.outFile (by decide)
  have herr := hwords "-e" s.errFile (by decide)
  have hname := hwords "-N" s.name (by decide)
  rw [hlines]
  simp only [List.map_cons, List.map_nil]
  rw [show "-o " = "-o" ++ " " from rfl, show "-e " = "-e" ++ " " from rfl, show "-N " = "-N" ++ " " from rfl,
    hout, herr, hname]
  simp [← Text.words_eq_singleton_iff]

/-- **The header of a script says what the step says exactly if the step is tidy.** -/
theorem headerSays_iff (h : s.script? = some script) : s.HeaderSays script ↔ s.Tidy script := by
  obtain ⟨-, -, marker⟩ := exists_ownDirectives h
  constructor
  · rintro ⟨header, hlines, hlength, -, hwords⟩
    obtain ⟨first, whole, rfl⟩ := Script.feedPieces_text_iff.1 ⟨hlines, hlength⟩
    obtain ⟨hout, -, hname⟩ := (words_header_iff h).1 hwords
    exact ⟨first, (Script.feed_not_mem_directiveLines_iff marker).1 whole, hname,
      ((isWord_file_iff (by decide) (by decide)).1 hout).1⟩
  · rintro ⟨first, whole, name, directory⟩
    have hout : IsWord s.outFile.toList := (isWord_file_iff (by decide) (by decide)).2 ⟨directory, name.plain⟩
    have herr : IsWord s.errFile.toList := (isWord_file_iff (by decide) (by decide)).2 ⟨directory, name.plain⟩
    obtain ⟨hlines, hlength⟩ :=
      Script.feedPieces_text_iff.2 ⟨first, (Script.feed_not_mem_directiveLines_iff marker).2 whole, rfl⟩
    refine ⟨_, hlines, hlength, fun line hline => ?_, (words_header_iff h).2 ⟨hout, herr, name⟩⟩
    obtain ⟨d, -, rfl⟩ := List.mem_map.1 hline
    exact ⟨d.toList, by simp [Script.directiveLine]⟩

/-! ## The result -/

/-- What marks the directives of a batch job. -/
def markerOf : Settings → String
  | .gridBatch _ => "#$"
  | _ => "#PBS"

/-- A batch step that is made has its name and its directory, and a script with the marker of its scheduler, whatever
its members are. -/
theorem marked_of_create {name cwd : String} {settings : Settings} (created : create name cwd settings = .ok s)
    (batch : s.managed = true) (members : List (List String)) : s.name = name ∧ s.cwd = cwd ∧
      ∃ script, (s.withMembers members).script? = some script ∧ script.marker = markerOf settings := by
  have made := of_create created
  refine ⟨made.name, made.cwd, ?_⟩
  obtain ⟨name, cwd, managed, launch, rfl⟩ := s
  obtain rfl : launch = settings.launch := made.launch
  cases settings with
  | pbsBatch b => exact ⟨_, rfl, rfl⟩
  | gridBatch b => exact ⟨_, rfl, rfl⟩
  | aprun r => cases batch
  | mpirun r => cases batch
  | plain r => cases batch

/-- **The script of a batch step that a backend makes says what the step says exactly if the step is tidy,** whatever
members are added to it. -/
theorem header_says_iff {backend : Backend} {name cwd : String} {settings : Settings}
    (created : backend.createStep name cwd settings = .ok s) (batch : s.managed = true) (members : List Step) :
    let t := (s.addMembers members).1
    t.name = name ∧ t.cwd = cwd ∧ ∃ script, t.script? = some script ∧ script.marker = markerOf settings ∧
      (t.HeaderSays script ↔ t.Tidy script) := by
  intro t
  have created : create name cwd settings = .ok s := by
    unfold Backend.createStep at created
    split at created
    · exact created
    · cases created
  have ht : t = s.withMembers ((members.filter (!·.managed)).map command) := by
    have hadded := addMembers_eq batch [] members
    rw [(of_create created).empty, List.nil_append] at hadded
    exact congrArg (·.1) hadded
  obtain ⟨hname, hcwd, script, hscript, hmarker⟩ :=
    marked_of_create created batch ((members.filter (!·.managed)).map command)
  rw [ht]
  exact ⟨hname, hcwd, script, hscript, hmarker, headerSays_iff hscript⟩

/-- The step is tidy, though a member and a line of the preamble are not. -/
theorem header_says_iff_tidy :
    let settings : Settings := .gridBatch { queue := some "all.q", preamble := ["module load mpi\n"] }
    let member : Step := ⟨"m", "/", false, .mpirun { exe := "two words" }, rfl⟩
    ∃ s, (Backend.scheduled (.grid {})).createStep "ens" "/scratch/jobs" settings = .ok s ∧ s.managed = true ∧
      ∃ script, (s.addMembers [member]).1.script? = some script ∧ (s.addMembers [member]).1.HeaderSays script := by
  intro settings member
  have created : (Backend.scheduled (.grid {})).createStep "ens" "/scratch/jobs" settings =
      .ok ⟨"ens", "/scratch/jobs", true, .gridBatch { queue := some "all.q", preamble := ["module load mpi\n"] } [], rfl⟩ := rfl
  obtain ⟨-, -, script, hscript, -, hsays⟩ := header_says_iff created rfl [member]
  refine ⟨_, created, rfl, script, hscript, hsays.2 ?_⟩
  cases hscript
  have directory : IsWord "/scratch/jobs".toList := by decide
  exact ⟨by decide, by decide, by decide, .inr directory.plain⟩

/-- A queue puts a directive of its own into a header, and a directory loses its tail at a blank. -/
theorem header_says_fails :
    let batch : PbsBatch := { queue := some "workq\n#PBS -l select=64" }
    let broken : Step := ⟨"a", ".", true, .pbsBatch batch [], rfl⟩
    let spaced : Step := ⟨"a", "/my jobs", true, .pbsBatch {} [], rfl⟩
    (Backend.scheduled (.pbs {})).createStep "a" "." (.pbsBatch batch) = .ok broken ∧
    (∃ script, broken.script? = some script ∧ ¬ broken.HeaderSays script ∧
      feedPieces script.text.toList = ["#!/bin/bash", "", "#PBS -o ./a.out", "#PBS -e ./a.err", "#PBS -N a", "#PBS -V",
        "#PBS -q workq", "#PBS -l select=64", ""].map String.toList) ∧
    (Backend.scheduled (.pbs {})).createStep "a" "/my jobs" (.pbsBatch {}) = .ok spaced ∧
    ∃ script, spaced.script? = some script ∧ ¬ spaced.HeaderSays script ∧
      Text.words (script.directiveLine ("-o " ++ spaced.outFile)) =
        ["#PBS", "-o", "/my", "jobs/a.out"].map String.toList := by
  refine ⟨rfl, ⟨_, rfl, fun h => ?_, by decide +kernel⟩, rfl, _, rfl, fun h => ?_, by decide +kernel⟩
  · have tidy := (headerSays_iff rfl).1 h
    exact absurd tidy.directives (by decide +kernel)
  · rcases ((headerSays_iff rfl).1 h).directory with absolute | plain
    · cases absolute
    · cases plain ' ' (by decide)

end Step

end JobLaunch
