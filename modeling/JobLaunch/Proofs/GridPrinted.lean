import JobLaunch.Listing.Grid
import JobLaunch.Listing.Printer
import JobLaunch.Proofs.Siblings

/-!
# Tables of Grid Engine are read back

What the printer of a table writes, the reader of a table finds again: each job has its row, and the line under the row
gives back the name that the row cuts off.

* `Text.words_word`, `Text.lines_ended`, `Text.trim_padded` : how a text that is put together is taken apart;
* `SampleJob.Tabular` : a job that fits into a table; `GridListing.rowLine`, `GridListing.nameLine` : its two lines;
* `GridListing.addLine_rowLine`, `GridListing.addLine_nameLine` : what each of them is read as;
* `GridListing.rows_printed` : the rows of a printed table;
* `GridListing.table_read_back` : what is told of ids and of names.
-/

namespace JobLaunch

/-! ## Taking texts apart -/

namespace Text

structure IsWord (cs : List Char) : Prop where
  ne_nil : cs ≠ []
  plain : ∀ c ∈ cs, isBlank c = false

theorem isWord_iff {cs : List Char} : IsWord cs ↔ cs ≠ [] ∧ cs.all (!isBlank ·) = true := by
  rw [List.all_eq_true]
  constructor
  · exact fun h => ⟨h.ne_nil, fun c hc => by rw [h.plain c hc]; rfl⟩
  · exact fun h => ⟨h.1, fun c hc => Bool.not_eq_eq_eq_not.1 (h.2 c hc)⟩

instance (cs : List Char) : Decidable (IsWord cs) := decidable_of_iff _ isWord_iff.symm

theorem pieces_of_none {p : Char → Bool} {cs : List Char} (h : ∀ c ∈ cs, p c = false) : pieces p cs = [cs] := by
  induction cs with
  | nil => rfl
  | cons c cs ih =>
    rw [List.forall_mem_cons] at h
    rw [pieces, h.1, if_neg Bool.false_ne_true, ih h.2]

/-- **A text is cut at each cut by itself.** -/
theorem pieces_append {p : Char → Bool} {d : Char} (cut : p d = true) (cs ds : List Char) :
    pieces p (cs ++ d :: ds) = pieces p cs ++ pieces p ds := by
  induction cs with
  | nil => exact if_pos cut
  | cons c cs ih =>
    rw [List.cons_append, pieces, pieces, ih]
    obtain ⟨w, ws, hws⟩ := List.exists_cons_of_ne_nil (pieces_ne_nil p cs)
    rw [hws]
    split <;> rfl

theorem words_of_isWord {w : List Char} (h : IsWord w) : words w = [w] := by
  have hkept : (!w.isEmpty) = true := by simpa using h.ne_nil
  rw [words, pieces_of_none h.plain, List.filter_cons, if_pos hkept]
  rfl

theorem words_append {b : Char} (blank : isBlank b = true) (cs ds : List Char) :
    words (cs ++ b :: ds) = words cs ++ words ds := by
  rw [words, pieces_append blank, List.filter_append]
  rfl

theorem words_blanks {bs : List Char} (h : ∀ c ∈ bs, isBlank c = true) (cs : List Char) :
    words (bs ++ cs) = words cs := by
  induction bs with
  | nil => rfl
  | cons b bs ih =>
    rw [List.forall_mem_cons] at h
    exact (words_append h.1 [] (bs ++ cs)).trans (ih h.2)

/-- **A word that blanks follow** is the first of the words. -/
theorem words_word {w bs : List Char} (h : IsWord w) (blank : ∀ c ∈ bs, isBlank c = true) (ne : bs ≠ [])
    (cs : List Char) : words (w ++ (bs ++ cs)) = w :: words cs := by
  obtain ⟨b, bs, rfl⟩ := List.exists_cons_of_ne_nil ne
  rw [List.forall_mem_cons] at blank
  rw [List.cons_append, words_append blank.1, words_of_isWord h, words_blanks blank.2]
  rfl

/-- **A line that is ended** is the first of the lines, without its carriage return. -/
theorem lines_ended {line : List Char} (h : '\n' ∉ line) (cs : List Char) :
    lines (line ++ '\n' :: cs) = chopReturn line :: lines cs := by
  have hwhole : pieces (· == '\n') line = [line] := by
    refine pieces_of_none fun c hc => beq_false_of_ne ?_
    rintro rfl
    exact h hc
  rw [lines, pieces_append (p := (· == '\n')) rfl, hwhole]
  obtain ⟨p, ps, hps⟩ := List.exists_cons_of_ne_nil (pieces_ne_nil (· == '\n') cs)
  rw [lines, hps]
  rfl

theorem lines_append {line : List Char} (h : '\n' ∉ line) (last : line.getLast? ≠ some '\r')
    (cs : List Char) : lines (line ++ '\n' :: cs) = line :: lines cs := by
  rw [lines_ended h, chopReturn, if_neg last]

theorem afterStart?_append (ps cs : List Char) : afterStart? ps (ps ++ cs) = some cs := by
  induction ps with
  | nil => rfl
  | cons p ps ih => rw [List.cons_append, afterStart?, if_pos rfl, ih]

/-- **A text with blanks in front of it** is what is left when it is trimmed. -/
theorem trim_padded {bs cs : List Char} (blank : ∀ c ∈ bs, isBlank c = true)
    (first : ∀ c ∈ cs.head?, isBlank c = false) (last : ∀ c ∈ cs.getLast?, isBlank c = false) :
    trim (bs ++ cs) = cs := by
  have hkeep : ∀ ds : List Char, (∀ c ∈ ds.head?, isBlank c = false) → ds.dropWhile isBlank = ds := by
    intro ds h
    cases ds with
    | nil => rfl
    | cons d ds => rw [List.dropWhile_cons, h d rfl, if_neg Bool.false_ne_true]
  rw [trim, trimStart, List.dropWhile_append_of_pos blank, hkeep cs first, trimEnd, hkeep, List.reverse_reverse]
  rwa [List.head?_reverse]

end Text

/-! ## Jobs in a table -/

/-- A job that fits into a table: its id is a number, its name and its state are words. -/
structure SampleJob.Tabular (job : SampleJob) : Prop where
  id_ne : job.id.toList ≠ []
  digits : job.id.toList.all Text.isDigit = true
  name : Text.IsWord job.name.toList
  state : Text.IsWord job.state.toList

theorem SampleJob.tabular_iff {job : SampleJob} : job.Tabular ↔ job.id.toList ≠ [] ∧
    job.id.toList.all Text.isDigit = true ∧ Text.IsWord job.name.toList ∧ Text.IsWord job.state.toList :=
  ⟨fun h => ⟨h.id_ne, h.digits, h.name, h.state⟩, fun h => ⟨h.1, h.2.1, h.2.2.1, h.2.2.2⟩⟩

instance (job : SampleJob) : Decidable job.Tabular := decidable_of_iff _ SampleJob.tabular_iff.symm

namespace GridListing

open Text (IsWord)

/-- So many spaces. -/
def spaces (n : Nat) : List Char := List.replicate n ' '

theorem isBlank_of_mem_spaces {n : Nat} : ∀ c ∈ spaces n, Text.isBlank c = true := by
  intro c hc
  rw [List.eq_of_mem_replicate hc]
  rfl

def rowText (job : SampleJob) : List Char :=
  job.id.toList ++ (spaces 1 ++ ("0.55500".toList ++ (spaces 1 ++ (job.name.toList.take 10 ++
    (spaces (10 - (job.name.toList.take 10).length) ++ spaces 1 ++ ("alice".toList ++ (spaces 8 ++
      (job.state.toList ++ (spaces (5 - job.state.toList.length) ++ spaces 1 ++
        "05/18/2024 10:00:00 all.q@node1                        1".toList)))))))))

def rowLine (job : SampleJob) : List Char := spaces (7 - job.id.toList.length) ++ rowText job

def nameLine (job : SampleJob) : List Char := spaces 7 ++ (fullNameMark ++ (spaces 5 ++ job.name.toList))

theorem toList_jobLines (job : SampleJob) :
    (jobLines job).toList = rowLine job ++ '\n' :: (nameLine job ++ ['\n']) := by
  have hprior : " 0.55500 ".toList = spaces 1 ++ ("0.55500".toList ++ spaces 1) := by rfl
  have huser : " alice        ".toList = spaces 1 ++ ("alice".toList ++ spaces 8) := by rfl
  have hend : " 05/18/2024 10:00:00 all.q@node1                        1\n".toList =
      spaces 1 ++ ("05/18/2024 10:00:00 all.q@node1                        1".toList ++ ['\n']) := by rfl
  have hmark : "       Full jobname:     ".toList = spaces 7 ++ (fullNameMark ++ spaces 5) := by rfl
  have hbreak : "\n".toList = ['\n'] := by rfl
  simp only [jobLines, padLeft, padRight, rowLine, rowText, nameLine, String.toList_append, String.toList_ofList,
    ← String.length_toList, hprior, huser, hend, hmark, hbreak, List.append_assoc, spaces]
  rfl

variable {job : SampleJob}

theorem isWord_id (h : job.Tabular) : IsWord job.id.toList := by
  refine ⟨h.id_ne, fun c hc => ?_⟩
  rw [← Bool.not_eq_true]
  intro hblank
  exact absurd (List.all_eq_true.1 h.digits c hc) (by rw [Json.not_isDigit_of_isBlank hblank]; exact Bool.false_ne_true)

theorem isWord_take {w : List Char} (h : IsWord w) : IsWord (w.take 10) := by
  refine ⟨fun hnil => h.ne_nil ?_, fun c hc => h.plain c (List.mem_of_mem_take hc)⟩
  rcases List.take_eq_nil_iff.1 hnil with hzero | hnil
  · cases hzero
  · exact hnil

theorem words_rowText (h : job.Tabular) : ∃ rest, Text.words (rowText job) = job.id.toList :: "0.55500".toList ::
    job.name.toList.take 10 :: "alice".toList :: job.state.toList :: rest := by
  have hprior : IsWord "0.55500".toList := by decide
  have huser : IsWord "alice".toList := by decide
  have hone : ∀ c ∈ spaces 1, Text.isBlank c = true := isBlank_of_mem_spaces
  have hpad : ∀ n, (∀ c ∈ spaces n ++ spaces 1, Text.isBlank c = true) ∧ spaces n ++ spaces 1 ≠ [] := by
    intro n
    refine ⟨fun c hc => ?_, by simp [spaces]⟩
    rcases List.mem_append.1 hc with hc | hc <;> exact isBlank_of_mem_spaces c hc
  refine ⟨Text.words "05/18/2024 10:00:00 all.q@node1                        1".toList, ?_⟩
  rw [rowText, Text.words_word (isWord_id h) hone (by decide), Text.words_word hprior hone (by decide),
    Text.words_word (isWord_take h.name) (hpad _).1 (hpad _).2,
    Text.words_word huser isBlank_of_mem_spaces (by decide), Text.words_word h.state (hpad _).1 (hpad _).2]

theorem getLast?_rowText (job : SampleJob) : (rowText job).getLast? = some '1' := by
  have hlast : "05/18/2024 10:00:00 all.q@node1                        1".toList.getLast? = some '1' := by decide
  simp only [rowText, List.getLast?_append, hlast, Option.some_or]

theorem exists_rowText_cons (h : job.Tabular) : ∃ c cs, rowText job = c :: cs ∧ Text.isDigit c = true := by
  obtain ⟨c, cs, hc⟩ := List.exists_cons_of_ne_nil h.id_ne
  rw [rowText, hc]
  exact ⟨c, _, rfl, List.all_eq_true.1 h.digits c (hc ▸ List.mem_cons_self)⟩

theorem trim_rowLine (h : job.Tabular) : Text.trim (rowLine job) = rowText job := by
  refine Text.trim_padded isBlank_of_mem_spaces (fun c hc => ?_) fun c hc => ?_
  · obtain ⟨d, ds, hrow, hdigit⟩ := exists_rowText_cons h
    rw [hrow] at hc
    obtain rfl := Option.some.inj hc
    rw [← Bool.not_eq_true]
    intro hblank
    rw [Json.not_isDigit_of_isBlank hblank] at hdigit
    cases hdigit
  · rw [getLast?_rowText] at hc
    obtain rfl := Option.some.inj hc
    rfl

/-- **The line of a row** is read as the row, with the name as far as it goes. -/
theorem addLine_rowLine (h : job.Tabular) (rows : List GridRow) :
    addLine rows (rowLine job) = ⟨job.id, job.state, String.ofList (job.name.toList.take 10)⟩ :: rows := by
  have hmark : Text.afterStart? fullNameMark (rowText job) = none := by
    obtain ⟨c, cs, hrow, hdigit⟩ := exists_rowText_cons h
    have hne : 'F' ≠ c := by
      rintro rfl
      cases hdigit
    rw [hrow]
    exact if_neg hne
  have hrow : row? (rowText job) = some ⟨job.id, job.state, String.ofList (job.name.toList.take 10)⟩ := by
    obtain ⟨rest, hwords⟩ := words_rowText h
    rw [row?, hwords]
    show (if job.id.toList.all Text.isDigit = true then _ else none) = _
    rw [if_pos h.digits, String.ofList_toList, String.ofList_toList]
  rw [addLine, trim_rowLine h, hmark, hrow]

theorem exists_getLast?_of_isWord {w : List Char} (h : IsWord w) :
    ∃ c, w.getLast? = some c ∧ Text.isBlank c = false :=
  ⟨_, List.getLast?_eq_some_getLast h.ne_nil, h.plain _ (List.getLast_mem h.ne_nil)⟩

/-- **The line under a row** gives it the full name. -/
theorem addLine_nameLine (h : job.Tabular) (row : GridRow) (rows : List GridRow) :
    addLine (row :: rows) (nameLine job) = { row with name := job.name } :: rows := by
  obtain ⟨e, he, hplain⟩ := exists_getLast?_of_isWord h.name
  have hline : Text.trim (nameLine job) = fullNameMark ++ (spaces 5 ++ job.name.toList) := by
    refine Text.trim_padded isBlank_of_mem_spaces (fun c hc => ?_) fun c hc => ?_
    · obtain rfl := Option.some.inj (show some 'F' = some c from hc)
      rfl
    · rw [List.getLast?_append, List.getLast?_append, he, Option.some_or, Option.some_or] at hc
      obtain rfl := Option.some.inj hc
      exact hplain
  have hname : Text.trim (spaces 5 ++ job.name.toList) = job.name.toList := by
    refine Text.trim_padded isBlank_of_mem_spaces (fun c hc => ?_) fun c hc => ?_
    · exact h.name.plain c (List.mem_of_mem_head? hc)
    · exact h.name.plain c (List.mem_of_mem_getLast? hc)
  rw [addLine, hline, Text.afterStart?_append]
  dsimp only
  rw [hname, String.ofList_toList]

/-! ## Tables -/

theorem feed_not_mem_of_isWord {w : List Char} (h : IsWord w) : '\n' ∉ w :=
  fun hc => absurd (h.plain _ hc) (by decide)

theorem feed_not_mem_spaces (n : Nat) : '\n' ∉ spaces n :=
  fun hc => absurd (List.eq_of_mem_replicate hc) (by decide)

theorem lines_jobLines (h : job.Tabular) (cs : List Char) :
    Text.lines ((jobLines job).toList ++ cs) = rowLine job :: nameLine job :: Text.lines cs := by
  have hrow : '\n' ∉ rowLine job := by
    simp only [rowLine, rowText, List.mem_append, not_or]
    exact ⟨feed_not_mem_spaces _, feed_not_mem_of_isWord (isWord_id h), feed_not_mem_spaces _, by decide,
      feed_not_mem_spaces _, feed_not_mem_of_isWord (isWord_take h.name),
      ⟨feed_not_mem_spaces _, feed_not_mem_spaces _⟩, by decide, feed_not_mem_spaces _,
      feed_not_mem_of_isWord h.state, ⟨feed_not_mem_spaces _, feed_not_mem_spaces _⟩, by decide⟩
  have hname : '\n' ∉ nameLine job := by
    simp only [nameLine, List.mem_append, not_or]
    exact ⟨feed_not_mem_spaces _, by decide, feed_not_mem_spaces _, feed_not_mem_of_isWord h.name⟩
  have hrowEnd : (rowLine job).getLast? ≠ some '\r' := by
    rw [rowLine, List.getLast?_append, getLast?_rowText, Option.some_or]
    decide
  have hnameEnd : (nameLine job).getLast? ≠ some '\r' := by
    obtain ⟨e, he, hplain⟩ := exists_getLast?_of_isWord h.name
    rw [nameLine, List.getLast?_append, List.getLast?_append, List.getLast?_append, he]
    rintro heq
    obtain rfl := Option.some.inj heq
    cases hplain
  rw [toList_jobLines, List.append_assoc, List.cons_append, List.append_assoc, Text.lines_append hrow hrowEnd]
  exact congrArg _ (Text.lines_append hname hnameEnd cs)

def titleLine : List Char :=
  "job-ID  prior   name       user         state submit/start at     queue".toList ++
    "                          slots ja-task-ID".toList

/-- The line between the titles and the rows. -/
def ruleLine : List Char := List.replicate 113 '-'

theorem foldl_addLine_header (cs : List Char) :
    (Text.lines (header.toList ++ cs)).foldl addLine [] = (Text.lines cs).foldl addLine [] := by
  -- apart from the long texts, which nothing should compute with
  have hparts : ∀ (a b b' : String) (r : List Char), b'.toList = b.toList ++ ['\n'] →
      (a ++ b' ++ String.ofList r ++ "\n").toList = (a.toList ++ b.toList) ++ '\n' :: (r ++ ['\n']) := by
    intro a b b' r h
    simp [String.toList_append, h]
  have hheader : header.toList = titleLine ++ '\n' :: (ruleLine ++ ['\n']) := hparts _ _ _ _ (by rfl)
  have htitles : addLine [] titleLine = [] := by decide +kernel
  have hrule : addLine [] ruleLine = [] := by decide +kernel
  have hlines : Text.lines (header.toList ++ cs) = titleLine :: ruleLine :: Text.lines cs := by
    rw [hheader, List.append_assoc, List.cons_append, List.append_assoc,
      Text.lines_append (by decide +kernel) (by decide +kernel)]
    exact congrArg _ (Text.lines_append (by decide +kernel) (by decide +kernel) cs)
  rw [hlines, List.foldl_cons, List.foldl_cons, htitles, hrule]

theorem foldl_addLine (jobs : List SampleJob) (h : ∀ job ∈ jobs, job.Tabular) (rows : List GridRow) :
    (Text.lines (jobs.flatMap fun job => (jobLines job).toList)).foldl addLine rows =
      (jobs.map fun job => ⟨job.id, job.state, job.name⟩).reverse ++ rows := by
  induction jobs generalizing rows with
  | nil => rfl
  | cons job jobs ih =>
    rw [List.forall_mem_cons] at h
    rw [List.flatMap_cons, lines_jobLines h.1, List.foldl_cons, List.foldl_cons, addLine_rowLine h.1,
      addLine_nameLine h.1, ih h.2]
    simp

/-- **The rows of a printed table** are the jobs. -/
theorem rows_printed (jobs : List SampleJob) (h : ∀ job ∈ jobs, job.Tabular) :
    rows (printed jobs).stdout = jobs.map fun job => ⟨job.id, job.state, job.name⟩ := by
  show ((Text.lines (header ++ String.join (jobs.map jobLines)).toList).foldl addLine []).reverse = _
  rw [String.toList_append, String.toList_join, List.flatMap_map, foldl_addLine_header, foldl_addLine jobs h,
    List.append_nil, List.reverse_reverse]

/-- **A printed table tells what was printed.** For each requested id it tells the state of the first job with the number
of the id, or that it is not found; for a name it tells the id of the first job with exactly this name, however much of
the names the rows cut off. -/
theorem table_read_back (jobs : List SampleJob) (h : ∀ job ∈ jobs, job.Tabular) :
    (∀ ids, snapshots (printed jobs) ids = ids.map fun id =>
      ((jobs.find? (·.id = jobNumber id)).map fun job => snapshotOf job.state).getD .notFound) ∧
    ∀ name, idOf? (printed jobs) name = (jobs.find? (·.name = name)).map (·.id) := by
  have hfind : ∀ p : GridRow → Bool, (rows (printed jobs).stdout).find? p =
      (jobs.find? fun job => p ⟨job.id, job.state, job.name⟩).map fun job => ⟨job.id, job.state, job.name⟩ := by
    intro p
    rw [rows_printed jobs h, List.find?_map]
    rfl
  refine ⟨fun ids => List.map_congr_left fun id _ => ?_, fun name => ?_⟩
  · rw [snapshot, if_pos (show (printed jobs).succeeded = true from rfl), hfind]
    cases jobs.find? (·.id = jobNumber id) <;> rfl
  · rw [idOf?, if_pos (show (printed jobs).succeeded = true from rfl), hfind, Option.map_map]
    rfl

/-- The row of a job shows the whole name of another one. -/
theorem table_read_back_of_cut_name :
    let jobs : List SampleJob := [⟨"41", "simulation-b", "qw", none⟩, ⟨"42", "simulation", "r", none⟩]
    (∀ job ∈ jobs, job.Tabular) ∧
      snapshots (printed jobs) ["42.1", "7"] = [{ status := .running, rawStatus := some "r" }, .notFound] ∧
      idOf? (printed jobs) "simulation" = some "42" := by
  intro jobs
  have h : ∀ job ∈ jobs, job.Tabular := by
    intro job hjob
    rcases List.mem_pair.1 hjob with rfl | rfl <;> decide
  refine ⟨h, ?_, ?_⟩
  · rw [(table_read_back jobs h).1]
    decide
  · rw [(table_read_back jobs h).2]
    decide

end GridListing

end JobLaunch
