import JobLaunch.Proofs.GridPrinted
import Mathlib.Data.List.TakeWhile

/-!
# What a submission to Grid Engine prints

A submission prints the number of its job alone, or in a sentence.

* `Text.IsFirstLine` : the first line of a text that is not blank; `Text.firstLine?_eq_some_iff` : how it is found;
* `Text.head?_words_eq_some_iff` : the first word of a text;
* `GridListing.Names`, `GridListing.Reply` : words and lines that name a job;
* `GridListing.Straying` : a sentence that begins with a number and a point;
* `GridListing.submittedId?_eq_some_iff` : the lines that a job number is read from;
* `GridListing.reads_replies_iff` : when it is read from the lines that name a job, and from no others.
-/

namespace JobLaunch

/-! ## First lines -/

namespace Text

/-- There is something in the text, and there are no blanks around it. -/
structure IsTrimmed (cs : List Char) : Prop where
  ne_nil : cs ≠ []
  first : ∀ c ∈ cs.head?, isBlank c = false
  last : ∀ c ∈ cs.getLast?, isBlank c = false

/-- The first line of a text that is not blank, without the blanks around it: blank lines and blanks are in front of it,
and blanks behind it up to the end of the line. -/
def IsFirstLine (cs line : List Char) : Prop :=
  ∃ above behind below, cs = above ++ (line ++ behind ++ below) ∧ (∀ c ∈ above, isBlank c = true) ∧
    (∀ c ∈ behind, isBlank c = true) ∧ '\n' ∉ line ++ behind ∧ (∀ c ∈ below.head?, c = '\n') ∧ IsTrimmed line

variable {cs line : List Char}

theorem exists_span (p : Char → Bool) (cs : List Char) : ∃ front rest, cs = front ++ rest ∧
    (∀ c ∈ front, p c = true) ∧ ∀ c ∈ rest.head?, p c = false := by
  refine ⟨cs.takeWhile p, cs.dropWhile p, List.takeWhile_append_dropWhile.symm, fun c => List.mem_takeWhile_imp, ?_⟩
  intro c hc
  have hhead := List.head?_dropWhile_not p cs
  rwa [Option.mem_def.1 hc] at hhead

theorem trimStart_append {bs : List Char} (blank : ∀ c ∈ bs, isBlank c = true) (cs : List Char) :
    trimStart (bs ++ cs) = trimStart cs :=
  List.dropWhile_append_of_pos blank

theorem trimStart_of_first (first : ∀ c ∈ cs.head?, isBlank c = false) : trimStart cs = cs := by
  cases cs with
  | nil => rfl
  | cons c cs => rw [trimStart, List.dropWhile_cons, first c rfl, if_neg Bool.false_ne_true]

theorem trimEnd_append {bs : List Char} (blank : ∀ c ∈ bs, isBlank c = true)
    (last : ∀ c ∈ cs.getLast?, isBlank c = false) : trimEnd (cs ++ bs) = cs := by
  have hblank : ∀ c ∈ bs.reverse, isBlank c = true := fun c hc => blank c (List.mem_reverse.1 hc)
  have hkeep : trimStart cs.reverse = cs.reverse := trimStart_of_first (by rwa [List.head?_reverse])
  rw [trimEnd, List.reverse_append, ← trimStart, trimStart_append hblank, hkeep, List.reverse_reverse]

theorem exists_trimEnd (cs : List Char) : ∃ bs, cs = trimEnd cs ++ bs ∧ (∀ c ∈ bs, isBlank c = true) ∧
    ∀ c ∈ (trimEnd cs).getLast?, isBlank c = false := by
  obtain ⟨bs, kept, hcs, blank, last⟩ := exists_span isBlank cs.reverse
  have hsplit : cs = kept.reverse ++ bs.reverse := by rw [← List.reverse_append, ← hcs, List.reverse_reverse]
  have hblank : ∀ c ∈ bs.reverse, isBlank c = true := fun c hc => blank c (List.mem_reverse.1 hc)
  rw [← List.getLast?_reverse] at last
  rw [hsplit, trimEnd_append hblank last]
  exact ⟨bs.reverse, rfl, hblank, last⟩

theorem trimEnd_append_blank (cs : List Char) {bs : List Char} (blank : ∀ c ∈ bs, isBlank c = true) :
    trimEnd (cs ++ bs) = trimEnd cs := by
  obtain ⟨ds, hcs, hds, last⟩ := exists_trimEnd cs
  have hboth : ∀ c ∈ ds ++ bs, isBlank c = true := List.forall_mem_append.2 ⟨hds, blank⟩
  conv_lhs => rw [hcs, List.append_assoc, trimEnd_append hboth last]

theorem trimEnd_eq_nil_iff : trimEnd cs = [] ↔ ∀ c ∈ cs, isBlank c = true := by
  rw [trimEnd, List.reverse_eq_nil_iff, List.dropWhile_eq_nil_iff]
  simp only [List.mem_reverse]

theorem exists_trimStart (cs : List Char) : ∃ bs, cs = bs ++ trimStart cs ∧ (∀ c ∈ bs, isBlank c = true) ∧
    ∀ c ∈ (trimStart cs).head?, isBlank c = false := by
  obtain ⟨bs, kept, rfl, blank, first⟩ := exists_span isBlank cs
  rw [trimStart_append blank, trimStart_of_first first]
  exact ⟨bs, rfl, blank, first⟩

theorem trim_append_blank (cs : List Char) {bs : List Char} (blank : ∀ c ∈ bs, isBlank c = true) :
    trim (cs ++ bs) = trim cs := by
  obtain ⟨ds, hcs, hds, first⟩ := exists_trimStart cs
  rw [trim, trim]
  conv_lhs => rw [hcs, List.append_assoc, trimStart_append hds]
  cases hkept : trimStart cs with
  | nil =>
    rw [List.nil_append, trimEnd_eq_nil_iff.2]
    · rfl
    · intro c hc
      exact blank c ((List.dropWhile_sublist isBlank).subset hc)
  | cons c kept =>
    rw [hkept] at first
    rw [trimStart_of_first (by simpa using first), trimEnd_append_blank _ blank]

theorem trim_chopReturn (line : List Char) : trim (chopReturn line) = trim line := by
  unfold chopReturn
  split
  · next h =>
    obtain ⟨front, rfl⟩ := List.getLast?_eq_some_iff.1 h
    rw [List.dropLast_concat, trim_append_blank _ (List.forall_mem_singleton.2 rfl)]
  · rfl

theorem trim_eq_nil_iff : trim cs = [] ↔ ∀ c ∈ cs, isBlank c = true := by
  obtain ⟨bs, hcs, blank, first⟩ := exists_trimStart cs
  rw [trim, trimEnd_eq_nil_iff]
  constructor
  · intro h
    rw [hcs]
    exact List.forall_mem_append.2 ⟨blank, h⟩
  · exact fun h c hc => h c ((List.dropWhile_sublist isBlank).subset hc)

theorem firstLine?_whole (whole : '\n' ∉ cs) : firstLine? cs = if trim cs = [] then none else some (trim cs) := by
  have hpieces : pieces (· == '\n') cs = [cs] := pieces_of_none fun c hc => beq_false_of_ne fun heq => whole (heq ▸ hc)
  rw [firstLine?, lines, hpieces]
  cases cs with
  | nil => rfl
  | cons c cs => by_cases h : trim (c :: cs) = [] <;> simp [endLines, h]

theorem firstLine?_ended (whole : '\n' ∉ line) (cs : List Char) :
    firstLine? (line ++ '\n' :: cs) = if trim line = [] then firstLine? cs else some (trim line) := by
  rw [firstLine?, lines_ended whole, List.map_cons, trim_chopReturn]
  by_cases h : trim line = [] <;> simp [firstLine?, h]

theorem exists_trim (h : trim cs ≠ []) : ∃ above behind, cs = above ++ (trim cs ++ behind) ∧
    (∀ c ∈ above, isBlank c = true) ∧ (∀ c ∈ behind, isBlank c = true) ∧ IsTrimmed (trim cs) := by
  obtain ⟨above, hcs, habove, first⟩ := exists_trimStart cs
  obtain ⟨behind, htrim, hbehind, last⟩ := exists_trimEnd (trimStart cs)
  refine ⟨above, behind, hcs.trans (congrArg (above ++ ·) htrim), habove, hbehind, h, fun c hc => ?_, last⟩
  rw [htrim] at first
  exact first c (List.mem_head?_append_of_mem_head? hc)

theorem IsFirstLine.below_blank (h : IsFirstLine cs line) {front : List Char} (blank : ∀ c ∈ front, isBlank c = true) :
    IsFirstLine (front ++ cs) line := by
  obtain ⟨above, behind, below, rfl, habove, hrest⟩ := h
  exact ⟨front ++ above, behind, below, (List.append_assoc ..).symm, List.forall_mem_append.2 ⟨blank, habove⟩, hrest⟩

theorem isFirstLine_trim (h : trim line ≠ []) (whole : '\n' ∉ line) {below : List Char}
    (ends : ∀ c ∈ below.head?, c = '\n') : IsFirstLine (line ++ below) (trim line) := by
  obtain ⟨above, behind, hline, habove, hbehind, trimmed⟩ := exists_trim h
  refine ⟨above, behind, below, ?_, habove, hbehind, fun hfeed => whole ?_, ends, trimmed⟩
  · rw [← List.append_assoc, ← hline]
  · rw [hline]
    exact List.mem_append_right above hfeed

theorem firstLine?_spec (cs : List Char) : (∀ line, firstLine? cs = some line → IsFirstLine cs line) ∧
    (firstLine? cs = none → ∀ c ∈ cs, isBlank c = true) := by
  induction hn : cs.length using Nat.strong_induction_on generalizing cs with
  | _ n ih =>
    obtain ⟨front, rest, rfl, hfront, hrest⟩ := exists_span (· != '\n') cs
    have whole : '\n' ∉ front := fun hfeed => absurd (hfront _ hfeed) (by decide)
    cases rest with
    | nil =>
      rw [List.append_nil, firstLine?_whole whole]
      by_cases h : trim front = []
      · rw [if_pos h]
        exact ⟨nofun, fun _ => trim_eq_nil_iff.1 h⟩
      · rw [if_neg h]
        refine ⟨fun line hline => ?_, nofun⟩
        obtain rfl := Option.some.inj hline
        have hfirst : IsFirstLine (front ++ []) (trim front) := isFirstLine_trim h whole nofun
        rwa [List.append_nil] at hfirst
    | cons c below =>
      obtain rfl : c = '\n' := by simpa using hrest c rfl
      rw [firstLine?_ended whole]
      by_cases h : trim front = []
      · rw [if_pos h]
        -- the line is blank, and what is found is found below it
        have hblank : ∀ c ∈ front ++ ['\n'], isBlank c = true :=
          List.forall_mem_append.2 ⟨trim_eq_nil_iff.1 h, List.forall_mem_singleton.2 rfl⟩
        obtain ⟨hsome, hnone⟩ := ih below.length (by subst hn; simp; omega) below rfl
        rw [← List.singleton_append, ← List.append_assoc]
        exact ⟨fun line hline => (hsome line hline).below_blank hblank,
          fun hline => List.forall_mem_append.2 ⟨hblank, hnone hline⟩⟩
      · rw [if_neg h]
        refine ⟨fun line hline => ?_, nofun⟩
        obtain rfl := Option.some.inj hline
        exact isFirstLine_trim h whole (by simp)

theorem IsFirstLine.trimEnd_eq (h : IsFirstLine cs line) :
    trimEnd ((trimStart cs).takeWhile (· != '\n')) = line := by
  obtain ⟨above, behind, below, rfl, habove, hbehind, whole, ends, trimmed⟩ := h
  have hstart : trimStart (line ++ behind ++ below) = line ++ behind ++ below := by
    refine trimStart_of_first fun c hc => trimmed.first c ?_
    obtain ⟨d, ds, rfl⟩ := List.exists_cons_of_ne_nil trimmed.ne_nil
    exact hc
  have hline : (line ++ behind ++ below).takeWhile (· != '\n') = line ++ behind := by
    have hfeeds : ∀ c ∈ line ++ behind, (c != '\n') = true := by
      intro c hc
      rw [bne_iff_ne]
      rintro rfl
      exact whole hc
    rw [List.takeWhile_append_of_pos hfeeds]
    cases below with
    | nil => exact List.append_nil _
    | cons c below =>
      rw [ends c rfl]
      exact List.append_nil _
  rw [trimStart_append habove, hstart, hline, trimEnd_append hbehind trimmed.last]

theorem IsFirstLine.unique {line' : List Char} (h : IsFirstLine cs line) (h' : IsFirstLine cs line') : line = line' :=
  h.trimEnd_eq.symm.trans h'.trimEnd_eq

/-- **The first line is found.** -/
theorem firstLine?_eq_some_iff : firstLine? cs = some line ↔ IsFirstLine cs line := by
  obtain ⟨hsome, hnone⟩ := firstLine?_spec cs
  refine ⟨hsome line, fun h => ?_⟩
  cases hfound : firstLine? cs with
  | some other => rw [(hsome other hfound).unique h]
  | none =>
    obtain ⟨above, behind, below, rfl, -, -, -, -, trimmed⟩ := h
    obtain ⟨c, cs, rfl⟩ := List.exists_cons_of_ne_nil trimmed.ne_nil
    have hblank := hnone hfound c (by simp)
    rw [trimmed.first c rfl] at hblank
    cases hblank

/-! ## First words -/

theorem afterStart?_eq_some_iff {ps rest : List Char} : afterStart? ps cs = some rest ↔ cs = ps ++ rest := by
  constructor
  · intro h
    induction ps generalizing cs with
    | nil => exact Option.some.inj h
    | cons p ps ih =>
      cases cs with
      | nil => cases h
      | cons c cs =>
        rw [afterStart?] at h
        split at h
        · next heq => rw [← heq, ih h, List.cons_append]
        · cases h
  · rintro rfl
    exact afterStart?_append ps rest

theorem words_eq_cons {w rest : List Char} (h : IsWord w) (ends : ∀ c ∈ rest.head?, isBlank c = true) :
    words (w ++ rest) = w :: words rest := by
  cases rest with
  | nil =>
    rw [List.append_nil, words_of_isWord h]
    rfl
  | cons c rest =>
    have hblank : isBlank c = true := ends c rfl
    have hfirst : ∀ b ∈ [c], isBlank b = true := List.forall_mem_singleton.2 hblank
    exact (words_word h hfirst (List.cons_ne_nil c []) rest).trans
      (congrArg _ (words_blanks hfirst rest).symm)

/-- **The first word of a text** stands behind its leading blanks, up to the next one. -/
theorem head?_words_eq_some_iff {w : List Char} : (words cs).head? = some w ↔ ∃ blanks rest,
    cs = blanks ++ (w ++ rest) ∧ (∀ c ∈ blanks, isBlank c = true) ∧ IsWord w ∧ ∀ c ∈ rest.head?, isBlank c = true := by
  constructor
  · intro h
    obtain ⟨blanks, text, rfl, hblanks, hfirst⟩ := exists_span isBlank cs
    obtain ⟨v, rest, rfl, hv, ends⟩ := exists_span (!isBlank ·) text
    have ends : ∀ c ∈ rest.head?, isBlank c = true := by simpa using ends
    rw [words_blanks hblanks] at h
    by_cases hne : v = []
    · -- a text that begins with no word and no blank is empty
      subst hne
      cases rest with
      | nil => cases h
      | cons c rest => cases (hfirst c rfl).symm.trans (ends c rfl)
    · have hword : IsWord v := ⟨hne, by simpa using hv⟩
      rw [words_eq_cons hword ends] at h
      obtain rfl := Option.some.inj h
      exact ⟨blanks, rest, rfl, hblanks, hword, ends⟩
  · rintro ⟨blanks, rest, rfl, hblanks, hword, ends⟩
    rw [words_blanks hblanks, words_eq_cons hword ends]
    rfl

end Text

/-! ## Replies -/

namespace GridListing

open Text (IsWord IsFirstLine)

def IsJobNumber (number : List Char) : Prop := number ≠ [] ∧ ∀ c ∈ number, Text.isDigit c = true

/-- A word that names the job by a number: the number alone, or the number, a point, and the tasks of an array. -/
structure Names (number word : List Char) : Prop where
  isNumber : IsJobNumber number
  isWord : IsWord word
  shape : word = number ∨ ∃ tasks, word = number ++ '.' :: tasks

/-- How the sentences about a submitted job begin. -/
def openings : List (List Char) := ["Your job ".toList, "Your job-array ".toList]

/-- A line that tells of a submitted job: a word that names it stands alone, or is the next word of such a sentence. -/
inductive Reply (number : List Char) : List Char → Prop
  | terse {word : List Char} (names : Names number word) : Reply number word
  | sentence {opening blanks word rest : List Char} (mem : opening ∈ openings)
    (blank : ∀ c ∈ blanks, Text.isBlank c = true) (names : Names number word)
    (ends : ∀ c ∈ rest.head?, Text.isBlank c = true) : Reply number (opening ++ (blanks ++ (word ++ rest)))

/-- A line that tells of no job, but begins with a number and a point; blanks are behind them, so it is no word. -/
structure Straying (number line : List Char) : Prop where
  isNumber : IsJobNumber number
  shape : ∃ rest, line = number ++ '.' :: rest
  blank : ∃ c ∈ line, Text.isBlank c = true

variable {number word line : List Char}

theorem IsJobNumber.isWord (h : IsJobNumber number) : IsWord number := by
  refine ⟨h.1, fun c hc => ?_⟩
  rw [← Bool.not_eq_true]
  intro hblank
  cases (h.2 c hc).symm.trans (Json.not_isDigit_of_isBlank hblank)

theorem takeWhile_point_eq_iff (h : IsJobNumber number) :
    word.takeWhile (· != '.') = number ↔ word = number ∨ ∃ tasks, word = number ++ '.' :: tasks := by
  have hpoint : ∀ c ∈ number, (c != '.') = true := by
    intro c hc
    rw [bne_iff_ne]
    rintro rfl
    cases h.2 _ hc
  constructor
  · rintro rfl
    obtain ⟨front, rest, hword, hfront, hrest⟩ := Text.exists_span (· != '.') word
    cases rest with
    | nil =>
      rw [List.append_nil] at hword
      rw [List.takeWhile_eq_self_iff.2 (hword ▸ hfront)]
      exact .inl rfl
    | cons c rest =>
      obtain rfl : c = '.' := by simpa using hrest c rfl
      subst hword
      rw [List.takeWhile_append_of_pos hfront]
      exact .inr ⟨rest, by simp⟩
  · rintro (rfl | ⟨tasks, rfl⟩)
    · exact List.takeWhile_eq_self_iff.2 hpoint
    · rw [List.takeWhile_append_of_pos hpoint]
      exact List.append_nil number

theorem mem_openings {opening : List Char} :
    opening ∈ openings ↔ opening = "Your job ".toList ∨ opening = "Your job-array ".toList := by
  simp [openings]

theorem submittedWord?_sentence {opening : List Char} (mem : opening ∈ openings) (rest : List Char) :
    submittedWord? (opening ++ rest) = (Text.words rest).head? := by
  rcases mem_openings.1 mem with rfl | rfl
  · have harray : Text.afterStart? "Your job-array ".toList ("Your job ".toList ++ rest) = none := by
      rw [Option.eq_none_iff_forall_ne_some]
      intro other h
      have heq := Text.afterStart?_eq_some_iff.1 h
      simp at heq
    rw [submittedWord?, harray, Text.afterStart?_append]
    rfl
  · rw [submittedWord?, Text.afterStart?_append]
    rfl

theorem submittedWord?_terse (terse : ∀ opening ∈ openings, ¬ opening <+: line) : submittedWord? line = some line := by
  have hnone : ∀ opening ∈ openings, Text.afterStart? opening line = none := by
    intro opening mem
    rw [Option.eq_none_iff_forall_ne_some]
    exact fun rest h => terse opening mem ⟨rest, (Text.afterStart?_eq_some_iff.1 h).symm⟩
  rw [submittedWord?, hnone _ (mem_openings.2 (.inr rfl)), hnone _ (mem_openings.2 (.inl rfl))]
  rfl

theorem not_opening_of_isNumber (h : IsJobNumber number) (rest : List Char) :
    ∀ opening ∈ openings, ¬ opening <+: number ++ rest := by
  intro opening mem hprefix
  obtain ⟨c, cs, rfl⟩ := List.exists_cons_of_ne_nil h.1
  have hfirst : opening.head? = some 'Y' := by rcases mem_openings.1 mem with rfl | rfl <;> rfl
  obtain ⟨opening, rfl⟩ := List.head?_eq_some_iff.1 hfirst
  obtain ⟨rfl, -⟩ := List.cons_prefix_cons.1 hprefix
  cases h.2 'Y' List.mem_cons_self

/-- A number is taken from a line that tells of the job, and from one that begins with the number and a point. -/
theorem taken_iff (isNumber : IsJobNumber number) :
    (∃ word, submittedWord? line = some word ∧ word.takeWhile (· != '.') = number) ↔
      Reply number line ∨ Straying number line := by
  constructor
  · rintro ⟨word, hword, htaken⟩
    by_cases h : ∃ opening ∈ openings, opening <+: line
    · obtain ⟨opening, mem, rest, rfl⟩ := h
      rw [submittedWord?_sentence mem, Text.head?_words_eq_some_iff] at hword
      obtain ⟨blanks, rest, rfl, blank, isWord, ends⟩ := hword
      exact .inl (.sentence mem blank ⟨isNumber, isWord, (takeWhile_point_eq_iff isNumber).1 htaken⟩ ends)
    · have terse : ∀ opening ∈ openings, ¬ opening <+: line := fun opening mem hprefix => h ⟨opening, mem, hprefix⟩
      rw [submittedWord?_terse terse] at hword
      obtain rfl := Option.some.inj hword
      have shape := (takeWhile_point_eq_iff isNumber).1 htaken
      by_cases hblank : ∃ c ∈ line, Text.isBlank c = true
      · refine .inr ⟨isNumber, shape.resolve_left ?_, hblank⟩
        rintro rfl
        obtain ⟨c, hc, hblank⟩ := hblank
        rw [isNumber.isWord.plain c hc] at hblank
        cases hblank
      · have hne : line ≠ [] := by
          rintro rfl
          exact isNumber.1 htaken.symm
        exact .inl (.terse ⟨isNumber, ⟨hne, by simpa using hblank⟩, shape⟩)
  · rintro ((⟨names⟩ | ⟨mem, blank, names, ends⟩) | straying)
    · refine ⟨line, submittedWord?_terse ?_, (takeWhile_point_eq_iff isNumber).2 names.shape⟩
      rcases names.shape with rfl | ⟨tasks, rfl⟩
      · simpa using not_opening_of_isNumber isNumber []
      · exact not_opening_of_isNumber isNumber _
    · refine ⟨_, ?_, (takeWhile_point_eq_iff isNumber).2 names.shape⟩
      rw [submittedWord?_sentence mem, Text.head?_words_eq_some_iff]
      exact ⟨_, _, rfl, blank, names.isWord, ends⟩
    · obtain ⟨rest, rfl⟩ := straying.shape
      exact ⟨_, submittedWord?_terse (not_opening_of_isNumber isNumber _),
        (takeWhile_point_eq_iff isNumber).2 (.inr ⟨rest, rfl⟩)⟩

theorem Reply.isNumber (h : Reply number line) : IsJobNumber number := by
  cases h with
  | terse names => exact names.isNumber
  | sentence mem blank names ends => exact names.isNumber

/-- **A job number is read** from the first line if that tells of the job, or if it begins with the number and a
point. -/
theorem submittedId?_eq_some_iff {stdout id : String} : submittedId? stdout = some id ↔
    ∃ line, IsFirstLine stdout.toList line ∧ (Reply id.toList line ∨ Straying id.toList line) := by
  have hread : submittedId? stdout = some id ↔ ∃ line, Text.firstLine? stdout.toList = some line ∧
      ∃ word, submittedWord? line = some word ∧ IsJobNumber id.toList ∧ word.takeWhile (· != '.') = id.toList := by
    simp only [submittedId?, Option.bind_eq_bind, Option.bind_eq_some_iff]
    refine exists_congr fun line => and_congr_right fun _ => exists_congr fun word => and_congr_right fun _ => ?_
    generalize word.takeWhile (· != '.') = number
    constructor
    · intro h
      split at h
      · next hnumber =>
        obtain ⟨hne, hdigits⟩ := Bool.and_eq_true_iff.1 hnumber
        obtain rfl := Option.some.inj h
        rw [String.toList_ofList]
        exact ⟨⟨by simpa using hne, List.all_eq_true.1 hdigits⟩, rfl⟩
      · cases h
    · rintro ⟨isNumber, rfl⟩
      have hnumber : (!id.toList.isEmpty && id.toList.all Text.isDigit) = true :=
        Bool.and_eq_true_iff.2 ⟨by simpa using isNumber.1, List.all_eq_true.2 isNumber.2⟩
      rw [if_pos hnumber, String.ofList_toList]
  rw [hread]
  refine exists_congr fun line => and_congr Text.firstLine?_eq_some_iff ?_
  constructor
  · rintro ⟨word, hword, isNumber, htaken⟩
    exact (taken_iff isNumber).1 ⟨word, hword, htaken⟩
  · intro h
    have isNumber : IsJobNumber id.toList := h.elim Reply.isNumber Straying.isNumber
    obtain ⟨word, hword, htaken⟩ := (taken_iff isNumber).2 h
    exact ⟨word, hword, isNumber, htaken⟩

theorem Straying.not_reply (h : Straying number line) (other : List Char) : ¬ Reply other line := by
  obtain ⟨rest, hline⟩ := h.shape
  intro reply
  cases reply with
  | terse names =>
    obtain ⟨c, hc, hblank⟩ := h.blank
    rw [names.isWord.plain c hc] at hblank
    cases hblank
  | sentence mem blank names ends =>
    exact not_opening_of_isNumber h.isNumber _ _ mem (hline ▸ List.prefix_append ..)

/-! ## The result -/

/-- **Job numbers are read exactly from the lines that tell of a job, unless the first line strays:** a sentence that
begins with a number and a point is taken for a job of this number. -/
theorem reads_replies_iff (stdout : String) :
    ((∀ id, submittedId? stdout = some id ↔ ∃ line, IsFirstLine stdout.toList line ∧ Reply id.toList line) ↔
      ¬ ∃ line number, IsFirstLine stdout.toList line ∧ Straying number line) ∧
    ∀ line number, IsFirstLine stdout.toList line → Straying number line →
      submittedId? stdout = some (String.ofList number) := by
  have htaken : ∀ line number, IsFirstLine stdout.toList line → Straying number line →
      submittedId? stdout = some (String.ofList number) := by
    intro line number first straying
    exact submittedId?_eq_some_iff.2 ⟨line, first, .inr (by rwa [String.toList_ofList])⟩
  refine ⟨⟨?_, fun h id => ?_⟩, htaken⟩
  · rintro h ⟨line, number, first, straying⟩
    obtain ⟨other, first', reply⟩ := (h _).1 (htaken line number first straying)
    rw [first'.unique first] at reply
    exact straying.not_reply _ reply
  · rw [submittedId?_eq_some_iff]
    refine exists_congr fun line => and_congr_right fun first => ?_
    exact or_iff_left fun straying => h ⟨line, _, first, straying⟩

/-- An address is taken for a job. -/
theorem reads_replies_fails :
    let stdout := "10.0.0.7 does not answer\n"
    submittedId? stdout = some "10" ∧ ∀ number, ¬ ∃ line, IsFirstLine stdout.toList line ∧ Reply number line := by
  intro stdout
  have first : IsFirstLine stdout.toList "10.0.0.7 does not answer".toList :=
    Text.firstLine?_eq_some_iff.1 (by decide +kernel)
  have straying : Straying "10".toList "10.0.0.7 does not answer".toList :=
    ⟨⟨by decide, List.all_eq_true.1 rfl⟩, ⟨_, rfl⟩, ⟨' ', by decide, rfl⟩⟩
  refine ⟨by decide +kernel, ?_⟩
  rintro number ⟨line, first', reply⟩
  rw [first'.unique first] at reply
  exact straying.not_reply number reply

end GridListing

end JobLaunch
