import JobLaunch.Shell.Quote
import JobLaunch.Shell.Token

/-!
# A shell reads quoted words back

* `Shell.special`, `Shell.conditional` : the characters that mean something to a shell, always or in some places;
  `Shell.exposed` : what of a text stands outside single quotes; `Shell.exposed_quoteChars` : what of a quoted word does;
* `Shell.literal` : the word that stands for a text and nothing else;
* `Shell.Scan.At` : how far a scan has come; one lemma for each kind of character;
* `Shell.Scan.At.quoteWords` : quoted words are read as their literals.
-/

namespace JobLaunch.Shell

/-! ## Special characters -/

/-- The characters that a shell treats specially wherever they stand unquoted: operators, expansions, quotes, blanks. -/
def special : List Char := "|&;<>()$\x60\\\"\x27 \t\n".toList

/-- The characters that it treats specially in some places: in patterns, braces and assignments, and where a word or a
command begins. -/
def conditional : List Char := "*?[]^-!#~=%\x7b,\x7d".toList

theorem not_special_of_isPlain {c : Char} (h : isPlain c = true) : c ∉ special := by
  have hall : special.all (!isPlain ·) = true := by decide
  intro hc
  have hplain := List.all_eq_true.1 hall c hc
  rw [h] at hplain
  cases hplain

theorem mem_of_isPlain_of_conditional {c : Char} (h : isPlain c = true) (hc : c ∈ conditional) :
    c ∈ ['-', '=', '%', ','] := by
  have hall : conditional.all (fun c => !isPlain c || ['-', '=', '%', ','].contains c) = true := by decide
  have hplain := List.all_eq_true.1 hall c hc
  rw [h] at hplain
  exact List.contains_iff_mem.1 hplain

theorem ne_of_isPlain {c d : Char} (h : isPlain c = true) (hd : isPlain d = false) : (c == d) = false := by
  refine beq_eq_false_iff_ne.2 fun heq => ?_
  rw [heq, hd] at h
  cases h

/-- Something that stands outside single quotes. -/
inductive Exposed where
  | bare (c : Char)
  | escaped (c : Char)
  deriving DecidableEq, Inhabited

/-- What of a text stands outside single quotes, from inside or from outside of them. -/
def exposed : Bool → List Char → List Exposed
  | _, [] => []
  | true, c :: cs => exposed (c != '\x27') cs
  | false, '\\' :: c :: cs => .escaped c :: exposed false cs
  | false, c :: cs => if c = '\x27' then exposed true cs else .bare c :: exposed false cs

theorem exposed_of_isPlain {c : Char} (h : isPlain c = true) (cs : List Char) :
    exposed false (c :: cs) = .bare c :: exposed false cs := by
  have hquote : c ≠ '\x27' := beq_eq_false_iff_ne.1 (ne_of_isPlain h rfl)
  have hslash : c ≠ '\\' := beq_eq_false_iff_ne.1 (ne_of_isPlain h rfl)
  rw [exposed, if_neg hquote]
  exact fun d ds heq => absurd heq hslash

theorem exposed_flatMap_quoteChar (cs : List Char) :
    ∀ x ∈ exposed true (cs.flatMap quoteChar ++ ['\x27']), x = .escaped '\x27' := by
  induction cs with
  | nil =>
    intro x hx
    cases hx
  | cons c cs ih =>
    rw [List.flatMap_cons, List.append_assoc]
    by_cases hc : c = '\x27'
    · -- the quotes are left, one is escaped, and they are entered again
      rw [quoteChar, if_pos hc]
      intro x hx
      rcases List.mem_cons.1 hx with rfl | hx
      · rfl
      · exact ih x hx
    · rw [quoteChar, if_neg hc]
      show ∀ x ∈ exposed (c != '\x27') _, _
      rw [bne_iff_ne.2 hc]
      exact ih

/-- **Outside single quotes, a quoted word has plain characters and escaped quotes only.** -/
theorem exposed_quoteChars (cs : List Char) :
    ∀ x ∈ exposed false (quoteChars cs), (∃ c, x = .bare c ∧ isPlain c = true) ∨ x = .escaped '\x27' := by
  unfold quoteChars
  split
  · next hplain =>
    obtain ⟨-, hall⟩ := Bool.and_eq_true_iff.1 hplain
    clear hplain
    induction cs with
    | nil =>
      intro x hx
      cases hx
    | cons c cs ih =>
      obtain ⟨hc, hcs⟩ := Bool.and_eq_true_iff.1 hall
      rw [exposed_of_isPlain hc]
      intro x hx
      rcases List.mem_cons.1 hx with rfl | hx
      · exact Or.inl ⟨c, rfl, hc⟩
      · exact ih hcs x hx
  · exact fun x hx => Or.inr (exposed_flatMap_quoteChar cs x hx)

/-! ## Words -/

/-- The word that stands for a text and nothing else; its characters are quoted unless all of them are plain. -/
def literal (word : String) : Word :=
  word.toList.map fun c => .char c (!(!word.toList.isEmpty && word.toList.all isPlain))

namespace Scan

/-- A scan has read tokens, the last one first, and a part of a word, if it is in one. -/
structure At (s : Scan) (ts : List Token) (w : Option Word) (m : Mode) : Prop where
  tokens : s.tokens.map (·.1) = ts
  word : s.word = w
  mode : s.mode = m

/-- A scan of a text goes on. -/
def feed (s : Scan) (cs : List Char) : Scan := cs.foldl step s

theorem feed_append (s : Scan) (cs ds : List Char) : s.feed (cs ++ ds) = (s.feed cs).feed ds := List.foldl_append

variable {s : Scan} {ts : List Token} {w : Option Word} {v : Word} {m : Mode} {c : Char}

theorem at_start : At {} [] none .plain := ⟨rfl, rfl, rfl⟩

/-! ## Characters -/

theorem At.of_take (h : At (s.take c) ts w m) : At (s.step c) ts w m := ⟨h.tokens, h.word, h.mode⟩

theorem mem_special_of_operator (h : operators.contains (String.singleton c) = true) : c ∈ special := by
  have hchars : [c] ∈ operators.map String.toList := by
    rw [← String.toList_singleton]
    exact List.mem_map_of_mem (List.contains_iff_mem.1 h)
  have hstarts : (operators.map String.toList).all (·.all special.contains) = true := by decide
  have hcontains : [c].all special.contains = true := List.all_eq_true.1 hstarts [c] hchars
  exact List.contains_iff_mem.1 (List.all_eq_true.1 hcontains c List.mem_cons_self)

theorem take_of_plain (h : s.mode = .plain) : s.take c = s.plainStep c := by
  rw [take, h]

theorem At.add (h : At s ts w m) (p : Piece) (n : Mode) :
    At ((s.add p).goTo n) ts (some (p :: w.getD [])) n :=
  ⟨h.tokens, congrArg (fun v : Option Word => some (p :: v.getD [])) h.word, rfl⟩

theorem At.plain (h : At s ts w .plain) (hc : isPlain c = true) :
    At (s.step c) ts (some (.char c false :: w.getD [])) .plain := by
  have hne : ∀ d, isPlain d = false → (c == d) = false := fun d hd => ne_of_isPlain hc hd
  have hoperator : operators.contains (String.singleton c) = false :=
    Bool.eq_false_iff.2 fun hop => not_special_of_isPlain hc (mem_special_of_operator hop)
  refine .of_take ?_
  rw [take_of_plain h.mode, plainStep, hne ' ' rfl, hne '\t' rfl, hne '\n' rfl, hoperator, hne '#' rfl, hne '\x27' rfl,
    hne '"' rfl, hne '\\' rfl, hne '$' rfl]
  exact h.add _ _

theorem At.opened (h : At s ts w .plain) : At (s.step '\x27') ts (some (w.getD [])) .singleQuoted := by
  refine .of_take ?_
  rw [take_of_plain h.mode]
  exact ⟨h.tokens, congrArg (fun v : Option Word => some (v.getD [])) h.word, rfl⟩

theorem At.quoted (h : At s ts w .singleQuoted) (hc : c ≠ '\x27') :
    At (s.step c) ts (some (.char c true :: w.getD [])) .singleQuoted := by
  refine .of_take ?_
  rw [take, h.mode]
  dsimp only
  rw [beq_eq_false_iff_ne.2 hc, if_neg Bool.false_ne_true]
  exact ⟨h.tokens, congrArg (fun v : Option Word => some (Piece.char c true :: v.getD [])) h.word, h.mode⟩

theorem At.closed (h : At s ts w .singleQuoted) : At (s.step '\x27') ts w .plain := by
  refine .of_take ?_
  rw [take, h.mode]
  exact ⟨h.tokens, h.word, rfl⟩

theorem At.slashed (h : At s ts w .plain) (hc : c ≠ '\n') :
    At ((s.step '\\').step c) ts (some (.char c true :: w.getD [])) .plain := by
  have hescaped : At (s.step '\\') ts w .escaped := by
    refine .of_take ?_
    rw [take_of_plain h.mode]
    exact ⟨h.tokens, h.word, rfl⟩
  refine .of_take ?_
  rw [take, hescaped.mode]
  dsimp only
  rw [beq_eq_false_iff_ne.2 hc]
  exact hescaped.add _ _

theorem At.endWord (h : At s ts (some v) m) : At s.endWord (.word v.reverse :: ts) none m := by
  rw [Scan.endWord, h.word]
  exact ⟨congrArg (_ :: ·) h.tokens, rfl, h.mode⟩

theorem At.endWord_none (h : At s ts none m) : At s.endWord ts none m := by
  rw [Scan.endWord, h.word]
  exact h

theorem At.blank (h : At s ts (some v) .plain) : At (s.step ' ') (.word v.reverse :: ts) none .plain := by
  refine .of_take ?_
  rw [take_of_plain h.mode]
  exact ⟨h.endWord.tokens, h.endWord.word, rfl⟩

theorem At.blank_none (h : At s ts none .plain) : At (s.step ' ') ts none .plain := by
  refine .of_take ?_
  rw [take_of_plain h.mode]
  exact ⟨h.endWord_none.tokens, h.endWord_none.word, rfl⟩

theorem At.newline (h : At s ts (some v) .plain) :
    At (s.step '\n') (.operator "\n" :: .word v.reverse :: ts) none .plain := by
  refine .of_take ?_
  rw [take_of_plain h.mode]
  exact ⟨congrArg (_ :: ·) h.endWord.tokens, h.endWord.word, rfl⟩

theorem At.newline_none (h : At s ts none .plain) : At (s.step '\n') (.operator "\n" :: ts) none .plain := by
  refine .of_take ?_
  rw [take_of_plain h.mode]
  exact ⟨congrArg (_ :: ·) h.endWord_none.tokens, h.endWord_none.word, rfl⟩

theorem At.background (h : At s ts none .plain) :
    At ((s.step '&').step '\n') (.operator "\n" :: .operator "&" :: ts) none .plain := by
  have hbegun : At (s.step '&') ts none (.operator "&" none) := by
    refine .of_take ?_
    rw [take_of_plain h.mode]
    exact ⟨h.endWord_none.tokens, h.endWord_none.word, rfl⟩
  have hended : At ((s.step '&').endOperator "&" none) (.operator "&" :: ts) none .plain :=
    ⟨congrArg (_ :: ·) hbegun.tokens, hbegun.word, rfl⟩
  have hboth : (s.step '&').take '\n' = ((s.step '&').endOperator "&" none).plainStep '\n' := by
    rw [take, hbegun.mode]
    exact if_neg (by decide)
  refine .of_take ?_
  rw [hboth, ← take_of_plain hended.mode]
  exact ⟨hended.newline_none.tokens, hended.newline_none.word, hended.newline_none.mode⟩

/-! ## Quoted words -/

theorem At.plains {cs : List Char} (h : At s ts (some v) .plain) (hcs : cs.all isPlain = true) :
    At (s.feed cs) ts (some ((cs.map (.char · false)).reverse ++ v)) .plain := by
  induction cs generalizing s v with
  | nil => exact h
  | cons c cs ih =>
    obtain ⟨hc, hcs⟩ := Bool.and_eq_true_iff.1 hcs
    rw [List.map_cons, List.reverse_cons, List.append_assoc]
    exact ih (h.plain hc) hcs

theorem At.quoteds (h : At s ts (some v) .singleQuoted) (cs : List Char) :
    At (s.feed (cs.flatMap quoteChar ++ ['\x27'])) ts (some ((cs.map (.char · true)).reverse ++ v)) .plain := by
  induction cs generalizing s v with
  | nil => exact h.closed
  | cons c cs ih =>
    rw [List.flatMap_cons, List.append_assoc, List.map_cons, List.reverse_cons, List.append_assoc]
    by_cases hc : c = '\x27'
    · rw [quoteChar, if_pos hc, hc]
      exact ih (h.closed.slashed (by decide)).opened
    · rw [quoteChar, if_neg hc]
      exact ih (h.quoted hc)

theorem At.quote (h : At s ts none .plain) (word : String) :
    At (s.feed (quoteChars word.toList)) ts (some (literal word).reverse) .plain := by
  unfold quoteChars literal
  cases hplain : !word.toList.isEmpty && word.toList.all isPlain with
  | false =>
    rw [if_neg Bool.false_ne_true, ← List.append_nil (List.reverse _)]
    exact h.opened.quoteds word.toList
  | true =>
    obtain ⟨hne, hall⟩ := Bool.and_eq_true_iff.1 hplain
    rw [if_pos rfl]
    cases hcs : word.toList with
    | nil =>
      rw [hcs] at hne
      cases hne
    | cons c cs =>
      rw [hcs] at hall
      obtain ⟨hc, hall⟩ := Bool.and_eq_true_iff.1 hall
      rw [List.map_cons, List.reverse_cons]
      exact (h.plain hc).plains hall

theorem toList_quoteWords (words : List String) :
    (Shell.quoteWords words).toList = [' '].intercalate (words.map fun w => quoteChars w.toList) := by
  simp [Shell.quoteWords, Shell.quote, String.toList_intercalate, Function.comp_def]

/-- **Quoted words are read as their literals.** -/
theorem At.quoteWords (h : At s ts none .plain) (words : List String) :
    At (s.feed ((Shell.quoteWords words).toList ++ [' '])) ((words.map (.word <| literal ·)).reverse ++ ts) none
      .plain := by
  rw [toList_quoteWords]
  induction words generalizing s ts with
  | nil => exact h.blank_none
  | cons word words ih =>
    have hword := (h.quote word).blank
    rw [List.reverse_reverse] at hword
    rw [List.map_cons, List.map_cons, List.reverse_cons, List.append_assoc]
    cases words with
    | nil =>
      rw [List.map_nil, List.intercalate_singleton, feed_append]
      exact hword
    | cons next words =>
      rw [List.map_cons, List.intercalate_cons_cons, List.append_assoc, List.append_assoc, feed_append, feed_append]
      exact ih hword

end Scan

end JobLaunch.Shell
