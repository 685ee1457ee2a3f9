import JobLaunch.Proofs.Quoting
import JobLaunch.Rehearsal.Script.Word

/-!
# The shell of the rehearsals reads quoted words back

`Scan` tells the words of a whole script at once, as the grammar of a POSIX shell has them. The shell of the rehearsals
reads a script piece by piece, with everything that may be nested in a word. On quoted words the two agree.

* `Source.past` : what is left behind a text that has been read; `Reading.bind_ok` : steps of reading, one after another;
* `Part.pieces` : the characters of a part, each with its quoting; `Spells` : a word of texts has such characters;
* `readPart_plain`, `readPart_slashed`, `readPart_quotes`, `readPart_end` : one lemma for each thing in a quoted word;
* `readParts_quoteChars` : a quoted word is read as its literal.
-/

namespace JobLaunch.Rehearsal.Script

/-! ## Steps of reading -/

/-- A source behind a text that has been read. -/
def Source.past (src : Source) (text rest : List Char) : Source :=
  { src with rest, line := src.line + text.count '\n' }

variable {src src' : Source} {rest : List Char}

theorem Source.past_past (src : Source) (text more rest rest' : List Char) :
    (src.past text rest).past more rest' = src.past (text ++ more) rest' := by
  simp [past, List.count_append, Nat.add_assoc]

theorem Source.past_nil (h : src.rest = rest) : src.past [] rest = src := by
  subst h
  rfl

namespace Reading

theorem bind_ok {α β : Type} {x : Reading α} {a : α} (h : x src = .ok a src') (f : α → Reading β) :
    (x >>= f) src = f a src' := by
  simp only [bind, EStateM.bind, h]

theorem drop_cons {c : Char} (h : src.rest = c :: rest) : drop src = .ok () (src.past [c] rest) := by
  obtain ⟨dialect, left, line, awaited, documents, warnings, pushed, beforeToken⟩ := src
  cases h
  have hline : (if c = '\n' then line + 1 else line) = line + [c].count '\n' := by
    by_cases hc : c = '\n'
    · rw [if_pos hc, hc]
      rfl
    · rw [if_neg hc, List.count_eq_zero.2 fun hmem => hc (List.mem_singleton.1 hmem).symm, Nat.add_zero]
  exact congrArg (fun n => EStateM.Result.ok () (Source.mk dialect rest n awaited documents warnings pushed beforeToken))
    hline

theorem next_cons {c : Char} (h : src.rest = c :: rest) : next src = .ok (some c) (src.past [c] rest) := by
  have hpeek : peek src = .ok (some c) src := congrArg (fun cs : List Char => EStateM.Result.ok cs.head? src) h
  rw [next, bind_ok hpeek, bind_ok (drop_cons h)]
  rfl

/-- No line break is hidden in front of a text. -/
def Visible (rest : List Char) : Prop := ∀ more, rest ≠ '\\' :: '\n' :: more

theorem peekJoined_visible (h : src.rest = rest) (visible : Visible rest) : peekJoined src = .ok rest.head? src := by
  have hjoined : joinedFrom 0 src.rest = (src.rest, 0) := by
    rw [joinedFrom.eq_def]
    split
    · next more hrest => exact absurd (h.symm.trans hrest) (visible more)
    · rfl
  have hjoin : joinLines src = .ok () src := by
    show EStateM.Result.ok ()
      { src with rest := (joinedFrom 0 src.rest).1, line := src.line + (joinedFrom 0 src.rest).2 } = _
    rw [hjoined]
    rfl
  rw [peekJoined, bind_ok hjoin, ← h]
  rfl

variable {σ α : Type} {step : σ → Reading (σ ⊕ α)} {s s' : σ}

theorem iterate_inl (h : step s src = .ok (.inl s') src') (n : Nat) :
    iterate step (n + 1) s src = iterate step n s' src' :=
  bind_ok h _

theorem iterate_inr {a : α} (h : step s src = .ok (.inr a) src') (n : Nat) : iterate step (n + 1) s src = .ok a src' :=
  bind_ok h _

end Reading

/-! ## Words that are being read -/

/-- The characters of a part, each with its quoting; other parts than texts have none. -/
def Part.pieces : Part → Shell.Word
  | .text cs quoted => cs.map (.char · quoted)
  | _ => []

def Part.IsText (p : Part) : Prop := ∃ cs quoted, p = .text cs quoted

/-- A word of nothing but texts has these characters. -/
structure Spells (w : Word) (ps : Shell.Word) : Prop where
  texts : ∀ p ∈ w, p.IsText
  pieces : w.flatMap Part.pieces = ps

namespace Spells

variable {w : Word} {ps : Shell.Word} {cs : List Char} {quoted : Bool}

theorem snoc (h : Spells w ps) (cs : List Char) (quoted : Bool) :
    Spells (w ++ [.text cs quoted]) (ps ++ cs.map (.char · quoted)) where
  texts p hp := by
    rcases List.mem_append.1 hp with hp | hp
    · exact h.texts p hp
    · exact ⟨cs, quoted, List.mem_singleton.1 hp⟩
  pieces := by
    rw [List.flatMap_append, h.pieces, List.flatMap_singleton]
    rfl

/-- The last text of a word goes on. -/
theorem goOn (h : Spells (w ++ [.text cs quoted]) ps) (c : Char) :
    Spells (w ++ [.text (cs ++ [c]) quoted]) (ps ++ [.char c quoted]) where
  texts p hp := by
    rcases List.mem_append.1 hp with hp | hp
    · exact h.texts p (List.mem_append_left _ hp)
    · exact ⟨cs ++ [c], quoted, List.mem_singleton.1 hp⟩
  pieces := by
    rw [← h.pieces, List.flatMap_append, List.flatMap_append, List.append_assoc, List.flatMap_singleton,
      List.flatMap_singleton, Part.pieces, List.map_append]
    rfl

end Spells

namespace Draft

variable {d : Draft} {ps : Shell.Word}

theorem spells_empty : Spells ({} : Draft).word [] := ⟨nofun, rfl⟩

theorem spells_last (h : Spells d.word ps) : Spells (d.parts.reverse ++ [.text d.chars.reverse d.quoted]) ps := by
  rw [word, flush] at h
  cases hchars : d.chars with
  | nil =>
    rw [hchars] at h
    have hsnoc := h.snoc [] d.quoted
    rwa [List.map_nil, List.append_nil] at hsnoc
  | cons c cs =>
    rw [hchars] at h
    rwa [← List.reverse_cons]

theorem spells_push (h : Spells d.word ps) (c : Char) (quoted : Bool) :
    Spells (d.push c quoted).word (ps ++ [.char c quoted]) := by
  unfold push
  split
  · next hquoted =>
    subst hquoted
    have hlast := (spells_last h).goOn c
    rwa [← List.reverse_cons, ← List.reverse_cons] at hlast
  · have hsnoc := h.snoc [c] quoted
    rwa [word, ← List.reverse_cons] at hsnoc

theorem spells_pushAll (h : Spells d.word ps) (cs : List Char) (quoted : Bool) :
    Spells (d.pushAll cs quoted).word (ps ++ cs.map (.char · quoted)) := by
  induction cs generalizing d ps with
  | nil => rwa [List.map_nil, List.append_nil]
  | cons c cs ih =>
    have hpush := ih (spells_push h c quoted)
    rwa [List.append_assoc] at hpush

/-- Empty quotes leave an empty text. -/
theorem spells_addQuoted_nil (h : Spells d.word ps) : Spells (d.addQuoted []).word ps := by
  have hsnoc := h.snoc [] true
  rwa [List.map_nil, List.append_nil, word, ← List.reverse_cons] at hsnoc

end Draft

/-! ## What stands in a quoted word -/

variable {start : Nat}

theorem readQuotedChar_quote {acc : List Char} (h : src.rest = '\'' :: rest) :
    readQuotedChar start acc src = .ok (.inr acc.reverse) (src.past ['\''] rest) := by
  rw [readQuotedChar, Reading.bind_ok (Reading.next_cons h)]
  rfl

theorem readQuotedChar_char {acc : List Char} {c : Char} (hc : c ≠ '\'') (h : src.rest = c :: rest) :
    readQuotedChar start acc src = .ok (.inl (c :: acc)) (src.past [c] rest) := by
  rw [readQuotedChar, Reading.bind_ok (Reading.next_cons h)]
  simp only
  rfl

theorem iterate_readQuotedChar {cs : List Char} (hcs : '\'' ∉ cs) {n : Nat} (hn : cs.length < n) (acc : List Char)
    (h : src.rest = cs ++ '\'' :: rest) : Reading.iterate (readQuotedChar start) n acc src =
      .ok (acc.reverse ++ cs) (src.past (cs ++ ['\'']) rest) := by
  obtain ⟨n, rfl⟩ := Nat.exists_eq_succ_of_ne_zero (Nat.ne_zero_of_lt hn)
  induction cs generalizing n acc src with
  | nil => rw [Reading.iterate_inr (readQuotedChar_quote h), List.append_nil, List.nil_append]
  | cons c cs ih =>
    have hc : c ≠ '\'' := fun hc => hcs (hc ▸ List.mem_cons_self)
    rw [List.cons_append] at h
    have hlt : cs.length < n := Nat.lt_of_succ_lt_succ hn
    obtain ⟨n, rfl⟩ := Nat.exists_eq_succ_of_ne_zero (Nat.ne_zero_of_lt hlt)
    have hbehind : (src.past [c] (cs ++ '\'' :: rest)).rest = cs ++ '\'' :: rest := rfl
    have hrest := ih (fun hmem => hcs (List.mem_cons_of_mem c hmem)) (c :: acc) hbehind n hlt
    rw [Reading.iterate_inl (readQuotedChar_char hc h), hrest, Source.past_past, List.reverse_cons, List.append_assoc]
    rfl

theorem readSingleQuoted_ok {cs : List Char} (hcs : '\'' ∉ cs) (h : src.rest = cs ++ '\'' :: rest) :
    readSingleQuoted src = .ok cs (src.past (cs ++ ['\'']) rest) := by
  have hlength : src.rest.length = cs.length + (rest.length + 1) := by rw [h, List.length_append, List.length_cons]
  have hn : cs.length < 2 * src.rest.length + 4 := by omega
  exact iterate_readQuotedChar hcs hn [] h

variable {nested : Nested} {p : PartsState}

theorem endsWord_of_isPlain {c : Char} (hc : Shell.isPlain c = true) : endsWord c = false := by
  have hall : " \t\n;&|()<>".toList.all (!Shell.isPlain ·) = true := by decide
  refine Bool.eq_false_iff.2 fun hends => ?_
  have hplain := List.all_eq_true.1 hall c (List.contains_iff_mem.1 hends)
  rw [hc] at hplain
  cases hplain

theorem readPart_plain {c : Char} (hc : Shell.isPlain c = true) (h : src.rest = c :: rest) :
    readPart nested .plain start p src =
      .ok (.inl { p with draft := p.draft.push c false }) (src.past [c] rest) := by
  have hne : ∀ d, Shell.isPlain d = false → c ≠ d := fun d hd => beq_eq_false_iff_ne.1 (Shell.ne_of_isPlain hc hd)
  have hvisible : Reading.Visible (c :: rest) := fun more heq => hne '\\' rfl (List.cons.inj heq).1
  have hliterally : (Reading.drop >>= fun _ => pure (.inl { p with draft := p.draft.push c false }) :
      Reading (PartsState ⊕ List Part)) src =
        .ok (.inl { p with draft := p.draft.push c false }) (src.past [c] rest) :=
    Reading.bind_ok (Reading.drop_cons h) _
  rw [readPart, Reading.bind_ok (Reading.peekJoined_visible h hvisible)]
  dsimp only [List.head?_cons]
  by_cases hslash : c = '/'
  · subst hslash
    exact hliterally
  by_cases hcolon : c = ':'
  · subst hcolon
    exact hliterally
  have h₁ := hne '\\' rfl
  have h₂ := hne '\'' rfl
  have h₃ := hne '"' rfl
  have h₄ := hne '$' rfl
  have h₅ := hne '\x60' rfl
  have h₆ := hne '\x7d' rfl
  have h₇ := hne '<' rfl
  have h₈ := hne '>' rfl
  have h₉ := hne ']' rfl
  have h₁₀ := hne '(' rfl
  have h₁₁ := hne ')' rfl
  have h₁₂ := hne ';' rfl
  simp only
  rw [endsWord_of_isPlain hc]
  exact hliterally

theorem readPart_slashed (h : src.rest = '\\' :: '\'' :: rest) :
    readPart nested .plain start p src =
      .ok (.inl { p with draft := p.draft.push '\'' true }) (src.past ['\\', '\''] rest) := by
  have hvisible : Reading.Visible ('\\' :: '\'' :: rest) := by
    intro more heq
    exact absurd (List.cons.inj (List.cons.inj heq).2).1 (by decide)
  have hpeek : Reading.peek (src.past ['\\'] ('\'' :: rest)) = .ok (some '\'') (src.past ['\\'] ('\'' :: rest)) := rfl
  rw [readPart, Reading.bind_ok (Reading.peekJoined_visible h hvisible)]
  refine (Reading.bind_ok (Reading.drop_cons h) _).trans ((Reading.bind_ok hpeek _).trans ?_)
  show (Reading.drop >>= fun _ => pure (.inl { p with draft := p.draft.push '\'' true }) :
    Reading (PartsState ⊕ List Part)) (src.past ['\\'] ('\'' :: rest)) = _
  rw [Reading.bind_ok (Reading.drop_cons rfl), Source.past_past]
  rfl

/-- The draft after what stands between single quotes. -/
def Draft.addQuotes (d : Draft) (cs : List Char) : Draft := if cs.isEmpty then d.addQuoted [] else d.pushAll cs true

theorem readPart_quotes {cs : List Char} (hcs : '\'' ∉ cs) (h : src.rest = '\'' :: (cs ++ '\'' :: rest)) :
    readPart nested .plain start p src =
      .ok (.inl { p with draft := p.draft.addQuotes cs }) (src.past ('\'' :: (cs ++ ['\''])) rest) := by
  have hvisible : Reading.Visible ('\'' :: (cs ++ '\'' :: rest)) := by
    intro more heq
    exact absurd (List.cons.inj heq).1 (by decide)
  have hbehind : (src.past ['\''] (cs ++ '\'' :: rest)).rest = cs ++ '\'' :: rest := rfl
  have hquoted := readSingleQuoted_ok hcs hbehind
  rw [Source.past_past] at hquoted
  rw [readPart, Reading.bind_ok (Reading.peekJoined_visible h hvisible)]
  dsimp only [List.head?_cons]
  show (Reading.drop >>= fun _ => readSingleQuoted >>= fun cs =>
    pure (.inl { p with draft := p.draft.addQuotes cs }) : Reading (PartsState ⊕ List Part)) src = _
  rw [Reading.bind_ok (Reading.drop_cons h), Reading.bind_ok hquoted]
  rfl

/-- What is behind a word: its end, a blank or the end of its line. -/
def Bounded (rest : List Char) : Prop := ∀ c ∈ rest.head?, c = ' ' ∨ c = '\n'

theorem readPart_end (bounded : Bounded rest) (h : src.rest = rest) :
    readPart nested .plain start p src = .ok (.inr p.draft.word) src := by
  have hvisible : Reading.Visible rest := by
    intro more heq
    rcases bounded '\\' (by rw [heq]; rfl) with hc | hc <;> exact absurd hc (by decide)
  rw [readPart, Reading.bind_ok (Reading.peekJoined_visible h hvisible)]
  cases rest with
  | nil => rfl
  | cons c rest =>
    rcases bounded c rfl with rfl | rfl <;> rfl

/-! ## Quoted words -/

variable {ps : Shell.Word} {cs : List Char}

theorem iterate_plains (hcs : cs.all Shell.isPlain = true) {n : Nat} (hn : cs.length < n) (bounded : Bounded rest)
    (h : src.rest = cs ++ rest) (spells : Spells p.draft.word ps) :
    ∃ w, Reading.iterate (readPart nested .plain start) n p src = .ok w (src.past cs rest) ∧
      Spells w (ps ++ cs.map (.char · false)) := by
  induction cs generalizing n p ps src with
  | nil =>
    obtain ⟨n, rfl⟩ := Nat.exists_eq_succ_of_ne_zero (Nat.ne_zero_of_lt hn)
    refine ⟨p.draft.word, ?_, ?_⟩
    · rw [List.nil_append] at h
      rw [Reading.iterate_inr (readPart_end bounded h), Source.past_nil h]
    · rwa [List.map_nil, List.append_nil]
  | cons c cs ih =>
    obtain ⟨n, rfl⟩ := Nat.exists_eq_succ_of_ne_zero (Nat.ne_zero_of_lt hn)
    obtain ⟨hc, hcs⟩ := Bool.and_eq_true_iff.1 hcs
    rw [List.cons_append] at h
    have hbehind : (src.past [c] (cs ++ rest)).rest = cs ++ rest := rfl
    obtain ⟨w, hw, hspells⟩ := ih (p := { p with draft := p.draft.push c false }) hcs
      (Nat.lt_of_succ_lt_succ hn) hbehind (Draft.spells_push spells c false)
    refine ⟨w, ?_, ?_⟩
    · rw [Reading.iterate_inl (readPart_plain hc h), hw, Source.past_past]
      rfl
    · rwa [List.append_assoc] at hspells

theorem flatMap_quoteChar_of_not_mem (hcs : '\'' ∉ cs) : cs.flatMap Shell.quoteChar = cs := by
  induction cs with
  | nil => rfl
  | cons c cs ih =>
    have hc : c ≠ '\'' := fun hc => hcs (hc ▸ List.mem_cons_self)
    rw [List.flatMap_cons, ih fun hmem => hcs (List.mem_cons_of_mem c hmem), Shell.quoteChar, if_neg hc]
    rfl

theorem Draft.spells_addQuotes {d : Draft} (spells : Spells d.word ps) (cs : List Char) :
    Spells (d.addQuotes cs).word (ps ++ cs.map (.char · true)) := by
  cases cs with
  | nil =>
    rw [List.map_nil, List.append_nil]
    exact spells_addQuoted_nil spells
  | cons c cs => exact spells_pushAll spells (c :: cs) true

/-- A single quote ends the quotes, is escaped, and opens others. -/
theorem quoted_append {before : List Char} (hbefore : '\'' ∉ before) (after : List Char) :
    '\'' :: (before ++ '\'' :: after).flatMap Shell.quoteChar ++ ['\''] =
      '\'' :: (before ++ ['\'']) ++ ['\\', '\''] ++ ('\'' :: after.flatMap Shell.quoteChar ++ ['\'']) := by
  rw [List.flatMap_append, flatMap_quoteChar_of_not_mem hbefore, List.flatMap_cons, Shell.quoteChar, if_pos rfl]
  simp

theorem iterate_quoted (cs : List Char) {n : Nat} (hn : ('\'' :: cs.flatMap Shell.quoteChar ++ ['\'']).length < n)
    (bounded : Bounded rest) (h : src.rest = '\'' :: cs.flatMap Shell.quoteChar ++ ['\''] ++ rest)
    (spells : Spells p.draft.word ps) :
    ∃ w, Reading.iterate (readPart nested .plain start) n p src =
        .ok w (src.past ('\'' :: cs.flatMap Shell.quoteChar ++ ['\'']) rest) ∧
      Spells w (ps ++ cs.map (.char · true)) := by
  -- what stands between two quotes is read at once, so the induction is on the number of pieces
  induction hlength : cs.length using Nat.strongRecOn generalizing cs n p ps src with
  | ind length ih =>
    by_cases hmem : '\'' ∈ cs
    · obtain ⟨before, after, rfl, hbefore⟩ := List.eq_append_cons_of_mem hmem
      rw [quoted_append hbefore] at h hn ⊢
      obtain ⟨n, rfl⟩ := Nat.exists_eq_add_of_le' (show 2 ≤ n by simp at hn; omega)
      have hafter : after.length < length := by
        rw [← hlength, List.length_append, List.length_cons]
        omega
      have hquotes : src.rest = '\'' :: (before ++ '\'' :: ('\\' :: '\'' ::
          ('\'' :: after.flatMap Shell.quoteChar ++ ['\''] ++ rest))) := by
        rw [h]
        simp
      let behind := '\'' :: after.flatMap Shell.quoteChar ++ ['\''] ++ rest
      have hbehind : ((src.past ('\'' :: (before ++ ['\''])) ('\\' :: '\'' :: behind)).past ['\\', '\''] behind).rest =
        behind := rfl
      obtain ⟨w, hw, hspells⟩ := ih after.length hafter after (n := n)
        (p := { p with draft := (p.draft.addQuotes before).push '\'' true })
        (by simp at hn ⊢; omega) hbehind (Draft.spells_push (Draft.spells_addQuotes spells before) '\'' true) rfl
      refine ⟨w, ?_, ?_⟩
      · rw [Reading.iterate_inl (readPart_quotes hbefore hquotes), Reading.iterate_inl (readPart_slashed rfl), hw,
          Source.past_past, Source.past_past, List.append_assoc ('\'' :: (before ++ ['\'']))]
      · rw [List.append_assoc, List.append_assoc] at hspells
        rwa [List.map_append]
    · rw [flatMap_quoteChar_of_not_mem hmem] at h hn ⊢
      obtain ⟨n, rfl⟩ := Nat.exists_eq_add_of_le' (show 2 ≤ n by simp at hn; omega)
      rw [List.cons_append, List.cons_append, List.append_assoc, List.singleton_append] at h
      refine ⟨_, ?_, Draft.spells_addQuotes spells cs⟩
      rw [Reading.iterate_inl (readPart_quotes hmem h), Reading.iterate_inr (readPart_end bounded rfl)]
      rfl

/-- **A quoted word is read back.** It is read as texts only, up to the blank or the end of the line behind it, and they
have the characters of the literal that the grammar of a shell sees in it, each with its quoting. -/
theorem readParts_quoteChars (nested : Nested) (word : String) (bounded : Bounded rest)
    (h : src.rest = Shell.quoteChars word.toList ++ rest) :
    ∃ w, readParts nested .plain src = .ok w (src.past (Shell.quoteChars word.toList) rest) ∧
      Spells w (Shell.literal word) := by
  have hn : (Shell.quoteChars word.toList).length < 2 * src.rest.length + 4 := by
    rw [h, List.length_append]
    omega
  show ∃ w, Reading.iterate (readPart nested .plain src.line) (2 * src.rest.length + 4) {} src = _ ∧ _
  generalize 2 * src.rest.length + 4 = n at hn
  cases hplain : !word.toList.isEmpty && word.toList.all Shell.isPlain with
  | true =>
    have htext : Shell.quoteChars word.toList = word.toList := if_pos hplain
    have hliteral : Shell.literal word = word.toList.map (.char · false) := by
      unfold Shell.literal
      rw [hplain]
      rfl
    rw [htext] at h hn ⊢
    rw [hliteral]
    exact iterate_plains (p := {}) (Bool.and_eq_true_iff.1 hplain).2 hn bounded h Draft.spells_empty
  | false =>
    have htext : Shell.quoteChars word.toList = '\'' :: word.toList.flatMap Shell.quoteChar ++ ['\''] :=
      if_neg (Bool.eq_false_iff.1 hplain)
    have hliteral : Shell.literal word = word.toList.map (.char · true) := by
      unfold Shell.literal
      rw [hplain]
      rfl
    rw [htext] at h hn ⊢
    rw [hliteral]
    exact iterate_quoted (p := {}) word.toList hn bounded h Draft.spells_empty

end JobLaunch.Rehearsal.Script
