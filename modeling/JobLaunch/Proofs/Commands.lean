import Mathlib.Data.List.TakeDrop
import JobLaunch.Proofs.Quoting
import JobLaunch.Rehearsal.Script.Grammar

/-!
# Which commands a shell reads from words

A shell does not take the first word of a line for a program in any case. Words in front that stand for assignments give
variables their values, and a reserved word in front belongs to a compound command. Quotes keep a word from being either.

* `Shell.isReserved`, `Shell.isAssignment` : such words; `Shell.isAssignment_bare` : a shell of the rehearsals sees the
  same assignments;
* `Shell.Misread` : the texts whose quoted words are such words (`Shell.misread_iff`);
* `Shell.jobs?` : the commands that tokens are read as; `Shell.simple?_literals_iff` : when quoted words are read as a
  program with its arguments.
-/

namespace JobLaunch.Shell

/-! ## Words in front of a command -/

/-- The words that structure compound commands. -/
def reserved : List String :=
  ["!", "case", "do", "done", "elif", "else", "esac", "fi", "for", "if", "in", "then", "until", "while", "\x7b", "\x7d"]

/-- The word of characters outside quotes. -/
def bare (cs : List Char) : Word := cs.map (.char · false)

def isReserved (w : Word) : Bool := reserved.any fun text => w == bare text.toList

def Piece.isNameChar : Piece → Bool
  | .char c false => Scan.isNameChar c
  | .char _ true | .parameter .. => false

/-- Does a word give a variable a value? It has a name and an equals sign in front, outside quotes. -/
def isAssignment : Word → Bool
  | .char c false :: rest =>
    Scan.isNameStart c && (rest.dropWhile Piece.isNameChar).head? == some (.char '=' false)
  | _ => false

/-- The name of a variable. -/
def IsName : List Char → Prop
  | [] => False
  | c :: cs => Scan.isNameStart c = true ∧ ∀ d ∈ cs, Scan.isNameChar d = true

theorem isAssignment_bare (c : Char) (cs : List Char) :
    isAssignment (bare (c :: cs)) = (Scan.isNameStart c && (cs.dropWhile Scan.isNameChar).head? == some '=') := by
  have hdrop : (bare cs).dropWhile Piece.isNameChar = bare (cs.dropWhile Scan.isNameChar) := List.dropWhile_map
  show (_ && ((bare cs).dropWhile Piece.isNameChar).head? == _) = _
  rw [hdrop, bare, List.head?_map, Bool.eq_iff_iff]
  simp

theorem isAssignment_bare_iff (cs : List Char) :
    isAssignment (bare cs) = true ↔ ∃ name value, IsName name ∧ cs = name ++ '=' :: value := by
  cases cs with
  | nil =>
    refine ⟨nofun, ?_⟩
    rintro ⟨name, value, -, h⟩
    exact absurd h.symm (List.append_ne_nil_of_right_ne_nil name (List.cons_ne_nil _ _))
  | cons c cs =>
    rw [isAssignment_bare, Bool.and_eq_true, beq_iff_eq]
    constructor
    · rintro ⟨hstart, hequals⟩
      obtain ⟨value, hvalue⟩ := List.head?_eq_some_iff.1 hequals
      refine ⟨c :: cs.takeWhile Scan.isNameChar, value, ⟨hstart, fun d hd => ?_⟩, ?_⟩
      · exact List.all_eq_true.1 List.all_takeWhile d hd
      · rw [List.cons_append, ← hvalue, List.takeWhile_append_dropWhile]
    · rintro ⟨_ | ⟨d, name⟩, value, isName, h⟩
      · exact isName.elim
      · obtain ⟨rfl, hcs⟩ := List.cons.inj (h.trans (List.cons_append ..))
        refine ⟨isName.1, ?_⟩
        rw [hcs, List.dropWhile_append_of_pos isName.2, List.dropWhile_cons_of_neg (by decide)]
        rfl

theorem keywords_plain : Rehearsal.Script.keywords .plain = reserved := rfl

theorem isSome_assignment? (cs : List Char) :
    (Rehearsal.Script.assignment? .plain [.text cs false]).isSome = isAssignment (bare cs) := by
  rw [Rehearsal.Script.assignment?, List.span_eq_takeWhile_dropWhile]
  cases cs with
  | nil => rfl
  | cons c cs =>
    rw [isAssignment_bare]
    cases hstart : Scan.isNameStart c with
    | false =>
      have hname : Rehearsal.Script.isName ((c :: cs).takeWhile Scan.isNameChar) = false := by
        rw [List.takeWhile_cons]
        split
        · exact congrArg (· && _) hstart
        · rfl
      dsimp only
      rw [show Rehearsal.Script.isNameChar = Scan.isNameChar from rfl, hname]
      rfl
    | true =>
      have hchar : Scan.isNameChar c = true := by simp [Scan.isNameChar, hstart]
      have hname : Rehearsal.Script.isName (c :: cs.takeWhile Scan.isNameChar) = true := by
        show (Scan.isNameStart c && (cs.takeWhile Scan.isNameChar).all Scan.isNameChar) = true
        rw [hstart, List.all_takeWhile]
        rfl
      dsimp only
      rw [show Rehearsal.Script.isNameChar = Scan.isNameChar from rfl, List.takeWhile_cons_of_pos hchar,
        List.dropWhile_cons_of_pos hchar, hname]
      cases cs.dropWhile Scan.isNameChar with
      | nil => rfl
      | cons d ds =>
        by_cases hd : d = '='
        · rw [hd]
          rfl
        · simp [hd]

/-! ## Quoted words -/

/-- A text that is written without quotes and is no argument where a command begins. -/
def Misread (word : String) : Prop :=
  word.toList.all isPlain = true ∧ (word ∈ reserved ∨ ∃ name value, IsName name ∧ word.toList = name ++ '=' :: value)

theorem literal_of_plain {word : String} (h : (!word.toList.isEmpty && word.toList.all isPlain) = true) :
    literal word = bare word.toList := by
  unfold literal bare
  rw [h]
  rfl

theorem bare_injective {cs ds : List Char} (h : bare cs = bare ds) : cs = ds :=
  (List.map_inj_right fun _ _ h => (Piece.char.inj h).1).1 h

theorem isReserved_bare_iff (word : String) : isReserved (bare word.toList) = true ↔ word ∈ reserved := by
  simp only [isReserved, List.any_eq_true, beq_iff_eq]
  constructor
  · rintro ⟨text, hmem, h⟩
    rwa [String.toList_injective (bare_injective h)]
  · exact fun h => ⟨word, h, rfl⟩

theorem not_front_of_quoted {word : String} (h : (!word.toList.isEmpty && word.toList.all isPlain) = false) :
    isReserved (literal word) = false ∧ isAssignment (literal word) = false := by
  have hliteral : literal word = word.toList.map (.char · true) := by
    unfold literal
    rw [h]
    rfl
  rw [hliteral]
  cases word.toList with
  | nil => exact ⟨by decide, rfl⟩
  | cons c cs =>
    refine ⟨Bool.eq_false_iff.2 fun hr => ?_, rfl⟩
    obtain ⟨text, -, htext⟩ := List.any_eq_true.1 hr
    have hquoted : Piece.char c true ∈ bare text.toList := beq_iff_eq.1 htext ▸ List.mem_cons_self
    obtain ⟨d, -, hd⟩ := List.mem_map.1 hquoted
    cases hd

/-- **Which texts are misread.** -/
theorem misread_iff (word : String) :
    isReserved (literal word) = true ∨ isAssignment (literal word) = true ↔ Misread word := by
  cases hplain : !word.toList.isEmpty && word.toList.all isPlain with
  | true =>
    rw [literal_of_plain hplain, isReserved_bare_iff, isAssignment_bare_iff]
    exact ⟨fun h => ⟨(Bool.and_eq_true_iff.1 hplain).2, h⟩, fun h => h.2⟩
  | false =>
    obtain ⟨hreserved, hassignment⟩ := not_front_of_quoted hplain
    rw [hreserved, hassignment]
    refine ⟨nofun, ?_⟩
    rintro ⟨hall, hfront⟩
    rw [hall, Bool.and_true, Bool.not_eq_false', List.isEmpty_iff] at hplain
    rcases hfront with hmem | ⟨name, value, -, h⟩
    · rw [String.toList_eq_nil_iff.1 hplain] at hmem
      exact absurd hmem (by decide)
    · exact absurd (h.symm.trans hplain) (List.append_ne_nil_of_right_ne_nil name (List.cons_ne_nil _ _))

/-! ## Commands -/

/-- What variables get, and a program with its arguments. -/
structure SimpleCommand where
  assignments : List Word
  words : List Word
  deriving DecidableEq

/-- The command of words; a compound command is none. -/
def simple? (ws : List Word) : Option SimpleCommand :=
  if ws.head?.any isReserved then none else some ⟨ws.takeWhile isAssignment, ws.dropWhile isAssignment⟩

theorem simple?_literals_iff (word : String) (words : List String) :
    simple? ((word :: words).map literal) = some ⟨[], (word :: words).map literal⟩ ↔ ¬ Misread word := by
  rw [← misread_iff, simple?, List.map_cons, List.head?_cons, Option.any_some]
  cases hreserved : isReserved (literal word) with
  | true => simp
  | false =>
    cases hassignment : isAssignment (literal word) with
    | true => simp [hassignment]
    | false => simp [hassignment]

structure Job where
  command : SimpleCommand
  background : Bool
  deriving DecidableEq

/-- The commands that tokens are read as behind words, the last one first. There are none if something else than words
stands between line feeds and ampersands, or if there is nothing before an ampersand. -/
def jobsFrom? : List Word → List Token → Option (List Job)
  | [], [] => some []
  | ws, [] => (simple? ws.reverse).map fun c => [⟨c, false⟩]
  | ws, .word w :: ts => jobsFrom? (w :: ws) ts
  | ws, .operator o :: ts =>
    if o = "\n" ∧ ws = [] then jobsFrom? [] ts
    else if (o = "\n" ∨ o = "&") ∧ ws ≠ [] then
      (simple? ws.reverse).bind fun c => (jobsFrom? [] ts).map (⟨c, o = "&"⟩ :: ·)
    else none
  | _, .redirect .. :: _ => none

/-- The commands that tokens are read as. -/
def jobs? (ts : List Token) : Option (List Job) := jobsFrom? [] ts

variable {ts : List Token}

theorem jobsFrom?_words (ws vs : List Word) : jobsFrom? ws (vs.map .word ++ ts) = jobsFrom? (vs.reverse ++ ws) ts := by
  induction vs generalizing ws with
  | nil => rfl
  | cons v vs ih =>
    rw [List.map_cons, List.cons_append, jobsFrom?, ih, List.reverse_cons, List.append_assoc]
    rfl

theorem jobs?_newline : jobs? (.operator "\n" :: ts) = jobs? ts := by
  rw [jobs?, jobsFrom?, if_pos ⟨rfl, rfl⟩, jobs?]

theorem jobs?_words {ws : List Word} (h : ws ≠ []) {o : String} (ho : o = "\n" ∨ o = "&") :
    jobs? (ws.map .word ++ .operator o :: ts) = (simple? ws).bind fun c => (jobs? ts).map (⟨c, o = "&"⟩ :: ·) := by
  have hne : ws.reverse ≠ [] := fun h' => h (List.reverse_eq_nil_iff.1 h')
  rw [jobs?, jobsFrom?_words, List.append_nil, jobsFrom?, if_neg fun h' => hne h'.2, if_pos ⟨ho, hne⟩,
    List.reverse_reverse]
  rfl

end JobLaunch.Shell
