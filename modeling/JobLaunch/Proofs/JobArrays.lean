import JobLaunch.Proofs.GridPrinted

/-!
# Job arrays in tables of Grid Engine

The tasks of a job array have one job number and a row each. What a query tells of the job is what its first row says.

* `Text.exists_lines` : texts by their lines;
* `GridListing.exists_rows_of_perm` : the rows of a table can be listed in any order;
* `GridListing.LeavesLive` : no job is told to be over while one of its rows is live;
* `GridListing.EndedFirst`, `GridListing.Mixed` : the first row of a job has ended, or any row of it, though one is
  live;
* `GridListing.leavesLive_iff` : when live jobs are left alone, in one order of the rows and in all of them.
-/

namespace JobLaunch

/-! ## Texts by their lines -/

namespace Text

theorem not_cut_of_mem_pieces {p : Char → Bool} {cs piece : List Char} (h : piece ∈ pieces p cs) :
    ∀ c ∈ piece, p c = false := by
  induction cs generalizing piece with
  | nil =>
    obtain rfl := List.mem_singleton.1 h
    exact fun c hc => nomatch hc
  | cons c cs ih =>
    rw [pieces] at h
    cases cut : p c with
    | true =>
      rw [if_pos cut] at h
      rcases List.mem_cons.1 h with rfl | h
      · exact fun c hc => nomatch hc
      · exact ih h
    | false =>
      rw [cut, if_neg Bool.false_ne_true] at h
      obtain ⟨w, ws, hws⟩ := List.exists_cons_of_ne_nil (pieces_ne_nil p cs)
      rw [hws] at h ih
      rcases List.mem_cons.1 h with rfl | h
      · exact List.forall_mem_cons.2 ⟨cut, ih List.mem_cons_self⟩
      · exact ih (List.mem_cons_of_mem w h)

theorem exists_of_mem_endLines {line : List Char} {ps : List (List Char)} (h : line ∈ endLines ps) :
    ∃ piece ∈ ps, line ⊆ piece := by
  induction ps with
  | nil => cases h
  | cons piece ps ih =>
    cases ps with
    | nil =>
      rw [endLines] at h
      split at h
      · cases h
      · obtain rfl := List.mem_singleton.1 h
        exact ⟨line, List.mem_cons_self, List.Subset.refl line⟩
    | cons next ps =>
      rcases List.mem_cons.1 (show line ∈ chopReturn piece :: endLines (next :: ps) from h) with rfl | h
      · refine ⟨piece, List.mem_cons_self, ?_⟩
        unfold chopReturn
        split
        · exact List.dropLast_subset piece
        · exact List.Subset.refl piece
      · obtain ⟨p, hp, hsub⟩ := ih h
        exact ⟨p, List.mem_cons_of_mem piece hp, hsub⟩

theorem feed_not_mem_of_mem_lines {cs line : List Char} (h : line ∈ lines cs) : '\n' ∉ line := by
  intro hfeed
  obtain ⟨piece, hpiece, hsub⟩ := exists_of_mem_endLines h
  cases not_cut_of_mem_pieces hpiece _ (hsub hfeed)

/-- **Texts are free in their lines.** -/
theorem exists_lines {ls : List (List Char)} (h : ∀ line ∈ ls, '\n' ∉ line) : ∃ cs, lines cs = ls := by
  induction ls with
  | nil => exact ⟨[], rfl⟩
  | cons line ls ih =>
    rw [List.forall_mem_cons] at h
    obtain ⟨cs, hcs⟩ := ih h.2
    -- the carriage return is the one that the end of the line takes away
    refine ⟨line ++ ['\r'] ++ '\n' :: cs, ?_⟩
    have hfeed : '\n' ∉ line ++ ['\r'] := by simpa using h.1
    have hchop : chopReturn (line ++ ['\r']) = line := by simp [chopReturn]
    rw [lines_ended hfeed, hchop, hcs]

end Text

/-! ## Tables by their rows -/

namespace GridListing

def Shown (row : GridRow) : Prop :=
  ∃ block : List (List Char), (∀ line ∈ block, '\n' ∉ line) ∧ ∀ above, block.foldl addLine above = row :: above

variable {rs : List GridRow}

theorem shown_addLine {line : List Char} (whole : '\n' ∉ line) (h : ∀ row ∈ rs, Shown row) :
    ∀ row ∈ addLine rs line, Shown row := by
  cases hname : Text.afterStart? fullNameMark (Text.trim line) with
  | some name =>
    cases rs with
    | nil =>
      intro row hrow
      simp [addLine, hname] at hrow
    | cons latest rs =>
      obtain ⟨⟨block, hwhole, hblock⟩, hrows⟩ := List.forall_mem_cons.1 h
      have hadd : ∀ above, addLine (latest :: above) line =
          { latest with name := String.ofList (Text.trim name) } :: above := by
        intro above
        simp [addLine, hname]
      rw [hadd]
      -- the line with the full name joins the lines that show the row above it
      refine List.forall_mem_cons.2 ⟨⟨block ++ [line], ?_, fun above => ?_⟩, hrows⟩
      · rw [List.forall_mem_append]
        exact ⟨hwhole, List.forall_mem_singleton.2 whole⟩
      · rw [List.foldl_append, hblock]
        exact hadd above
  | none =>
    cases hrow : row? (Text.trim line) with
    | none => simpa [addLine, hname, hrow] using h
    | some row =>
      have hadd : ∀ above, addLine above line = row :: above := by
        intro above
        simp [addLine, hname, hrow]
      rw [hadd]
      exact List.forall_mem_cons.2 ⟨⟨[line], List.forall_mem_singleton.2 whole, hadd⟩, h⟩

theorem shown_foldl_addLine {ls : List (List Char)} (whole : ∀ line ∈ ls, '\n' ∉ line) (h : ∀ row ∈ rs, Shown row) :
    ∀ row ∈ ls.foldl addLine rs, Shown row := by
  induction ls generalizing rs with
  | nil => exact h
  | cons line ls ih =>
    rw [List.forall_mem_cons] at whole
    exact ih whole.2 (shown_addLine whole.1 h)

theorem shown_of_mem_rows {stdout : String} {row : GridRow} (h : row ∈ rows stdout) : Shown row := by
  have hnone : ∀ row ∈ ([] : List GridRow), Shown row := fun _ hrow => nomatch hrow
  exact shown_foldl_addLine (fun _ hline => Text.feed_not_mem_of_mem_lines hline) hnone row (List.mem_reverse.1 h)

theorem exists_foldl_addLine (h : ∀ row ∈ rs, Shown row) : ∃ ls : List (List Char),
    (∀ line ∈ ls, '\n' ∉ line) ∧ ∀ above, ls.foldl addLine above = rs.reverse ++ above := by
  induction rs with
  | nil => exact ⟨[], fun _ hline => (nomatch hline), fun above => rfl⟩
  | cons row rs ih =>
    obtain ⟨⟨block, hblock, hshows⟩, hrest⟩ := List.forall_mem_cons.1 h
    obtain ⟨ls, hwhole, hfold⟩ := ih hrest
    refine ⟨block ++ ls, List.forall_mem_append.2 ⟨hblock, hwhole⟩, fun above => ?_⟩
    rw [List.foldl_append, hshows, hfold]
    simp

/-- **The rows of a table can be listed in any order.** -/
theorem exists_rows_of_perm {stdout : String} (h : rs.Perm (rows stdout)) : ∃ other, rows other = rs := by
  obtain ⟨ls, hwhole, hfold⟩ := exists_foldl_addLine fun row hrow => shown_of_mem_rows (h.subset hrow)
  obtain ⟨cs, hcs⟩ := Text.exists_lines hwhole
  refine ⟨String.ofList cs, ?_⟩
  rw [rows, String.toList_ofList, hcs, hfold, List.append_nil, List.reverse_reverse]

end GridListing

/-! ## Jobs of several rows -/

/-- A row is live if its state is none in which a task is over. -/
def GridRow.Live (row : GridRow) : Prop := GridListing.statusOf row.state ∈ [.pending, .running, .unknown]

instance (row : GridRow) : Decidable row.Live := inferInstanceAs (Decidable (_ ∈ _))

theorem GridRow.live_iff (row : GridRow) : row.Live ↔ (GridListing.statusOf row.state).isTerminal = false := by
  unfold Live
  cases GridListing.statusOf row.state <;> decide

namespace GridListing

def rowsOf (output : CommandOutput) (id : String) : List GridRow :=
  (rows output.stdout).filter fun row => row.id = jobNumber id

/-- Some row of a job is live. -/
def HasLive (output : CommandOutput) (id : String) : Prop := ∃ row ∈ rowsOf output id, row.Live

/-- Some row of a job is live, but the first one is not. -/
def EndedFirst (output : CommandOutput) (id : String) : Prop :=
  HasLive output id ∧ ∃ row ∈ (rowsOf output id).head?, ¬ row.Live

/-- Some row of a job is live, and some row of it is not. -/
def Mixed (output : CommandOutput) (id : String) : Prop := HasLive output id ∧ ∃ row ∈ rowsOf output id, ¬ row.Live

/-- No requested job is told to be over while one of its rows is live. -/
def LeavesLive (output : CommandOutput) (ids : List String) : Prop :=
  ∀ p ∈ ids.zip (snapshots output ids), HasLive output p.1 → p.2.status.isTerminal = false

variable {output other : CommandOutput} {id : String}

instance (output : CommandOutput) (id : String) : Decidable (HasLive output id) :=
  inferInstanceAs (Decidable (∃ row ∈ _, _))

instance (output : CommandOutput) (id : String) : Decidable (EndedFirst output id) :=
  inferInstanceAs (Decidable (_ ∧ ∃ row ∈ (_ : Option GridRow), _))

instance (output : CommandOutput) (id : String) : Decidable (Mixed output id) :=
  inferInstanceAs (Decidable (_ ∧ ∃ row ∈ _, _))

instance (output : CommandOutput) (ids : List String) : Decidable (LeavesLive output ids) :=
  inferInstanceAs (Decidable (∀ p ∈ _, _))

theorem rowsOf_perm (h : (rows other.stdout).Perm (rows output.stdout)) (id : String) :
    (rowsOf other id).Perm (rowsOf output id) :=
  h.filter _

theorem snapshot_of_first {row : GridRow} (succeeded : output.succeeded = true)
    (first : row ∈ (rowsOf output id).head?) : snapshot output id = snapshotOf row.state := by
  rw [rowsOf, List.head?_filter, Option.mem_def] at first
  rw [snapshot, if_pos succeeded, first]

/-- **A live job is left alone** exactly if its first row is live. -/
theorem snapshot_spares_iff (succeeded : output.succeeded = true) :
    (HasLive output id → (snapshot output id).status.isTerminal = false) ↔ ¬ EndedFirst output id := by
  constructor
  · rintro spared ⟨live, row, first, ended⟩
    have htold := spared live
    rw [snapshot_of_first succeeded first] at htold
    exact ended (row.live_iff.2 htold)
  · intro h live
    have ⟨_, hrow, _⟩ := live
    obtain ⟨first, rest, hrows⟩ := List.exists_cons_of_ne_nil (List.ne_nil_of_mem hrow)
    have hfirst : first ∈ (rowsOf output id).head? := by
      rw [hrows]
      rfl
    rw [snapshot_of_first succeeded hfirst]
    exact first.live_iff.1 (Decidable.byContradiction fun ended => h ⟨live, first, hfirst, ended⟩)

theorem leavesLive_iff_forall (output : CommandOutput) (ids : List String) :
    LeavesLive output ids ↔ ∀ id ∈ ids, HasLive output id → (snapshot output id).status.isTerminal = false := by
  unfold LeavesLive snapshots
  rw [← List.map_prod_left_eq_zip, List.forall_mem_map]

/-- **Some order of the rows of a mixed job** begins with one that has ended. -/
theorem exists_endedFirst (h : Mixed output id) : ∃ other : CommandOutput, other.succeeded = true ∧
    (rows other.stdout).Perm (rows output.stdout) ∧ EndedFirst other id := by
  obtain ⟨⟨live, hlive, halive⟩, row, hrow, ended⟩ := h
  obtain ⟨hmem, hof⟩ := List.mem_filter.1 hrow
  have hperm : (row :: (rows output.stdout).erase row).Perm (rows output.stdout) := (List.perm_cons_erase hmem).symm
  obtain ⟨stdout, hstdout⟩ := exists_rows_of_perm hperm
  have horder : (rows (CommandOutput.ok stdout).stdout).Perm (rows output.stdout) := by
    rw [show rows (CommandOutput.ok stdout).stdout = _ from hstdout]
    exact hperm
  refine ⟨.ok stdout, rfl, horder, ⟨live, (rowsOf_perm horder id).symm.subset hlive, halive⟩, row, ?_, ended⟩
  rw [rowsOf, show rows (CommandOutput.ok stdout).stdout = _ from hstdout, List.filter_cons, if_pos hof]
  rfl

/-- **Live jobs are left alone exactly if none of them is listed with a task first that has ended;** and they are left
alone whatever the order of the rows, exactly if none of them has such a task at all. -/
theorem leavesLive_iff (succeeded : output.succeeded = true) (ids : List String) :
    (LeavesLive output ids ↔ ∀ id ∈ ids, ¬ EndedFirst output id) ∧
      ((∀ other : CommandOutput, other.succeeded = true → (rows other.stdout).Perm (rows output.stdout) →
        LeavesLive other ids) ↔ ∀ id ∈ ids, ¬ Mixed output id) := by
  have hspares : ∀ {other : CommandOutput}, other.succeeded = true →
      (LeavesLive other ids ↔ ∀ id ∈ ids, ¬ EndedFirst other id) := by
    intro other hother
    simp only [leavesLive_iff_forall, snapshot_spares_iff hother]
  refine ⟨hspares succeeded, fun h id hid mixed => ?_, fun h other hother order => (hspares hother).2 fun id hid => ?_⟩
  · obtain ⟨other, hother, order, hended⟩ := exists_endedFirst mixed
    exact (hspares hother).1 (h other hother order) id hid hended
  · rintro ⟨⟨live, hlive, halive⟩, row, first, ended⟩
    have hsub := (rowsOf_perm order id).subset
    exact h id hid ⟨⟨live, hsub hlive, halive⟩, row, hsub (List.mem_of_mem_head? first), ended⟩

/-- A task that has ended is listed below one that runs; the other job has one row. -/
theorem leavesLive_iff_below :
    let output : CommandOutput := .ok "42 0.5 arr alice r\n42 0.5 arr alice Eqw\n7 0.5 one alice Eqw\n"
    output.succeeded = true ∧ LeavesLive output ["42.1", "7"] ∧ Mixed output "42.1" ∧
      ¬ ∀ other : CommandOutput, other.succeeded = true → (rows other.stdout).Perm (rows output.stdout) →
        LeavesLive other ["42.1", "7"] := by
  intro output
  obtain ⟨hspared, horders⟩ := @leavesLive_iff output rfl ["42.1", "7"]
  have hmixed : Mixed output "42.1" := by decide +kernel
  exact ⟨rfl, hspared.2 (by decide +kernel), hmixed, fun h => horders.1 h "42.1" (by simp) hmixed⟩

/-- One task of a job has ended and one runs: the order of their rows decides whether the job is told to have failed. -/
theorem leavesLive_fails :
    let ended : CommandOutput := .ok "42 0.5 arr alice Eqw\n42 0.5 arr alice r\n"
    let running : CommandOutput := .ok "42 0.5 arr alice r\n42 0.5 arr alice Eqw\n"
    (rows ended.stdout).Perm (rows running.stdout) ∧
      snapshots running ["42"] = [{ status := .running, rawStatus := some "r" }] ∧
      snapshots ended ["42"] = [{ status := .failed, rawStatus := some "Eqw" }] ∧ ¬ LeavesLive ended ["42"] := by
  decide +kernel

end GridListing

end JobLaunch
