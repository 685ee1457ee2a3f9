import Mathlib.Data.List.Nodup
import JobLaunch.Listing.Pbs

/-!
# Jobs of a listing and their siblings

* `Dict.entries_ofList_filter` : a dictionary of some of the keys;
* `Json.mapM_member?_filter`, `Json.mapM_eq_none_iff` : the members of an object are read one by one, or not at all;
* `PbsListing.ofJson?_around` : a listing is its jobs, whatever stands around them;
* `PbsListing.job?_of_filter` : a job is found among those with its number;
* `PbsListing.snapshot_alone_iff` : a job reads as if it were alone exactly if its siblings can be read.
-/

namespace JobLaunch

variable {α : Type}

/-! ## Some of the keys -/

namespace Dict

theorem lookup_eq_find? (k : String) (es : List (String × α)) :
    lookup k es = (es.find? (·.1 = k)).map (·.2) := by
  induction es with
  | nil => rfl
  | cons e es ih =>
    rw [lookup, List.find?_cons]
    by_cases h : e.1 = k
    · rw [if_pos h, decide_eq_true h]
      rfl
    · rw [if_neg h, decide_eq_false h, ih]

theorem put_of_lt {k : String} (v : α) {es : List (String × α)} (h : ∀ e ∈ es, k < e.1) :
    put k v es = (k, v) :: es := by
  cases es with
  | nil => rfl
  | cons e es => rw [put, if_pos (h e List.mem_cons_self)]

theorem filter_put (p : String → Bool) (k : String) (v : α) {es : List (String × α)} (hs : es.Pairwise (·.1 < ·.1)) :
    (put k v es).filter (p ·.1) = if p k then put k v (es.filter (p ·.1)) else es.filter (p ·.1) := by
  induction es with
  | nil =>
    rw [put, List.filter_cons, List.filter_nil]
    rfl
  | cons e es ih =>
    obtain ⟨hlt, htail⟩ := List.pairwise_cons.1 hs
    obtain ⟨k', v'⟩ := e
    by_cases hk : k < k'
    · -- the entry is in front of all others, also of those that are kept
      have hall : ∀ e ∈ (k', v') :: es, k < e.1 := by
        intro e he
        rcases List.mem_cons.1 he with rfl | he
        · exact hk
        · exact String.lt_trans hk (hlt e he)
      rw [put_of_lt v hall, put_of_lt v fun e he => hall e (List.mem_filter.1 he).1, List.filter_cons]
    · by_cases heq : k = k'
      · subst heq
        have hput : ∀ es, put k v ((k, v') :: es) = (k, v) :: es := fun es => by rw [put, if_neg hk, if_pos rfl]
        rw [hput, List.filter_cons, List.filter_cons]
        cases p k with
        | false => rfl
        | true => exact (hput _).symm
      · have hput : ∀ es, put k v ((k', v') :: es) = (k', v') :: put k v es :=
          fun es => by rw [put, if_neg hk, if_neg heq]
        rw [hput, List.filter_cons, List.filter_cons, ih htail]
        cases p k' <;> cases p k <;> simp [hput]

theorem entries_ofList_filter (p : String → Bool) (es : List (String × α)) :
    (ofList (es.filter (p ·.1))).entries = (ofList es).entries.filter (p ·.1) := by
  suffices h : ∀ (d e : Dict α), e.entries = d.entries.filter (p ·.1) →
      ((es.filter (p ·.1)).foldl (fun d e => d.insert e.1 e.2) e).entries =
        (es.foldl (fun d e => d.insert e.1 e.2) d).entries.filter (p ·.1) from
    h ∅ ∅ rfl
  induction es with
  | nil => exact fun d e h => h
  | cons x es ih =>
    intro d e h
    have hput := filter_put p x.1 x.2 d.sorted
    rw [List.filter_cons, List.foldl_cons]
    cases hp : p x.1 with
    | true =>
      rw [hp, if_pos rfl, ← h] at hput
      exact ih _ _ hput.symm
    | false =>
      rw [hp, if_neg Bool.false_ne_true, ← h] at hput
      exact ih _ _ hput.symm

end Dict

/-! ## Members one by one -/

namespace Json

theorem mapM_eq_none_iff {β γ : Type} (f : β → Option γ) (xs : List β) :
    xs.mapM f = none ↔ ∃ x ∈ xs, f x = none := by
  induction xs with
  | nil => simp
  | cons x xs ih =>
    rw [List.mapM_cons, List.exists_mem_cons_iff, ← ih]
    cases f x with
    | none => simp
    | some y => cases xs.mapM f <;> simp

theorem mapM_member?_filter {read : Json → Option α} (p : String → Bool) {ms : List (Option String × Json)}
    {es : List (String × α)} (h : ms.mapM (member? read) = some es) :
    (ms.filter (·.1.any p)).mapM (member? read) = some (es.filter (p ·.1)) := by
  induction ms generalizing es with
  | nil =>
    cases h
    rfl
  | cons m ms ih =>
    rw [List.mapM_cons] at h
    obtain ⟨e, he, h⟩ := Option.bind_eq_some_iff.1 h
    obtain ⟨es', hes', h⟩ := Option.bind_eq_some_iff.1 h
    cases h
    obtain ⟨k, j⟩ := m
    cases k with
    | none => cases he
    | some k =>
      obtain ⟨a, -, rfl⟩ := Option.map_eq_some_iff.1 he
      rw [List.filter_cons, List.filter_cons]
      cases hp : p k with
      | true => simp [hp, he, ih hes']
      | false => simpa [hp] using ih hes'

theorem hasRepeat_eq_false_iff (ks : List String) : hasRepeat ks = false ↔ ks.Nodup := by
  induction ks with
  | nil => simp [hasRepeat]
  | cons k ks ih => simp [hasRepeat, ih]

theorem hasRepeat_around {k : String} {ks ls : List String} (h : k ∈ ks ++ ls) : hasRepeat (ks ++ k :: ls) = true := by
  rw [← Bool.not_eq_false, hasRepeat_eq_false_iff, List.nodup_middle, List.nodup_cons]
  exact fun hk => hk.1 h

theorem declared?_around {name : String} {pre post : List (Option String × Json)} {before behind : List (String × Json)}
    (hpre : pre.mapM (member? some) = some before) (hpost : post.mapM (member? some) = some behind) (j : Json) :
    declared? [.defaulted name] (pre ++ (some name, j) :: post) =
      let known := before.filter (name == ·.1) ++ (name, j) :: behind.filter (name == ·.1)
      if hasRepeat (known.map (·.1)) then none else some known := by
  have hnamed : (pre ++ (some name, j) :: post).mapM (member? some) = some (before ++ (name, j) :: behind) := by
    rw [List.mapM_append, List.mapM_cons, hpre, hpost]
    rfl
  have hown : (name == name) = true := beq_self_eq_true name
  rw [declared?, hnamed]
  simp only [Option.bind_eq_bind, Option.bind_some, Field.defaulted, List.any_cons, List.any_nil, Bool.or_false,
    List.filter_append, List.filter_cons, hown, if_true]

theorem record?_around (name : String) (pre post : List (Option String × Json)) :
    (∀ j, record? [.defaulted name] (.object (pre ++ (some name, j) :: post)) = none) ∨
      ∀ j, record? [.defaulted name] (.object (pre ++ (some name, j) :: post)) = some [(name, j)] := by
  cases hpre : pre.mapM (member? some) with
  | none => exact Or.inl fun j => by simp [record?, declared?, List.mapM_append, hpre]
  | some before =>
    cases hpost : post.mapM (member? some) with
    | none => exact Or.inl fun j => by simp [record?, declared?, List.mapM_append, List.mapM_cons, hpre, hpost, member?]
    | some behind =>
      cases hothers : before.filter (name == ·.1) ++ behind.filter (name == ·.1) with
      | nil =>
        obtain ⟨hbefore, hbehind⟩ := List.append_eq_nil_iff.1 hothers
        refine Or.inr fun j => ?_
        rw [record?, declared?_around hpre hpost, hbefore, hbehind]
        rfl
      | cons m others =>
        -- another field of this name repeats it
        have hm : m ∈ before.filter (name == ·.1) ++ behind.filter (name == ·.1) := hothers ▸ List.mem_cons_self
        have hname : m.1 = name := by
          rw [← List.filter_append] at hm
          exact (eq_of_beq (List.mem_filter.1 hm).2).symm
        refine Or.inl fun j => ?_
        rw [record?, declared?_around hpre hpost]
        dsimp only
        rw [List.map_append, List.map_cons, hasRepeat_around, if_pos rfl]
        rw [← List.map_append]
        exact List.mem_map.2 ⟨m, hm, hname⟩

/-! ## Blank texts -/

theorem not_isDigit_of_isBlank {c : Char} (h : Text.isBlank c = true) : Text.isDigit c = false := by
  rw [← Bool.not_eq_true]
  intro hdigit
  obtain ⟨hlow, hhigh⟩ := Bool.and_eq_true_iff.1 hdigit
  have hlow : 48 ≤ c.toNat := of_decide_eq_true hlow
  have hhigh : c.toNat ≤ 57 := of_decide_eq_true hhigh
  simp only [Text.isBlank, Bool.or_eq_true, Bool.and_eq_true, decide_eq_true_eq, beq_iff_eq] at h
  omega

theorem numeral_of_blank {cs : List Char} (h : ∀ c ∈ cs, Text.isBlank c = true) : numeral cs = none := by
  have hdigits : cs.takeWhile Text.isDigit = [] := by
    cases cs with
    | nil => rfl
    | cons c cs =>
      rw [List.takeWhile_cons, not_isDigit_of_isBlank (h c List.mem_cons_self)]
      rfl
  unfold numeral
  split
  · exact absurd (h '-' List.mem_cons_self) (by decide)
  · rw [unsigned, spanDigits, hdigits]

theorem value_of_blank {cs : List Char} (h : cs.all Text.isBlank = true) (fuel : Nat) : value fuel cs = none := by
  cases fuel with
  | zero => rfl
  | succ fuel =>
    have hblank : ∀ c ∈ skipSpace cs, Text.isBlank c = true :=
      fun c hc => List.all_eq_true.1 h c ((List.dropWhile_sublist _).subset hc)
    unfold value
    generalize skipSpace cs = rest at hblank
    split
    · exact absurd (hblank _ List.mem_cons_self) (by decide)
    · exact absurd (hblank _ List.mem_cons_self) (by decide)
    · exact absurd (hblank _ List.mem_cons_self) (by decide)
    · exact absurd (hblank _ List.mem_cons_self) (by decide)
    · exact absurd (hblank _ List.mem_cons_self) (by decide)
    · exact absurd (hblank _ List.mem_cons_self) (by decide)
    · rw [numeral_of_blank hblank]
      rfl

theorem read?_of_blank {s : String} (h : Text.isBlankText s = true) : read? s = none := by
  rw [read?, readChars?, value_of_blank h]

end Json

/-! ## Jobs -/

namespace PbsListing

theorem ofJson?_around (pre post : List (Option String × Json)) :
    (∀ ms, ofJson? (.object (pre ++ (some "Jobs", .object ms) :: post)) = none) ∨
      ∀ ms, ofJson? (.object (pre ++ (some "Jobs", .object ms) :: post)) =
        (ms.mapM (Json.member? PbsJob.ofJson?)).map Dict.ofList := by
  rcases Json.record?_around "Jobs" pre post with hnone | hsome
  · left
    intro ms
    rw [ofJson?, hnone]
    rfl
  · right
    intro ms
    rw [ofJson?, hsome]
    rfl

theorem job?_of_filter {jobs own : PbsListing} {id : String}
    (h : own.entries = jobs.entries.filter fun e => jobNumber e.1 = jobNumber id) : job? own id = job? jobs id := by
  have hget : own.get? id = jobs.get? id := by
    rw [Dict.get?, Dict.get?, Dict.lookup_eq_find?, Dict.lookup_eq_find?, h, List.find?_filter]
    congr 2
    funext e
    by_cases he : e.1 = id <;> simp [he]
  have hfind : own.entries.find? (fun e => jobNumber e.1 = jobNumber id) =
      jobs.entries.find? fun e => jobNumber e.1 = jobNumber id := by
    rw [h, List.find?_filter]
    congr 1
    funext e
    simp
  rw [job?, job?, hget, hfind]

/-- A member of a job with the number of an id. -/
def isOf (id : String) (m : Option String × Json) : Bool := m.1.any fun k => jobNumber k = jobNumber id

/-- Another job than that of an id has a member that cannot be read. -/
def Spoiled (id : String) (ms : List (Option String × Json)) : Prop :=
  ∃ m ∈ ms, isOf id m = false ∧ Json.member? PbsJob.ofJson? m = none

variable {output : CommandOutput} {id alone : String} {j : Json} {ms pre post : List (Option String × Json)}

/-- What a listing, if it can be read, tells of an id. -/
def told (jobs : Option PbsListing) (id : String) : Snapshot :=
  match jobs with
  | none => .unknown
  | some jobs =>
    match job? jobs id with
    | some job => jobSnapshot job
    | none => .notFound

theorem snapshot_of_read (h : Json.read? output.stdout = some j) : snapshot output id = told (ofJson? j) id := by
  have hblank : Text.isBlankText output.stdout = false := by
    rw [← Bool.not_eq_true]
    intro hblank
    rw [Json.read?_of_blank hblank] at h
    cases h
  rw [snapshot, parse?, hblank, Bool.false_and, if_neg Bool.false_ne_true, if_neg Bool.false_ne_true, h,
    Option.bind_some]
  rfl

theorem told_of_spoiled (h : Spoiled id ms) :
    told ((ms.mapM (Json.member? PbsJob.ofJson?)).map Dict.ofList) id = .unknown := by
  obtain ⟨m, hm, -, hnone⟩ := h
  rw [(Json.mapM_eq_none_iff _ _).2 ⟨m, hm, hnone⟩]
  rfl

theorem told_filter (h : ¬ Spoiled id ms) :
    told (((ms.filter (isOf id)).mapM (Json.member? PbsJob.ofJson?)).map Dict.ofList) id =
      told ((ms.mapM (Json.member? PbsJob.ofJson?)).map Dict.ofList) id := by
  cases hall : ms.mapM (Json.member? PbsJob.ofJson?) with
  | none =>
    -- the member that cannot be read is one of the job's own, so it is there without the others too
    obtain ⟨m, hm, hnone⟩ := (Json.mapM_eq_none_iff _ _).1 hall
    have hown : isOf id m = true := by
      rw [← Bool.not_eq_false]
      exact fun hother => h ⟨m, hm, hother, hnone⟩
    rw [(Json.mapM_eq_none_iff _ _).2 ⟨m, List.mem_filter.2 ⟨hm, hown⟩, hnone⟩]
  | some es =>
    have hfilter : (ms.filter (isOf id)).mapM (Json.member? PbsJob.ofJson?) =
        some (es.filter fun e => jobNumber e.1 = jobNumber id) :=
      Json.mapM_member?_filter (fun k => jobNumber k = jobNumber id) hall
    rw [hfilter, Option.map_some, Option.map_some, told, told,
      job?_of_filter (Dict.entries_ofList_filter (fun k => jobNumber k = jobNumber id) es)]

/-- **A job reads as if it were alone exactly if its siblings can be read,** unless it is unknown alone as well. If they
cannot, it is unknown. -/
theorem snapshot_alone_iff
    (document : Json.read? output.stdout = some (.object (pre ++ (some "Jobs", .object ms) :: post)))
    (own : Json.read? alone = some (.object (pre ++ (some "Jobs", .object (ms.filter (isOf id))) :: post))) :
    (snapshot output id = snapshot { output with stdout := alone } id ↔
        ¬ Spoiled id ms ∨ snapshot { output with stdout := alone } id = .unknown) ∧
      (Spoiled id ms → snapshot output id = .unknown) := by
  have halone : snapshot { output with stdout := alone } id =
      told (ofJson? (.object (pre ++ (some "Jobs", .object (ms.filter (isOf id))) :: post))) id := snapshot_of_read own
  rw [snapshot_of_read document, halone]
  rcases ofJson?_around pre post with hnone | hjobs
  · rw [hnone, hnone]
    exact ⟨iff_of_true rfl (Or.inr rfl), fun _ => rfl⟩
  · rw [hjobs, hjobs]
    by_cases spoiled : Spoiled id ms
    · rw [told_of_spoiled spoiled]
      exact ⟨⟨fun h => Or.inr h.symm, fun h => (h.resolve_left (not_not_intro spoiled)).symm⟩, fun _ => rfl⟩
    · rw [told_filter spoiled]
      exact ⟨iff_of_true rfl (Or.inl spoiled), fun h => absurd h spoiled⟩

/-- A running job with a sibling of which nothing is told. -/
theorem snapshot_alone_iff_running :
    snapshot (.ok "\x7b\"Jobs\":\x7b\"1\":\x7b\"job_state\":\"R\"\x7d,\"2\":\x7b\x7d\x7d\x7d") "1" =
      snapshot (.ok "\x7b\"Jobs\":\x7b\"1\":\x7b\"job_state\":\"R\"\x7d\x7d\x7d") "1" := by
  have document : Json.read? "\x7b\"Jobs\":\x7b\"1\":\x7b\"job_state\":\"R\"\x7d,\"2\":\x7b\x7d\x7d\x7d" =
      some (.object ([] ++ (some "Jobs", .object [(some "1", .object [(some "job_state", .string (some "R"))]),
        (some "2", .object [])]) :: [])) := by cbv
  have own : Json.read? "\x7b\"Jobs\":\x7b\"1\":\x7b\"job_state\":\"R\"\x7d\x7d\x7d" =
      some (.object ([] ++ (some "Jobs", .object ([(some "1", .object [(some "job_state", .string (some "R"))]),
        (some "2", .object [])].filter (isOf "1"))) :: [])) := by cbv
  refine (@snapshot_alone_iff (.ok _) "1" _ _ [] [] document own).1.2 (Or.inl ?_)
  rintro ⟨m, hm, hother, hnone⟩
  rcases List.mem_pair.1 hm with rfl | rfl
  · cases hother
  · cases hnone

/-- A running job whose sibling is null: the whole listing cannot be read. -/
theorem snapshot_alone_fails :
    ∃ ms : List (Option String × Json), ∃ alone stdout,
      Json.read? stdout = some (.object [(some "Jobs", .object ms)]) ∧
      Json.read? alone = some (.object [(some "Jobs", .object (ms.filter (isOf "1")))]) ∧
      ms.filter (isOf "1") = [(some "1", .object [(some "job_state", .string (some "R"))])] ∧
      snapshot (.ok alone) "1" = { status := .running, rawStatus := some "R" } ∧
      snapshot (.ok stdout) "1" = .unknown := by
  refine ⟨[(some "1", .object [(some "job_state", .string (some "R"))]), (some "2", .null)],
    "\x7b\"Jobs\":\x7b\"1\":\x7b\"job_state\":\"R\"\x7d\x7d\x7d",
    "\x7b\"Jobs\":\x7b\"1\":\x7b\"job_state\":\"R\"\x7d,\"2\":null\x7d\x7d", by cbv, by cbv, by cbv, ?_, ?_⟩
  · decide +kernel
  · decide +kernel

end PbsListing

end JobLaunch
