import JobLaunch.Listing.Printer
import JobLaunch.Proofs.ByteOrder
import JobLaunch.Proofs.JsonVariant

/-!
# Listings of PBS are read back

What the printer of a listing writes, the reader of a listing finds again: jobs by their ids, by their numbers and by
their names, whatever ids, names and states they have and however often an id comes again.

* `Dict.get?_ofList`, `Dict.entries_ofList_map` : a dictionary of pairs holds the last pair of each key;
* `PbsJob.ofJson?_jobJson` : a printed job is read back;
* `SampleJob.lastWith` : the last job with an id; `PbsListing.shown?` : the job that a listing shows for an id;
* `PbsListing.parse?_printed` : a printed listing is read back;
* `PbsListing.printed_read_back` : what is told of ids and of names.
-/

namespace JobLaunch

/-! ## Dictionaries of pairs -/

namespace Dict

variable {α β : Type}

theorem get?_foldl_insert (es : List (String × α)) (d : Dict α) (k : String) :
    (es.foldl (fun d e => d.insert e.1 e.2) d).get? k =
      ((es.reverse.find? (·.1 = k)).map (·.2)).or (d.get? k) := by
  induction es generalizing d with
  | nil => rfl
  | cons e es ih =>
    rw [List.foldl_cons, ih, get?_insert, List.reverse_cons, List.find?_append, List.find?_singleton]
    cases es.reverse.find? (·.1 = k) with
    | some e' => rfl
    | none =>
      by_cases h : k = e.1
      · simp [h]
      · simp [h, Ne.symm h]

theorem get?_ofList (es : List (String × α)) (k : String) :
    (ofList es).get? k = (es.reverse.find? (·.1 = k)).map (·.2) :=
  (get?_foldl_insert es ∅ k).trans Option.or_none

theorem put_map (f : α → β) (k : String) (v : α) (es : List (String × α)) :
    put k (f v) (es.map fun e => (e.1, f e.2)) = (put k v es).map fun e => (e.1, f e.2) := by
  induction es with
  | nil => rfl
  | cons e es ih =>
    rw [List.map_cons, put, put, ih]
    split
    · rfl
    · split <;> rfl

theorem entries_ofList_map (f : α → β) (es : List (String × α)) :
    (ofList (es.map fun e => (e.1, f e.2))).entries = (ofList es).entries.map fun e => (e.1, f e.2) := by
  suffices h : ∀ (d : Dict α) (d' : Dict β), d'.entries = d.entries.map (fun e => (e.1, f e.2)) →
      ((es.map fun e => (e.1, f e.2)).foldl (fun d e => d.insert e.1 e.2) d').entries =
        (es.foldl (fun d e => d.insert e.1 e.2) d).entries.map fun e => (e.1, f e.2) from
    h ∅ ∅ rfl
  induction es with
  | nil => exact fun d d' h => h
  | cons e es ih =>
    intro d d' h
    refine ih (d.insert e.1 e.2) (d'.insert e.1 (f e.2)) ?_
    show put e.1 (f e.2) d'.entries = _
    rw [h, put_map]
    rfl

theorem mem_filter_entries {d : Dict α} {p : String × α → Bool} {k : String} :
    k ∈ (d.entries.filter p).map (·.1) ↔ (d.get? k).any (fun v => p (k, v)) = true := by
  rw [List.mem_map, Option.any_eq_true]
  constructor
  · rintro ⟨⟨k', v⟩, he, rfl⟩
    obtain ⟨hmem, hp⟩ := List.mem_filter.1 he
    exact ⟨v, (d.mem_entries_iff k' v).1 hmem, hp⟩
  · rintro ⟨v, hget, hp⟩
    exact ⟨(k, v), List.mem_filter.2 ⟨(d.mem_entries_iff k v).2 hget, hp⟩, rfl⟩

theorem map_snd_find? (d : Dict α) (p : String × α → Bool) :
    (d.entries.find? p).map (·.2) = ((d.entries.find? p).map (·.1)).bind d.get? := by
  cases h : d.entries.find? p with
  | none => rfl
  | some e => exact ((d.mem_entries_iff e.1 e.2).1 (List.mem_of_find?_eq_some h)).symm

end Dict

namespace Json

theorem isWhole_obj {ms : List (String × Json)} (h : ∀ m ∈ ms, m.2.isWhole = true) : (obj ms).isWhole = true := by
  refine (wholeMembers_iff _).2 fun m hm => ?_
  obtain ⟨named, hnamed, rfl⟩ := List.mem_map.1 hm
  exact h named hnamed

theorem record?_obj (fields : List Field) (named : List (String × Json)) :
    record? fields (obj named) =
      let known := named.filter fun m => fields.any (·.name == m.1)
      if hasRepeat (known.map (·.1)) then none else some known := by
  show declared? fields (keyed named) = _
  rw [declared?, mapM_member?_keyed]
  rfl

theorem dict?_obj {α β : Type} {write : α → Json} {read : Json → Option β} {value : α → β}
    (h : ∀ a, read (write a) = some (value a)) (es : List (String × α)) :
    dict? read (obj (es.map fun e => (e.1, write e.2))) = some (Dict.ofList (es.map fun e => (e.1, value e.2))) := by
  have hmembers : ((es.map fun e => (e.1, write e.2)).map fun m => (some m.1, m.2)).mapM (member? read) =
      some (es.map fun e => (e.1, value e.2)) := by
    induction es with
    | nil => rfl
    | cons e es ih =>
      have hfirst : member? read (some e.1, write e.2) = some (e.1, value e.2) := by
        rw [member?, h]
        rfl
      rw [List.map_cons, List.map_cons, List.mapM_cons, ih, hfirst]
      rfl
  exact congrArg (Option.map Dict.ofList) hmembers

theorem int32?_toInt (c : Int32) : int32? (int c.toInt) = some c := by
  show (if -2147483648 ≤ c.toInt ∧ c.toInt ≤ 2147483647 then some c.toInt else none).map Int32.ofInt = _
  rw [if_pos ⟨c.le_toInt, Int.le_of_lt_add_one c.toInt_lt⟩, Option.map_some, Int32.ofInt_toInt]

end Json

/-! ## Jobs -/

/-- What a listing tells of a job. -/
def SampleJob.told (job : SampleJob) : PbsJob := ⟨some job.name, some job.state, job.exitStatus⟩

def SampleJob.lastWith (jobs : List SampleJob) (id : String) : Option SampleJob := jobs.reverse.find? (·.id = id)

/-- **A printed job is read back.** -/
theorem PbsJob.ofJson?_jobJson (job : SampleJob) : ofJson? (PbsListing.jobJson job) = some job.told := by
  obtain ⟨id, name, state, code⟩ := job
  rw [ofJson?, PbsListing.jobJson, Json.record?_obj]
  cases code with
  | none => rfl
  | some c =>
    have hcode : Json.nullable? Json.int32? (Json.int c.toInt) = some (some c) :=
      congrArg (Option.map some) (Json.int32?_toInt c)
    show (Json.nullable? Json.int32? (Json.int c.toInt)).bind (fun code =>
      some (⟨some name, some state, code⟩ : PbsJob)) = _
    rw [hcode]
    rfl

theorem isWhole_jobJson (job : SampleJob) : (PbsListing.jobJson job).isWhole = true := by
  refine Json.isWhole_obj fun m hm => ?_
  rcases List.mem_append.1 hm with hcode | hm
  · obtain ⟨c, -, rfl⟩ := Option.map_eq_some_iff.1 (Option.mem_toList.1 hcode)
    rfl
  · simp only [List.mem_cons, List.not_mem_nil, or_false] at hm
    rcases hm with rfl | rfl | rfl | rfl <;> rfl

theorem SampleJob.isSome_lastWith {jobs : List SampleJob} {id : String} :
    (lastWith jobs id).isSome = true ↔ id ∈ jobs.map (·.id) := by
  rw [lastWith, List.find?_isSome, List.mem_map]
  simp

namespace PbsListing

/-- The jobs that are printed under their ids. -/
def kept (jobs : List SampleJob) : Dict SampleJob := Dict.ofList (jobs.map fun job => (job.id, job))

def ofJobs (jobs : List SampleJob) : PbsListing := Dict.ofList (jobs.map fun job => (job.id, job.told))

theorem entries_kept {α : Type} (f : SampleJob → α) (jobs : List SampleJob) :
    (Dict.ofList (jobs.map fun job => (job.id, f job))).entries = (kept jobs).entries.map fun e => (e.1, f e.2) := by
  rw [kept, ← Dict.entries_ofList_map, List.map_map]
  rfl

theorem get?_ofJobs (jobs : List SampleJob) (id : String) :
    (ofJobs jobs).get? id = (SampleJob.lastWith jobs id).map (·.told) := by
  rw [ofJobs, Dict.get?_ofList, ← List.map_reverse, List.find?_map, Option.map_map]
  rfl

theorem isWhole_json (jobs : List SampleJob) : (json jobs).isWhole = true := by
  have hjobs : (jobsJson jobs).isWhole = true := by
    refine Json.isWhole_obj fun m hm => ?_
    rw [entries_kept] at hm
    obtain ⟨e, -, rfl⟩ := List.mem_map.1 hm
    exact isWhole_jobJson e.2
  refine Json.isWhole_obj fun m hm => ?_
  simp only [List.mem_cons, List.not_mem_nil, or_false] at hm
  rcases hm with rfl | rfl | rfl | rfl
  · exact hjobs
  · rfl
  · rfl
  · rfl

theorem ofJson?_json (jobs : List SampleJob) : ofJson? (json jobs) = some (ofJobs jobs) := by
  have hjobs : Json.dict? PbsJob.ofJson? (jobsJson jobs) = some (ofJobs jobs) := by
    rw [jobsJson, entries_kept, Json.dict?_obj PbsJob.ofJson?_jobJson, ← entries_kept]
    exact congrArg some (Dict.ofList_entries _)
  rw [ofJson?, json, Json.record?_obj]
  exact hjobs

/-- **A printed listing is read back.** -/
theorem parse?_printed (jobs : List SampleJob) : parse? (printed jobs).stdout = some (ofJobs jobs) := by
  have hread : Json.read? (printed jobs).stdout = some (json jobs) := Json.read?_render (isWhole_json jobs)
  have hblank : Text.isBlankText (printed jobs).stdout = false := by
    rw [← Bool.not_eq_true]
    intro hblank
    rw [Json.read?_of_blank hblank] at hread
    cases hread
  rw [parse?, hblank, if_neg Bool.false_ne_true, hread, Option.bind_some, ofJson?_json]

/-- **The first listed job with a property** has the least of the ids whose last job has it. -/
theorem find?_ofJobs (jobs : List SampleJob) (p : String × PbsJob → Bool) :
    ((ofJobs jobs).entries.find? p).map (·.1) =
      leastText? ((jobs.map (·.id)).filter fun id => (SampleJob.lastWith jobs id).any fun job => p (id, job.told)) := by
  rw [Dict.find?_entries]
  refine leastText?_congr fun id => ?_
  rw [Dict.mem_filter_entries, get?_ofJobs, Option.any_map, List.mem_filter]
  refine ⟨fun h => ⟨SampleJob.isSome_lastWith.1 (Option.isSome_of_any h), h⟩, fun h => h.2⟩

/-- The job that a listing shows for an id: the last job with the id, or else the last job with the least of the ids
that have its number. -/
def shown? (jobs : List SampleJob) (id : String) : Option SampleJob :=
  (SampleJob.lastWith jobs id).or
    ((leastText? ((jobs.map (·.id)).filter fun k => jobNumber k = jobNumber id)).bind (SampleJob.lastWith jobs))

theorem job?_ofJobs (jobs : List SampleJob) (id : String) : job? (ofJobs jobs) id = (shown? jobs id).map (·.told) := by
  have hnumber : ((ofJobs jobs).entries.find? fun e => jobNumber e.1 = jobNumber id).map (·.1) =
      leastText? ((jobs.map (·.id)).filter fun k => jobNumber k = jobNumber id) := by
    rw [find?_ofJobs]
    refine congrArg leastText? (List.filter_congr fun k hk => ?_)
    obtain ⟨job, hjob⟩ := Option.isSome_iff_exists.1 (SampleJob.isSome_lastWith.2 hk)
    rw [hjob]
    rfl
  rw [job?, shown?, Dict.map_snd_find?, hnumber, get?_ofJobs, Option.map_or, Option.map_bind]
  congr 2
  funext k
  exact get?_ofJobs jobs k

/-- **A printed listing tells what was printed.** For each requested id it tells the state and the exit status of the
last job with the id; if there is none, of the last job with the least of the ids that have its number; and if there is none
either, that it is not found. For a name it tells the least id whose last job has the name. -/
theorem printed_read_back (jobs : List SampleJob) :
    (∀ ids, snapshots (printed jobs) ids = ids.map fun id =>
      ((shown? jobs id).map fun job => snapshotOf job.state job.exitStatus).getD .notFound) ∧
    ∀ name, idOf? (printed jobs) name =
      leastText? ((jobs.map (·.id)).filter fun id => (SampleJob.lastWith jobs id).any (·.name = name)) := by
  refine ⟨fun ids => List.map_congr_left fun id _ => ?_, fun name => ?_⟩
  · rw [snapshot, show (printed jobs).succeeded = true from rfl, Bool.not_true, Bool.and_false,
      if_neg Bool.false_ne_true, parse?_printed]
    dsimp only
    rw [job?_ofJobs]
    cases shown? jobs id <;> rfl
  · rw [idOf?, parse?_printed, Option.bind_some, find?_ofJobs]
    simp only [SampleJob.told, Option.some.injEq]

/-- An id that is printed twice, one that is asked for without its server, and one that is not there. -/
theorem printed_read_back_repeated :
    let jobs : List SampleJob := [⟨"7.a", "x", "R", none⟩, ⟨"8.a", "x", "Q", none⟩, ⟨"7.a", "y", "F", some 1⟩]
    snapshots (printed jobs) ["7.a", "8", "9"] =
        [snapshotOf "F" (some 1), snapshotOf "Q" none, .notFound] ∧
      (snapshotOf "F" (some 1)).status = .failed ∧ idOf? (printed jobs) "x" = some "8.a" := by
  intro jobs
  obtain ⟨hids, hname⟩ := printed_read_back jobs
  rw [hids, hname]
  decide +kernel

end PbsListing

end JobLaunch
