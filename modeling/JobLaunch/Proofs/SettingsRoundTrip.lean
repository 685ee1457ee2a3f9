import JobLaunch.Config
import JobLaunch.Proofs.JsonVariant

/-!
# Settings and configuration read back

* `Json.Number.overflows_eq_false` : a whole number of 64 bits is within the range of a float;
* `Json.survives_text`, `Json.survives_flags`, … : what the fields of a record write is read back;
* `Config.survives`, `PbsBatch.survives`, `GridBatch.survives`, `RunSettings.ofJson?_variant` : so is each record, with
  its members in any order and without some of those that hold their defaults;
* `Settings.exists_untag` : the kind may stand anywhere among the members;
* `Settings.tame`, `Config.tame` : neither nests too deep, and no number is out of range;
* `settings_and_config_read_back` : settings and configuration are read back from each of their texts.
-/

namespace JobLaunch

namespace Json

/-! ## Numbers within the range of a float -/

namespace Number

theorem extend_eq_of_lt (ds : List Nat) (s : Nat) (h : ds.foldl (fun n d => 10 * n + d) s < UInt64.size) :
    extend s ds = (ds.foldl (fun n d => 10 * n + d) s, []) := by
  induction ds generalizing s with
  | nil => rfl
  | cons d ds ih =>
    -- a longer numeral is no smaller, so no digit on the way is dropped
    have hgrows : ∀ (ds : List Nat) (s : Nat), s ≤ ds.foldl (fun n d => 10 * n + d) s := by
      intro ds
      induction ds with
      | nil => exact fun s => Nat.le_refl s
      | cons d ds ih =>
        intro s
        have hrest := ih (10 * s + d)
        rw [List.foldl_cons]
        omega
    rw [List.foldl_cons] at h ⊢
    have hfits : 10 * s + d < UInt64.size := Nat.lt_of_le_of_lt (hgrows ds (10 * s + d)) h
    rw [extend, if_pos hfits, ih (10 * s + d) h]

theorem foldl_digitList (n : Nat) : (digitList n).foldl (fun n d => 10 * n + d) 0 = n := by
  rw [digitList, List.foldl_map]
  exact Nat.ofDigitChars_toDigits (by decide) (by decide)

theorem round53_le (n : Nat) : round53 n ≤ 2 * n := by
  rcases Nat.eq_zero_or_pos n with rfl | hpos
  · decide
  · unfold round53
    have hunit : 1 <<< (n.log2 + 1 - 53) ≤ n := by
      have hpow : 2 ^ (n.log2 + 1 - 53) ≤ 2 ^ n.log2 := Nat.pow_le_pow_right (by decide) (by omega)
      rw [Nat.shiftLeft_eq, Nat.one_mul]
      exact Nat.le_trans hpow (Nat.log2_self_le (Nat.ne_of_gt hpos))
    have hwhole := Nat.div_mul_le_self n (1 <<< (n.log2 + 1 - 53))
    dsimp only
    split
    · rw [Nat.add_mul, Nat.one_mul]
      omega
    · omega

theorem overflows_eq_false {n : Nat} (h : n < UInt64.size) : overflows (.integer n) = false := by
  have hsize : (digitList n).foldl (fun n d => 10 * n + d) 0 < UInt64.size := by
    rw [foldl_digitList]
    exact h
  have hscaled : scaled (digitList n) [] 0 = (n, 0) := by
    rw [scaled, extend_eq_of_lt _ _ hsize, foldl_digitList]
    rfl
  have hproduct : ¬ round53 (round53 n * round53 (Nat.pow 10 0)) ≥ 1 <<< 1024 := by
    have hone : round53 (Nat.pow 10 0) = 1 := by decide
    have hfirst := round53_le n
    have hsecond := round53_le (round53 n)
    have hlimit : 4 * UInt64.size < 1 <<< 1024 := by decide
    rw [hone, Nat.mul_one]
    omega
  have hparts : overflows (.integer n) = exceeds (scaled (digitList n) [] 0).1 (scaled (digitList n) [] 0).2 := rfl
  rw [hparts, hscaled]
  show (n != 0 && (decide (0 > 308) || decide (round53 (round53 n * round53 (Nat.pow 10 0)) ≥ 1 <<< 1024))) = false
  rw [decide_eq_false hproduct, Bool.or_false]
  simp

end Number

/-! ## Fields -/

theorem tame_str (n : Nat) (s : String) : Tame n (str s) := ⟨rfl, rfl, Nat.zero_le n⟩

theorem tame_nat (n : Nat) {i : Nat} (h : i < UInt64.size) : Tame n (nat i) := by
  refine ⟨rfl, ?_, Nat.zero_le n⟩
  show (!Number.overflows (.integer i)) = true
  rw [Number.overflows_eq_false h]
  rfl

theorem tame_opt {α : Type} {n : Nat} {write : α → Json} (h : ∀ a, Tame n (write a)) (o : Option α) :
    Tame n (opt write o) := by
  cases o with
  | none => exact ⟨rfl, rfl, Nat.zero_le n⟩
  | some a => exact h a

theorem tame_obj {n : Nat} {ms : List (String × Json)} (h : ∀ m ∈ ms, Tame n m.2) : Tame (n + 1) (obj ms) := by
  refine tame_object_iff.2 fun m hm => ?_
  obtain ⟨named, hnamed, rfl⟩ := List.mem_map.1 hm
  exact ⟨rfl, h named hnamed⟩

theorem tame_flags (n : Nat) (d : Dict (Option String)) : Tame (n + 1) (flagsToJson d) := by
  refine tame_obj fun m hm => ?_
  obtain ⟨e, -, rfl⟩ := List.mem_map.1 hm
  exact tame_opt (tame_str n) e.2

theorem tame_texts (n : Nat) (d : Dict String) : Tame (n + 1) (d.toJson str) := by
  refine tame_obj fun m hm => ?_
  obtain ⟨e, -, rfl⟩ := List.mem_map.1 hm
  exact tame_str n e.2

theorem tame_strs (n : Nat) (ss : List String) : Tame (n + 1) (strs ss) := by
  have helements : wholeElements (ss.map str) = true ∧ readableElements (ss.map str) = true ∧
      depthElements (ss.map str) = 0 := by
    induction ss with
    | nil => exact ⟨rfl, rfl, rfl⟩
    | cons s ss ih =>
      obtain ⟨whole, readable, depth⟩ := ih
      rw [List.map_cons]
      refine ⟨?_, ?_, ?_⟩
      · rw [wholeElements, whole]
        rfl
      · rw [readableElements, readable]
        rfl
      · rw [depthElements, depth]
        rfl
  refine ⟨helements.1, helements.2.1, ?_⟩
  show depthElements (ss.map str) + 1 ≤ n + 1
  rw [helements.2.2]
  omega

theorem tame_count (n : Nat) (o : Option UInt32) : Tame n (countToJson o) :=
  tame_opt (fun i => tame_nat n (Nat.lt_trans i.toNat_lt (by decide))) o

variable {default : String}

theorem survives_text : Survives default str text? := survives_of_plain (by intro a ms h; cases h) fun _ => rfl

theorem survives_opt_text : Survives none (opt str) (nullable? text?) := by
  refine survives_of_plain ?_ ?_
  · intro a ms h
    cases a <;> cases h
  · intro a
    cases a <;> rfl

theorem list?_strs (ss : List String) : list? text? (strs ss) = some ss := by
  show (ss.map str).mapM text? = some ss
  induction ss with
  | nil => rfl
  | cons s ss ih =>
    rw [List.map_cons, List.mapM_cons, ih]
    rfl

theorem survives_strs : Survives [] strs (list? text?) :=
  survives_of_plain (by intro a ms h; cases h) list?_strs

theorem uint32?_nat (n : UInt32) : uint32? (nat n.toNat) = some n := by
  show (if n.toNat < UInt32.size then some n.toNat else none).map UInt32.ofNat = some n
  rw [if_pos n.toNat_lt, Option.map_some, UInt32.ofNat_toNat]

theorem uint64?_nat (n : UInt64) : uint64? (nat n.toNat) = some n := by
  show (if n.toNat < UInt64.size then some n.toNat else none).map UInt64.ofNat = some n
  rw [if_pos n.toNat_lt, Option.map_some, UInt64.ofNat_toNat]

theorem survives_uint32 (default : UInt32) : Survives default (fun n => nat n.toNat) uint32? :=
  survives_of_plain (by intro a ms h; cases h) uint32?_nat

theorem survives_uint64 (default : UInt64) : Survives default (fun n => nat n.toNat) uint64? :=
  survives_of_plain (by intro a ms h; cases h) uint64?_nat

theorem survives_count : Survives none countToJson (nullable? uint32?) := by
  refine survives_of_plain ?_ ?_
  · intro a ms h
    cases a <;> cases h
  · intro a
    cases a with
    | none => rfl
    | some n =>
      show (uint32? (nat n.toNat)).map some = _
      rw [uint32?_nat, Option.map_some]

theorem survives_texts : Survives ∅ (Dict.toJson str) (dict? text?) := by
  refine survives_dict fun s j h => ?_
  rw [h.eq_of_plain (by intro ms heq; cases heq)]
  rfl

theorem survives_flags : Survives ∅ flagsToJson flagsOfJson? := by
  refine survives_dict fun o j h => ?_
  rw [h.eq_of_plain (by intro ms heq; cases o <;> cases heq)]
  cases o <;> rfl

end Json

open Json (Survives Variant)

/-! ## Records -/

theorem SupervisorConfig.survives : Survives {} SupervisorConfig.toJson SupervisorConfig.ofJson? := by
  intro c j h
  obtain ⟨written, hread, tells⟩ := h.exists_record
    [.defaulted "poll_interval_ms", .defaulted "shutdown_timeout_ms"] rfl (by decide)
  simp only [List.forall_mem_cons] at tells
  obtain ⟨hpoll, htimeout, -⟩ := tells
  have poll := (Json.survives_uint64 _).orElse hpoll rfl
  have timeout := (Json.survives_uint64 _).orElse htimeout rfl
  simp only [ofJson?, hread, poll, timeout, Option.bind_eq_bind, Option.bind_some]

theorem RetryConfig.survives : Survives {} RetryConfig.toJson RetryConfig.ofJson? := by
  intro c j h
  obtain ⟨written, hread, tells⟩ := h.exists_record
    [.defaulted "attempts", .defaulted "interval_ms"] rfl (by decide)
  simp only [List.forall_mem_cons] at tells
  obtain ⟨hattempts, hinterval, -⟩ := tells
  have attempts := (Json.survives_uint32 _).orElse hattempts rfl
  have interval := (Json.survives_uint64 _).orElse hinterval rfl
  simp only [ofJson?, hread, attempts, interval, Option.bind_eq_bind, Option.bind_some]

theorem Config.survives : Survives {} Config.toJson Config.ofJson? := by
  intro c j h
  obtain ⟨written, hread, tells⟩ := h.exists_record
    [.defaulted "supervisor", .defaulted "id_resolution"] rfl (by decide)
  simp only [List.forall_mem_cons] at tells
  obtain ⟨hsupervisor, hresolution, -⟩ := tells
  have supervisor := SupervisorConfig.survives.orElse hsupervisor rfl
  have resolution := RetryConfig.survives.orElse hresolution rfl
  simp only [ofJson?, hread, supervisor, resolution, Option.bind_eq_bind, Option.bind_some]

theorem PbsBatch.survives : Survives {} (fun b => Json.obj b.members) PbsBatch.ofJson? := by
  intro b j h
  obtain ⟨written, hread, tells⟩ := h.exists_record fields rfl (by decide)
  simp only [members, List.forall_mem_cons] at tells
  obtain ⟨hsubmit, hshebang, hnodes, hcpus, htime, hqueue, haccount, hresources, hargs, hpreamble, -⟩ := tells
  have submit := Json.survives_text.orElse hsubmit rfl
  have shebang := Json.survives_text.orElse hshebang rfl
  have nodes := Json.survives_count.orElse hnodes rfl
  have cpus := Json.survives_count.orElse hcpus rfl
  have time := Json.survives_opt_text.orElse htime rfl
  have queue := Json.survives_opt_text.orElse hqueue rfl
  have account := Json.survives_opt_text.orElse haccount rfl
  have resources := Json.survives_texts.orElse hresources rfl
  have batchArgs := Json.survives_flags.orElse hargs rfl
  have preamble := Json.survives_strs.orElse hpreamble rfl
  simp only [ofJson?, hread, submit, shebang, nodes, cpus, time, queue, account, resources, batchArgs, preamble,
    Option.bind_eq_bind, Option.bind_some]

theorem GridBatch.survives : Survives {} (fun b => Json.obj b.members) GridBatch.ofJson? := by
  intro b j h
  obtain ⟨written, hread, tells⟩ := h.exists_record fields rfl (by decide)
  simp only [members, List.forall_mem_cons] at tells
  obtain ⟨hsubmit, hshebang, hcpus, henvironment, htime, hqueue, haccount, hresources, hargs, hpreamble, -⟩ := tells
  have submit := Json.survives_text.orElse hsubmit rfl
  have shebang := Json.survives_text.orElse hshebang rfl
  have cpus := Json.survives_count.orElse hcpus rfl
  have environment := Json.survives_opt_text.orElse henvironment rfl
  have time := Json.survives_opt_text.orElse htime rfl
  have queue := Json.survives_opt_text.orElse hqueue rfl
  have account := Json.survives_opt_text.orElse haccount rfl
  have resources := Json.survives_texts.orElse hresources rfl
  have batchArgs := Json.survives_flags.orElse hargs rfl
  have preamble := Json.survives_strs.orElse hpreamble rfl
  simp only [ofJson?, hread, submit, shebang, cpus, environment, time, queue, account, resources, batchArgs, preamble,
    Option.bind_eq_bind, Option.bind_some]

namespace RunSettings

/-- The members of a directly started executable that hold their defaults; the executable has none. -/
def defaults : Json := Json.obj (members { exe := "" }).tail

theorem ofJson?_variant {r : RunSettings} {j : Json} (h : Variant defaults (Json.obj r.members) j) :
    ofJson? j = some r := by
  obtain ⟨written, hread, tells⟩ := h.exists_record fields rfl (by decide)
  simp only [members, List.forall_mem_cons] at tells
  obtain ⟨hexe, hexeArgs, hrunArgs, henv, -⟩ := tells
  have exe := hexe.need Json.text? rfl (by intro ms h; cases h) rfl
  have exeArgs := Json.survives_strs.orElse hexeArgs rfl
  have runArgs := Json.survives_flags.orElse hrunArgs rfl
  have env := Json.survives_texts.orElse henv rfl
  simp only [ofJson?, hread, exe, exeArgs, runArgs, env, Option.bind_eq_bind, Option.bind_some]

end RunSettings

/-! ## The kind among the members -/

namespace Settings

/-- The members that hold their defaults, for each way to launch. The kind has none. -/
def defaults : Kind → Json
  | .pbsBatch => Json.obj (PbsBatch.members {})
  | .gridBatch => Json.obj (GridBatch.members {})
  | _ => RunSettings.defaults

theorem Kind.ofTag?_tag (k : Kind) : Kind.ofTag? k.tag = some k := by
  cases k <;> rfl

theorem exists_untag {standard j : Json} {k : Kind} {rest : List (Option String × Json)}
    (h : Variant standard (.object ((some "kind", Json.str k.tag) :: rest)) j)
    (named : standard.at? (some "kind") = none) (other : some "kind" ∉ rest.map (·.1)) :
    ∃ j', untag? j = some (k, j') ∧ Variant standard (.object rest) j' := by
  obtain ⟨kept, ms, rfl, hkeeps, horder⟩ := h.exists_keeps
  cases hkeeps with
  | leave default =>
    rw [named] at default
    cases default
  | keep varied hrest =>
    rename_i tag kept
    obtain rfl : tag = Json.str k.tag := varied.eq_of_plain (by intro ms h; cases h)
    have hnone : ∀ m ∈ kept, isKindMember m = false := by
      intro m hm
      have hkey := hrest.keys_sublist.subset (List.mem_map.2 ⟨m, hm, rfl⟩)
      rw [isKindMember, beq_eq_false_iff_ne]
      exact fun heq => other (heq ▸ hkey)
    have htags : ms.filter isKindMember = [(some "kind", Json.str k.tag)] := by
      have hperm := horder.filter isKindMember
      rw [List.filter_cons_of_pos rfl, List.filter_eq_nil_iff.2 fun m hm => by simp [hnone m hm]] at hperm
      exact List.perm_singleton.1 hperm.symm
    have hothers : kept.Perm (ms.filter (!isKindMember ·)) := by
      have hperm := horder.filter (!isKindMember ·)
      rwa [List.filter_cons_of_neg Bool.false_ne_true, List.filter_eq_self.2 fun m hm => by simp [hnone m hm]] at hperm
    refine ⟨.object (ms.filter (!isKindMember ·)), ?_, .object hrest hothers⟩
    rw [untag?, htags]
    show ((Kind.ofTag? k.tag).map fun k => (k, Json.object _)) = _
    rw [Kind.ofTag?_tag, Option.map_some]

theorem tame_run (r : RunSettings) : ∀ m ∈ r.members, Json.Tame 1 m.2 := by
  simp only [RunSettings.members, List.forall_mem_cons]
  exact ⟨Json.tame_str 1 _, Json.tame_strs 0 _, Json.tame_flags 0 _, Json.tame_texts 0 _, nofun⟩

theorem tame (s : Settings) : Json.Tame 2 s.toJson := by
  refine Json.tame_obj (List.forall_mem_cons.2 ⟨Json.tame_str 1 _, ?_⟩)
  cases s with
  | pbsBatch b =>
    simp only [members, PbsBatch.members, List.forall_mem_cons]
    exact ⟨Json.tame_str 1 _, Json.tame_str 1 _, Json.tame_count 1 _, Json.tame_count 1 _,
      Json.tame_opt (Json.tame_str 1) _, Json.tame_opt (Json.tame_str 1) _, Json.tame_opt (Json.tame_str 1) _,
      Json.tame_texts 0 _, Json.tame_flags 0 _, Json.tame_strs 0 _, nofun⟩
  | gridBatch b =>
    simp only [members, GridBatch.members, List.forall_mem_cons]
    exact ⟨Json.tame_str 1 _, Json.tame_str 1 _, Json.tame_count 1 _, Json.tame_opt (Json.tame_str 1) _,
      Json.tame_opt (Json.tame_str 1) _, Json.tame_opt (Json.tame_str 1) _, Json.tame_opt (Json.tame_str 1) _,
      Json.tame_texts 0 _, Json.tame_flags 0 _, Json.tame_strs 0 _, nofun⟩
  | aprun r => exact tame_run r
  | mpirun r => exact tame_run r
  | plain r => exact tame_run r

theorem ofFields?_variant {s : Settings} {j : Json} (h : Variant (defaults s.kind) (Json.obj s.members) j) :
    ofFields? s.kind j = some s := by
  cases s with
  | pbsBatch b => rw [kind, ofFields?, PbsBatch.survives b j h, Option.map_some]
  | gridBatch b => rw [kind, ofFields?, GridBatch.survives b j h, Option.map_some]
  | aprun r => rw [kind, ofFields?, RunSettings.ofJson?_variant h, Option.map_some]
  | mpirun r => rw [kind, ofFields?, RunSettings.ofJson?_variant h, Option.map_some]
  | plain r => rw [kind, ofFields?, RunSettings.ofJson?_variant h, Option.map_some]

theorem ofJson?_variant {s : Settings} {j : Json} (h : Variant (defaults s.kind) s.toJson j) : ofJson? j = some s := by
  have hstorable : j.isStorable = true := by
    have htame := h.tame s.tame
    rw [Json.isStorable, Bool.and_eq_true, decide_eq_true_eq]
    exact ⟨Nat.le_trans htame.depth (by decide), htame.readable⟩
  have hother : some "kind" ∉ (Json.keyed s.members).map (·.1) := by
    rw [Json.keys_keyed]
    cases s <;> exact of_decide_eq_false rfl
  have hnone : (defaults s.kind).at? (some "kind") = none := by
    cases s <;> rfl
  obtain ⟨j', huntag, hvaried⟩ := exists_untag h hnone hother
  rw [ofJson?, if_pos hstorable, huntag, Option.bind_some]
  exact ofFields?_variant hvaried

end Settings

/-! ## Texts -/

theorem Config.tame (c : Config) : Json.Tame 2 c.toJson := by
  have hsupervisor : Json.Tame 1 c.supervisor.toJson := by
    refine Json.tame_obj ?_
    simp only [List.forall_mem_cons]
    exact ⟨Json.tame_nat 0 (UInt64.toNat_lt _), Json.tame_nat 0 (UInt64.toNat_lt _), nofun⟩
  have hresolution : Json.Tame 1 c.idResolution.toJson := by
    refine Json.tame_obj ?_
    simp only [List.forall_mem_cons]
    exact ⟨Json.tame_nat 0 (Nat.lt_trans (UInt32.toNat_lt _) (by decide)), Json.tame_nat 0 (UInt64.toNat_lt _), nofun⟩
  refine Json.tame_obj ?_
  simp only [List.forall_mem_cons]
  exact ⟨hsupervisor, hresolution, nofun⟩

/-- **Settings and configuration are read back from each of their texts:** the one that is written, and all that have the
members in other orders and lack some of those that hold their defaults. -/
theorem settings_and_config_read_back :
    (∀ (s : Settings) (j : Json), Variant (Settings.defaults s.kind) s.toJson j →
        (Json.read? j.render).bind Settings.ofJson? = some s) ∧
      ∀ (c : Config) (j : Json), Variant (Config.toJson {}) c.toJson j →
        (Json.read? j.render).bind Config.ofJson? = some c := by
  constructor
  · intro s j h
    rw [Json.read?_render (h.tame s.tame).whole, Option.bind_some]
    exact Settings.ofJson?_variant h
  · intro c j h
    rw [Json.read?_render (h.tame c.tame).whole, Option.bind_some]
    exact Config.survives c j h

/-- The arguments before the executable, and the kind last; and a single field of a configuration. -/
theorem settings_and_config_read_back_partial :
    (Json.read? "\x7b\"exe_args\":[\"--steps\",\"10\"],\"exe\":\"./sim\",\"kind\":\"mpirun\"\x7d").bind Settings.ofJson? =
        some (.mpirun { exe := "./sim", exeArgs := ["--steps", "10"] }) ∧
      (Json.read? "\x7b\"id_resolution\":\x7b\"attempts\":3\x7d\x7d").bind Config.ofJson? =
        some { idResolution := { attempts := 3 } } := by
  constructor
  · exact settings_and_config_read_back.1 (.mpirun { exe := "./sim", exeArgs := ["--steps", "10"] })
      (Json.obj [("exe_args", Json.strs ["--steps", "10"]), ("exe", Json.str "./sim"), ("kind", Json.str "mpirun")])
      (.object (.keep (.same _ _) (.keep (.same _ _) (.keep (.same _ _) (.leave rfl (.leave rfl (.nil _))))))
        ((List.Perm.swap _ _ _).trans (((List.Perm.swap _ _ _).cons _).trans (.swap _ _ _))))
  · exact settings_and_config_read_back.2 { idResolution := { attempts := 3 } }
      (Json.obj [("id_resolution", Json.obj [("attempts", Json.nat 3)])])
      (.object (.leave rfl (.keep (.object (.keep (.same _ _) (.leave rfl (.nil _))) (.refl _)) (.nil _))) (.refl _))

end JobLaunch
