import JobLaunch.Settings.Arguments
import Mathlib.Data.List.Forall2

/-!
# What batch settings demand

The settings of a batch job demand resources and options, each with its value. They are put into options of the
submission, one to a line of the script.

* `Demand` : one of them; `PbsBatch.demands`, `GridBatch.demands` : all of them;
* `Demand.Worded` : the demands that an option makes, apart from the demand for processors;
* `PbsBatch.Selects`, `GridBatch.Selects` : how processors are demanded;
* `Conveys` : options that make all demands, each of them once;
* `PbsBatch.conveys_directives`, `GridBatch.conveys_directives` : what the options of a job convey;
* `demands_conveyed` : both of them.
-/

namespace JobLaunch

/-- Something that the settings of a batch job demand. -/
inductive Demand where
  | nodes (count : UInt32)
  | cpus (count : UInt32)
  | environment (name : String)
  | time (limit : String)
  | queue (name : String)
  | account (name : String)
  | resource (key value : String)
  /-- A further option, which may be a flag. -/
  | further (key : String) (value : Option String)
  deriving DecidableEq

/-! ## Demands -/

/-- The demands that are made in the same way of both schedulers. -/
def Demand.common (time queue account : Option String) (resources : Dict String)
    (batchArgs : Dict (Option String)) : List Demand :=
  (time.map .time).toList ++ (queue.map .queue).toList ++ (account.map .account).toList ++
    resources.entries.map (fun e => .resource e.1 e.2) ++ batchArgs.entries.map fun e => .further e.1 e.2

/-- All that a batch job demands of PBS. -/
def PbsBatch.demands (b : PbsBatch) : List Demand :=
  (b.nodes.map .nodes).toList ++ (b.cpus.map .cpus).toList ++
    Demand.common b.time b.queue b.account b.resources b.batchArgs

/-- All that a batch job demands of Grid Engine. -/
def GridBatch.demands (b : GridBatch) : List Demand :=
  (b.parallelEnvironment.map .environment).toList ++ (b.cpus.map .cpus).toList ++
    Demand.common b.time b.queue b.account b.resources b.batchArgs

/-! ## Options -/

/-- The demands that an option makes. Schedulers differ in the option for the time, and in the options that select
processors. -/
inductive Demand.Worded (timeOption : String) (Selects : List Demand → String → Prop) : List Demand → String → Prop
  | selection {ds : List Demand} {option : String} (selects : Selects ds option) : Worded timeOption Selects ds option
  | time (limit : String) : Worded timeOption Selects [.time limit] (timeOption ++ limit)
  | queue (name : String) : Worded timeOption Selects [.queue name] ("-q " ++ name)
  | account (name : String) : Worded timeOption Selects [.account name] ("-A " ++ name)
  | resource (key value : String) : Worded timeOption Selects [.resource key value] ("-l " ++ key ++ "=" ++ value)
  | flag (key : String) : Worded timeOption Selects [.further key none] ("-" ++ bareKey key)
  | further (key value : String) :
    Worded timeOption Selects [.further key (some value)] ("-" ++ bareKey key ++ " " ++ value)

/-- PBS selects nodes, with so many processors each; processors alone are those of one node. -/
inductive PbsBatch.Selects : List Demand → String → Prop
  | both (nodes cpus : UInt32) : Selects [.nodes nodes, .cpus cpus]
      ("-l select=" ++ Decimal.text nodes.toNat ++ ":ncpus=" ++ Decimal.text cpus.toNat)
  | nodes (nodes : UInt32) : Selects [.nodes nodes] ("-l select=" ++ Decimal.text nodes.toNat)
  | cpus (cpus : UInt32) : Selects [.cpus cpus] ("-l select=1:ncpus=" ++ Decimal.text cpus.toNat)

/-- Grid Engine takes so many processors from a parallel environment. -/
inductive GridBatch.Selects : List Demand → String → Prop
  | both (name : String) (cpus : UInt32) : Selects [.environment name, .cpus cpus]
      ("-pe " ++ name ++ " " ++ Decimal.text cpus.toNat)

abbrev PbsBatch.Worded := Demand.Worded "-l walltime=" PbsBatch.Selects

/-- The options of Grid Engine. -/
abbrev GridBatch.Worded := Demand.Worded "-l h_rt=" GridBatch.Selects

/-- Options convey demands: each option makes some of them, and each of them is made by exactly one option. -/
def Conveys (Worded : List Demand → String → Prop) (demands : List Demand) (options : List String) : Prop :=
  ∃ groups, List.Forall₂ Worded groups options ∧ groups.flatten.Perm demands

namespace Conveys

variable {Worded : List Demand → String → Prop} {ds es : List Demand} {os ps : List String} {α : Type}

theorem nil : Conveys Worded [] [] := ⟨[], .nil, .refl []⟩

theorem single {option : String} (h : Worded ds option) : Conveys Worded ds [option] :=
  ⟨[ds], .cons h .nil, by simp⟩

theorem append (h : Conveys Worded ds os) (h' : Conveys Worded es ps) : Conveys Worded (ds ++ es) (os ++ ps) := by
  obtain ⟨groups, hworded, hperm⟩ := h
  obtain ⟨groups', hworded', hperm'⟩ := h'
  refine ⟨groups ++ groups', List.rel_append hworded hworded', ?_⟩
  rw [List.flatten_append]
  exact hperm.append hperm'

theorem map {demand : α → Demand} {option : α → String} (h : ∀ a, Worded [demand a] (option a)) (as : List α) :
    Conveys Worded (as.map demand) (as.map option) := by
  induction as with
  | nil => exact nil
  | cons a as ih => exact (single (h a)).append ih

theorem optional {demand : α → Demand} {option : α → String} (h : ∀ a, Worded [demand a] (option a)) (a : Option α) :
    Conveys Worded (a.map demand).toList (a.map option).toList := by
  cases a with
  | none => exact nil
  | some a => exact single (h a)

end Conveys

theorem Demand.conveys_common (timeOption : String) (Selects : List Demand → String → Prop)
    (time queue account : Option String) (resources : Dict String) (batchArgs : Dict (Option String)) :
    Conveys (Worded timeOption Selects) (common time queue account resources batchArgs)
      ((time.map (timeOption ++ ·)).toList ++ (queue.map ("-q " ++ ·)).toList ++ (account.map ("-A " ++ ·)).toList ++
        resources.entries.map resourceOption ++ freeOptions batchArgs) := by
  have hfurther : ∀ e : String × Option String,
      Worded timeOption Selects [.further e.1 e.2] (freeOption e.1 e.2) := by
    rintro ⟨key, _ | value⟩
    · exact .flag key
    · exact .further key value
  exact ((((Conveys.optional .time time).append (.optional .queue queue)).append (.optional .account account)).append
    (.map (fun e => .resource e.1 e.2) resources.entries)).append (.map hfurther batchArgs.entries)

/-- **The options of a job for PBS convey all that it demands.** -/
theorem PbsBatch.conveys_directives (b : PbsBatch) : Conveys PbsBatch.Worded b.demands b.directives := by
  have hselection : Conveys PbsBatch.Worded ((b.nodes.map Demand.nodes).toList ++ (b.cpus.map Demand.cpus).toList)
      b.selection := by
    unfold selection
    cases b.nodes with
    | none =>
      cases b.cpus with
      | none => exact .nil
      | some cpus => exact .single (.selection (.cpus cpus))
    | some nodes =>
      cases b.cpus with
      | none => exact .single (.selection (.nodes nodes))
      | some cpus => exact .single (.selection (.both nodes cpus))
  have h := hselection.append
    (Demand.conveys_common "-l walltime=" Selects b.time b.queue b.account b.resources b.batchArgs)
  simpa only [demands, directives, List.append_assoc] using h

namespace GridBatch

/-- A number of processors without a parallel environment, or the other way round. -/
def Unpaired (b : GridBatch) : Demand → Prop
  | .cpus _ => b.parallelEnvironment = none
  | .environment _ => b.cpus = none
  | _ => False

theorem conveys_selection (b : GridBatch) : ∃ conveyed left, Conveys GridBatch.Worded conveyed b.selection ∧
    (conveyed ++ left).Perm ((b.parallelEnvironment.map Demand.environment).toList ++ (b.cpus.map Demand.cpus).toList) ∧
    ∀ d ∈ left, b.Unpaired d := by
  unfold selection
  cases henvironment : b.parallelEnvironment with
  | none =>
    refine ⟨[], (b.cpus.map Demand.cpus).toList, .nil, .refl _, fun d hd => ?_⟩
    simp only [Option.mem_toList, Option.map_eq_some_iff] at hd
    obtain ⟨cpus, -, rfl⟩ := hd
    exact henvironment
  | some name =>
    cases hcpus : b.cpus with
    | none => exact ⟨[], [.environment name], .nil, .refl _, List.forall_mem_singleton.2 hcpus⟩
    | some cpus =>
      exact ⟨[.environment name, .cpus cpus], [], .single (.selection (.both name cpus)), .refl _, nofun⟩

/-- **The options of a job for Grid Engine convey all that it demands,** but for processors without a parallel
environment, or the other way round. -/
theorem conveys_directives (b : GridBatch) : ∃ conveyed left, Conveys GridBatch.Worded conveyed b.directives ∧
    (conveyed ++ left).Perm b.demands ∧ ∀ d ∈ left, b.Unpaired d := by
  obtain ⟨conveyed, left, hselection, hperm, hleft⟩ := b.conveys_selection
  have hcommon := Demand.conveys_common "-l h_rt=" Selects b.time b.queue b.account b.resources b.batchArgs
  refine ⟨conveyed ++ Demand.common b.time b.queue b.account b.resources b.batchArgs, left, ?_, ?_, hleft⟩
  · have h := hselection.append hcommon
    simpa only [directives, List.append_assoc] using h
  · -- what is left belongs to the selection, which is in front of the common demands
    rw [List.append_assoc]
    refine (List.perm_append_comm.append_left conveyed).trans ?_
    rw [← List.append_assoc]
    exact hperm.append_right _

end GridBatch

/-- **All that batch settings demand is conveyed,** each demand with its value in exactly one option, and the options
make no other demands. Grid Engine takes processors from a parallel environment: both are demanded together, and an
environment alone is no demand. -/
theorem demands_conveyed : (∀ b : PbsBatch, Conveys PbsBatch.Worded b.demands b.directives) ∧
    ∀ b : GridBatch, (∃ conveyed left, Conveys GridBatch.Worded conveyed b.directives ∧
        (conveyed ++ left).Perm b.demands ∧ ∀ d ∈ left, b.Unpaired d) ∧
      ({ b with cpus := none } : GridBatch).directives =
        ({ b with cpus := none, parallelEnvironment := none } : GridBatch).directives := by
  refine ⟨PbsBatch.conveys_directives, fun b => ⟨b.conveys_directives, ?_⟩⟩
  unfold GridBatch.directives GridBatch.selection
  cases b.parallelEnvironment <;> rfl

/-- An environment alone is in no option at all. -/
theorem demands_conveyed_fails :
    let b : GridBatch := { parallelEnvironment := some "mpi" }
    b.demands = [.environment "mpi"] ∧ b.directives = [] ∧ ∀ Worded, ¬ Conveys Worded b.demands b.directives := by
  intro b
  refine ⟨rfl, rfl, ?_⟩
  rintro Worded ⟨groups, hworded, hperm⟩
  have hnone : b.directives = [] := rfl
  rw [hnone, List.forall₂_nil_right_iff] at hworded
  subst hworded
  cases hperm.length_eq

end JobLaunch
