import Mathlib.Algebra.BigOperators.Group.Finset.Basic
import Mathlib.Algebra.BigOperators.Group.List.Basic
import SchemaRouting.Proofs.Pipeline.Measures
import SchemaRouting.Proofs.Route.Compilations
import SchemaRouting.Proofs.Route.Serving

/-!
# The metrics of a history

A history is a sequence of jobs: routes are compiled and requests are served, one after the other
(`Job.after`). Its metrics count what happened in it: a request that a route accepts is dispatched
(`Dispatched`), and a route is compiled by a call of a compiler (`Compilation`). Each of these is
measured by itself (`Dispatched.measures`, `Compilation.measures`), a request that is refused is
not, and a history is measured for what its jobs did (`Job.count_measures_afterAll`). So the metrics
balance: as many requests leave as enter, each of them with one outcome and one duration
(`Job.metrics_balance`).
-/

set_option autoImplicit false
set_option relaxedAutoImplicit false

namespace SchemaRouting

open Schema (CatalogDefinition Compiler Source)
open Telemetry (Measure measures measures_append total)

variable {σ : Type}

/-! ### Measures and their series -/

/-- Where each member of a list has something at most once, it is counted by those that have it. -/
theorem count_flatMap_eq_countP {α β : Type} [DecidableEq β] {f : α → List β} {b : β}
    {p : α → Prop} [DecidablePred p] (h : ∀ a, (f a).count b = if p a then 1 else 0)
    (l : List α) : (l.flatMap f).count b = l.countP fun a ↦ p a := by
  induction l with
  | nil => rfl
  | cons a rest ih =>
    rw [List.flatMap_cons, List.count_append, ih, h, List.countP_cons]
    by_cases ha : p a <;> simp [ha, Nat.add_comm]

namespace Telemetry

theorem measures_event_cons (level : Level) (message : String) (fields : List (String × Json))
    (notes : List Note) : measures (event level message fields :: notes) = measures notes := rfl

/-- No two measures add to one series. -/
theorem Measure.series_injective {m m' : Measure} (h : m.series = m'.series) : m = m' := by
  cases m <;> cases m' <;>
    simp_all [series, dispatchInFlight, dispatchTotal, dispatchDuration, validationFailures,
      routesCompiled]

/-- A series shows how often there was its measure. -/
theorem total_series (m : Measure) (notes : List Note) :
    total m.series notes = (measures notes).count m := by
  rw [total, ← List.countP_eq_length_filter, List.count]
  refine List.countP_congr fun m' _ ↦ ?_
  rw [decide_eq_true_iff, beq_iff_eq]
  exact ⟨Measure.series_injective, congrArg Measure.series⟩

end Telemetry

/-! ### Requests that are dispatched -/

/-- A request that a route accepts: its guard lets the request pass, and the path matches. -/
structure Dispatched (σ : Type) where
  route : CompiledRoute σ
  shared : Shared σ
  request : Request (Factory σ)
  params : Path.Params
  accepted : route.accept request = .ok params

namespace Dispatched

variable (d : Dispatched σ)

/-- The label that the dispatch is counted under. -/
def label : String := d.route.pipeline.label

/-- The state that its first step is run on. -/
def start : Dispatch.State σ := d.route.start d.shared d.request d.params

def outcome : Outcome := (Dispatch.runSteps d.route.pipeline.steps d.start).1

/-- A validating step of a stage stops it. -/
def RejectedAt (stage : String) : Prop := Dispatch.RejectedAt stage d.route.pipeline.steps d.start

instance (stage : String) : Decidable (d.RejectedAt stage) :=
  inferInstanceAs (Decidable (Dispatch.RejectedAt stage d.route.pipeline.steps d.start))

/-- What a dispatch is measured by. -/
def measures : List Measure :=
  .entered :: (((Dispatch.rejection? d.route.pipeline.steps d.start).map Measure.rejected).toList ++
    [.dispatched d.label d.outcome.label, .timed d.label, .left])

/-- Whether a dispatch is measured by a measure. -/
def Counts : Measure → Prop
  | .entered | .left => True
  | .dispatched label outcome => d.label = label ∧ d.outcome.label = outcome
  | .timed label => d.label = label
  | .rejected stage => d.RejectedAt stage
  | .compiled _ => False

instance : DecidablePred d.Counts
  | .entered | .left => inferInstanceAs (Decidable True)
  | .dispatched _ _ => inferInstanceAs (Decidable (_ ∧ _))
  | .timed _ => inferInstanceAs (Decidable (_ = _))
  | .rejected stage => inferInstanceAs (Decidable (d.RejectedAt stage))
  | .compiled _ => inferInstanceAs (Decidable False)

/-- A dispatch is measured once by each measure that counts it. -/
theorem count_measures (m : Measure) : d.measures.count m = if d.Counts m then 1 else 0 := by
  have hrejected : ∀ stage, d.RejectedAt stage ↔
      Dispatch.rejection? d.route.pipeline.steps d.start = some stage :=
    fun _ ↦ Dispatch.rejection?_eq_some_iff.symm
  cases m <;> simp only [Counts, measures, hrejected] <;>
    cases Dispatch.rejection? d.route.pipeline.steps d.start <;> simp [List.count_cons] <;> congr

theorem outcome_label : d.outcome.label = "completed" ∨ d.outcome.label = "halted" ∨
    d.outcome.label = "failed" := by
  cases d.outcome with
  | completed => exact .inl rfl
  | halted step => exact .inr (.inl rfl)
  | failed step e => exact .inr (.inr rfl)

/-- The dispatches of a label, by their outcomes. -/
theorem countP_outcomes (label : String) (ds : List (Dispatched σ)) :
    ds.countP (fun d ↦ d.label = label ∧ d.outcome.label = "completed") +
        ds.countP (fun d ↦ d.label = label ∧ d.outcome.label = "halted") +
        ds.countP (fun d ↦ d.label = label ∧ d.outcome.label = "failed") =
      ds.countP fun d ↦ d.label = label := by
  induction ds with
  | nil => rfl
  | cons d rest ih =>
    simp only [List.countP_cons, ← ih]
    by_cases hlabel : d.label = label
    · rcases d.outcome_label with houtcome | houtcome | houtcome <;>
        simp [hlabel, houtcome] <;> omega
    · simp [hlabel]

/-- Every dispatch has one label. -/
theorem sum_countP_label {labels : Finset String} {ds : List (Dispatched σ)}
    (h : ∀ d ∈ ds, d.label ∈ labels) :
    ∑ label ∈ labels, ds.countP (fun d ↦ d.label = label) = ds.length := by
  have hcount : ∀ label, ds.countP (fun d ↦ d.label = label) =
      (↑(ds.map Dispatched.label) : Multiset String).count label := by
    intro label
    rw [Multiset.coe_count, List.count, List.countP_map]
    rfl
  have hlabels : ∀ label ∈ (↑(ds.map Dispatched.label) : Multiset String), label ∈ labels := by
    intro label hlabel
    obtain ⟨d, hd, rfl⟩ := List.mem_map.mp (Multiset.mem_coe.mp hlabel)
    exact h d hd
  simp only [hcount]
  rw [Multiset.sum_count_eq_card hlabels, Multiset.coe_card, List.length_map]

end Dispatched

namespace CompiledRoute

variable {r : CompiledRoute σ} {shared : Shared σ} {request : Request (Factory σ)}

/-- The dispatch of a request, if the route accepts it. -/
def dispatches (r : CompiledRoute σ) (shared : Shared σ) (request : Request (Factory σ)) :
    List (Dispatched σ) :=
  match h : r.accept request with
  | .ok params => [⟨r, shared, request, params, h⟩]
  | .error _ => []

theorem dispatches_of_accept {params : Path.Params} (h : r.accept request = .ok params) :
    r.dispatches shared request = [⟨r, shared, request, params, h⟩] := by
  rw [dispatches]
  split
  · rename_i params' h'
    cases h.symm.trans h'
    rfl
  · rename_i e h'
    cases h.symm.trans h'

theorem dispatches_of_refuse {e : RouteError} (h : r.accept request = .error e) :
    r.dispatches shared request = [] := by
  rw [dispatches]
  split
  · rename_i params' h'
    cases h.symm.trans h'
  · rfl

/-- A route is measured for the requests that it accepts. -/
theorem measures_handle (r : CompiledRoute σ) (shared : Shared σ) (request : Request (Factory σ)) :
    measures (r.handle shared request).2.notes =
      measures shared.notes ++ (r.dispatches shared request).flatMap Dispatched.measures := by
  cases haccept : r.accept request with
  | error e =>
    rw [dispatches_of_refuse haccept, handle, run_of_refuses (accept_eq_error_iff.mp haccept)]
    exact (Step.measures_events _ _ _ _).trans (List.append_nil _).symm
  | ok params =>
    rw [dispatches_of_accept haccept, handle, run_of_accept haccept, List.flatMap_singleton]
    exact Dispatch.measures_run r.pipeline _

end CompiledRoute

/-- What serves a request: a route, or a table of them. -/
inductive Target (σ : Type)
  | route (r : CompiledRoute σ)
  | table (t : RouteTable σ)

namespace Target

def handle : Target σ → Shared σ → Request (Factory σ) → Response × Shared σ
  | route r => r.handle
  | table t => t.handle

/-- The route that a request is handled by. -/
def route? : Target σ → Request (Factory σ) → Option (CompiledRoute σ)
  | route r, _ => some r
  | table t, request => t.find? request.method request.path

/-- The dispatch of a request, if there is a route that accepts it. -/
def dispatches (target : Target σ) (shared : Shared σ) (request : Request (Factory σ)) :
    List (Dispatched σ) :=
  match target.route? request with
  | some r => r.dispatches shared request
  | none => []

/-- Whether a request is accepted by the route that it is handled by. -/
def accepts (target : Target σ) (request : Request (Factory σ)) : Bool :=
  (target.route? request).any fun r ↦ (r.accept request).isOk

theorem accepts_iff {target : Target σ} {request : Request (Factory σ)} :
    target.accepts request = true ↔ ∃ r params, target.route? request = some r ∧
      r.guard request.method request.contentType? = .ok () ∧
      r.pattern.extract request.path = .ok params := by
  rw [accepts]
  cases target.route? request with
  | none => simp
  | some r =>
    simp only [Option.any_some, Option.some.injEq, exists_and_left, exists_eq_left',
      ← CompiledRoute.accept_eq_ok_iff]
    cases r.accept request <;> simp [Except.isOk, Except.toBool]

theorem length_dispatches (target : Target σ) (shared : Shared σ)
    (request : Request (Factory σ)) : (target.dispatches shared request).length =
      if target.accepts request = true then 1 else 0 := by
  rw [dispatches, accepts]
  cases target.route? request with
  | none => rfl
  | some r =>
    cases haccept : r.accept request with
    | error e =>
      simp [CompiledRoute.dispatches_of_refuse haccept, haccept, Except.isOk, Except.toBool]
    | ok params =>
      simp [CompiledRoute.dispatches_of_accept haccept, haccept, Except.isOk, Except.toBool]

theorem measures_handle (target : Target σ) (shared : Shared σ) (request : Request (Factory σ)) :
    measures (target.handle shared request).2.notes =
      measures shared.notes ++ (target.dispatches shared request).flatMap Dispatched.measures := by
  cases target with
  | route r => exact r.measures_handle shared request
  | table t =>
    rw [handle, dispatches, route?, RouteTable.handle]
    cases t.find? request.method request.path with
    | some r => exact r.measures_handle shared request
    | none => exact (Step.measures_events _ _ _ _).trans (List.append_nil _).symm

end Target

/-! ### Histories -/

/-- One thing that is done: routes are compiled, by themselves or to be mounted, or a request is
served. -/
inductive Job (σ : Type)
  | compile (c : Compiler σ) (source : Source σ) (schemaId routeId : String)
  | compileAll (c : Compiler σ) (source : Source σ) (schemaId : String)
  | mountSchema (c : Compiler σ) (source : Source σ) (schemaId : String)
  | ofCatalog (c : Compiler σ) (catalog : CatalogDefinition σ) (listed : List String)
  | ofConfig (c : Compiler σ) (folder : Folder) (config : Config)
  | serve (target : Target σ) (request : Request (Factory σ))
  | serveHttp (target : Target σ) (incoming : Http.Incoming)

def Shared.noted (shared : Shared σ) (notes : List Telemetry.Note) : Shared σ :=
  { shared with notes := shared.notes ++ notes }

namespace Job

/-- What a job leaves. -/
def after : Job σ → Shared σ → Shared σ
  | compile c source schemaId routeId, shared =>
    shared.noted (c.compileNotes source schemaId routeId)
  | compileAll c source schemaId, shared => shared.noted (c.compileAllNotes source schemaId)
  | mountSchema c source schemaId, shared =>
    shared.noted (RouteTable.mountNotes c source schemaId)
  | ofCatalog c catalog listed, shared =>
    shared.noted (RouteTable.ofCatalogNotes c catalog listed)
  | ofConfig c folder config, shared => shared.noted (RouteTable.ofConfigNotes c folder config)
  | serve target request, shared => (target.handle shared request).2
  | serveHttp target incoming, shared =>
    (SchemaRouting.serveHttp target.handle shared incoming).2

/-- The dispatches of a job. -/
def dispatches : Job σ → Shared σ → List (Dispatched σ)
  | serve target request, shared => target.dispatches shared request
  | serveHttp target incoming, shared =>
    match Request.ofHttp incoming with
    | .ok request => target.dispatches shared request
    | .error _ => []
  | compile .., _ | compileAll .., _ | mountSchema .., _ | ofCatalog .., _ | ofConfig .., _ => []

/-- Whether a job is a request that is accepted. -/
def accepts : Job σ → Bool
  | serve target request => target.accepts request
  | serveHttp target incoming =>
    match Request.ofHttp incoming with
    | .ok request => target.accepts request
    | .error _ => false
  | compile .. | compileAll .. | mountSchema .. | ofCatalog .. | ofConfig .. => false

theorem length_dispatches (job : Job σ) (shared : Shared σ) :
    (job.dispatches shared).length = if job.accepts = true then 1 else 0 := by
  cases job with
  | compile | compileAll | mountSchema | ofCatalog | ofConfig => rfl
  | serve target request => exact target.length_dispatches shared request
  | serveHttp target incoming =>
    rw [dispatches, accepts]
    cases Request.ofHttp incoming with
    | ok request => exact target.length_dispatches shared request
    | error e => rfl

/-- The compilations of a job. -/
def compilations : Job σ → List (Compilation σ)
  | compile c source schemaId routeId => [⟨c, source, schemaId, routeId⟩]
  | compileAll c source schemaId | mountSchema c source schemaId =>
    Compilation.all c source schemaId
  | ofCatalog c catalog listed =>
    Compilation.mounting c catalog (RouteTable.schemaIds catalog listed)
  | ofConfig c folder config =>
    match RouteTable.readCatalog folder config with
    | .ok (_, catalog) =>
      Compilation.mounting c catalog (RouteTable.schemaIds catalog config.server.schemas)
    | .error _ => []
  | serve .. | serveHttp .. => []

/-- A job is measured for its compilations and its dispatches. -/
theorem measures_after (job : Job σ) (shared : Shared σ) : measures (job.after shared).notes =
    measures shared.notes ++ (job.compilations.flatMap Compilation.measures ++
      (job.dispatches shared).flatMap Dispatched.measures) := by
  cases job with
  | compile c source schemaId routeId =>
    rw [after, Shared.noted, measures_append, Compiler.measures_compileNotes]
    simp [compilations, dispatches]
  | compileAll c source schemaId =>
    rw [after, Shared.noted, measures_append, Compiler.measures_compileAllNotes]
    simp [compilations, dispatches]
  | mountSchema c source schemaId =>
    rw [after, Shared.noted, measures_append, RouteTable.measures_mountNotes]
    simp [compilations, dispatches]
  | ofCatalog c catalog listed =>
    rw [after, Shared.noted, measures_append, RouteTable.ofCatalogNotes,
      RouteTable.measures_mountEachNotes]
    simp [compilations, dispatches]
  | ofConfig c folder config =>
    rw [after, Shared.noted, measures_append, RouteTable.ofConfigNotes, measures_append,
      RouteTable.measures_fileNotes, compilations]
    cases RouteTable.readCatalog folder config with
    | ok found =>
      have hcatalog := RouteTable.measures_mountEachNotes c found.2
        (RouteTable.schemaIds found.2 config.server.schemas)
      simp [dispatches, Telemetry.measures_event_cons, RouteTable.ofCatalogNotes, hcatalog]
    | error e => simp [dispatches, measures]
  | serve target request => exact target.measures_handle shared request
  | serveHttp target incoming =>
    rw [after, dispatches, SchemaRouting.serveHttp]
    cases Request.ofHttp incoming with
    | ok request => exact target.measures_handle shared request
    | error e => exact (List.append_nil _).symm

/-- What a history leaves. -/
def afterAll : List (Job σ) → Shared σ → Shared σ
  | [], shared => shared
  | job :: rest, shared => afterAll rest (job.after shared)

/-- The dispatches of a history. -/
def allDispatches : List (Job σ) → Shared σ → List (Dispatched σ)
  | [], _ => []
  | job :: rest, shared => job.dispatches shared ++ allDispatches rest (job.after shared)

/-- The dispatches of a history are those of the requests that are accepted. -/
theorem length_allDispatches (jobs : List (Job σ)) (shared : Shared σ) :
    (allDispatches jobs shared).length = jobs.countP accepts := by
  induction jobs generalizing shared with
  | nil => rfl
  | cons job rest ih =>
    rw [allDispatches, List.length_append, ih, length_dispatches, List.countP_cons, Nat.add_comm]

/-- A history is measured for the compilations and the dispatches of its jobs. -/
theorem count_measures_afterAll (m : Measure) (jobs : List (Job σ)) (shared : Shared σ) :
    (measures (afterAll jobs shared).notes).count m = (measures shared.notes).count m +
      ((jobs.flatMap compilations).flatMap Compilation.measures).count m +
      ((allDispatches jobs shared).flatMap Dispatched.measures).count m := by
  induction jobs generalizing shared with
  | nil => simp [afterAll, allDispatches]
  | cons job rest ih =>
    rw [afterAll, ih, measures_after, allDispatches]
    simp only [List.flatMap_cons, List.flatMap_append, List.count_append]
    omega

/-- Assumes: metrics that are zero to begin with. A series shows how many compilations and
dispatches of a history are measured by its measure. -/
theorem total_series_afterAll {jobs : List (Job σ)} {shared : Shared σ}
    (hzero : measures shared.notes = []) (m : Measure) :
    total m.series (afterAll jobs shared).notes =
      (jobs.flatMap compilations).countP (fun x ↦ x.Counts m) +
        (allDispatches jobs shared).countP fun d ↦ d.Counts m := by
  rw [Telemetry.total_series, count_measures_afterAll, hzero,
    count_flatMap_eq_countP fun x ↦ Compilation.count_measures x m,
    count_flatMap_eq_countP fun d ↦ Dispatched.count_measures d m]
  simp

theorem countP_compilations_eq_zero {m : Measure} (h : ∀ schema, m ≠ .compiled schema)
    (xs : List (Compilation σ)) : xs.countP (fun x ↦ x.Counts m) = 0 := by
  rw [List.countP_eq_zero]
  intro x _ hcounts
  exact h _ (of_decide_eq_true hcounts).2

section

variable {jobs : List (Job σ)} {shared : Shared σ} (hzero : measures shared.notes = [])
include hzero

/-- The series that compilations do not add to show the dispatches alone. -/
theorem total_series_of_ne_compiled (m : Measure) (hm : ∀ schema, m ≠ .compiled schema) :
    total m.series (afterAll jobs shared).notes =
      (allDispatches jobs shared).countP fun d ↦ d.Counts m := by
  rw [total_series_afterAll hzero, countP_compilations_eq_zero hm, Nat.zero_add]

/-- A series that every dispatch adds to shows the requests that are accepted. -/
theorem total_series_of_counts (m : Measure) (hm : ∀ schema, m ≠ .compiled schema)
    (hcounts : ∀ d : Dispatched σ, d.Counts m) :
    total m.series (afterAll jobs shared).notes = jobs.countP accepts := by
  rw [total_series_of_ne_compiled hzero m hm, ← length_allDispatches jobs shared]
  exact List.countP_eq_length.mpr fun d _ ↦ decide_eq_true (hcounts d)

/-- The outcomes that are counted under a label are those of its dispatches. -/
theorem total_outcomes (label : String) :
    total (Measure.dispatched label "completed").series (afterAll jobs shared).notes +
        total (Measure.dispatched label "halted").series (afterAll jobs shared).notes +
        total (Measure.dispatched label "failed").series (afterAll jobs shared).notes =
      (allDispatches jobs shared).countP fun d ↦ d.label = label := by
  rw [total_series_of_ne_compiled hzero (.dispatched label "completed") nofun,
    total_series_of_ne_compiled hzero (.dispatched label "halted") nofun,
    total_series_of_ne_compiled hzero (.dispatched label "failed") nofun]
  exact Dispatched.countP_outcomes label (allDispatches jobs shared)

/-- The routes that are counted under a schema are its compilations that succeeded. -/
theorem total_compiled (schema : String) :
    total (Measure.compiled schema).series (afterAll jobs shared).notes =
      (jobs.flatMap compilations).countP fun x ↦ x.schemaId = schema ∧ x.Succeeds := by
  have hnone : (allDispatches jobs shared).countP (fun d ↦ d.Counts (.compiled schema)) = 0 :=
    List.countP_eq_zero.mpr fun d _ hcounts ↦ of_decide_eq_true hcounts
  rw [total_series_afterAll hzero, hnone, Nat.add_zero]
  refine List.countP_congr fun x _ ↦ ?_
  rw [decide_eq_true_iff, decide_eq_true_iff]
  constructor
  · rintro ⟨hsucceeds, hschema⟩
    exact ⟨(Measure.compiled.inj hschema).symm, hsucceeds⟩
  · rintro ⟨rfl, hsucceeds⟩
    exact ⟨hsucceeds, rfl⟩

end

/-- Assumes: metrics that are zero to begin with, and a history of routes that are compiled and
requests that are served by routes or tables. The gauge goes up and down once for each request that
is accepted, that is, that the guard lets pass and whose path matches, and as often is an outcome
counted, over all labels and outcomes. Of each label the outcomes are as many as the durations, and
each counts the dispatches that ended so. Of each stage the failures are the dispatches that a
validating step of that stage stopped. Of each schema the compiled routes are the compilations that
succeeded, also those before one that failed. -/
theorem metrics_balance (jobs : List (Job σ)) (shared : Shared σ)
    (hzero : measures shared.notes = []) :
    let notes := (afterAll jobs shared).notes
    let dispatched := allDispatches jobs shared
    total Measure.entered.series notes = jobs.countP accepts ∧
    total Measure.left.series notes = jobs.countP accepts ∧
    (∀ labels : Finset String, (∀ d ∈ dispatched, d.label ∈ labels) →
      ∑ label ∈ labels, (total (Measure.dispatched label "completed").series notes +
        total (Measure.dispatched label "halted").series notes +
        total (Measure.dispatched label "failed").series notes) = jobs.countP accepts) ∧
    (∀ label, total (Measure.dispatched label "completed").series notes +
        total (Measure.dispatched label "halted").series notes +
        total (Measure.dispatched label "failed").series notes =
      total (Measure.timed label).series notes) ∧
    (∀ label outcome, total (Measure.dispatched label outcome).series notes =
      dispatched.countP fun d ↦ d.label = label ∧ d.outcome.label = outcome) ∧
    (∀ stage, total (Measure.rejected stage).series notes =
      dispatched.countP fun d ↦ d.RejectedAt stage) ∧
    ∀ schema, total (Measure.compiled schema).series notes =
      (jobs.flatMap compilations).countP fun x ↦ x.schemaId = schema ∧ x.Succeeds := by
  refine ⟨total_series_of_counts hzero .entered nofun fun _ ↦ trivial,
    total_series_of_counts hzero .left nofun fun _ ↦ trivial, fun labels hlabels ↦ ?_,
    fun label ↦ ?_,
    fun label outcome ↦ total_series_of_ne_compiled hzero (.dispatched label outcome) nofun,
    fun stage ↦ total_series_of_ne_compiled hzero (.rejected stage) nofun, total_compiled hzero⟩
  · simp only [total_outcomes hzero]
    rw [Dispatched.sum_countP_label hlabels, length_allDispatches]
  · rw [total_outcomes hzero, total_series_of_ne_compiled hzero (.timed label) nofun]
    rfl

/-- A schema of which the first route compiles and the second does not. -/
def halfLamps : Schema.Definition Unit :=
  { (Schema.Settings.empty : Schema.Definition Unit) with
    path := some "/lamps"
    routes := [("get", .path ":id"), ("dim", .empty)] }

/-- A route that lets no header fields pass. -/
def lockedLamp : CompiledRoute Unit :=
  { CompiledRoute.burstingLamp with
    pipeline := ⟨"/lamps/:id", [.validateHeaders fun _ _ ↦ .error ⟨"", .required⟩]⟩ }

/-- All routes of the schema are compiled in vain, and four requests are served: by a step that
panics, by a step whose check fails, by a route that asks for another method, and by a table without
a route. -/
def lampJobs : List (Job Unit) :=
  [.compileAll (.new ⟨[]⟩ (.new Services.baseRegistry)) (.single halfLamps) "lamps",
    .serve (.route CompiledRoute.burstingLamp) (.new .get "/lamps/7"),
    .serve (.table ⟨[lockedLamp]⟩) (.new .get "/lamps/7"),
    .serve (.route lockedLamp) (.new .delete "/lamps/7"),
    .serve (.table .empty) (.new .get "/lamps/7")]

/-- Two of the four requests are dispatched, and one route was compiled. -/
theorem lamps_counted :
    let notes := (afterAll lampJobs ⟨(), [], []⟩).notes
    measures (⟨(), [], []⟩ : Shared Unit).notes = [] ∧
    total Measure.entered.series notes = 2 ∧ total Measure.left.series notes = 2 ∧
    total (Measure.timed "/lamps/:id").series notes = 2 ∧
    total (Measure.dispatched "/lamps/:id" "failed").series notes = 1 ∧
    total (Measure.rejected "validate_headers").series notes = 1 ∧
    total (Measure.compiled "lamps").series notes = 1 := by
  obtain ⟨hentered, hleft, -, htimed, houtcome, hrejected, hcompiled⟩ :=
    metrics_balance lampJobs ⟨(), [], []⟩ rfl
  refine ⟨rfl, hentered.trans rfl, hleft.trans rfl, (htimed "/lamps/:id").symm.trans ?_,
    (houtcome "/lamps/:id" "failed").trans rfl, (hrejected "validate_headers").trans rfl,
    (hcompiled "lamps").trans rfl⟩
  rw [houtcome, houtcome, houtcome]
  rfl

end Job

end SchemaRouting
