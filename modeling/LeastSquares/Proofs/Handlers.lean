import LeastSquares.Proofs.Lines
import LeastSquares.Proofs.Narration

/-!
# The handler of a solve

The logger of the solver is shared by all solves, and keeps its handlers between them. A
configuration replaces whatever handlers the logger has by a single one, and a first use configures
a logger that has none. So whatever happened before, a logger that is about to be used has exactly
one handler, that of the last configuration, or the standard one if there was none; and no logger
above it is reached. A solve that announces its progress therefore has each of its lines handled
once.

* `Log.Registry.run_configure`: what a configuration does.
* `Log.Act`: what can happen to the loggers.
* `Log.expected`: the handler that is expected after some acts.
* `Log.Registry.Serves`: a logger that has a single handler, which takes what it is told.
* `Log.Steady`: **between two acts**, the handler is the expected one, or there is none.
* `Log.steady_perform`, `Log.steady_performed`: it is kept by every act, and holds after all.
* `Recounts`: what the messages of a solve say, format by format and argument by argument.
* `Request.transcript`: **what comes of a solve**, after any acts.
-/

namespace LeastSquares

namespace Log

open Registry (find put create configure obtain)

/-- The loggers after an action, whether it has succeeded or failed. -/
def after {α : Type} (action : EStateM LogFault Registry α) (g : Registry) : Registry :=
  match action.run g with
  | .ok _ g | .error _ g => g

section

variable {α : Type} {action : EStateM LogFault Registry α} {g g' : Registry}

theorem after_of_ok {a : α} (h : action.run g = .ok a g') : after action g = g' := by
  rw [after, h]

theorem after_of_error {e : LogFault} (h : action.run g = .error e g') : after action g = g' := by
  rw [after, h]

end

/-- The handler that a logger has by its first use. -/
def Handler.standard : Handler := .stream .standard (.integer info) Template.standard

/-- **The handler that a configuration installs**, if nothing of it is refused. -/
def Configuration.handler (c : Configuration) : Except LogFault Handler := do
  let level ← levelOf c.level
  match c.sink with
  | none => pure .null
  | some sink => (templateOf c.template).map fun template => .stream sink level template

/-- **A configuration of the solver's logger** that lets its progress pass, and to nobody above. -/
structure Configuration.Audible (c : Configuration) : Prop where
  name_eq : c.name = .text solverName
  level : ∃ level, levelOf c.level = .ok level ∧ 0 < levelNumber level ∧ levelNumber level ≤ info
  propagate : c.propagate.truthy = false

/-! ### Loggers -/

namespace Registry

variable {g : Registry} {name : String}

theorem find_put (g : Registry) (name : String) (l : Logger) : (g.put name l).find name = l := by
  simp [find, put]

theorem contains_of_handlers (h : (g.find name).handlers ≠ []) : g.contains name = true := by
  unfold find at h
  unfold contains
  cases hl : g.loggers.lookup name with
  | none => exact absurd (by rw [hl]; rfl) h
  | some l => rfl

/-- **Naming a logger gives it no handler**, and takes none. -/
theorem handlers_create (g : Registry) (name : String) :
    ((g.create name).find name).handlers = (g.find name).handlers := by
  unfold create
  split_ifs with h
  · rfl
  · simp only [Bool.or_eq_true, not_or] at h
    have hnone : g.loggers.lookup name = none := Option.not_isSome_iff_eq_none.1 h.2
    simp [find, hnone, fresh]

/-- A logger that has a handler is there already. -/
theorem create_of_handlers (h : (g.find name).handlers ≠ []) : g.create name = g := by
  rw [create, contains_of_handlers h, Bool.or_true, if_pos rfl]

/-- **A configuration** puts its level and its handler in place of those that were there. If the
template is refused, no handler is left. -/
theorem run_configure {c : Configuration} {level : Value} (hname : loggerName c.name = .ok name)
    (hlevel : levelOf c.level = .ok level) (g : Registry) : (configure c).run g =
      let above := ((g.create name).find name).above
      let cleared := (g.create name).put name ⟨above, level, c.propagate, []⟩
      match c.handler with
      | .ok h => .ok name (cleared.put name ⟨above, level, c.propagate, [h]⟩)
      | .error e => .error e cleared := by
  unfold configure Configuration.handler
  rw [hname, hlevel]
  cases c.sink with
  | none => rfl
  | some sink => cases templateOf c.template <;> rfl

/-- **A logger that has a single handler**, which takes information, as the logger itself does; no
logger above it is reached. -/
structure Serves (g : Registry) (h : Handler) : Prop where
  handlers_eq : (g.find solverName).handlers = [h]
  level_pos : 0 < levelNumber (g.find solverName).level
  level_le : levelNumber (g.find solverName).level ≤ info
  alone : (g.find solverName).propagate.truthy = false
  takes : h.takes info = true

/-- Such a logger lets information pass. -/
theorem Serves.passes_info {h : Handler} (hg : g.Serves h) : g.passes solverName info = true := by
  have hdepth : depth solverName = 7 + 1 := rfl
  have hlevel : g.effectiveLevel (depth solverName) solverName =
      levelNumber (g.find solverName).level := by
    rw [hdepth, effectiveLevel, if_pos hg.level_pos.ne']
  rw [passes, hlevel, decide_eq_true hg.level_le]
  rfl

/-- **What such a logger is told is handled once.** -/
theorem Serves.handling_eq {h : Handler} (hg : g.Serves h) : g.handling solverName info = [h] := by
  have hdepth : depth solverName = 7 + 1 := rfl
  have hreached : g.reached (depth solverName) solverName = [h] := by
    simp [hdepth, reached, hg.handlers_eq, hg.alone]
  rw [handling, hreached, List.filter_cons, if_pos hg.takes, List.filter_nil]

theorem Serves.emit_eq {h : Handler} (hg : g.Serves h) (m : Message) :
    g.emit ⟨solverName, .integer info, m⟩ = some ⟨⟨solverName, .integer info, m⟩, [h]⟩ := by
  have hlevel : levelNumber (.integer info) = info := rfl
  rw [emit, hlevel, hg.passes_info, hg.handling_eq]
  rfl

end Registry

/-! ### Configurations -/

namespace Configuration

variable {c : Configuration} {h : Handler} {e : LogFault}

theorem Audible.loggerName_eq (hc : c.Audible) : loggerName c.name = .ok solverName := by
  rw [hc.name_eq]
  rfl

/-- The handler that is installed has the level of the logger. -/
theorem Audible.takes (hc : c.Audible) (hh : c.handler = .ok h) : h.takes info = true := by
  obtain ⟨level, hlevel, -, hle⟩ := hc.level
  unfold handler at hh
  rw [hlevel] at hh
  cases hsink : c.sink with
  | none =>
    rw [hsink] at hh
    obtain rfl := Except.ok.inj hh
    rfl
  | some sink =>
    rw [hsink] at hh
    cases htemplate : templateOf c.template with
    | error e =>
      rw [htemplate] at hh
      cases hh
    | ok template =>
      rw [htemplate] at hh
      obtain rfl := Except.ok.inj hh
      exact decide_eq_true hle

/-- **A configuration that succeeds** leaves a logger that has its handler alone. -/
theorem Audible.run_ok (hc : c.Audible) (hh : c.handler = .ok h) (g : Registry) :
    ∃ g', (configure c).run g = .ok solverName g' ∧ g'.Serves h := by
  obtain ⟨level, hlevel, hpos, hle⟩ := hc.level
  rw [Registry.run_configure hc.loggerName_eq hlevel, hh]
  refine ⟨_, rfl, ?_⟩
  constructor
  · rw [Registry.find_put]
  · rwa [Registry.find_put]
  · rwa [Registry.find_put]
  · rw [Registry.find_put]
    exact hc.propagate
  · exact hc.takes hh

/-- **A configuration whose template is refused** leaves no handler. -/
theorem Audible.run_error (hc : c.Audible) (hh : c.handler = .error e) (g : Registry) :
    ∃ g', (configure c).run g = .error e g' ∧ (g'.find solverName).handlers = [] := by
  obtain ⟨level, hlevel, -⟩ := hc.level
  rw [Registry.run_configure hc.loggerName_eq hlevel, hh]
  exact ⟨_, rfl, by rw [Registry.find_put]⟩

/-- The configuration of a logger on its first use. -/
theorem standard_audible : ({ name := .text solverName } : Configuration).Audible where
  name_eq := rfl
  level := ⟨.integer info, rfl, by decide, by decide⟩
  propagate := rfl

end Configuration

/-- **A logger that is obtained** keeps the handler that it has, and gets the standard one if it had
none. -/
theorem Registry.run_obtain (g : Registry) :
    ∃ g', (obtain (.text solverName)).run g = .ok solverName g' ∧
      ((g.find solverName).handlers = [] → g'.Serves .standard) ∧
      ((g.find solverName).handlers ≠ [] → g' = g) := by
  have hrun : (obtain (.text solverName)).run g =
      (if ((g.create solverName).find solverName).handlers.isEmpty then
        configure { name := .text solverName }
      else pure solverName).run (g.create solverName) := rfl
  rw [hrun, handlers_create]
  by_cases hnone : (g.find solverName).handlers = []
  · rw [hnone]
    obtain ⟨g', hg', hserves⟩ := Configuration.standard_audible.run_ok rfl (g.create solverName)
    exact ⟨g', hg', fun _ => hserves, fun h => absurd rfl h⟩
  · rw [if_neg (by simpa using hnone), create_of_handlers hnone]
    exact ⟨g, rfl, fun h => absurd h hnone, fun _ => rfl⟩

/-! ### Acts -/

/-- **What can happen to the loggers** between two solves: the solver's logger is configured or
obtained, or another request is solved. -/
inductive Act where
  | configure (c : Configuration)
  | obtain
  | solve (r : Request)

namespace Act

/-- The loggers after an act. -/
def perform (a : Act) (g : Registry) : Registry :=
  match a with
  | .configure c => after (Registry.configure c) g
  | .obtain => after (Registry.obtain (.text solverName)) g
  | .solve r => (r.run g).2

/-- Configurations are those of the solver's logger that let its progress pass. -/
def Allowed : Act → Prop
  | .configure c => c.Audible
  | .obtain | .solve _ => True

/-- The configuration of an act that is one. -/
def configuration? : Act → Option Configuration
  | .configure c => some c
  | .obtain | .solve _ => none

end Act

/-- The loggers after some acts. -/
def performed (acts : List Act) (g : Registry) : Registry := acts.foldl (fun g a => a.perform g) g

/-- **The handler that is expected after some acts**: that of the last configuration, or the standard
one if there was none, or if it failed. -/
def expected (acts : List Act) : Handler :=
  ((acts.filterMap Act.configuration?).getLast?.bind fun c => c.handler.toOption).getD .standard

/-- **Between two acts**, the solver's logger has the expected handler alone, or it is about to get
it. -/
def Steady (acts : List Act) (g : Registry) : Prop :=
  g.Serves (expected acts) ∨ ((g.find solverName).handlers = [] ∧ expected acts = .standard)

variable {acts : List Act} {g : Registry} {a : Act}

theorem expected_configure (acts : List Act) (c : Configuration) :
    expected (acts ++ [.configure c]) = c.handler.toOption.getD .standard := by
  simp [expected, List.filterMap_append, Act.configuration?]

theorem expected_other (acts : List Act) (ha : a.configuration? = none) :
    expected (acts ++ [a]) = expected acts := by
  simp [expected, List.filterMap_append, ha]

/-- **A logger that is obtained has the expected handler.** -/
theorem Steady.run_obtain (h : Steady acts g) :
    ∃ g', (obtain (.text solverName)).run g = .ok solverName g' ∧ g'.Serves (expected acts) := by
  obtain ⟨g', hg', hnone, hsome⟩ := g.run_obtain
  refine ⟨g', hg', ?_⟩
  rcases h with hserves | ⟨hempty, hstandard⟩
  · rw [hsome (by simp [hserves.handlers_eq])]
    exact hserves
  · rw [hstandard]
    exact hnone hempty

end Log

/-! ### Solves -/

namespace Request

open Log (Registry Handler solverName info)

variable {r : Request} {p : Prepared} {g g' : Registry}

theorem run_verbose (hp : r.prepare = .ok p) (hv : p.settings.verbose = true)
    (hg : (Registry.obtain (.text solverName)).run g = .ok solverName g') :
    r.run g = ((p.solve r.callback).report (emissions g' solverName), g') := by
  rw [run, hp]
  dsimp only
  rw [if_pos hv, hg]

theorem run_silent (hp : ∀ p, r.prepare = .ok p → p.settings.verbose = false) (g : Registry) :
    (r.run g).1.emitted = [] ∧ (r.run g).2 = g := by
  unfold run
  cases h : r.prepare with
  | error e => exact ⟨rfl, rfl⟩
  | ok p =>
    dsimp only
    rw [if_neg (by simp [hp p h])]
    exact ⟨by cases p.solve r.callback <;> rfl, rfl⟩

end Request

namespace Log

variable {acts : List Act} {g : Registry} {a : Act}

/-- **The step**: every act leaves the loggers steady. -/
theorem steady_perform (h : Steady acts g) (ha : a.Allowed) : Steady (acts ++ [a]) (a.perform g) := by
  obtain ⟨g', hg', hserves⟩ := h.run_obtain
  cases a with
  | configure c =>
    unfold Steady
    rw [expected_configure, Act.perform]
    cases hh : c.handler with
    | ok handler =>
      obtain ⟨g', hg', hserves⟩ := Configuration.Audible.run_ok ha hh g
      rw [after_of_ok hg']
      exact .inl hserves
    | error e =>
      obtain ⟨g', hg', hnone⟩ := Configuration.Audible.run_error ha hh g
      rw [after_of_error hg']
      exact .inr ⟨hnone, rfl⟩
  | obtain =>
    unfold Steady
    rw [expected_other acts rfl, Act.perform, after_of_ok hg']
    exact .inl hserves
  | solve r =>
    unfold Steady
    rw [expected_other acts rfl, Act.perform]
    by_cases hv : ∃ p, r.prepare = .ok p ∧ p.settings.verbose = true
    · obtain ⟨p, hp, hv⟩ := hv
      rw [Request.run_verbose hp hv hg']
      exact .inl hserves
    · have hsilent : ∀ p, r.prepare = .ok p → p.settings.verbose = false := fun p hp => by
        simpa using fun hverbose => hv ⟨p, hp, hverbose⟩
      rw [(Request.run_silent hsilent g).2]
      exact h

/-- **After any acts** on a logger without handlers, the loggers are steady. -/
theorem steady_performed (hg : (g.find solverName).handlers = []) (hacts : ∀ a ∈ acts, a.Allowed) :
    Steady acts (performed acts g) := by
  induction acts using List.reverseRecOn with
  | nil => exact .inr ⟨hg, rfl⟩
  | append_singleton acts a ih =>
    have hlast : performed (acts ++ [a]) g = a.perform (performed acts g) := by
      simp [performed, List.foldl_append]
    rw [hlast]
    exact steady_perform (ih fun b hb => hacts b (List.mem_append_left _ hb)) (hacts a (by simp))

end Log

/-! ### Records -/

/-- **What the messages of a solve say** that has the stop code `stop`, and whose iterations have the
statistics `tests`: a title, the heads of the columns, the number and the statistics of each
iteration in the order of the heads, and how it has ended. -/
structure Recounts (tests : List (StoppingTests Double)) (stop : StopReason)
    (messages : List Log.Message) : Prop where
  length_eq : messages.length = tests.length + 3
  title_eq : messages[0]? = some ⟨"=== lsmr ===", []⟩
  columns_eq : messages[1]? = some ⟨"%4s\t%7s\t\t%7s\t\t%7s",
    [.text "iter", .text "anorm", .text "cnorm", .text "rnorm"]⟩
  row_eq : ∀ j t, tests[j]? = some t → messages[j + 2]? = some ⟨"%3d\t%1.2e\t%1.2e\t%1.2e",
    [.integer (j + 1), .number (Double.numberOf t.test2), .number t.test3.value,
      .number t.test1.value]⟩
  closing_eq : messages[tests.length + 2]? = some ⟨"stop %d after %d iterations: %s",
    [.integer stop.code, .integer tests.length, .text stop.message]⟩

/-- **The script is recounted.** -/
theorem Event.script_recounts (tests : List (StoppingTests Double)) (stop : StopReason) :
    Recounts tests stop ((script tests stop).map Progress.message) where
  length_eq := by rw [List.length_map, length_script]
  title_eq := rfl
  columns_eq := rfl
  row_eq := by
    intro j t ht
    have hrow := rows_getElem tests ht
    obtain ⟨hlt, -⟩ := List.getElem?_eq_some_iff.1 hrow
    rw [List.getElem?_map, script, List.getElem?_cons_succ, List.getElem?_cons_succ,
      List.getElem?_append_left hlt, hrow]
    rfl
  closing_eq := by
    rw [List.getElem?_map, script, List.getElem?_cons_succ, List.getElem?_cons_succ,
      List.getElem?_append_right (Nat.le_of_eq (length_rows tests)), length_rows, Nat.sub_self]
    rfl

namespace Request

open Log (Registry Handler Act solverName info performed expected)

/-- **What comes of a solve** that announces its progress and returns. It ends in the state `s`, and
its iterations have the statistics `tests`; `h` is the handler of its records, and `g` are the
loggers after it. -/
structure Transcribed (r : Request) (p : Prepared) (process : Bidiagonal Double Tensor Tensor)
    (s : Run Double Tensor Tensor) (tests : List (StoppingTests Double)) (report : Report)
    (h : Handler) (g : Registry) : Prop where
  made : bidiagonalize p.operator p.b (some (.array p.x)) (.ok (some p.type)) = .ok process
  returned : p.problem.solve process p.x (.zeros p.type p.operator.cols.toNat)
    (p.observers r.callback) = .returned s
  /-- Each iteration has its statistics. -/
  length_eq : tests.length = s.iteration
  completed : ∀ j t, tests[j]? = some t → ∃ w, p.problem.Completes process p.x
    (.zeros p.type p.operator.cols.toNat) (p.observers r.callback) (j + 1) w t
  /-- The history says the same. -/
  kept : ∀ t, report.result = .ok (some t) →
    t.iters = tests.length ∧ t.tests = tests ∧ t.stop = some s.stop
  /-- The solve has announced them all. -/
  events_eq : s.observers.events = Event.script tests s.stop
  /-- Three records more than iterations are emitted. -/
  emitted_length : report.emitted.length = s.iteration + 3
  /-- They say, in this order, what has been announced, at the level of information. -/
  recounted : Recounts tests s.stop (report.emitted.map fun e => e.record.message)
  informing : ∀ e ∈ report.emitted,
    e.record.logger = solverName ∧ e.record.level = .integer info
  /-- Each of them can be written as a line. -/
  legible : ∀ e ∈ report.emitted, e.record.message.text?.isSome
  /-- There is one handler, and it has handled each of them once. -/
  handling_eq : g.handling solverName info = [h]
  handled : ∀ e ∈ report.emitted, e.handlers = [h]
  written_eq : report.written = report.emitted.flatMap fun e => h.write e.record
  /-- Through the standard template a stream has the texts, each on a line of its own. -/
  lines_eq : ∀ sink level, h = .stream sink level Log.Template.standard →
    report.written.map some = report.emitted.map fun e =>
      e.record.message.text?.map fun text => ⟨sink, text ++ "\n"⟩

/-- **The records of some events** are handled by the one handler. -/
theorem emissions_eq {g : Registry} {h : Handler} (hg : g.Serves h) (events : List (Event Double)) :
    emissions g solverName events =
      events.map fun e => ⟨Progress.record solverName e, [h]⟩ := by
  rw [emissions, ← List.filterMap_eq_map]
  congr 1
  funext e
  exact hg.emit_eq (Progress.message e)

variable {r : Request} {p : Prepared} {g g' : Registry} {kept : Option (History ℕ Double)}

theorem transcribed (hp : r.prepare = .ok p) (hv : p.settings.verbose = true) {h : Handler}
    (hg : (Registry.obtain (.text solverName)).run g = .ok solverName g') (hserves : g'.Serves h)
    (hret : (r.run g).1.result = .ok kept) :
    ∃ process s tests, r.Transcribed p process s tests (r.run g).1 h (r.run g).2 := by
  obtain ⟨process, s, hmade, hs, hkept, -, -⟩ := run_returned hp hret
  obtain ⟨tests, hlength, hcompleted, hevents, hhistory⟩ := Problem.returned_events
    (Settings.history_eq_ok (prepare_ok hp).history_eq).2 hs
  have hsolve : p.solve r.callback = .returned s := by
    rw [Prepared.solve, hmade]
    exact hs
  have hrun := run_verbose hp hv hg
  have hscript : s.observers.events = Event.script tests s.stop := by rw [hevents, if_pos hv]
  have hemitted : (r.run g).1.emitted = (Event.script tests s.stop).map fun e =>
      (⟨Progress.record solverName e, [h]⟩ : Log.Emission) := by
    rw [hrun, hsolve, ← emissions_eq hserves, ← hscript]
    rfl
  have hmem : ∀ e ∈ (r.run g).1.emitted, ∃ event, (⟨Progress.record solverName event, [h]⟩ :
      Log.Emission) = e := by
    intro e he
    obtain ⟨event, -, he⟩ := List.mem_map.1 (hemitted ▸ he)
    exact ⟨event, he⟩
  have hhandled : ∀ e ∈ (r.run g).1.emitted, e.handlers = [h] := by
    intro e he
    obtain ⟨event, rfl⟩ := hmem e he
    rfl
  have hlegible : ∀ e ∈ (r.run g).1.emitted, e.record.message.text?.isSome := by
    intro e he
    obtain ⟨event, rfl⟩ := hmem e he
    exact Progress.message_legible event
  have hwritten : (r.run g).1.written =
      (r.run g).1.emitted.flatMap fun e => h.write e.record := by
    refine List.flatMap_congr fun e he => ?_
    rw [Log.Emission.written, hhandled e he, List.flatMap_singleton]
  refine ⟨process, s, tests, ?_⟩
  exact
    { made := hmade
      returned := hs
      length_eq := hlength
      completed := hcompleted
      kept := by
        intro t ht
        obtain rfl : kept = some t := Except.ok.inj (hret.symm.trans ht)
        exact hhistory t hkept.symm
      events_eq := hscript
      emitted_length := by rw [hemitted, List.length_map, Event.length_script, hlength]
      recounted := by
        rw [hemitted, List.map_map]
        exact Event.script_recounts tests s.stop
      informing := by
        intro e he
        obtain ⟨event, rfl⟩ := hmem e he
        exact ⟨rfl, rfl⟩
      legible := hlegible
      handling_eq := by rw [hrun]; exact hserves.handling_eq
      handled := hhandled
      written_eq := hwritten
      lines_eq := by
        rintro sink level rfl
        rw [hwritten, List.map_flatMap, List.map_eq_flatMap]
        refine List.flatMap_congr fun e he => ?_
        obtain ⟨text, htext⟩ := Option.isSome_iff_exists.1 (hlegible e he)
        rw [Handler.write_standard htext, htext]
        rfl }

/-- The request of `doubling`, with its progress announced. -/
def announced : Request :=
  { doubling with options := [("log", .boolean true), ("verbose", .boolean true)] }

/-- A first solve, a use of the logger, and a configuration with a stream of the caller and a level
below information. -/
def rehearsal : List Act :=
  [.solve announced, .obtain, .configure { sink := some (.stream 0), level := .integer 10 }]

theorem rehearsal_allowed : ∀ a ∈ rehearsal, a.Allowed := by
  intro a ha
  rcases List.mem_cons.1 ha with rfl | ha
  · trivial
  rcases List.mem_cons.1 ha with rfl | ha
  · trivial
  obtain rfl := List.mem_singleton.1 ha
  exact ⟨rfl, ⟨.integer 10, rfl, by decide, by decide⟩, rfl⟩

theorem announced_verbose :
    announced.prepare.toOption.map (fun p => p.settings.verbose) = some true := by
  decide +kernel

theorem announced_iterations :
    (announced.run (performed rehearsal .empty)).1.result.toOption.map
      (Option.map fun t => t.iters) = some (some 1) := by
  decide +kernel

theorem doubling_silent (hp : doubling.prepare = .ok p) : p.settings.verbose = false := by
  have hverbose : doubling.prepare.toOption.map (fun p => p.settings.verbose) = some false := by
    decide +kernel
  rw [hp] at hverbose
  exact Option.some.inj hverbose

end Request

end LeastSquares
