import SealedBuild.Proofs.Pipeline.Account
import SealedBuild.Proofs.Pipeline.Coupling
import SealedBuild.Proofs.Pipeline.Gate

/-!
# The three modes

A pipeline enforces its verification, is advised by it, or skips it. Runs in the three modes are the
same up to the build. After that an advised run differs from an enforcing one only if there are
violations, and a run that skips the verification goes on without any question, so that nothing but
the steps up to the build can stop it.

Main statement: `comparison_of_modes`, for new pipelines in any environment.
-/

namespace SealedBuild

open Pipeline

variable {σ α β : Type} {provider : Provider σ} {config : Config} {request : Request}
  {files : FileSystem} {sandbox : σ} {toolchain : Toolchain} {sourceRoot : Path}
  {first second world : World σ} {mode mode' : VerifyMode}

namespace World

/-- The world in which the pipeline has other settings. -/
def withSettings (world : World σ) (config : Config) (mode : VerifyMode) : World σ :=
  { world with pipeline := { world.pipeline with config, mode } }

/-- Two worlds are the same but for the settings of their pipelines. -/
def Agree (first second : World σ) : Prop :=
  ∃ config mode, second = first.withSettings config mode

theorem reached_withSettings (stages : List Stage) (world : World σ) (config : Config)
    (mode : VerifyMode) :
    (world.withSettings config mode).reached stages =
      (world.reached stages).withSettings config mode := by
  induction stages generalizing world with
  | nil => rfl
  | cons stage rest ih => exact ih (world.reached [stage])

namespace Agree

theorem reached (agree : first.Agree second) (stages : List Stage) :
    (first.reached stages).Agree (second.reached stages) := by
  obtain ⟨config, mode, rfl⟩ := agree
  exact ⟨config, mode, reached_withSettings stages first config mode⟩

theorem tearDown (agree : first.Agree second) (provider : Provider σ) :
    (provider.tearDown first).Agree (provider.tearDown second) := by
  obtain ⟨config, mode, rfl⟩ := agree
  exact ⟨config, mode, rfl⟩

theorem letGo (agree : first.Agree second) (provider : Provider σ) (events : List Event) :
    (provider.letGo events first).Agree (provider.letGo events second) := by
  obtain ⟨config, mode, rfl⟩ := agree
  exact ⟨config, mode, rfl⟩

theorem inSession (agree : first.Agree second) (provider : Provider σ) (config : Config)
    (request : Request) :
    (first.inSession provider config request).Agree (second.inSession provider config request) := by
  obtain ⟨config', mode, rfl⟩ := agree
  exact ⟨config', mode, rfl⟩

theorem events_eq (agree : first.Agree second) : first.events = second.events := by
  obtain ⟨config, mode, rfl⟩ := agree
  rfl

theorem started (provider : Provider σ) (config : Config) (request : Request)
    (files : FileSystem) (sandbox : σ) (mode mode' : VerifyMode) :
    (started provider config request files sandbox mode).Agree
      (started provider config request files sandbox mode') :=
  ⟨config, mode', rfl⟩

theorem fresh (config config' : Config) (mode mode' : VerifyMode) (files : FileSystem)
    (sandbox : σ) :
    (World.fresh config mode files sandbox).Agree (World.fresh config' mode' files sandbox) :=
  ⟨config', mode', rfl⟩

end Agree

end World

/-- Steps and stages do not depend on the settings of a pipeline. -/
theorem agree_coupling (provider : Provider σ) :
    Coupling provider (fun _ => True) World.Agree := by
  constructor
  · rintro first second step ⟨config, mode, rfl⟩ -
    rfl
  · rintro first second step ⟨config, mode, rfl⟩ -
    exact ⟨config, mode, rfl⟩
  · intro first second stage agree
    exact agree.reached [stage]

namespace Pipeline

open SealedBuild.Action

theorem install_keeps (config : Config) (request : Request) :
    Keeps World.Agree (install config request : Action σ Artifact) := by
  rintro first second ⟨config', mode, rfl⟩
  unfold install World.withSettings
  dsimp only
  split
  · exact ⟨rfl, config', mode, rfl⟩
  · exact ⟨rfl, config', mode, rfl⟩

/-- Two calls agree if the actions inside their sandboxes do. -/
theorem withToolchain_agree {inside inside' : Toolchain → Action σ α}
    {afterwards : α → Action σ β} (agree : first.Agree second)
    (insides : ∀ toolchain, Ready provider config request first toolchain →
      Coupled World.Agree (inside toolchain (first.inSession provider config request))
        (inside' toolchain (second.inSession provider config request)))
    (keeps : ∀ value, Keeps World.Agree (afterwards value)) :
    Coupled World.Agree (withToolchain provider config request inside afterwards first)
      (withToolchain provider config request inside' afterwards second) := by
  have same : second.files = first.files ∧ second.sandbox = first.sandbox := by
    obtain ⟨config', mode, rfl⟩ := agree
    exact ⟨rfl, rfl⟩
  cases loaded : Toolchain.load first.files request.sourceRoot config.toolchain.manifest with
  | error failure =>
      have loaded' := loaded
      rw [← same.1] at loaded'
      rw [withToolchain_of_unloaded loaded, withToolchain_of_unloaded loaded']
      exact ⟨rfl, agree⟩
  | ok toolchain =>
      have loaded' := loaded
      rw [← same.1] at loaded'
      cases answer : (provider.create (.forRequest request config) first.sandbox).1.answer with
      | failed failure =>
          have answer' := answer
          rw [← same.2] at answer'
          rw [withToolchain_of_unstarted loaded answer, withToolchain_of_unstarted loaded' answer']
          obtain ⟨config', mode, rfl⟩ := agree
          exact ⟨rfl, config', mode, rfl⟩
      | hung =>
          have answer' := answer
          rw [← same.2] at answer'
          rw [withToolchain_of_stuck loaded answer, withToolchain_of_stuck loaded' answer']
          obtain ⟨config', mode, rfl⟩ := agree
          exact ⟨rfl, config', mode, rfl⟩
      | started =>
          have answer' := answer
          rw [← same.2] at answer'
          have inner := insides toolchain ⟨loaded, answer⟩
          rw [withToolchain_of_ready ⟨loaded, answer⟩, withToolchain_of_ready ⟨loaded', answer'⟩]
          rcases one : inside toolchain (first.inSession provider config request) with
            ⟨ending, after⟩
          rcases other : inside' toolchain (second.inSession provider config request) with
            ⟨ending', after'⟩
          rw [one, other] at inner
          obtain ⟨rfl, worlds⟩ := inner
          dsimp only at worlds ⊢
          cases ending with
          | value value =>
              have closed := keeps value _ _ (worlds.tearDown provider)
              exact ⟨closed.ending_eq, closed.worlds.letGo provider []⟩
          | failed failure => exact ⟨rfl, (worlds.tearDown provider).letGo provider []⟩
          | abandoned => exact ⟨rfl, worlds.letGo provider [.dropped]⟩

theorem finish_agree {action action' : Action σ α}
    (agree : Coupled World.Agree (action first) (action' second)) :
    Coupled World.Agree (finish action first) (finish action' second) := by
  rw [finish_apply, finish_apply, ← agree.ending_eq]
  exact ⟨rfl, agree.worlds.reached _⟩

theorem untilBuilt_agree (provider : Provider σ) (config : Config) (toolchain : Toolchain) :
    Keeps World.Agree (untilBuilt provider config toolchain) :=
  untilBuilt_keeps (agree_coupling provider) fun _ _ => trivial

theorem verify_agree (provider : Provider σ) (config : Config) (toolchain : Toolchain)
    (sourceRoot : Path) : Keeps World.Agree (verify provider config toolchain sourceRoot) := by
  apply verify_keeps (agree_coupling provider)
  · exact fun _ _ => trivial
  · rintro scanner first second - ⟨config', mode, rfl⟩
    rfl

/-- The steps up to the build do not depend on the mode, and if one of them does not succeed,
nothing does. -/
theorem buildInside_agree_of_unbuilt (agree : first.Agree second) (mode mode' : VerifyMode)
    (unbuilt : ¬ ∀ reply ∈ provider.replies (config.buildPlan toolchain) first.sandbox,
      reply.Succeeded) :
    Coupled World.Agree (buildInside provider config mode toolchain sourceRoot first)
      (buildInside provider config mode' toolchain sourceRoot second) := by
  have built := untilBuilt_agree provider config toolchain first second agree
  rw [buildInside_eq, buildInside_eq]
  apply built.bind
  intro nothing ended
  exact absurd (untilBuilt_value_iff.mp ended) unbuilt

/-- An enforcing run and an advised one do the same inside the sandbox unless there is a report with
violations. -/
theorem buildInside_agree_of_clean (agree : first.Agree second)
    (clean : ∀ (scanner : Scanner) report,
      (∀ reply ∈ provider.replies (config.buildPlan toolchain) first.sandbox, reply.Succeeded) →
      Reports provider config toolchain sourceRoot
        (first.ran provider (config.buildPlan toolchain)) scanner report →
      report.passed = true) :
    Coupled World.Agree (buildInside provider config .enforce toolchain sourceRoot first)
      (buildInside provider config .advisory toolchain sourceRoot second) := by
  have built := untilBuilt_agree provider config toolchain first second agree
  rw [buildInside_eq, buildInside_eq]
  apply built.bind
  intro nothing ended
  have succeeded := untilBuilt_value_iff.mp ended
  have world_eq := (untilBuilt_follows provider config toolchain).world_of_value ended
  have verified := verify_agree provider config toolchain sourceRoot _ _ built.worlds
  rw [clear, clear, if_neg (by simp), if_neg (by simp)]
  apply verified.bind
  intro report reported
  have passed : report.passed = true := by
    obtain ⟨scanner, reports⟩ := verify_value_iff.mp reported
    rw [world_eq] at reports
    exact clean scanner report succeeded (reports_reached.mp reports)
  rw [if_neg (by simp [passed]), if_neg (by simp [passed])]
  exact advance_keeps (agree_coupling provider) .verified _ _ verified.worlds

/-- An advised run gets through its sandbox with any report. -/
theorem buildInside_of_report {scanner : Scanner} {report : Report}
    (succeeded : ∀ reply ∈ provider.replies (config.buildPlan toolchain) world.sandbox,
      reply.Succeeded)
    (reports : Reports provider config toolchain sourceRoot
      (world.ran provider (config.buildPlan toolchain)) scanner report) :
    (buildInside provider config .advisory toolchain sourceRoot world).1 = .value () := by
  rw [buildInside_eq, (untilBuilt_follows provider config toolchain).then_value_iff,
    untilBuilt_value_iff, clear, if_neg (by simp), bind_value_iff]
  refine ⟨succeeded, report, verify_value_iff.mpr ⟨scanner, reports_reached.mpr reports⟩, ?_⟩
  rw [if_neg (by simp)]
  rfl

/-- A run that skips the verification is over inside its sandbox after the build. -/
theorem buildInside_skip : buildInside provider config .skip toolchain sourceRoot =
    untilBuilt provider config toolchain := by
  funext world
  rw [buildInside_eq, clear, if_pos rfl, bind_apply]
  rcases untilBuilt provider config toolchain world with ⟨ending, after⟩
  cases ending <;> rfl

/-- Inside the sandbox an enforcing run executes what a run executes that skips the verification,
and then some queries. -/
theorem buildInside_steps (provider : Provider σ) (config : Config) (toolchain : Toolchain)
    (sourceRoot : Path) (agree : first.Agree second) :
    ∃ done asked, done ⊆ config.buildPlan toolchain ∧ asked ⊆ config.queryPlan toolchain ∧
      (buildInside provider config .skip toolchain sourceRoot first).2.events =
        first.events ++ done.map .step ∧
      (buildInside provider config .enforce toolchain sourceRoot second).2.events =
        first.events ++ (done ++ asked).map .step := by
  obtain ⟨done, stages, went⟩ := untilBuilt_follows provider config toolchain first
  have built := untilBuilt_agree provider config toolchain first second agree
  have events_eq : (untilBuilt provider config toolchain first).2.events =
      first.events ++ done.map .step := by
    rw [went.world_eq]
    rfl
  have events_eq' := built.worlds.events_eq.symm.trans events_eq
  rw [buildInside_skip, buildInside_eq, bind_apply]
  rcases ran : untilBuilt provider config toolchain second with ⟨ending, after⟩
  rw [ran] at events_eq'
  cases ending with
  | failed failure =>
      refine ⟨done, [], went.stepsAlong.subset, List.nil_subset _, events_eq, ?_⟩
      rw [List.append_nil]
      exact events_eq'
  | abandoned =>
      refine ⟨done, [], went.stepsAlong.subset, List.nil_subset _, events_eq, ?_⟩
      rw [List.append_nil]
      exact events_eq'
  | value nothing =>
      obtain ⟨asked, stages', went'⟩ :=
        clear_follows provider config toolchain .enforce sourceRoot after
      refine ⟨done, asked, went.stepsAlong.subset, went'.stepsAlong.subset, events_eq, ?_⟩
      rw [went'.world_eq, World.reached_events, World.ran_events, events_eq', List.map_append,
        List.append_assoc]

/-- The settings of the verification make no difference to a run that skips it. -/
theorem execute_skip (verify : VerifySettings) :
    execute provider { config with verify } .skip request =
      execute provider config .skip request := by
  unfold execute buildThen
  simp only [buildInside_skip]
  rfl

/-- A call whose sandbox starts leaves the events of the action inside it, and then the end of the
sandbox. -/
theorem withToolchain_events {inside : Toolchain → Action σ α} {afterwards : α → Action σ β}
    {extra : List Stage} (closes : ∀ value, Closes (afterwards value) extra)
    (ready : Ready provider config request world toolchain)
    (comes : (inside toolchain (world.inSession provider config request)).1 ≠ .abandoned) :
    (withToolchain provider config request inside afterwards world).2.events =
      (inside toolchain (world.inSession provider config request)).2.events ++ [.cleanup] := by
  rw [withToolchain_of_ready ready]
  rcases ran : inside toolchain (world.inSession provider config request) with ⟨ending, after⟩
  rw [ran] at comes
  cases ending with
  | value value =>
      dsimp only
      rw [Provider.letGo_events, (closes value).events_eq, Provider.tearDown_events,
        List.append_nil]
  | failed failure => simp [Provider.close]
  | abandoned => exact absurd rfl comes

end Pipeline

/-- No step hangs, whatever has been executed before. -/
def NoStepHangs (provider : Provider σ) (state : σ) : Prop :=
  ∀ done step, (provider.run step (provider.stateAfter done state)).1.answer ≠ .hung

/-- An action inside a sandbox in which no step hangs is not given up. -/
theorem Action.Follows.not_abandoned {action : Action σ α} {plan : List Step}
    {path final : List Stage} (course : Follows provider action plan path final)
    (calm : NoStepHangs provider world.sandbox) : (action world).1 ≠ .abandoned := by
  intro ended
  obtain ⟨steps, stages, went⟩ := course world
  obtain ⟨done, last, -, hung⟩ := went.hung ended
  exact calm done last hung

/-- No step up to the build is a query. -/
theorem Config.not_mem_queryPlan {step : Step} (held : step ∈ config.buildPlan toolchain) :
    step ∉ config.queryPlan toolchain := by
  intro asked
  obtain ⟨constraint, -, rfl⟩ := List.mem_map.mp asked
  rcases List.mem_append.mp held with provisions | builds
  · rcases List.mem_append.mp provisions with packages | installs
    · unfold Toolchain.packageSteps at packages
      split at packages <;> simp [dependencyQuery] at packages
    · simp [Toolchain.installStep, Toolchain.probeStep, dependencyQuery] at installs
  · simp [buildStep, dependencyQuery] at builds

/-- The queries that are planned once the toolchain has been loaded, as events. -/
def plannedQueries (config : Config) (request : Request) (files : FileSystem) : List Event :=
  match Toolchain.load files request.sourceRoot config.toolchain.manifest with
  | .ok toolchain => (config.queryPlan toolchain).map .step
  | .error _ => []

/-- If the queries are taken out of a log, the other events are left. -/
theorem filter_queries {session : Session} {done asked queries : List Step}
    (kept : ∀ step ∈ done, step ∉ queries) (removed : asked ⊆ queries) :
    ([Event.created session] ++ (done ++ asked).map Event.step ++ [Event.cleanup]).filter
        (fun event => decide (event ∉ queries.map Event.step)) =
      [.created session] ++ done.map .step ++ [.cleanup] := by
  have steps_kept : (done.map Event.step).filter
      (fun event => decide (event ∉ queries.map Event.step)) = done.map .step := by
    rw [List.filter_eq_self]
    intro event held
    obtain ⟨step, along, rfl⟩ := List.mem_map.mp held
    simpa using kept step along
  have steps_removed : (asked.map Event.step).filter
      (fun event => decide (event ∉ queries.map Event.step)) = [] := by
    rw [List.filter_eq_nil_iff]
    intro event held
    obtain ⟨step, along, rfl⟩ := List.mem_map.mp held
    simpa using removed along
  rw [List.map_append, List.filter_append, List.filter_append, List.filter_append, steps_kept,
    steps_removed, List.append_nil]
  simp

section Runs

variable (provider : Provider σ) (config : Config) (request : Request) (files : FileSystem)
  (sandbox : σ)

/-- The full run of a new pipeline in a mode. -/
def runIn (mode : VerifyMode) : Ending Artifact × World σ :=
  run provider request (World.fresh config mode files sandbox)

theorem runIn_eq (mode : VerifyMode) : runIn provider config request files sandbox mode =
    finish (execute provider config mode request) (World.fresh config mode files sandbox) :=
  run_fresh

end Runs

/-- Runs in two modes agree if they do so inside the sandbox. -/
theorem runIn_agree (insides : ∀ toolchain,
      Ready provider config request (World.fresh config mode files sandbox) toolchain →
      Coupled World.Agree
        (buildInside provider config mode toolchain request.sourceRoot
          (started provider config request files sandbox mode))
        (buildInside provider config mode' toolchain request.sourceRoot
          (started provider config request files sandbox mode'))) :
    Coupled World.Agree (runIn provider config request files sandbox mode)
      (runIn provider config request files sandbox mode') := by
  rw [runIn_eq, runIn_eq]
  apply finish_agree
  exact withToolchain_agree (World.Agree.fresh ..) insides fun _ => install_keeps config request

/-- The events of a run that is not given up: those inside the sandbox, and the end of it. -/
theorem runIn_events
    (ready : Ready provider config request (World.fresh config mode files sandbox) toolchain)
    (comes : (buildInside provider config mode toolchain request.sourceRoot
      (started provider config request files sandbox mode)).1 ≠ .abandoned) :
    (runIn provider config request files sandbox mode).2.events =
      (buildInside provider config mode toolchain request.sourceRoot
        (started provider config request files sandbox mode)).2.events ++ [.cleanup] := by
  rw [runIn_eq, finish_apply, World.reached_events, execute, buildThen]
  exact withToolchain_events (fun _ => install_closes config request) ready comes

/-- A run that skips the verification leaves the log of an enforcing run without the queries. -/
theorem events_of_skip (calm : NoStepHangs provider (opened provider config request sandbox).2) :
    (runIn provider config request files sandbox .skip).2.events =
      (runIn provider config request files sandbox .enforce).2.events.filter
        fun event => decide (event ∉ plannedQueries config request files) := by
  unfold plannedQueries
  cases loaded : Toolchain.load files request.sourceRoot config.toolchain.manifest with
  | error failure =>
      have nothing (mode : VerifyMode) :
          (runIn provider config request files sandbox mode).2.events = [] := by
        have refused : Toolchain.load (World.fresh config mode files sandbox).files
            request.sourceRoot config.toolchain.manifest = .error failure := loaded
        rw [runIn_eq, finish_apply, execute, buildThen, withToolchain_of_unloaded refused]
        rfl
      rw [nothing, nothing, List.filter_nil]
  | ok toolchain =>
      have loads (mode : VerifyMode) : Toolchain.load (World.fresh config mode files sandbox).files
          request.sourceRoot config.toolchain.manifest = .ok toolchain := loaded
      cases answer : (provider.create (.forRequest request config) sandbox).1.answer with
      | failed failure =>
          have refused (mode : VerifyMode) :
              (runIn provider config request files sandbox mode).2.events =
                [.createFailed (.forRequest request config) (some failure)] := by
            have answer' : (provider.create (.forRequest request config)
              (World.fresh config mode files sandbox).sandbox).1.answer = .failed failure := answer
            rw [runIn_eq, finish_apply, execute, buildThen,
              withToolchain_of_unstarted (loads mode) answer']
            rfl
          rw [refused, refused]
          simp
      | hung =>
          have stuck (mode : VerifyMode) :
              (runIn provider config request files sandbox mode).2.events =
                [.createFailed (.forRequest request config) none] := by
            have answer' : (provider.create (.forRequest request config)
              (World.fresh config mode files sandbox).sandbox).1.answer = .hung := answer
            rw [runIn_eq, finish_apply, execute, buildThen,
              withToolchain_of_stuck (loads mode) answer']
            rfl
          rw [stuck, stuck]
          simp
      | started =>
          have ready (mode : VerifyMode) : Ready provider config request
              (World.fresh config mode files sandbox) toolchain := ⟨loaded, answer⟩
          have agree : (started provider config request files sandbox .skip).Agree
              (started provider config request files sandbox .enforce) := .started ..
          have comes (mode : VerifyMode) :
              (buildInside provider config mode toolchain request.sourceRoot
                (started provider config request files sandbox mode)).1 ≠ .abandoned := by
            have course := buildInside_follows provider config toolchain mode request.sourceRoot
            exact course.not_abandoned calm
          obtain ⟨done, asked, done_held, asked_held, skipped_eq, enforced_eq⟩ :=
            buildInside_steps provider config toolchain request.sourceRoot agree
          rw [runIn_events (ready .skip) (comes .skip),
            runIn_events (ready .enforce) (comes .enforce), skipped_eq, enforced_eq]
          exact (filter_queries (fun step held => Config.not_mem_queryPlan (done_held held))
            asked_held).symm

section Reports

variable {scanner : Scanner} {report : Report}

/-- With any report an advised run gets through its sandbox. -/
theorem advised_of_report
    (reported : Reported provider config request files sandbox toolchain scanner report) :
    Ready provider config request (World.fresh config .advisory files sandbox) toolchain ∧
      (buildInside provider config .advisory toolchain request.sourceRoot
        (started provider config request files sandbox .advisory)).1 = .value () := by
  obtain ⟨ready, succeeded, compiled, member, answered, tokens⟩ := reported_iff.mp reported
  refine ⟨⟨ready.loaded, ready.started⟩, ?_⟩
  exact buildInside_of_report succeeded ⟨compiled, member, answered, tokens⟩

/-- Violations are noticed only after the last query, so that they do not show in the log. -/
theorem events_of_violations
    (reported : Reported provider config request files sandbox toolchain scanner report)
    (violated : report.violations ≠ []) :
    (runIn provider config request files sandbox .enforce).2.events =
      (runIn provider config request files sandbox .advisory).2.events := by
  obtain ⟨ready, succeeded, reports⟩ := reported_iff.mp reported
  obtain ⟨ready', advised⟩ := advised_of_report reported
  have refused : report.passed = false := by
    simpa [Report.passed] using violated
  have enforced := buildInside_of_violations succeeded reports refused
  have advised_world := (buildInside_follows provider config toolchain .advisory
    request.sourceRoot).world_of_value advised
  have enforced_events := runIn_events ready (by rw [started, enforced]; simp)
  have advised_events := runIn_events ready' (by rw [advised]; simp)
  rw [enforced_events, advised_events, advised_world, started, enforced]
  rfl

/-- With violations an enforcing run does not come to its install. -/
theorem not_installBegins_of_violations
    (reported : Reported provider config request files sandbox toolchain scanner report)
    (violated : report.violations ≠ []) (begun : World σ) :
    ¬ InstallBegins provider request (World.fresh config .enforce files sandbox) begun := by
  obtain ⟨ready, succeeded, reports⟩ := reported_iff.mp reported
  intro comes
  obtain ⟨-, other, ready', ending, -⟩ := installBegins_iff.mp comes
  obtain rfl := Except.ok.inj (ready.loaded.symm.trans ready'.loaded)
  have refused : report.passed = false := by
    simpa [Report.passed] using violated
  have inside := congrArg Prod.fst (buildInside_of_violations succeeded reports refused)
  exact absurd (inside.symm.trans ending) (by simp)

/-- With any report an advised run comes to its install, in a world in which the report does not
count. -/
theorem installBegins_of_report
    (reported : Reported provider config request files sandbox toolchain scanner report) :
    InstallBegins provider request (World.fresh config .advisory files sandbox)
      (beforeInstall provider request (World.fresh config .advisory files sandbox) toolchain) := by
  obtain ⟨ready, advised⟩ := advised_of_report reported
  exact installBegins_iff.mpr ⟨rfl, toolchain, ready, advised, rfl⟩

/-- Without a report that has violations, an enforcing run and an advised one are the same. -/
theorem runIn_agree_of_clean
    (clean : ∀ toolchain scanner report,
      Reported provider config request files sandbox toolchain scanner report →
      report.violations = []) :
    Coupled World.Agree (runIn provider config request files sandbox .enforce)
      (runIn provider config request files sandbox .advisory) := by
  apply runIn_agree
  intro toolchain ready
  apply buildInside_agree_of_clean
  · exact .started ..
  · intro scanner report succeeded reports
    have none_found := clean toolchain scanner report (reported_iff.mpr ⟨ready, succeeded, reports⟩)
    rw [Report.passed, none_found]
    rfl

end Reports

/-- A run that skips the verification comes to its install if every step up to the build
succeeds. -/
theorem installBegins_iff_of_skip :
    (∃ begun, InstallBegins provider request (World.fresh config .skip files sandbox) begun) ↔
      ∃ toolchain,
        Ready provider config request (World.fresh config .skip files sandbox) toolchain ∧
        ∀ reply ∈ provider.replies (config.buildPlan toolchain)
          (opened provider config request sandbox).2, reply.Succeeded := by
  constructor
  · rintro ⟨begun, comes⟩
    obtain ⟨-, toolchain, ready, ending, -⟩ := installBegins_iff.mp comes
    have built : (buildInside provider config .skip toolchain request.sourceRoot
        (started provider config request files sandbox .skip)).1 =
          .value () := ending
    rw [buildInside_skip] at built
    exact ⟨toolchain, ready, untilBuilt_value_iff.mp built⟩
  · rintro ⟨toolchain, ready, succeeded⟩
    have built : (buildInside provider config .skip toolchain request.sourceRoot
        (started provider config request files sandbox .skip)).1 =
          .value () := by
      rw [buildInside_skip]
      exact untilBuilt_value_iff.mpr succeeded
    exact ⟨_, installBegins_iff.mpr ⟨rfl, toolchain, ready, built, rfl⟩⟩

/-- A run that skips the verification and does not come to its install does what an enforcing one
does. -/
theorem runIn_agree_of_skip
    (stops : ¬ ∃ begun,
      InstallBegins provider request (World.fresh config .skip files sandbox) begun) :
    Coupled World.Agree (runIn provider config request files sandbox .skip)
      (runIn provider config request files sandbox .enforce) := by
  apply runIn_agree
  intro toolchain ready
  apply buildInside_agree_of_unbuilt
  · exact .started ..
  · intro succeeded
    exact stops (installBegins_iff_of_skip.mpr ⟨toolchain, ready, succeeded⟩)

/-- A run that skips the verification does not depend on its settings. -/
theorem runIn_skip_agree (verify : VerifySettings) :
    Coupled World.Agree (runIn provider config request files sandbox .skip)
      (runIn provider { config with verify } request files sandbox .skip) := by
  rw [runIn_eq, runIn_eq, execute_skip]
  apply finish_agree
  apply withToolchain_agree (World.Agree.fresh ..)
  · intro toolchain ready
    rw [buildInside_skip]
    exact untilBuilt_agree provider config toolchain _ _
      ((World.Agree.fresh ..).inSession provider config request)
  · exact fun _ => install_keeps config request

/-- How the runs of a new pipeline in the three modes compare. -/
structure Compared (provider : Provider σ) (config : Config) (request : Request)
    (files : FileSystem) (sandbox : σ) : Prop where
  events_eq : (runIn provider config request files sandbox .enforce).2.events =
    (runIn provider config request files sandbox .advisory).2.events
  /-- An enforcing run and an advised one are the same unless there is a report with violations. -/
  agree : (∀ toolchain scanner report,
      Reported provider config request files sandbox toolchain scanner report →
      report.violations = []) →
    Coupled World.Agree (runIn provider config request files sandbox .enforce)
      (runIn provider config request files sandbox .advisory)
  /-- If there is one, the enforcing run fails for the violations before its install. -/
  blocked : ∀ toolchain scanner report,
    Reported provider config request files sandbox toolchain scanner report →
    report.violations ≠ [] →
    (runIn provider config request files sandbox .enforce).1 =
        .failed (.constraintViolation ("; ".intercalate report.violations)) ∧
      ¬ ∃ begun, InstallBegins provider request (World.fresh config .enforce files sandbox) begun
  /-- The advised run goes on to its install from the same world, whatever is reported. -/
  goesOn : ∀ toolchain scanner report,
    Reported provider config request files sandbox toolchain scanner report →
    let begun := beforeInstall provider request (World.fresh config .advisory files sandbox)
      toolchain
    let installed := install config request begun
    InstallBegins provider request (World.fresh config .advisory files sandbox) begun ∧
      begun.pipeline.history =
        [.start, .validated, .sandboxReady, .toolchainReady, .built, .verified] ∧
      runIn provider config request files sandbox .advisory =
        (installed.1, (provider.letGo [] installed.2).reached installed.1.finale)
  /-- A run that skips the verification executes the same without the queries. -/
  skip_events : NoStepHangs provider (opened provider config request sandbox).2 →
    (runIn provider config request files sandbox .skip).2.events =
      (runIn provider config request files sandbox .enforce).2.events.filter
        fun event => decide (event ∉ plannedQueries config request files)
  /-- It comes to its install if every step up to the build succeeds. -/
  skip_begins_iff :
    (∃ begun, InstallBegins provider request (World.fresh config .skip files sandbox) begun) ↔
      ∃ toolchain,
        Ready provider config request (World.fresh config .skip files sandbox) toolchain ∧
        ∀ reply ∈ provider.replies (config.buildPlan toolchain)
          (opened provider config request sandbox).2, reply.Succeeded
  /-- From there on the install alone decides. -/
  skip_installs : ∀ begun,
    InstallBegins provider request (World.fresh config .skip files sandbox) begun →
    begun.pipeline.history = [.start, .validated, .sandboxReady, .toolchainReady, .built] ∧
      let installed := install config request begun
      runIn provider config request files sandbox .skip =
        (installed.1, (provider.letGo [] installed.2).reached installed.1.finale)
  /-- What stops it before its install stops an enforcing run too, and in the same way. -/
  skip_stops : (¬ ∃ begun,
      InstallBegins provider request (World.fresh config .skip files sandbox) begun) →
    Coupled World.Agree (runIn provider config request files sandbox .skip)
      (runIn provider config request files sandbox .enforce)
  /-- The settings of the verification make no difference to it. -/
  skip_indifferent : ∀ verify,
    Coupled World.Agree (runIn provider config request files sandbox .skip)
      (runIn provider { config with verify } request files sandbox .skip)

/-- The runs of every new pipeline compare in this way. -/
theorem comparison_of_modes (provider : Provider σ) (config : Config) (request : Request)
    (files : FileSystem) (sandbox : σ) : Compared provider config request files sandbox := by
  constructor
  · by_cases violating : ∃ toolchain scanner report,
        Reported provider config request files sandbox toolchain scanner report ∧
          report.violations ≠ []
    · obtain ⟨toolchain, scanner, report, reported, violated⟩ := violating
      exact events_of_violations reported violated
    · refine (runIn_agree_of_clean fun toolchain scanner report reported => ?_).worlds.events_eq
      by_contra violated
      exact violating ⟨toolchain, scanner, report, reported, violated⟩
  · exact runIn_agree_of_clean
  · intro toolchain scanner report reported violated
    refine ⟨(run_of_violations reported violated).1, ?_⟩
    rintro ⟨begun, comes⟩
    exact not_installBegins_of_violations reported violated begun comes
  · intro toolchain scanner report reported begun installed
    have comes := installBegins_of_report reported
    exact ⟨comes, history_of_installBegins comes, run_of_installBegins comes⟩
  · exact events_of_skip
  · exact installBegins_iff_of_skip
  · intro begun comes
    exact ⟨history_of_installBegins comes, run_of_installBegins comes⟩
  · exact runIn_agree_of_skip
  · exact runIn_skip_agree

/-- A build that depends on a forbidden package is refused under enforcement and installed under
advice, and a run that skips the verification leaves the same log without the query. -/
theorem comparison_of_tainted_build :
    (runIn Sample.tainted Sample.strict Sample.request Sample.files () .enforce).1 =
      .failed (.constraintViolation
        "`sentry` is in the dependency graph of `codex-cli` (telemetry)") ∧
    (∃ begun, InstallBegins Sample.tainted Sample.request
      (World.fresh Sample.strict .advisory Sample.files ()) begun) ∧
    (runIn Sample.tainted Sample.strict Sample.request Sample.files () .skip).2.events =
      (runIn Sample.tainted Sample.strict Sample.request Sample.files () .enforce).2.events.filter
        fun event => decide
          (event ∉ plannedQueries Sample.strict Sample.request Sample.files) := by
  have compared := comparison_of_modes Sample.tainted Sample.strict Sample.request Sample.files ()
  have prepared : Prepared Sample.tainted Sample.strict Sample.request Sample.files () _ _ :=
    Sample.prepared _ fun step => ⟨_, rfl, rfl⟩
  have present : interpretQuery "sentry" ⟨some 0, "sentry v0.34.0", ""⟩ =
      .ok (.present ["sentry v0.34.0"]) := by decide +kernel
  have reported : Reported Sample.tainted Sample.strict Sample.request Sample.files () _ _
      ⟨"codex-cli", [⟨"sentry", "telemetry", .present ["sentry v0.34.0"]⟩], []⟩ :=
    ⟨prepared, rfl, .cons _ rfl present .nil, (TokenScanner.scan_eq_nil rfl _ _).symm⟩
  refine ⟨?_, ?_, ?_⟩
  · have blocked := compared.blocked _ _ _ reported
      (by simp [Report.violations, DependencyCheck.isPresent])
    exact blocked.1.trans (by decide +kernel)
  · exact ⟨_, (compared.goesOn _ _ _ reported).1⟩
  · apply compared.skip_events
    intro done step hung
    cases hung

end SealedBuild
