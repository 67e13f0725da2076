import SealedBuild.Proofs.Pipeline.Account
import SealedBuild.Proofs.Pipeline.Coupling
import SealedBuild.Proofs.Pipeline.Gate

/-!
# What a verification predicts

A verification does not build, and so it only predicts what an enforcing run comes to. The
prediction is right if the sandbox is steady: what it answers to a step depends on the step alone,
no step changes what the scan finds, and the build succeeds. Then both fail alike, and the run comes
to its install if and only if the report has no violations.

Main statement: `prediction_of_verification`, for new pipelines in any steady environment.
-/

namespace SealedBuild

open Pipeline

variable {σ α β : Type} {provider : Provider σ} {config : Config} {request : Request}
  {files : FileSystem} {sandbox : σ} {toolchain : Toolchain} {mode : VerifyMode}
  {sourceRoot : Path} {plan : List Step} {world : World σ}

/-- Neither its answers nor the scan tell which steps of a full run have been executed in a
sandbox, and the build succeeds in it. The steps of a verification are among those of a full run. -/
structure Steady (provider : Provider σ) (config : Config) (request : Request) (files : FileSystem)
    (sandbox : σ) (toolchain : Toolchain) : Prop where
  /-- The answer to a step depends on the step alone. -/
  answer_eq : ∀ done step, done ⊆ config.runPlan toolchain .enforce →
    step ∈ config.runPlan toolchain .enforce →
    (provider.run step
      (provider.stateAfter done (opened provider config request sandbox).2)).1.answer =
      (provider.run step (opened provider config request sandbox).2).1.answer
  /-- No steps change what the scan finds. -/
  scan_eq : ∀ scanner done, Scanner.ofSettings config.verify = .ok scanner →
    done ⊆ config.runPlan toolchain .enforce →
    scanner.scan (files.applyAll ((opened provider config request sandbox).1.writes ++
      provider.writesOf done (opened provider config request sandbox).2)) request.sourceRoot =
      scanner.scan (files.applyAll (opened provider config request sandbox).1.writes)
        request.sourceRoot
  builds : (provider.run (config.buildStep toolchain)
    (opened provider config request sandbox).2).1.Succeeded

/-- Two worlds that no steps of a plan tell apart by their answers or by a scan. -/
structure Alike (provider : Provider σ) (config : Config) (sourceRoot : Path) (plan : List Step)
    (first second : World σ) : Prop where
  answer_eq : ∀ done step, done ⊆ plan → step ∈ plan →
    (provider.run step (provider.stateAfter done first.sandbox)).1.answer =
      (provider.run step (provider.stateAfter done second.sandbox)).1.answer
  scan_eq : ∀ scanner done, Scanner.ofSettings config.verify = .ok scanner → done ⊆ plan →
    scanner.scan (first.ran provider done).files sourceRoot =
      scanner.scan (second.ran provider done).files sourceRoot

/-- Worlds that are alike stay alike, whatever steps of the plan are executed in both. -/
theorem alike_coupling (provider : Provider σ) (config : Config) (sourceRoot : Path)
    (plan : List Step) : Coupling provider (· ∈ plan) (Alike provider config sourceRoot plan) := by
  constructor
  · intro first second step alike planned
    exact alike.answer_eq [] step (List.nil_subset plan) planned
  · intro first second step alike planned
    constructor
    · intro done next held planned'
      exact alike.answer_eq (step :: done) next (List.cons_subset.mpr ⟨planned, held⟩) planned'
    · intro scanner done compiled held
      rw [← World.ran_append, ← World.ran_append]
      exact alike.scan_eq scanner (step :: done) compiled (List.cons_subset.mpr ⟨planned, held⟩)
  · intro first second stage alike
    exact ⟨alike.answer_eq, alike.scan_eq⟩

/-- In a steady sandbox it makes no difference what has been executed before, and which stages have
been reached. -/
theorem Steady.alike (steady : Steady provider config request files sandbox toolchain)
    (mode mode' : VerifyMode) {done done' : List Step}
    (held : done ⊆ config.runPlan toolchain .enforce)
    (held' : done' ⊆ config.runPlan toolchain .enforce) (stages stages' : List Stage) :
    Alike provider config request.sourceRoot (config.runPlan toolchain .enforce)
      (((started provider config request files sandbox mode).ran provider done).reached stages)
      (((started provider config request files sandbox mode').ran provider done').reached
        stages') := by
  have scanned (mode : VerifyMode) (steps : List Step) :
      ((started provider config request files sandbox mode).ran provider steps).files =
        files.applyAll ((opened provider config request sandbox).1.writes ++
          provider.writesOf steps (opened provider config request sandbox).2) := by
    rw [FileSystem.applyAll_append]
    rfl
  constructor
  · intro more step more_held planned
    rw [World.reached_sandbox, World.reached_sandbox, World.ran_sandbox, World.ran_sandbox,
      ← provider.stateAfter_append, ← provider.stateAfter_append]
    calc _ = _ := steady.answer_eq (done ++ more) step
            (List.append_subset.mpr ⟨held, more_held⟩) planned
      _ = _ := (steady.answer_eq (done' ++ more) step
            (List.append_subset.mpr ⟨held', more_held⟩) planned).symm
  · intro scanner more compiled more_held
    rw [World.ran_reached, World.ran_reached, World.reached_files, World.reached_files,
      ← World.ran_append, ← World.ran_append, scanned, scanned]
    calc _ = _ := steady.scan_eq scanner (done ++ more) compiled
            (List.append_subset.mpr ⟨held, more_held⟩)
      _ = _ := (steady.scan_eq scanner (done' ++ more) compiled
            (List.append_subset.mpr ⟨held', more_held⟩)).symm

/-- How an enforcing run goes on inside the sandbox after a report. -/
def Report.verdict (report : Report) : Ending Unit :=
  if report.passed then .value () else .failed report.failure

theorem Report.verdict_value_iff {report : Report} :
    report.verdict = .value () ↔ report.violations = [] := by
  rw [verdict, passed]
  cases report.violations <;> simp

theorem Ending.andThen_value (ending : Ending α) : ending.andThen .value = ending := by
  cases ending <;> rfl

theorem Action.bind_ending (action : Action σ α) (next : α → Action σ β) (world : World σ) :
    ((action >>= next) world).1 =
      (action world).1.andThen fun value => (next value (action world).2).1 := by
  rw [bind_apply]
  rcases action world with ⟨ending, after⟩
  cases ending <;> rfl

namespace Pipeline

open SealedBuild.Action

/-- Under enforcement the way is cleared according to the verdict of the report. -/
theorem clear_ending (world : World σ) :
    (clear provider config toolchain .enforce sourceRoot world).1 =
      (verify provider config toolchain sourceRoot world).1.andThen Report.verdict := by
  rw [clear, if_neg (by simp), bind_ending]
  congr 1
  funext report
  rw [Report.verdict]
  cases report.passed <;> rfl

/-- In a steady sandbox the build succeeds after any steps. -/
theorem build_of_steady (steady : Steady provider config request files sandbox toolchain)
    {done : List Step} (held : done ⊆ config.runPlan toolchain .enforce)
    (sandbox_eq : world.sandbox =
      provider.stateAfter done (opened provider config request sandbox).2) :
    build provider config toolchain world =
      (.value (), world.ran provider [config.buildStep toolchain]) := by
  obtain ⟨output, finished, success⟩ := steady.builds
  have planned : config.buildStep toolchain ∈ config.runPlan toolchain .enforce :=
    config.buildPlan_subset_runPlan toolchain .enforce (config.buildStep_mem_buildPlan toolchain)
  have answer_eq := steady.answer_eq done _ held planned
  rw [← sandbox_eq, finished] at answer_eq
  have succeeds : (build provider config toolchain world).1 = .value () :=
    require_value_iff.mpr ⟨output, answer_eq, success⟩
  exact (build_follows provider config toolchain).apply_of_value succeeds

/-- A verification inside the sandbox ends as its queries and its scan do after the
provisioning. -/
theorem verifyInside_of_prepared {after : World σ}
    (prepared : prepare provider config toolchain world = (.value (), after)) :
    (verifyInside provider config toolchain sourceRoot world).1 =
      (verify provider config toolchain sourceRoot after).1 := by
  rw [verifyInside_eq_prepare, bind_of_value prepared, bind_ending]
  cases (verify provider config toolchain sourceRoot after).1 <;> rfl

/-- Once the sandbox has been provisioned, a steady one gives the same report with and without the
build. -/
theorem buildInside_of_prepared (steady : Steady provider config request files sandbox toolchain)
    (mode : VerifyMode)
    (building : (prepare provider config toolchain
      (started provider config request files sandbox .enforce)).1 = .value ())
    (verifying : (prepare provider config toolchain
      (started provider config request files sandbox mode)).1 = .value ()) :
    (buildInside provider config .enforce toolchain request.sourceRoot
      (started provider config request files sandbox .enforce)).1 =
      (verifyInside provider config toolchain request.sourceRoot
        (started provider config request files sandbox mode)).1.andThen Report.verdict := by
  have course := prepare_follows provider config toolchain
  have provisions := config.provisionSteps_subset_runPlan toolchain .enforce
  have build_eq : build provider config toolchain
      (((started provider config request files sandbox .enforce).ran provider
        (toolchain.provisionSteps config.toolchain.osPackages)).reached
          ([.sandboxReady] ++ [.toolchainReady])) = (.value (), _) :=
    build_of_steady steady provisions rfl
  have built_eq : untilBuilt provider config toolchain
      (started provider config request files sandbox .enforce) =
        (.value (), ((started provider config request files sandbox .enforce).ran provider
          (config.buildPlan toolchain)).reached [.sandboxReady, .toolchainReady, .built]) := by
    rw [untilBuilt_eq_prepare, bind_of_value (course.apply_of_value building),
      bind_of_value build_eq, Config.buildPlan, World.ran_append]
    rfl
  have alike := steady.alike .enforce mode (config.buildPlan_subset_runPlan toolchain .enforce)
    provisions [.sandboxReady, .toolchainReady, .built] ([.sandboxReady] ++ [.toolchainReady])
  have reports := verify_keeps (alike_coupling provider config request.sourceRoot _)
    (config.queryPlan_subset_runPlan toolchain) (fun scanner _ _ compiled alike =>
      alike.scan_eq scanner [] compiled (List.nil_subset _)) _ _ alike
  rw [buildInside_eq, bind_of_value built_eq, clear_ending, reports.ending_eq,
    verifyInside_of_prepared (course.apply_of_value verifying)]

/-- Inside a steady sandbox the verdict on the report of a verification is what the enforcing run
ends with. -/
theorem buildInside_ending (steady : Steady provider config request files sandbox toolchain)
    (mode : VerifyMode) :
    (buildInside provider config .enforce toolchain request.sourceRoot
      (started provider config request files sandbox .enforce)).1 =
      (verifyInside provider config toolchain request.sourceRoot
        (started provider config request files sandbox mode)).1.andThen Report.verdict := by
  have start := steady.alike .enforce mode (List.nil_subset _) (List.nil_subset _) [] []
  rw [World.ran_nil, World.ran_nil] at start
  have prepared := prepare_keeps (alike_coupling provider config request.sourceRoot _)
    (config.provisionSteps_subset_runPlan toolchain .enforce) _ _ start
  have same := prepared.ending_eq
  simp only [World.reached_nil] at same
  cases ended : (prepare provider config toolchain
      (started provider config request files sandbox .enforce)).1 with
  | value nothing => exact buildInside_of_prepared steady mode ended (same.symm.trans ended)
  | failed failure =>
      rw [buildInside_eq, untilBuilt_eq_prepare, bind_assoc, bind_ending, ended, Ending.andThen,
        verifyInside_eq_prepare, bind_ending, same.symm.trans ended]
      rfl
  | abandoned =>
      rw [buildInside_eq, untilBuilt_eq_prepare, bind_assoc, bind_ending, ended, Ending.andThen,
        verifyInside_eq_prepare, bind_ending, same.symm.trans ended]
      rfl

/-- A call whose sandbox starts ends as the action inside it does, and then as what comes
afterwards. -/
theorem withToolchain_ending {inside : Toolchain → Action σ α} {afterwards : α → Action σ β}
    (ready : Ready provider config request world toolchain) :
    (withToolchain provider config request inside afterwards world).1 =
      (inside toolchain (world.inSession provider config request)).1.andThen fun value =>
        (afterwards value (provider.tearDown
          (inside toolchain (world.inSession provider config request)).2)).1 := by
  rw [withToolchain_of_ready ready]
  rcases inside toolchain (world.inSession provider config request) with ⟨ending, after⟩
  cases ending <;> rfl

theorem run_ending : (run provider request (World.fresh config mode files sandbox)).1 =
    (execute provider config mode request (World.fresh config mode files sandbox)).1 := by
  rw [run_fresh, finish_apply]

theorem verifyOnly_ending :
    (verifyOnly provider request (World.fresh config mode files sandbox)).1 =
      (executeVerify provider config request (World.fresh config mode files sandbox)).1 := by
  rw [verifyOnly_fresh, finish_apply]

/-- A verification whose sandbox starts ends as it does inside. -/
theorem verifyOnly_of_ready
    (ready : Ready provider config request (World.fresh config mode files sandbox) toolchain) :
    (verifyOnly provider request (World.fresh config mode files sandbox)).1 =
      (verifyInside provider config toolchain request.sourceRoot
        (started provider config request files sandbox mode)).1 := by
  rw [verifyOnly_ending, executeVerify, withToolchain_ending ready]
  exact Ending.andThen_value _

/-- The sandbox is provisioned if every step of that ends with exit status zero. -/
theorem prepare_of_succeeded
    (succeeded : ∀ reply ∈ provider.replies
      (toolchain.provisionSteps config.toolchain.osPackages) world.sandbox, reply.Succeeded) :
    (prepare provider config toolchain world).1 = .value () := by
  rw [prepare, (advance_follows provider .sandboxReady).then_value_iff,
    (provision_follows provider _).then_value_iff]
  exact ⟨rfl, provision_value_iff.mpr succeeded, rfl⟩

/-- A verification ends with the report on its sandbox after the provisioning. -/
theorem verifyOnly_of_reports {scanner : Scanner} {report : Report}
    (ready : Ready provider config request (World.fresh config mode files sandbox) toolchain)
    (succeeded : ∀ reply ∈ provider.replies
      (toolchain.provisionSteps config.toolchain.osPackages)
      (opened provider config request sandbox).2, reply.Succeeded)
    (reports : Reports provider config toolchain request.sourceRoot
      ((started provider config request files sandbox mode).ran provider
        (toolchain.provisionSteps config.toolchain.osPackages)) scanner report) :
    (verifyOnly provider request (World.fresh config mode files sandbox)).1 = .value report := by
  have prepared : (prepare provider config toolchain
      (started provider config request files sandbox mode)).1 = .value () :=
    prepare_of_succeeded succeeded
  rw [verifyOnly_of_ready ready,
    verifyInside_of_prepared ((prepare_follows provider config toolchain).apply_of_value prepared)]
  exact verify_value_iff.mpr ⟨scanner, reports_reached.mpr reports⟩

end Pipeline

/-- What the ending of a verification says about the enforcing run of a new pipeline. -/
structure Foretold (provider : Provider σ) (config : Config) (request : Request)
    (files : FileSystem) (sandbox : σ) (verification : Ending Report) : Prop where
  failed : ∀ failure, verification = .failed failure →
    (run provider request (World.fresh config .enforce files sandbox)).1 = .failed failure
  abandoned : verification = .abandoned →
    (run provider request (World.fresh config .enforce files sandbox)).1 = .abandoned
  violated : ∀ report, verification = .value report → report.violations ≠ [] →
    (run provider request (World.fresh config .enforce files sandbox)).1 =
      .failed (.constraintViolation ("; ".intercalate report.violations))
  /-- The run comes to its install for a report without violations, and for nothing else. -/
  begins_iff : (∃ begun,
      InstallBegins provider request (World.fresh config .enforce files sandbox) begun) ↔
    ∃ report, verification = .value report ∧ report.violations = []
  /-- When the install begins, it is verified what was built, and the install alone decides. -/
  verified : ∀ begun,
    InstallBegins provider request (World.fresh config .enforce files sandbox) begun →
    begun.pipeline.history =
        [.start, .validated, .sandboxReady, .toolchainReady, .built, .verified] ∧
      let installed := install config request begun
      run provider request (World.fresh config .enforce files sandbox) =
        (installed.1, (provider.letGo [] installed.2).reached installed.1.finale)

/-- A verification that ends before its sandbox has been started ends as the run does. -/
theorem Foretold.of_unready {verification : Ending Report}
    (stops : ∀ report, verification ≠ .value report)
    (alike : (run provider request (World.fresh config .enforce files sandbox)).1 =
      verification.andThen fun _ => .abandoned)
    (unready : ∀ toolchain,
      ¬ Ready provider config request (World.fresh config .enforce files sandbox) toolchain) :
    Foretold provider config request files sandbox verification := by
  have uninstalled (begun : World σ) :
      ¬ InstallBegins provider request (World.fresh config .enforce files sandbox) begun := by
    intro comes
    obtain ⟨-, toolchain, ready, -⟩ := installBegins_iff.mp comes
    exact unready toolchain ready
  constructor
  · rintro failure rfl
    exact alike
  · rintro rfl
    exact alike
  · exact fun report ended => absurd ended (stops report)
  · constructor
    · rintro ⟨begun, comes⟩
      exact absurd comes (uninstalled begun)
    · rintro ⟨report, ended, -⟩
      exact absurd ended (stops report)
  · exact fun begun comes => absurd comes (uninstalled begun)

/-- The verdict on the report of a verification decides whether the install begins. -/
theorem Foretold.of_verdict {verification : Ending Report}
    (ready : Ready provider config request (World.fresh config .enforce files sandbox) toolchain)
    (ending_eq : (buildInside provider config .enforce toolchain request.sourceRoot
      (started provider config request files sandbox .enforce)).1 =
        verification.andThen Report.verdict) :
    Foretold provider config request files sandbox verification := by
  obtain ⟨next, run_eq⟩ : ∃ next,
      (run provider request (World.fresh config .enforce files sandbox)).1 =
        (verification.andThen Report.verdict).andThen next := by
    rw [run_ending, ← ending_eq]
    exact ⟨_, withToolchain_ending ready⟩
  have begins_iff :
      (∃ begun,
        InstallBegins provider request (World.fresh config .enforce files sandbox) begun) ↔
      verification.andThen Report.verdict = .value () := by
    rw [← ending_eq]
    constructor
    · rintro ⟨begun, comes⟩
      obtain ⟨-, other, ready', ending, -⟩ := installBegins_iff.mp comes
      obtain rfl := Except.ok.inj (ready.loaded.symm.trans ready'.loaded)
      exact ending
    · intro ending
      exact ⟨_, installBegins_iff.mpr ⟨rfl, toolchain, ready, ending, rfl⟩⟩
  constructor
  · rintro failure rfl
    exact run_eq
  · rintro rfl
    exact run_eq
  · rintro report rfl violated
    have refused : report.passed = false := by
      simpa [Report.passed] using violated
    rw [Ending.andThen, Report.verdict, refused] at run_eq
    exact run_eq
  · rw [begins_iff]
    cases verification with
    | value report => simp [Ending.andThen, Report.verdict_value_iff]
    | failed failure => simp [Ending.andThen]
    | abandoned => simp [Ending.andThen]
  · intro begun comes
    exact ⟨history_of_installBegins comes, run_of_installBegins comes⟩

/-- In a steady environment the ending of a verification foretells the enforcing run of a new
pipeline. -/
theorem prediction_of_verification (mode : VerifyMode)
    (steady : ∀ toolchain,
      Toolchain.load files request.sourceRoot config.toolchain.manifest = .ok toolchain →
      Steady provider config request files sandbox toolchain) :
    Foretold provider config request files sandbox
      (verifyOnly provider request (World.fresh config mode files sandbox)).1 := by
  cases loaded : Toolchain.load files request.sourceRoot config.toolchain.manifest with
  | error failure =>
      have refused (mode : VerifyMode) :
          Toolchain.load (World.fresh config mode files sandbox).files request.sourceRoot
            config.toolchain.manifest = .error failure := loaded
      have verified : (verifyOnly provider request (World.fresh config mode files sandbox)).1 =
          .failed failure := by
        rw [verifyOnly_ending]
        exact congrArg Prod.fst (withToolchain_of_unloaded (refused mode))
      rw [verified]
      refine Foretold.of_unready (by simp) ?_ ?_
      · rw [run_ending]
        exact congrArg Prod.fst (withToolchain_of_unloaded (refused .enforce))
      · intro toolchain ready
        exact absurd ((refused .enforce).symm.trans ready.loaded) (by simp)
  | ok toolchain =>
      have loads (mode : VerifyMode) :
          Toolchain.load (World.fresh config mode files sandbox).files request.sourceRoot
            config.toolchain.manifest = .ok toolchain := loaded
      cases answer : (provider.create (.forRequest request config) sandbox).1.answer with
      | failed failure =>
          have refused (mode : VerifyMode) : (provider.create (.forRequest request config)
              (World.fresh config mode files sandbox).sandbox).1.answer = .failed failure := answer
          have verified : (verifyOnly provider request
              (World.fresh config mode files sandbox)).1 = .failed failure := by
            rw [verifyOnly_ending]
            exact congrArg Prod.fst (withToolchain_of_unstarted (loads mode) (refused mode))
          rw [verified]
          refine Foretold.of_unready (by simp) ?_ ?_
          · rw [run_ending]
            exact congrArg Prod.fst (withToolchain_of_unstarted (loads _) (refused .enforce))
          · intro other ready
            exact absurd ((refused .enforce).symm.trans ready.started) (by simp)
      | hung =>
          have hangs (mode : VerifyMode) : (provider.create (.forRequest request config)
              (World.fresh config mode files sandbox).sandbox).1.answer = .hung := answer
          have verified : (verifyOnly provider request
              (World.fresh config mode files sandbox)).1 = .abandoned := by
            rw [verifyOnly_ending]
            exact congrArg Prod.fst (withToolchain_of_stuck (loads mode) (hangs mode))
          rw [verified]
          refine Foretold.of_unready (by simp) ?_ ?_
          · rw [run_ending]
            exact congrArg Prod.fst (withToolchain_of_stuck (loads _) (hangs .enforce))
          · intro other ready
            exact absurd ((hangs .enforce).symm.trans ready.started) (by simp)
      | started =>
          have ready (mode : VerifyMode) : Ready provider config request
              (World.fresh config mode files sandbox) toolchain := ⟨loads mode, answer⟩
          apply Foretold.of_verdict (ready .enforce)
          rw [verifyOnly_of_ready (ready mode)]
          exact buildInside_ending (steady toolchain loaded) mode

namespace Sample

/-- A sandbox without a state is steady if nothing is scanned for and its build succeeds. -/
theorem steady (reply : Step → Reply Response)
    (builds : ∀ toolchain, (reply (strict.buildStep toolchain)).Succeeded) (toolchain : Toolchain) :
    Steady (.scripted reply) strict request files () toolchain := by
  constructor
  · intro done step _ _
    rfl
  · intro scanner done compiled _
    obtain rfl : (⟨[], [], strict.verify.skipDirs⟩ : Scanner) = scanner := Except.ok.inj compiled
    rw [TokenScanner.scan_eq_nil rfl, TokenScanner.scan_eq_nil rfl]
  · exact builds toolchain

/-- What a verification reports if all steps succeed, nothing is scanned for, and one query is
asked. -/
theorem verifies (reply : Step → Reply Response) (succeeded : ∀ step, (reply step).Succeeded)
    {output : StepOutput} {outcome : QueryOutcome}
    (finished : (reply (strict.dependencyQuery (.ofChannel "1.90.0") "sentry")).answer =
      .finished output) (read : interpretQuery "sentry" output = .ok outcome) :
    (verifyOnly (.scripted reply) Sample.request
        (World.fresh strict .advisory Sample.files ())).1 =
      .value ⟨"codex-cli", [⟨"sentry", "telemetry", outcome⟩], []⟩ := by
  have ready : Ready (.scripted reply) strict Sample.request
      (World.fresh strict .advisory Sample.files ()) (.ofChannel "1.90.0") :=
    ⟨by decide +kernel, rfl⟩
  apply verifyOnly_of_reports ready
  · intro answer given
    rw [Provider.replies_scripted] at given
    obtain ⟨step, -, rfl⟩ := List.mem_map.mp given
    exact succeeded step
  · exact ⟨rfl, rfl, .cons output finished read .nil, (TokenScanner.scan_eq_nil rfl _ _).symm⟩

end Sample

/-- A verification that finds a forbidden package predicts that the build is refused for it, and one
that does not find it predicts that the build is installed. -/
theorem prediction_of_one_constraint :
    (run Sample.tainted Sample.request
        (World.fresh Sample.strict .enforce Sample.files ())).1 =
      .failed (.constraintViolation
        "`sentry` is in the dependency graph of `codex-cli` (telemetry)") ∧
    ∃ begun, InstallBegins Sample.builder Sample.request
      (World.fresh Sample.strict .enforce Sample.files ()) begun := by
  constructor
  · have foretold : Foretold Sample.tainted Sample.strict Sample.request Sample.files () _ :=
      prediction_of_verification .advisory fun toolchain _ =>
        Sample.steady _ (fun _ => ⟨_, rfl, rfl⟩) toolchain
    have present : interpretQuery "sentry" ⟨some 0, "sentry v0.34.0", ""⟩ =
        .ok (.present ["sentry v0.34.0"]) := by decide +kernel
    have found : (verifyOnly Sample.tainted Sample.request
        (World.fresh Sample.strict .advisory Sample.files ())).1 = _ :=
      Sample.verifies _ (fun _ => ⟨_, rfl, rfl⟩) rfl present
    exact (foretold.violated _ found (by simp [Report.violations, DependencyCheck.isPresent])).trans
      (by decide +kernel)
  · have foretold : Foretold Sample.builder Sample.strict Sample.request Sample.files () _ :=
      prediction_of_verification .advisory fun toolchain _ =>
        Sample.steady _ (fun _ => ⟨_, rfl, rfl⟩) toolchain
    have absent : interpretQuery "sentry" ⟨some 0, "", ""⟩ = .ok .absent := by decide +kernel
    have found : (verifyOnly Sample.builder Sample.request
        (World.fresh Sample.strict .advisory Sample.files ())).1 = _ :=
      Sample.verifies _ (fun _ => ⟨_, rfl, rfl⟩) rfl absent
    exact foretold.begins_iff.mpr
      ⟨_, found, by simp [Report.violations, DependencyCheck.isPresent]⟩

end SealedBuild
