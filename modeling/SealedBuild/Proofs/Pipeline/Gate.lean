import SealedBuild.Proofs.Pipeline.Call
import SealedBuild.Proofs.Pipeline.Verdict

/-!
# The gate before the install

An enforcing run comes to its install if and only if a number of conditions hold, each of which can
be read off the configuration, the files, and the replies of the provider: the toolchain is loaded,
the sandbox starts, every step up to the build ends with exit status zero, the patterns of the scan
can be compiled, every query for a forbidden package finds it absent, and the scan after the last
query finds no token outside of the allowed paths.

Main statement: `enforcing_run`, for a new pipeline in any environment.
-/

namespace SealedBuild

open Pipeline

variable {σ : Type} {provider : Provider σ} {config : Config} {request : Request}
  {files : FileSystem} {sandbox : σ} {toolchain : Toolchain} {scanner : Scanner} {report : Report}
  {begun : World σ}

section Conditions

variable (provider : Provider σ) (config : Config) (request : Request) (files : FileSystem)
  (sandbox : σ) (toolchain : Toolchain) (scanner : Scanner)

/-- The reply to the request for a sandbox, and the state of the provider after it. -/
def opened : Reply Launch × σ := provider.create (.forRequest request config) sandbox

/-- The files after the writes of the sandbox up to the last query. -/
def scanned : FileSystem :=
  files.applyAll ((opened provider config request sandbox).1.writes ++
    provider.writesOf (config.buildPlan toolchain ++ config.queryPlan toolchain)
      (opened provider config request sandbox).2)

/-- Everything before the first query succeeds. -/
structure Prepared : Prop where
  loaded : Toolchain.load files request.sourceRoot config.toolchain.manifest = .ok toolchain
  started : (opened provider config request sandbox).1.answer = .started
  succeeded : ∀ reply ∈ provider.replies (config.buildPlan toolchain)
    (opened provider config request sandbox).2, reply.Succeeded
  compiled : Scanner.ofSettings config.verify = .ok scanner

/-- Nothing stands in the way of the install. -/
structure GateOpen : Prop extends Prepared provider config request files sandbox toolchain scanner
    where
  absent : List.Forall₂ (fun constraint reply => reply.FindsAbsent constraint.package)
    config.forbidden (provider.replies (config.queryPlan toolchain)
      (provider.stateAfter (config.buildPlan toolchain) (opened provider config request sandbox).2))
  clean : ∀ found ∈ scanner.scan (scanned provider config request files sandbox toolchain)
    request.sourceRoot, found.allowed = true

/-- Everything up to a report succeeds. -/
structure Reported (report : Report) : Prop extends
    Prepared provider config request files sandbox toolchain scanner where
  member : report.member = config.build.package
  answered : Answered config.forbidden (provider.replies (config.queryPlan toolchain)
    (provider.stateAfter (config.buildPlan toolchain) (opened provider config request sandbox).2))
    report.dependencies
  tokens : report.tokens = scanner.scan (scanned provider config request files sandbox toolchain)
    request.sourceRoot

/-- All that the provider writes from the start of a sandbox to its end. -/
def sessionWrites : List Write :=
  let plan := config.buildPlan toolchain ++ config.queryPlan toolchain
  let last := provider.stateAfter plan (opened provider config request sandbox).2
  (opened provider config request sandbox).1.writes ++
    provider.writesOf plan (opened provider config request sandbox).2 ++
    (provider.cleanup last).1.writes ++ (provider.drop (provider.cleanup last).2).1.writes

end Conditions

/-- Inside the sandbox of a new pipeline, a report is one on the world after the build. -/
theorem reported_iff : Reported provider config request files sandbox toolchain scanner report ↔
    Ready provider config request (World.fresh config .enforce files sandbox) toolchain ∧
    (∀ reply ∈ provider.replies (config.buildPlan toolchain)
      (opened provider config request sandbox).2, reply.Succeeded) ∧
    Reports provider config toolchain request.sourceRoot
      (((World.fresh config .enforce files sandbox).inSession provider config request).ran provider
        (config.buildPlan toolchain)) scanner report := by
  have files_eq : ((((World.fresh config .enforce files sandbox).inSession provider config
      request).ran provider (config.buildPlan toolchain)).ran provider
        (config.queryPlan toolchain)).files =
      scanned provider config request files sandbox toolchain := by
    rw [← World.ran_append, World.ran_files, scanned, FileSystem.applyAll_append]
    rfl
  constructor
  · rintro ⟨⟨loaded, started, succeeded, compiled⟩, member, answered, tokens⟩
    exact ⟨⟨loaded, started⟩, succeeded, compiled, member, answered, by rw [files_eq, tokens]⟩
  · rintro ⟨⟨loaded, started⟩, succeeded, compiled, member, answered, tokens⟩
    exact ⟨⟨loaded, started, succeeded, compiled⟩, member, answered, by rw [tokens, files_eq]⟩

/-- The gate is open if there is a report and it is passed. -/
theorem gateOpen_iff : GateOpen provider config request files sandbox toolchain scanner ↔
    ∃ report, Reported provider config request files sandbox toolchain scanner report ∧
      report.passed = true := by
  constructor
  · rintro ⟨prepared, absent, clean⟩
    obtain ⟨checks, answered⟩ := Answered.of_absent absent
    refine ⟨⟨config.build.package, checks, _⟩, ⟨prepared, rfl, answered, rfl⟩, ?_⟩
    rw [Report.passed_iff]
    exact ⟨answered.absent_iff.mpr absent, clean⟩
  · rintro ⟨report, ⟨prepared, member, answered, tokens⟩, passed⟩
    obtain ⟨absent, clean⟩ := Report.passed_iff.mp passed
    refine ⟨prepared, answered.absent_iff.mp absent, ?_⟩
    rw [← tokens]
    exact clean

/-- A new enforcing pipeline comes to its install if the gate is open. -/
theorem installBegins_iff_gateOpen :
    (∃ begun, InstallBegins provider request (World.fresh config .enforce files sandbox) begun) ↔
      ∃ toolchain scanner, GateOpen provider config request files sandbox toolchain scanner := by
  constructor
  · rintro ⟨begun, comes⟩
    obtain ⟨-, toolchain, ready, ending, -⟩ := installBegins_iff.mp comes
    obtain ⟨succeeded, scanner, report, reports, passed⟩ := buildInside_value_iff.mp ending
    have reported := reported_iff.mpr ⟨ready, succeeded, reports⟩
    exact ⟨toolchain, scanner, gateOpen_iff.mpr ⟨report, reported, passed⟩⟩
  · rintro ⟨toolchain, scanner, open_⟩
    obtain ⟨report, reported, passed⟩ := gateOpen_iff.mp open_
    obtain ⟨ready, succeeded, reports⟩ := reported_iff.mp reported
    have ending := buildInside_value_iff.mpr ⟨succeeded, scanner, report, reports, passed⟩
    exact ⟨_, installBegins_iff.mpr ⟨rfl, toolchain, ready, ending, rfl⟩⟩

/-- What has happened when the install of a new enforcing pipeline begins: the sandbox has been
started, has run the steps up to the build and then the queries, and has been cleaned up. -/
theorem events_before_install
    (comes : InstallBegins provider request (World.fresh config .enforce files sandbox) begun) :
    ∃ toolchain,
      Toolchain.load files request.sourceRoot config.toolchain.manifest = .ok toolchain ∧
      begun.events = .created (.forRequest request config) ::
        (config.buildPlan toolchain ++ config.queryPlan toolchain).map .step ++ [.cleanup] := by
  obtain ⟨-, toolchain, ready, -, rfl⟩ := installBegins_iff.mp comes
  refine ⟨toolchain, ready.loaded, ?_⟩
  simp [beforeInstall, World.inSession, World.fresh, Pipeline.new, Pipeline.withMode,
    Config.runPlan]

/-- A new enforcing pipeline whose report has violations fails with all of them, and only the
provider has written. -/
theorem run_of_violations
    (reported : Reported provider config request files sandbox toolchain scanner report)
    (violated : report.violations ≠ []) :
    (run provider request (World.fresh config .enforce files sandbox)).1 =
        .failed (.constraintViolation ("; ".intercalate report.violations)) ∧
      (run provider request (World.fresh config .enforce files sandbox)).2.files =
        files.applyAll (sessionWrites provider config request sandbox toolchain) := by
  obtain ⟨ready, succeeded, reports⟩ := reported_iff.mp reported
  have refused : report.passed = false := by
    simpa [Report.passed] using violated
  have inside := buildInside_of_violations succeeded reports refused
  have ended : execute provider config .enforce request
      (World.fresh config .enforce files sandbox) = (.failed report.failure, provider.close _) :=
    withToolchain_of_failed ready inside _
  rw [run_fresh, finish_apply, ended]
  refine ⟨rfl, ?_⟩
  simp only [World.reached_files, Provider.close, Provider.letGo_files, Provider.tearDown_files,
    Provider.tearDown_sandbox, World.ran_files, World.reached_sandbox, World.ran_sandbox,
    sessionWrites, FileSystem.applyAll_append]
  rfl

/-- In every environment, a new enforcing pipeline comes to its install if and only if the gate is
open. The sandbox has then been cleaned up after the build and all queries, and the install decides
how the run ends; otherwise it makes no difference what stands in the place of the install. If there
is a report and it has violations, the run fails with all of them, and only the provider has
written. -/
theorem enforcing_run (provider : Provider σ) (config : Config) (request : Request)
    (files : FileSystem) (sandbox : σ) :
    ((∃ begun, InstallBegins provider request (World.fresh config .enforce files sandbox) begun) ↔
      ∃ toolchain scanner,
        GateOpen provider config request files sandbox toolchain scanner) ∧
    (∀ begun, InstallBegins provider request (World.fresh config .enforce files sandbox) begun →
      (let installed := install config request begun
       run provider request (World.fresh config .enforce files sandbox) =
        (installed.1, (provider.letGo [] installed.2).reached installed.1.finale)) ∧
      ∃ toolchain,
        Toolchain.load files request.sourceRoot config.toolchain.manifest = .ok toolchain ∧
        begun.events = .created (.forRequest request config) ::
          (config.buildPlan toolchain ++ config.queryPlan toolchain).map .step ++ [.cleanup]) ∧
    ((¬ ∃ begun, InstallBegins provider request (World.fresh config .enforce files sandbox)
        begun) →
      ∀ instead : Action σ Artifact,
        run provider request (World.fresh config .enforce files sandbox) =
          finish (buildThen provider config .enforce request instead)
            (World.fresh config .enforce files sandbox)) ∧
    ∀ toolchain scanner report,
      Reported provider config request files sandbox toolchain scanner report →
      report.violations ≠ [] →
      (run provider request (World.fresh config .enforce files sandbox)).1 =
        .failed (.constraintViolation ("; ".intercalate report.violations)) ∧
      (run provider request (World.fresh config .enforce files sandbox)).2.files =
        files.applyAll (sessionWrites provider config request sandbox toolchain) := by
  refine ⟨installBegins_iff_gateOpen, ?_, ?_, ?_⟩
  · intro begun comes
    exact ⟨run_of_installBegins comes, events_before_install comes⟩
  · intro stops instead
    exact run_of_not_installBegins rfl stops instead
  · intro toolchain scanner report reported violated
    exact run_of_violations reported violated

namespace Sample

/-- A configuration that forbids one package and no token. -/
def strict : Config :=
  { verify := { constraints := [⟨"sentry", true, "telemetry"⟩], tokens := [], allowedPaths := [] } }

/-- A provider whose steps all succeed and whose queries find a package. -/
def tainted : Provider Unit :=
  .scripted fun step =>
    ⟨[], .finished ⟨some 0, if "tree" ∈ step.args then "sentry v0.34.0" else "", ""⟩⟩

/-- Everything before the first query succeeds with a provider whose steps all succeed. -/
theorem prepared (reply : Step → Reply Response) (succeeded : ∀ step, (reply step).Succeeded) :
    Prepared (.scripted reply) strict Sample.request Sample.files () ⟨"1.90.0", none, [], []⟩
      ⟨[], [], strict.verify.skipDirs⟩ := by
  constructor
  · decide +kernel
  · rfl
  · intro answer given
    rw [Provider.replies_scripted] at given
    obtain ⟨step, -, rfl⟩ := List.mem_map.mp given
    exact succeeded step
  · rfl

end Sample

/-- If only one package is forbidden, a build is installed if the package is absent, and is refused
for that package if it is present. -/
theorem enforcing_run_of_one_constraint :
    (∃ begun, InstallBegins Sample.builder Sample.request
      (World.fresh Sample.strict .enforce Sample.files ()) begun) ∧
    (run Sample.tainted Sample.request
        (World.fresh Sample.strict .enforce Sample.files ())).1 =
      .failed (.constraintViolation
        "`sentry` is in the dependency graph of `codex-cli` (telemetry)") := by
  constructor
  · obtain ⟨gate, -⟩ := enforcing_run Sample.builder Sample.strict Sample.request Sample.files ()
    have prepared : Prepared Sample.builder Sample.strict Sample.request Sample.files () _ _ :=
      Sample.prepared _ fun step => ⟨_, rfl, rfl⟩
    have absent : interpretQuery "sentry" ⟨some 0, "", ""⟩ = .ok .absent := by decide +kernel
    refine gate.mpr ⟨_, _, prepared, .cons ⟨_, rfl, absent⟩ .nil, fun found held => ?_⟩
    rw [TokenScanner.scan_eq_nil rfl] at held
    simp at held
  · obtain ⟨-, -, -, refused⟩ :=
      enforcing_run Sample.tainted Sample.strict Sample.request Sample.files ()
    have prepared : Prepared Sample.tainted Sample.strict Sample.request Sample.files () _ _ :=
      Sample.prepared _ fun step => ⟨_, rfl, rfl⟩
    have present : interpretQuery "sentry" ⟨some 0, "sentry v0.34.0", ""⟩ =
        .ok (.present ["sentry v0.34.0"]) := by decide +kernel
    have reported : Reported Sample.tainted Sample.strict Sample.request Sample.files () _ _
        ⟨"codex-cli", [⟨"sentry", "telemetry", .present ["sentry v0.34.0"]⟩], []⟩ :=
      ⟨prepared, rfl, .cons _ rfl present .nil, (TokenScanner.scan_eq_nil rfl _ _).symm⟩
    exact (refused _ _ _ reported (by simp [Report.violations, DependencyCheck.isPresent])).1.trans
      (by decide +kernel)

end SealedBuild
