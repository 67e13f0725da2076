import SealedBuild.Proofs.Pipeline.Gate
import SealedBuild.Proofs.Scan.Occurrences

/-!
# Tightened settings

One verification is tighter than another if it forbids at least the same packages and tokens, and
allows and skips at most the same paths. It then reads at least the same files, allows at most the
same of them, and asks at least the same queries. With the same answers and the same tree, nothing
that the laxer verification objects to is hidden from the tighter one.

Main statement: `violations_of_tightened`, for every two verifications that come to a report.
-/

namespace SealedBuild

open Pipeline

variable {σ : Type} {languages : Languages} {provider : Provider σ} {config : Config}
  {toolchain : Toolchain} {sourceRoot root : Path} {world other : World σ} {files : FileSystem}
  {report tighter : Report} {tight loose : VerifySettings} {answer : String → Response}

/-- Settings that forbid at least as much as others, and allow and skip at most as much. -/
structure VerifySettings.Tightens (tight loose : VerifySettings) : Prop where
  constraints : loose.constraints.filter (·.disallowed) ⊆ tight.constraints.filter (·.disallowed)
  tokens : loose.tokens ⊆ tight.tokens
  allowedPaths : tight.allowedPaths ⊆ loose.allowedPaths
  skipDirs : tight.skipDirs ⊆ loose.skipDirs

/-! ### The scan -/

/-- A file is still seen if fewer names are skipped. -/
theorem FileSystem.Sees.of_subset {skip fewer : List RawName} {here names : RawPlace}
    {content : Bytes} (subset : fewer ⊆ skip) (sees : Sees files skip here names content) :
    Sees files fewer here names content := by
  induction sees with
  | file opens held => exact .file opens held
  | down opens kept more ih => exact .down opens (fun again => kept (subset again)) ih

namespace TokenScanner

variable {wide narrow : TokenScanner languages} {content : Bytes} {spot : Spot} {found : TokenMatch}

/-- A scan that looks for at least as much as another one, and allows and skips at most as much. -/
structure Tightens (wide narrow : TokenScanner languages) : Prop where
  tokens : narrow.tokens ⊆ wide.tokens
  allowed : wide.allowed ⊆ narrow.allowed
  skipDirs : wide.skipDirs ⊆ narrow.skipDirs

/-- Tighter settings make a tighter scan. -/
theorem tightens_of_settings (tightens : tight.Tightens loose)
    (compiled : ofSettings languages tight = .ok wide)
    (compiled' : ofSettings languages loose = .ok narrow) : wide.Tightens narrow := by
  obtain ⟨tokens, allowed, skipDirs⟩ := ofSettings_ok compiled
  obtain ⟨tokens', allowed', skipDirs'⟩ := ofSettings_ok compiled'
  refine ⟨subset_of_mapM_ok tokens' tokens tightens.tokens,
    subset_of_mapM_ok allowed allowed' tightens.allowedPaths, ?_⟩
  rw [← skipDirs, ← skipDirs']
  exact tightens.skipDirs

/-- What a tighter scan allows is allowed by a laxer one. -/
theorem Tightens.allows (tightens : wide.Tightens narrow) {path : OsPath}
    (allows : wide.allows path = true) : narrow.allows path = true := by
  obtain ⟨text, isText, allowed⟩ := (Option.any_eq_true ..).mp allows
  obtain ⟨pattern, held, isMatch⟩ := List.any_eq_true.mp allowed
  exact (Option.any_eq_true ..).mpr
    ⟨text, isText, List.any_eq_true.mpr ⟨pattern, tightens.allowed held, isMatch⟩⟩

/-- A tighter scan reads every file that a laxer one reads. -/
theorem Tightens.scannedFiles_subset (tightens : wide.Tightens narrow) (files : FileSystem)
    (root : Path) : narrow.scannedFiles files root ⊆ wide.scannedFiles files root := by
  have skipNames : wide.skipNames ⊆ narrow.skipNames := List.map_subset _ tightens.skipDirs
  have listings (place : RawPlace) :
      files.listing narrow.skipNames place ⊆ files.listing wide.skipNames place := by
    rintro ⟨names, content⟩ listed
    apply FileSystem.mem_listing_iff.mpr
    exact (FileSystem.mem_listing_iff.mp listed).of_subset skipNames
  unfold scannedFiles
  split
  · exact List.Subset.refl _
  · split
    · exact List.Subset.refl _
    · split
      · exact List.Subset.refl _
      · split
        · split
          · exact List.filter_subset _ (listings _)
          · exact List.Subset.refl _
        · exact List.Subset.refl _

/-- What a laxer scan finds and does not allow is found by a tighter one, though its token may stand
in another place. -/
theorem Tightens.finds (tightens : wide.Tightens narrow) (denied : found.allowed = false)
    (finds : narrow.Finds content spot found) :
    ∃ index, wide.Finds content ⟨spot.names, spot.line, index⟩ found := by
  cases finds with
  | @on names number index text line token isText isLine isToken isMatch =>
      obtain ⟨index', isToken'⟩ :=
        List.mem_iff_getElem?.mp (tightens.tokens (List.mem_of_getElem? isToken))
      have denied' : wide.allows (.ofNames names) = false := by
        rw [← Bool.not_eq_true]
        intro allows
        exact absurd ((tightens.allows allows).symm.trans denied) (by decide)
      have same : narrow.allows (.ofNames names) = wide.allows (.ofNames names) :=
        Eq.trans denied denied'.symm
      rw [same]
      exact ⟨index', .on isText isLine isToken' isMatch⟩

theorem mem_scan_iff {scanner : TokenScanner languages} : found ∈ scanner.scan files root ↔
    ∃ spot content, (spot.names, content) ∈ scanner.scannedFiles files root ∧
      scanner.Finds content spot found := by
  simp [← hits_map_snd, mem_hits_iff]

/-- Whatever a laxer scan reports and does not allow is reported by a tighter one. -/
theorem Tightens.mem_scan (tightens : wide.Tightens narrow) (denied : found.allowed = false)
    (reported : found ∈ narrow.scan files root) : found ∈ wide.scan files root := by
  obtain ⟨spot, content, read, finds⟩ := mem_scan_iff.mp reported
  obtain ⟨index, finds'⟩ := tightens.finds denied finds
  exact mem_scan_iff.mpr
    ⟨⟨spot.names, spot.line, index⟩, content, tightens.scannedFiles_subset files root read, finds'⟩

end TokenScanner

/-! ### The queries -/

/-- The answer to a query about a constraint's package gives a check. -/
def Constraint.Gives (constraint : Constraint) (answer : Response) (check : DependencyCheck) :
    Prop :=
  ∃ output, answer = .finished output ∧
    interpretQuery constraint.package output = .ok check.outcome ∧
    check.package = constraint.package ∧ check.rationale = constraint.rationale

/-- If the answers depend on the packages alone, so do the checks. -/
theorem Answered.mem_iff {constraints : List Constraint} {replies : List (Reply Response)}
    {checks : List DependencyCheck} (answered : Answered constraints replies checks)
    (fixed : List.Forall₂ (fun constraint reply => reply.answer = answer constraint.package)
      constraints replies) {check : DependencyCheck} :
    check ∈ checks ↔ ∃ constraint ∈ constraints,
      constraint.Gives (answer constraint.package) check := by
  induction answered with
  | nil => simp
  | @cons constraint constraints reply replies outcome checks output finished read more ih =>
      obtain ⟨same, rest⟩ := List.forall₂_cons.mp fixed
      have head : check = ⟨constraint.package, constraint.rationale, outcome⟩ ↔
          constraint.Gives (answer constraint.package) check := by
        constructor
        · rintro rfl
          exact ⟨output, same.symm.trans finished, read, rfl, rfl⟩
        · rintro ⟨output', finished', read', package_eq, rationale_eq⟩
          obtain rfl := Response.finished.inj (finished.symm.trans (same.trans finished'))
          obtain rfl := Except.ok.inj (read.symm.trans read')
          rw [← package_eq, ← rationale_eq]
      simp only [List.mem_cons, exists_eq_or_imp, head, ih rest]

/-! ### The reports -/

namespace Report

variable {text : String}

theorem mem_violations_iff : text ∈ report.violations ↔
    (∃ check ∈ report.dependencies, check.isPresent = true ∧
      check.violation report.member = text) ∨
    ∃ found ∈ report.tokens, found.allowed = false ∧ found.violation = text := by
  simp [violations, and_assoc]

/-- A report has every violation of another one if it has every package that is present and every
token that is not allowed there. -/
theorem violations_subset (member : report.member = tighter.member)
    (packages : ∀ check ∈ report.dependencies, check.isPresent = true →
      check ∈ tighter.dependencies)
    (tokens : ∀ found ∈ report.tokens, found.allowed = false → found ∈ tighter.tokens) :
    report.violations ⊆ tighter.violations := by
  intro text violates
  apply mem_violations_iff.mpr
  rcases mem_violations_iff.mp violates with
    ⟨check, held, present, rfl⟩ | ⟨found, held, denied, rfl⟩
  · exact .inl ⟨check, packages check held present, present, by rw [member]⟩
  · exact .inr ⟨found, tokens found held denied, denied, rfl⟩

/-- A report is passed if all its violations are among those of a report that is passed. -/
theorem passed_of_subset (subset : report.violations ⊆ tighter.violations)
    (passes : tighter.passed = true) : report.passed = true := by
  rw [passed, List.isEmpty_iff] at passes ⊢
  exact List.subset_nil.mp (passes ▸ subset)

end Report

/-- A configuration with other settings of the verification. -/
def Config.verifying (config : Config) (settings : VerifySettings) : Config :=
  { config with verify := settings }

/-- What a verification looks at is fixed beforehand: the answer to a query by the package that it
is about, and what a scan finds by a tree of files. -/
structure Observes (languages : Languages) (provider : Provider σ) (answer : String → Response)
    (files : FileSystem) (config : Config) (toolchain : Toolchain) (sourceRoot : Path)
    (world : World σ) : Prop where
  answers : List.Forall₂ (fun constraint reply => reply.answer = answer constraint.package)
    config.forbidden (provider.replies (config.queryPlan toolchain) world.sandbox)
  tree : ∀ scanner : TokenScanner languages,
    scanner.scan (world.ran provider (config.queryPlan toolchain)).files sourceRoot =
      scanner.scan files sourceRoot

namespace Pipeline

/-- A tighter verification of the same build reports every violation of a laxer one. -/
theorem Reports.violations_subset {wide narrow : TokenScanner languages}
    (tightens : tight.Tightens loose)
    (reports : Reports provider (config.verifying loose) toolchain sourceRoot world narrow report)
    (reports' : Reports provider (config.verifying tight) toolchain sourceRoot other wide tighter)
    (observes : Observes languages provider answer files (config.verifying loose) toolchain
      sourceRoot world)
    (observes' : Observes languages provider answer files (config.verifying tight) toolchain
      sourceRoot other) : report.violations ⊆ tighter.violations := by
  apply Report.violations_subset
  · exact reports.member.trans reports'.member.symm
  · intro check held _
    obtain ⟨constraint, forbids, gives⟩ := (reports.answered.mem_iff observes.answers).mp held
    exact (reports'.answered.mem_iff observes'.answers).mpr
      ⟨constraint, tightens.constraints forbids, gives⟩
  · intro found held denied
    rw [reports.tokens, observes.tree] at held
    rw [reports'.tokens, observes'.tree]
    exact (TokenScanner.tightens_of_settings tightens reports'.compiled reports.compiled).mem_scan
      denied held

end Pipeline

/-- Tightening the settings of a verification hides nothing, whatever the languages of its patterns
are: whenever the two verifications of one configuration come to reports, with the same answers to
queries about the same packages and with the same tree, every violation of the laxer one is a
violation of the tighter one, and the laxer one is passed if the tighter one is. -/
theorem violations_of_tightened (languages : Languages) (provider : Provider σ) (config : Config)
    (toolchain : Toolchain) (sourceRoot : Path) {tight loose : VerifySettings}
    (tightens : tight.Tightens loose) (answer : String → Response) (files : FileSystem)
    {world other : World σ}
    (observes : Observes languages provider answer files (config.verifying loose) toolchain
      sourceRoot world)
    (observes' : Observes languages provider answer files (config.verifying tight) toolchain
      sourceRoot other) {report tighter : Report}
    (ends : (verifyIn languages provider (config.verifying loose) toolchain sourceRoot world).1 =
      .value report)
    (ends' : (verifyIn languages provider (config.verifying tight) toolchain sourceRoot other).1 =
      .value tighter) :
    report.violations ⊆ tighter.violations ∧ (tighter.passed = true → report.passed = true) := by
  obtain ⟨narrow, reports⟩ := verifyIn_value_iff.mp ends
  obtain ⟨wide, reports'⟩ := verifyIn_value_iff.mp ends'
  have subset : report.violations ⊆ tighter.violations :=
    reports.violations_subset tightens reports' observes observes'
  exact ⟨subset, Report.passed_of_subset subset⟩

namespace Sample

/-- Settings that forbid one package and look for tokens in all directories. -/
def searching : VerifySettings := { strict.verify with tokens := defaultTokens, skipDirs := [] }

/-- What is answered to every query. -/
def finding : StepOutput := ⟨some 0, "sentry v0.34.0", ""⟩

/-- A verification that asks for one package finds it, whatever else it looks for. -/
theorem observes (settings : VerifySettings)
    (asks : settings.constraints = strict.verify.constraints) :
    Observes .standard tainted (fun _ => .finished finding) sources (strict.verifying settings)
      (.ofChannel "1.90.0") ⟨"source"⟩
      (.fresh (strict.verifying settings) .enforce sources ()) := by
  have asks' : (strict.verifying settings).forbidden = strict.forbidden :=
    congrArg (List.filter Constraint.disallowed) asks
  constructor
  · rw [asks', Config.queryPlan, asks']
    exact .cons rfl .nil
  · intro scanner
    rw [Config.queryPlan, asks']
    rfl

theorem exists_report (settings : VerifySettings) {scanner : Scanner}
    (asks : settings.constraints = strict.verify.constraints)
    (compiled : Scanner.ofSettings settings = .ok scanner) :
    ∃ report, (verify tainted (strict.verifying settings) (.ofChannel "1.90.0") ⟨"source"⟩
        (.fresh (strict.verifying settings) .enforce sources ())).1 = .value report ∧
      "`sentry` is in the dependency graph of `codex-cli` (telemetry)" ∈ report.violations := by
  have asks' : (strict.verifying settings).forbidden = strict.forbidden :=
    congrArg (List.filter Constraint.disallowed) asks
  have present : interpretQuery "sentry" finding = .ok (.present ["sentry v0.34.0"]) := by
    decide +kernel
  refine ⟨⟨_, [⟨"sentry", "telemetry", .present ["sentry v0.34.0"]⟩], _⟩,
    verify_value_iff.mpr ⟨scanner, compiled, rfl, ?_, rfl⟩, ?_⟩
  · rw [asks', Config.queryPlan, asks']
    exact .cons _ rfl present .nil
  · exact Report.mem_violations_iff.mpr (.inl ⟨_, List.mem_cons_self, rfl, rfl⟩)

end Sample

theorem violations_of_tightened_search : ∃ report tighter,
    (verify Sample.tainted Sample.strict (.ofChannel "1.90.0") ⟨"source"⟩
      (.fresh Sample.strict .enforce Sample.sources ())).1 = .value report ∧
    (verify Sample.tainted (Sample.strict.verifying Sample.searching) (.ofChannel "1.90.0")
      ⟨"source"⟩ (.fresh (Sample.strict.verifying Sample.searching) .enforce Sample.sources ())).1 =
        .value tighter ∧
    "`sentry` is in the dependency graph of `codex-cli` (telemetry)" ∈ report.violations ∧
    report.violations ⊆ tighter.violations := by
  have well : (Scanner.ofSettings Sample.searching).toOption.any (fun _ => true) = true := by decide
  obtain ⟨scanner, compiled, -⟩ := exists_of_toOption_any well
  obtain ⟨report, ends, violates⟩ := Sample.exists_report Sample.strict.verify rfl rfl
  obtain ⟨tighter, ends', -⟩ := Sample.exists_report Sample.searching rfl compiled
  have tightens : Sample.searching.Tightens Sample.strict.verify :=
    ⟨List.Subset.refl _, List.nil_subset _, List.Subset.refl _, List.nil_subset _⟩
  obtain ⟨subset, -⟩ := violations_of_tightened .standard Sample.tainted Sample.strict
    (.ofChannel "1.90.0") ⟨"source"⟩ tightens _ Sample.sources (Sample.observes _ rfl)
    (Sample.observes _ rfl) ends ends'
  exact ⟨report, tighter, ends, ends', violates, subset⟩

end SealedBuild
