import Mathlib.Data.List.Forall2
import SealedBuild.Proofs.Pipeline.Course

/-!
# Verdicts

Whether an action inside the sandbox ends with a value can be read off the replies to its steps. A
step that must succeed has to end with exit status zero, a query has to be answered in a way that
can be understood, and a verification ends with the report that its queries and its scan give. Under
enforcement the report decides on its own what happens after the build.

Main statements: `buildInside_value_iff`, which says when an enforcing run gets through its sandbox,
and `buildInside_of_violations`, which says how it fails if there are violations.
-/

namespace SealedBuild

variable {σ α β : Type} {provider : Provider σ} {config : Config} {toolchain : Toolchain}
  {sourceRoot : Path} {world : World σ} {report : Report}

/-- A step has ended with exit status zero. -/
def Reply.Succeeded (reply : Reply Response) : Prop :=
  ∃ output, reply.answer = .finished output ∧ output.success = true

/-- A query for a package has been answered, and the answer is that the package is absent. -/
def Reply.FindsAbsent (reply : Reply Response) (package : String) : Prop :=
  ∃ output, reply.answer = .finished output ∧ interpretQuery package output = .ok .absent

/-- The queries for constraints have been answered, and the answers give these checks. -/
inductive Answered : List Constraint → List (Reply Response) → List DependencyCheck → Prop
  | nil : Answered [] [] []
  | cons {constraint : Constraint} {constraints : List Constraint} {reply : Reply Response}
      {replies : List (Reply Response)} {outcome : QueryOutcome} {checks : List DependencyCheck}
      (output : StepOutput) (finished : reply.answer = .finished output)
      (read : interpretQuery constraint.package output = .ok outcome)
      (more : Answered constraints replies checks) :
      Answered (constraint :: constraints) (reply :: replies)
        (⟨constraint.package, constraint.rationale, outcome⟩ :: checks)

/-- All packages are absent according to the checks if every query has found that. -/
theorem Answered.absent_iff {constraints : List Constraint} {replies : List (Reply Response)}
    {checks : List DependencyCheck} (answered : Answered constraints replies checks) :
    (∀ check ∈ checks, check.isPresent = false) ↔
      List.Forall₂ (fun constraint reply => reply.FindsAbsent constraint.package) constraints
        replies := by
  induction answered with
  | nil => simp
  | @cons constraint constraints reply replies outcome checks output finished read more ih =>
      have head : outcome = .absent ↔ reply.FindsAbsent constraint.package := by
        constructor
        · rintro rfl
          exact ⟨output, finished, read⟩
        · rintro ⟨output', finished', read'⟩
          obtain rfl := Response.finished.inj (finished.symm.trans finished')
          exact Except.ok.inj (read.symm.trans read')
      rw [List.forall_mem_cons, List.forall₂_cons, ih, ← head]
      refine and_congr_left fun _ => ?_
      cases outcome <;> simp [DependencyCheck.isPresent]

/-- Queries that all find their packages absent have been answered. -/
theorem Answered.of_absent {constraints : List Constraint} {replies : List (Reply Response)}
    (absent : List.Forall₂ (fun constraint reply => reply.FindsAbsent constraint.package)
      constraints replies) : ∃ checks, Answered constraints replies checks := by
  induction absent with
  | nil => exact ⟨[], .nil⟩
  | cons head tail ih =>
      obtain ⟨output, finished, read⟩ := head
      obtain ⟨checks, answered⟩ := ih
      exact ⟨_, .cons output finished read answered⟩

namespace Report

/-- A report is passed if all packages are absent and all tokens are allowed. -/
theorem passed_iff : report.passed = true ↔
    (∀ check ∈ report.dependencies, check.isPresent = false) ∧
      ∀ found ∈ report.tokens, found.allowed = true := by
  simp [passed, violations, List.filter_eq_nil_iff]

end Report

namespace Action

theorem bind_of_value {action : Action σ α} {next : α → Action σ β} {value : α} {after : World σ}
    (ends : action world = (.value value, after)) : (action >>= next) world = next value after := by
  rw [bind_apply, ends]

/-- A value is formed of the value of an action. -/
theorem bind_pure_value_iff {action : Action σ α} {form : α → β} {value : β} :
    ((action >>= fun middle => Pure.pure (form middle)) world).1 = .value value ↔
      ∃ middle, (action world).1 = .value middle ∧ form middle = value := by
  rw [bind_value_iff]
  refine exists_congr fun middle => and_congr_right fun _ => ?_
  rw [pure_apply, Ending.value.injEq]

theorem ofExcept_bind_value_iff {result : Except Failure α} {next : α → Action σ β} {value : β} :
    ((ofExcept result >>= next) world).1 = .value value ↔
      ∃ middle, result = .ok middle ∧ (next middle world).1 = .value value := by
  rw [bind_apply]
  cases result <;> simp [ofExcept]

/-- An action that ends with a value has come to the end of its plan and its path. -/
theorem Follows.world_of_value {action : Action σ α} {plan : List Step} {path final : List Stage}
    (course : Follows provider action plan path final) {value : α}
    (ends : (action world).1 = .value value) :
    (action world).2 = (world.ran provider plan).reached (path ++ final) := by
  obtain ⟨steps, stages, went⟩ := course world
  obtain ⟨rfl, rfl⟩ := went.value value ends
  exact went.world_eq

theorem Follows.apply_of_value {action : Action σ α} {plan : List Step} {path final : List Stage}
    (course : Follows provider action plan path final) {value : α}
    (ends : (action world).1 = .value value) :
    action world = (.value value, (world.ran provider plan).reached (path ++ final)) :=
  Prod.ext ends (course.world_of_value ends)

/-- What follows an action that gives no value starts at the end of its plan and its path. -/
theorem Follows.then_value_iff {action : Action σ Unit} {plan : List Step}
    {path final : List Stage} (course : Follows provider action plan path final)
    {next : Unit → Action σ β} {value : β} :
    ((action >>= next) world).1 = .value value ↔ (action world).1 = .value () ∧
      (next () ((world.ran provider plan).reached (path ++ final))).1 = .value value := by
  rw [bind_value_iff]
  constructor
  · rintro ⟨⟨⟩, ends, rest⟩
    rw [course.world_of_value ends] at rest
    exact ⟨ends, rest⟩
  · rintro ⟨ends, rest⟩
    refine ⟨(), ends, ?_⟩
    rw [course.world_of_value ends]
    exact rest

end Action

namespace Pipeline

open SealedBuild.Action

/-- A step is answered, and what follows starts in the world after it. -/
theorem perform_bind_value_iff {step : Step} {next : StepOutput → Action σ α} {value : α} :
    ((provider.perform step >>= next) world).1 = .value value ↔
      ∃ output, (provider.run step world.sandbox).1.answer = .finished output ∧
        (next output (world.ran provider [step])).1 = .value value := by
  rw [bind_value_iff, perform_world, perform_ending]
  cases (provider.run step world.sandbox).1.answer <;> simp

/-- A step that must succeed has to end with exit status zero. -/
theorem require_value_iff {refusal : StepOutput → Failure} {step : Step} :
    (require provider refusal step world).1 = .value () ↔
      (provider.run step world.sandbox).1.Succeeded := by
  rw [require, perform_bind_value_iff]
  refine exists_congr fun output => and_congr_right fun _ => ?_
  cases output.success <;> simp [Action.ofExcept, Action.pure_apply]

/-- Provisioning gets through if every step ends with exit status zero. -/
theorem provision_value_iff {steps : List Step} :
    (provision provider steps world).1 = .value () ↔
      ∀ reply ∈ provider.replies steps world.sandbox, reply.Succeeded := by
  induction steps generalizing world with
  | nil => simp [provision, Action.pure_apply]
  | cons step rest ih =>
      rw [provision, (require_follows provider _ step).then_value_iff, require_value_iff, ih,
        Provider.replies, List.forall_mem_cons]
      rfl

/-- The queries end with checks if they are answered and the answers give the checks. -/
theorem queries_value_iff {constraints : List Constraint} {checks : List DependencyCheck} :
    (queries provider config toolchain constraints world).1 = .value checks ↔
      Answered constraints
        (provider.replies
          (constraints.map fun constraint => config.dependencyQuery toolchain constraint.package)
          world.sandbox) checks := by
  induction constraints generalizing world checks with
  | nil =>
      constructor
      · intro ends
        obtain rfl : [] = checks := Ending.value.inj ends
        exact .nil
      · rintro ⟨⟩
        rfl
  | cons constraint rest ih =>
      rw [queries, List.map_cons, Provider.replies, perform_bind_value_iff]
      simp only [ofExcept_bind_value_iff, bind_pure_value_iff, ih]
      constructor
      · rintro ⟨output, finished, outcome, read, more, answered, rfl⟩
        exact .cons output finished read answered
      · rintro ⟨⟩
        rename_i outcome more output read finished answered
        exact ⟨output, finished, outcome, read, more, answered, rfl⟩

/-- What a verification that starts in a world reports: one check for each query, and the matches of
a scan after the last one. -/
structure Reports {languages : Languages} (provider : Provider σ) (config : Config)
    (toolchain : Toolchain) (sourceRoot : Path) (world : World σ)
    (scanner : TokenScanner languages) (report : Report) : Prop where
  compiled : TokenScanner.ofSettings languages config.verify = .ok scanner
  member : report.member = config.build.package
  answered : Answered config.forbidden
    (provider.replies (config.queryPlan toolchain) world.sandbox) report.dependencies
  tokens : report.tokens =
    scanner.scan (world.ran provider (config.queryPlan toolchain)).files sourceRoot

/-- The stages that have been reached do not count in a report. -/
theorem reports_reached {languages : Languages} {stages : List Stage}
    {scanner : TokenScanner languages} :
    Reports provider config toolchain sourceRoot (world.reached stages) scanner report ↔
      Reports provider config toolchain sourceRoot world scanner report := by
  constructor
  · rintro ⟨compiled, member, answered, tokens⟩
    exact ⟨compiled, member, answered, tokens⟩
  · rintro ⟨compiled, member, answered, tokens⟩
    exact ⟨compiled, member, answered, tokens⟩

/-- A verification ends with the report on the world that it starts in, whatever the languages of
its patterns are. -/
theorem verifyIn_value_iff {languages : Languages} :
    (verifyIn languages provider config toolchain sourceRoot world).1 = .value report ↔
      ∃ scanner : TokenScanner languages,
        Reports provider config toolchain sourceRoot world scanner report := by
  rw [verifyIn, ofExcept_bind_value_iff]
  refine exists_congr fun scanner => ?_
  rw [bind_value_iff]
  constructor
  · rintro ⟨compiled, checks, ends, rest⟩
    rw [(queries_follows provider config toolchain _).world_of_value ends] at rest
    obtain rfl := Ending.value.inj rest
    exact ⟨compiled, rfl, queries_value_iff.mp ends, rfl⟩
  · rintro ⟨compiled, member, answered, tokens⟩
    have ends := queries_value_iff.mpr answered
    refine ⟨compiled, report.dependencies, ends, ?_⟩
    rw [(queries_follows provider config toolchain _).world_of_value ends]
    obtain ⟨reported, checks, matches_⟩ := report
    obtain rfl : reported = config.build.package := member
    obtain rfl : matches_ = _ := tokens
    rfl

theorem verify_value_iff :
    (verify provider config toolchain sourceRoot world).1 = .value report ↔
      ∃ scanner : Scanner, Reports provider config toolchain sourceRoot world scanner report :=
  verifyIn_value_iff

/-- A full run comes to the end of its build if every step ends with exit status zero. -/
theorem untilBuilt_value_iff :
    (untilBuilt provider config toolchain world).1 = .value () ↔
      ∀ reply ∈ provider.replies (config.buildPlan toolchain) world.sandbox, reply.Succeeded := by
  rw [untilBuilt, (advance_follows provider .sandboxReady).then_value_iff,
    (provision_follows provider _).then_value_iff,
    (advance_follows provider .toolchainReady).then_value_iff,
    (build_follows provider config toolchain).then_value_iff, build, require_value_iff,
    provision_value_iff, Config.buildPlan, Provider.replies_append, List.forall_mem_append]
  simp [Provider.replies, Action.advance]

/-- An enforcing run gets through its sandbox if every step up to the build ends with exit status
zero and the report on the world after that is passed. -/
theorem buildInside_value_iff :
    (buildInside provider config .enforce toolchain sourceRoot world).1 = .value () ↔
      (∀ reply ∈ provider.replies (config.buildPlan toolchain) world.sandbox, reply.Succeeded) ∧
      ∃ (scanner : Scanner) (report : Report), Reports provider config toolchain sourceRoot
        (world.ran provider (config.buildPlan toolchain)) scanner report ∧
        report.passed = true := by
  rw [buildInside_eq, (untilBuilt_follows provider config toolchain).then_value_iff,
    untilBuilt_value_iff, clear, if_neg (by simp), bind_value_iff]
  simp only [verify_value_iff, reports_reached]
  refine and_congr_right fun _ => ?_
  constructor
  · rintro ⟨report, ⟨scanner, reports⟩, rest⟩
    refine ⟨scanner, report, reports, ?_⟩
    cases passed : report.passed with
    | true => rfl
    | false => simp [passed, Action.ofExcept] at rest
  · rintro ⟨scanner, report, reports, passed⟩
    refine ⟨report, ⟨scanner, reports⟩, ?_⟩
    simp [passed, Action.advance]

/-- An enforcing run fails with all violations if every step up to the build ends with exit status
zero and the report on the world after that is not passed. -/
theorem buildInside_of_violations {scanner : Scanner}
    (succeeded : ∀ reply ∈ provider.replies (config.buildPlan toolchain) world.sandbox,
      reply.Succeeded)
    (reports : Reports provider config toolchain sourceRoot
      (world.ran provider (config.buildPlan toolchain)) scanner report)
    (violated : report.passed = false) :
    buildInside provider config .enforce toolchain sourceRoot world =
      (.failed report.failure,
        (world.ran provider (config.buildPlan toolchain ++ config.queryPlan toolchain)).reached
          [.sandboxReady, .toolchainReady, .built]) := by
  have built := (untilBuilt_follows provider config toolchain).apply_of_value
    (untilBuilt_value_iff.mpr succeeded)
  have reports' : Reports provider config toolchain sourceRoot
      ((world.ran provider (config.buildPlan toolchain)).reached
        ([.sandboxReady, .toolchainReady] ++ [.built])) scanner report :=
    reports_reached.mpr reports
  have verified := (verify_follows provider config toolchain sourceRoot).apply_of_value
    (verify_value_iff.mpr ⟨scanner, reports'⟩)
  rw [buildInside_eq, bind_of_value built, clear, if_neg (by simp), bind_of_value verified]
  simp [violated, Action.ofExcept, World.ran_reached, World.ran_append]

end Pipeline

end SealedBuild
