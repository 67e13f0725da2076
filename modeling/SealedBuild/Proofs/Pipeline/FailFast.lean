import SealedBuild.Proofs.Pipeline.Account
import SealedBuild.Proofs.Pipeline.Gate

/-!
# Failing fast

The steps that a call executes are the first ones of its plan, each of them once and in order. A
step is executed only if all steps before it have let the plan go on, and a query only if the
patterns of the scan can be compiled. The plan is cut short only by the step that was executed last,
or in front of the queries.

Main statement: `steps_of_call`, for every call in every world.
-/

namespace SealedBuild

variable {σ α : Type} {provider : Provider σ} {config : Config} {toolchain : Toolchain}
  {sourceRoot : Path} {mode : VerifyMode} {before queries plan : Plan} {world : World σ}
  {state : σ} {executed : List Step} {ending : Ending α}

namespace Plan

/-- A plan that has been passed has been passed up to each of its steps. -/
theorem Passed.of_prefix {first : Plan} (passed : plan.Passed provider state)
    (along : first <+: plan) : first.Passed provider state := by
  obtain ⟨rest, rfl⟩ := along
  exact (passed_append.mp passed).1

theorem steps_prefix {first : Plan} (along : first <+: plan) : first.steps <+: plan.steps :=
  along.map _

/-- A plan is cut short by the step that was executed last. -/
def CutByLast (provider : Provider σ) (plan : Plan) (state : σ) (executed : List Step)
    (ending : Ending α) : Prop :=
  ∃ done last rest, plan = done ++ last :: rest ∧ executed = steps done ++ [last.step] ∧
    last.Stops (provider.run last.step (provider.stateAfter (steps done) state)).1.answer ending

end Plan

/-- What has been executed of a plan whose last steps are queries, and how its execution has
ended. -/
structure FailFast (provider : Provider σ) (config : Config) (before queries : Plan) (state : σ)
    (executed : List Step) (ending : Ending α) : Prop where
  along : executed <+: Plan.steps (before ++ queries)
  /-- A step is executed only if every step before it has let the plan go on. -/
  passed : ∀ done next rest, before ++ queries = done ++ next :: rest →
    done.length < executed.length → Plan.Passed provider done state
  /-- A query is asked only if the patterns of the scan can be compiled. -/
  compiled : before.length < executed.length →
    ∃ scanner, Scanner.ofSettings config.verify = .ok scanner
  /-- The plan is cut short only by the step that was executed last, or before the queries. -/
  cut : executed ≠ Plan.steps (before ++ queries) →
    Plan.CutByLast provider (before ++ queries) state executed ending ∨
    (executed = before.steps ∧ before.Passed provider state ∧
      ∃ failure, Scanner.ofSettings config.verify = .error failure ∧ ending = .failed failure)
  /-- A query whose answer can be understood does not cut the plan short. -/
  answered : ∀ done step package rest output outcome,
    queries = done ++ ⟨step, .asking package⟩ :: rest →
    executed = Plan.steps (before ++ done) ++ [step] →
    (provider.run step (provider.stateAfter (Plan.steps (before ++ done)) state)).1.answer =
      .finished output →
    interpretQuery package output = .ok outcome → rest = []

/-- A plan is cut short at a query only if its answer cannot be understood. -/
theorem answered_of_cut
    (cut : executed ≠ Plan.steps (before ++ queries) →
      Plan.CutByLast provider (before ++ queries) state executed ending ∨ executed = before.steps)
    {done rest : Plan} {step : Step} {package : String} {output : StepOutput}
    {outcome : QueryOutcome} (split : queries = done ++ ⟨step, .asking package⟩ :: rest)
    (last : executed = Plan.steps (before ++ done) ++ [step])
    (finished : (provider.run step
      (provider.stateAfter (Plan.steps (before ++ done)) state)).1.answer = .finished output)
    (read : interpretQuery package output = .ok outcome) : rest = [] := by
  by_contra more
  have length_eq : executed.length = before.length + done.length + 1 := by
    rw [last, List.length_append, Plan.length_steps, List.length_append]
    rfl
  have short : executed ≠ Plan.steps (before ++ queries) := by
    intro whole
    have lengths := congrArg List.length whole
    rw [length_eq, Plan.length_steps, split, List.length_append, List.length_append,
      List.length_cons] at lengths
    exact more (List.length_eq_zero_iff.mp (by omega))
  rcases cut short with ⟨done', last', rest', split', executed_eq, stops⟩ | executed_eq
  · -- Both describe the last of the executed steps.
    have lengths : done'.length = (before ++ done).length := by
      have counted := congrArg List.length executed_eq
      rw [length_eq, List.length_append, Plan.length_steps] at counted
      rw [List.length_append]
      simpa using counted.symm
    rw [split, ← List.append_assoc] at split'
    obtain ⟨rfl, tails⟩ := List.append_inj split' lengths.symm
    obtain ⟨rfl, -⟩ := List.cons.inj tails
    rw [finished] at stops
    cases stops with
    | objected objection => simp [Assignment.objection?, failure?, read] at objection
  · have counted := congrArg List.length executed_eq
    rw [length_eq, Plan.length_steps] at counted
    omega

/-- What has been executed is a plan that has been passed, with one more step at most. -/
theorem FailFast.of_passed (done more : Plan) (along : done ++ more <+: before ++ queries)
    (one : more.length ≤ 1) (passed : done.Passed provider state)
    (executed_eq : executed = Plan.steps (done ++ more))
    (compiled : before.length < executed.length →
      ∃ scanner, Scanner.ofSettings config.verify = .ok scanner)
    (cut : executed ≠ Plan.steps (before ++ queries) →
      Plan.CutByLast provider (before ++ queries) state executed ending ∨
      (executed = before.steps ∧ before.Passed provider state ∧
        ∃ failure, Scanner.ofSettings config.verify = .error failure ∧ ending = .failed failure)) :
    FailFast provider config before queries state executed ending := by
  constructor
  · rw [executed_eq]
    exact Plan.steps_prefix along
  · intro first next rest split short
    have first_along : first <+: before ++ queries := ⟨next :: rest, split.symm⟩
    have length_le : first.length ≤ done.length := by
      rw [executed_eq, Plan.length_steps, List.length_append] at short
      omega
    exact passed.of_prefix (List.prefix_of_prefix_length_le first_along
      ((List.prefix_append done more).trans along) length_le)
  · exact compiled
  · exact cut
  · intro first step package rest output outcome split last finished read
    exact answered_of_cut (fun short => (cut short).imp_right And.left) split last finished read

/-- A plan that has been passed to its end is not cut short. -/
theorem failFast_of_whole
    (attains : config.attainable toolchain mode = config.inspection toolchain mode)
    (passed : Plan.Passed provider (before ++ config.inspection toolchain mode) state) :
    FailFast provider config before (config.inspection toolchain mode) state
      (Plan.steps (before ++ config.inspection toolchain mode)) ending := by
  apply FailFast.of_passed (before ++ config.inspection toolchain mode) []
  · exact ⟨[], by rw [List.append_nil, List.append_nil]⟩
  · simp
  · exact passed
  · rw [List.append_nil]
  · intro queried
    cases compiled : Scanner.ofSettings config.verify with
    | ok scanner => exact ⟨scanner, rfl⟩
    | error failure =>
        rw [← attains, config.attainable_of_error toolchain mode compiled, List.append_nil,
          Plan.length_steps] at queried
        exact absurd queried (Nat.lt_irrefl _)
  · intro short
    exact absurd rfl short

/-- Every course is cut short by what it meets first, and by nothing else. -/
theorem Course.failFast
    (course : Course provider config toolchain sourceRoot mode before world executed ending) :
    FailFast provider config before (config.inspection toolchain mode) world.sandbox executed
      ending := by
  cases course with
  | @stopped done rest last ending split passed stops =>
      -- What can be attained may end before the queries, but the step that stops is in it.
      obtain ⟨unattained, plan_eq⟩ := (List.prefix_append_right_inj before).mpr
        (config.attainable_prefix toolchain mode)
      rw [split] at plan_eq
      have plan_eq' : before ++ config.inspection toolchain mode =
          done ++ last :: (rest ++ unattained) := by
        rw [← plan_eq, List.append_assoc, List.cons_append]
      apply FailFast.of_passed done [last]
      · refine ⟨rest ++ unattained, ?_⟩
        rw [plan_eq', List.append_assoc, List.singleton_append]
      · simp
      · exact passed
      · rw [Plan.steps_append, Plan.steps_singleton]
      · intro queried
        cases compiled : Scanner.ofSettings config.verify with
        | ok scanner => exact ⟨scanner, rfl⟩
        | error failure =>
            have lengths := congrArg List.length split
            rw [config.attainable_of_error toolchain mode compiled, List.append_nil,
              List.length_append, List.length_cons] at lengths
            rw [List.length_append, Plan.length_steps, List.length_singleton] at queried
            omega
      · intro _
        exact Or.inl ⟨done, last, rest ++ unattained, plan_eq', rfl, stops⟩
  | @uncompiled failure verifies refused passed =>
      apply FailFast.of_passed before []
      · rw [List.append_nil]
        exact List.prefix_append _ _
      · simp
      · exact passed
      · rw [List.append_nil]
      · intro queried
        rw [Plan.length_steps] at queried
        exact absurd queried (Nat.lt_irrefl _)
      · intro _
        exact Or.inr ⟨rfl, passed, failure, refused, rfl⟩
  | violated enforces reports violated attains passed => exact failFast_of_whole attains passed
  | completed value attains cleared passed => exact failFast_of_whole attains passed

/-- A plan that has come to its end is not cut short, whatever comes afterwards. -/
theorem Course.failFast_of_value
    (course : Course provider config toolchain sourceRoot mode before world executed
      (.value () : Ending Unit)) :
    FailFast provider config before (config.inspection toolchain mode) world.sandbox executed
      ending := by
  cases course with
  | stopped split passed stops => exact (stops.not_value rfl).elim
  | completed _ attains cleared passed => exact failFast_of_whole attains passed

/-- The steps that a call has executed are the first ones of its plan. If it has not loaded a
toolchain, it has left everything as it was. -/
theorem Account.along {call : Call} {ending : Ending (Artifact ⊕ Report)}
    {left : FileSystem × σ} (told : Account provider world call executed ending left) :
    left = world.outside ∨ ∃ toolchain,
      Toolchain.load world.files call.request.sourceRoot
        world.pipeline.config.toolchain.manifest = .ok toolchain ∧
      executed <+: (call.plan world.pipeline.config world.pipeline.mode toolchain).steps := by
  cases told with
  | finished ended => exact Or.inl rfl
  | unloaded running refused => exact Or.inl rfl
  | unstarted running loaded refused => exact Or.inr ⟨_, loaded, List.nil_prefix⟩
  | stuck running loaded hangs => exact Or.inr ⟨_, loaded, List.nil_prefix⟩
  | broken running ready course stops => exact Or.inr ⟨_, ready.loaded, course.failFast.along⟩
  | reported verifies running ready course =>
      exact Or.inr ⟨_, ready.loaded, course.failFast.along⟩
  | installed builds running ready course done =>
      exact Or.inr ⟨_, ready.loaded, course.failFast.along⟩
  | uninstalled builds running ready course refused =>
      exact Or.inr ⟨_, ready.loaded, course.failFast.along⟩

/-- A call whose sandbox does not start executes nothing, and every other one fails fast. -/
theorem Account.failFast {call : Call} {ending : Ending (Artifact ⊕ Report)}
    {left : FileSystem × σ} (told : Account provider world call executed ending left) :
    (executed = [] ∧ (world.pipeline.stage.isTerminal = true ∨ ∀ toolchain,
      ¬ Pipeline.Ready provider world.pipeline.config call.request world toolchain)) ∨
    ∃ toolchain, world.pipeline.stage.isTerminal = false ∧
      Pipeline.Ready provider world.pipeline.config call.request world toolchain ∧
      FailFast provider world.pipeline.config (call.preparation world.pipeline.config toolchain)
        (world.pipeline.config.inspection toolchain (call.stance world.pipeline.mode))
        (call.opened provider world) executed ending := by
  cases told with
  | finished ended => exact Or.inl ⟨rfl, Or.inl ended⟩
  | unloaded running refused =>
      refine Or.inl ⟨rfl, Or.inr fun toolchain ready => ?_⟩
      exact absurd (ready.loaded.symm.trans refused) (by simp)
  | unstarted running loaded refused =>
      refine Or.inl ⟨rfl, Or.inr fun toolchain ready => ?_⟩
      exact absurd (ready.started.symm.trans refused) (by simp)
  | stuck running loaded hangs =>
      refine Or.inl ⟨rfl, Or.inr fun toolchain ready => ?_⟩
      exact absurd (ready.started.symm.trans hangs) (by simp)
  | broken running ready course stops => exact Or.inr ⟨_, running, ready, course.failFast⟩
  | reported verifies running ready course =>
      exact Or.inr ⟨_, running, ready, course.failFast_of_value⟩
  | installed builds running ready course done =>
      exact Or.inr ⟨_, running, ready, course.failFast_of_value⟩
  | uninstalled builds running ready course refused =>
      exact Or.inr ⟨_, running, ready, course.failFast_of_value⟩

/-- A call executes no step unless the pipeline has not ended, the toolchain is loaded and the
sandbox starts. Then it executes the steps of its plan in order, each of them once, up to the first
one that stops it, or up to the queries if the patterns of the scan cannot be compiled. -/
theorem steps_of_call (call : Call) (provider : Provider σ) (world : World σ) :
    ∃ events, (call.perform provider world).2.events = world.events ++ events ∧
      ((world.pipeline.stage.isTerminal = true ∨ ∀ toolchain,
          ¬ Pipeline.Ready provider world.pipeline.config call.request world toolchain) →
        Event.steps events = []) ∧
      ∀ toolchain, world.pipeline.stage.isTerminal = false →
        Pipeline.Ready provider world.pipeline.config call.request world toolchain →
        FailFast provider world.pipeline.config
          (call.preparation world.pipeline.config toolchain)
          (world.pipeline.config.inspection toolchain (call.stance world.pipeline.mode))
          (call.opened provider world) (Event.steps events) (call.perform provider world).1 := by
  obtain ⟨events, events_eq, told⟩ := call.account provider world
  refine ⟨events, events_eq, ?_⟩
  rcases told.failFast with ⟨nothing, unready⟩ | ⟨toolchain, running, ready, failFast⟩
  · refine ⟨fun _ => nothing, fun toolchain running ready => ?_⟩
    rcases unready with ended | unready
    · exact absurd (running.symm.trans ended) (by simp)
    · exact absurd ready (unready toolchain)
  · constructor
    · rintro (ended | unready)
      · exact absurd (running.symm.trans ended) (by simp)
      · exact absurd ready (unready toolchain)
    · intro other _ ready'
      obtain rfl := Except.ok.inj (ready.loaded.symm.trans ready'.loaded)
      exact failFast

/-- A build that fails is the last of five steps, and the query after it is not asked. -/
theorem steps_of_failed_build :
    let world := World.fresh Sample.strict .enforce Sample.files ()
    let plan := (Call.run Sample.request).plan Sample.strict .enforce (.ofChannel "1.90.0")
    let result := (Call.run Sample.request).perform Sample.breaker world
    plan.length = 6 ∧ (Event.steps result.2.events).length = 5 ∧
      plan.CutByLast Sample.breaker () (Event.steps result.2.events) result.1 := by
  intro world plan result
  have executed : (Event.steps result.2.events).length = 5 := by decide +kernel
  have ready : Pipeline.Ready Sample.breaker Sample.strict Sample.request world
      (.ofChannel "1.90.0") := ⟨by decide +kernel, rfl⟩
  obtain ⟨events, events_eq, -, failFast⟩ :=
    steps_of_call (.run Sample.request) Sample.breaker world
  obtain rfl : result.2.events = events := events_eq
  refine ⟨rfl, executed, ?_⟩
  have short : Event.steps result.2.events ≠ plan.steps := fun whole => by
    rw [whole] at executed
    exact absurd executed (by decide)
  rcases (failFast _ rfl ready).cut short with last | ⟨-, -, failure, refused, -⟩
  · exact last
  · cases refused

end SealedBuild
