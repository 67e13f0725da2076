import SealedBuild.Proofs.Pipeline.Call
import SealedBuild.Proofs.Pipeline.Verdict

/-!
# Coupled runs

Two runs of the same actions are compared by a relation between their worlds. If related worlds
answer every step alike, and steps and stages leave them related, then the actions inside a sandbox
end alike in both, and leave the worlds related.

Main statements: `Coupled.bind`, by which two runs go on together, and `prepare_keeps`,
`untilBuilt_keeps` and `verify_keeps`, the parts of a full run and of a verification.
-/

namespace SealedBuild

variable {σ α β : Type} {provider : Provider σ} {config : Config} {toolchain : Toolchain}
  {sourceRoot : Path} {allowed : Step → Prop} {related : World σ → World σ → Prop}
  {first second : World σ}

/-- The world of a new pipeline in which its sandbox has been started. -/
def started (provider : Provider σ) (config : Config) (request : Request) (files : FileSystem)
    (sandbox : σ) (mode : VerifyMode) : World σ :=
  (World.fresh config mode files sandbox).inSession provider config request

/-- Two results with the same ending, whose worlds are related. -/
structure Coupled (related : World σ → World σ → Prop) (one other : Ending α × World σ) :
    Prop where
  ending_eq : one.1 = other.1
  worlds : related one.2 other.2

/-- A relation between worlds that answer the steps of a kind alike. These steps and all stages
leave them related. -/
structure Coupling (provider : Provider σ) (allowed : Step → Prop)
    (related : World σ → World σ → Prop) : Prop where
  answer_eq : ∀ first second step, related first second → allowed step →
    (provider.run step first.sandbox).1.answer = (provider.run step second.sandbox).1.answer
  ran : ∀ first second step, related first second → allowed step →
    related (first.ran provider [step]) (second.ran provider [step])
  reached : ∀ first second stage, related first second →
    related (first.reached [stage]) (second.reached [stage])

/-- Two actions in a row are coupled if the first ones are, and the second ones after a value. -/
theorem Coupled.bind {action action' : Action σ α} {next next' : α → Action σ β}
    (begins : Coupled related (action first) (action' second))
    (goesOn : ∀ value, (action first).1 = .value value →
      Coupled related (next value (action first).2) (next' value (action' second).2)) :
    Coupled related ((action >>= next) first) ((action' >>= next') second) := by
  obtain ⟨ending_eq, worlds⟩ := begins
  rw [Action.bind_apply, Action.bind_apply]
  rcases ran : action first with ⟨ending, after⟩
  rcases ran' : action' second with ⟨ending', after'⟩
  rw [ran, ran'] at worlds ending_eq goesOn
  obtain rfl : ending = ending' := ending_eq
  cases ending with
  | value value => exact goesOn value rfl
  | failed failure => exact ⟨rfl, worlds⟩
  | abandoned => exact ⟨rfl, worlds⟩

namespace Action

/-- An action ends alike in related worlds, and leaves them related. -/
def Keeps (related : World σ → World σ → Prop) (action : Action σ α) : Prop :=
  ∀ first second, related first second → Coupled related (action first) (action second)

theorem Keeps.bind {action : Action σ α} {next : α → Action σ β} (begins : Keeps related action)
    (goesOn : ∀ value, Keeps related (next value)) : Keeps related (action >>= next) := by
  intro first second start
  have began := begins first second start
  exact began.bind fun value _ => goesOn value _ _ began.worlds

theorem pure_keeps (value : α) : Keeps related (Pure.pure value) :=
  fun _ _ start => ⟨rfl, start⟩

theorem ofExcept_keeps (result : Except Failure α) : Keeps related (ofExcept result) := by
  intro first second start
  cases result with
  | ok value => exact ⟨rfl, start⟩
  | error failure => exact ⟨rfl, start⟩

theorem advance_keeps (couples : Coupling provider allowed related) (stage : Stage) :
    Keeps related (advance stage) :=
  fun first second start => ⟨rfl, couples.reached first second stage start⟩

/-- Something that is read off the files does not tell related worlds apart if it is the same in
both. -/
theorem onFiles_keeps {read : FileSystem → α}
    (same : ∀ first second, related first second → read first.files = read second.files) :
    Keeps related (onFiles read) := by
  intro first second start
  exact ⟨congrArg Ending.value (same first second start), start⟩

theorem perform_keeps (couples : Coupling provider allowed related) {step : Step}
    (permitted : allowed step) : Keeps related (provider.perform step) := by
  intro first second start
  constructor
  · rw [perform_ending, perform_ending, couples.answer_eq first second step start permitted]
  · rw [perform_world, perform_world]
    exact couples.ran first second step start permitted

end Action

namespace Pipeline

open SealedBuild.Action

theorem require_keeps (couples : Coupling provider allowed related)
    (refusal : StepOutput → Failure) {step : Step} (permitted : allowed step) :
    Keeps related (require provider refusal step) := by
  apply (perform_keeps couples permitted).bind
  intro output
  split
  · exact pure_keeps ()
  · exact ofExcept_keeps _

theorem provision_keeps (couples : Coupling provider allowed related) {steps : List Step}
    (permitted : ∀ step ∈ steps, allowed step) : Keeps related (provision provider steps) := by
  induction steps with
  | nil => exact pure_keeps ()
  | cons step rest ih =>
      have head := permitted step List.mem_cons_self
      have tail := ih fun step held => permitted step (List.mem_cons_of_mem _ held)
      exact (require_keeps couples _ head).bind fun _ => tail

theorem queries_keeps (couples : Coupling provider allowed related)
    {constraints : List Constraint}
    (permitted : ∀ constraint ∈ constraints,
      allowed (config.dependencyQuery toolchain constraint.package)) :
    Keeps related (queries provider config toolchain constraints) := by
  induction constraints with
  | nil => exact pure_keeps []
  | cons constraint rest ih =>
      have head := permitted constraint List.mem_cons_self
      have tail := ih fun constraint held => permitted constraint (List.mem_cons_of_mem _ held)
      apply (perform_keeps couples head).bind
      intro output
      apply (ofExcept_keeps _).bind
      intro outcome
      exact tail.bind fun more => pure_keeps _

/-- What a full run and a verification begin with: the sandbox is provisioned. -/
def prepare (provider : Provider σ) (config : Config) (toolchain : Toolchain) :
    Action σ Unit := do
  Action.advance .sandboxReady
  provision provider (toolchain.provisionSteps config.toolchain.osPackages)
  Action.advance .toolchainReady

theorem untilBuilt_eq_prepare : untilBuilt provider config toolchain =
    prepare provider config toolchain >>= fun _ =>
      build provider config toolchain >>= fun _ => Action.advance .built := by
  simp only [untilBuilt, prepare, bind_assoc]

theorem verifyInside_eq_prepare : verifyInside provider config toolchain sourceRoot =
    prepare provider config toolchain >>= fun _ =>
      verify provider config toolchain sourceRoot >>= fun report =>
        Action.advance .verified >>= fun _ => Pure.pure report := by
  simp only [verifyInside, prepare, bind_assoc]

theorem prepare_follows (provider : Provider σ) (config : Config) (toolchain : Toolchain) :
    Follows provider (prepare provider config toolchain)
      (toolchain.provisionSteps config.toolchain.osPackages) [.sandboxReady]
      [.toolchainReady] := by
  have course := (advance_follows provider .sandboxReady).bind fun _ =>
    (provision_follows provider (toolchain.provisionSteps config.toolchain.osPackages)).bind
      fun _ => advance_follows provider .toolchainReady
  simpa [prepare] using course

theorem prepare_keeps (couples : Coupling provider allowed related)
    (permitted : ∀ step ∈ toolchain.provisionSteps config.toolchain.osPackages, allowed step) :
    Keeps related (prepare provider config toolchain) := by
  apply (advance_keeps couples .sandboxReady).bind
  intro _
  apply (provision_keeps couples permitted).bind
  intro _
  exact advance_keeps couples .toolchainReady

theorem untilBuilt_keeps (couples : Coupling provider allowed related)
    (permitted : ∀ step ∈ config.buildPlan toolchain, allowed step) :
    Keeps related (untilBuilt provider config toolchain) := by
  have provisions : ∀ step ∈ toolchain.provisionSteps config.toolchain.osPackages,
      allowed step :=
    fun step held => permitted step (config.provisionSteps_subset_buildPlan toolchain held)
  have builds : allowed (config.buildStep toolchain) :=
    permitted _ (config.buildStep_mem_buildPlan toolchain)
  rw [untilBuilt_eq_prepare]
  apply (prepare_keeps couples provisions).bind
  intro _
  apply (require_keeps couples _ builds).bind
  intro _
  exact advance_keeps couples .built

/-- A verification ends alike in related worlds whose scans find the same. -/
theorem verify_keeps (couples : Coupling provider allowed related)
    (permitted : ∀ step ∈ config.queryPlan toolchain, allowed step)
    (scans : ∀ scanner first second, Scanner.ofSettings config.verify = .ok scanner →
      related first second →
      scanner.scan first.files sourceRoot = scanner.scan second.files sourceRoot) :
    Keeps related (verify provider config toolchain sourceRoot) := by
  have asks : ∀ constraint ∈ config.forbidden,
      allowed (config.dependencyQuery toolchain constraint.package) :=
    fun constraint held => permitted _ (List.mem_map_of_mem held)
  intro first second start
  have compiles := ofExcept_keeps (Scanner.ofSettings config.verify) first second start
  apply compiles.bind
  intro scanner ended
  have compiled : Scanner.ofSettings config.verify = .ok scanner := by
    cases result : Scanner.ofSettings config.verify with
    | ok other =>
        rw [result] at ended
        exact congrArg Except.ok (Ending.value.inj ended)
    | error failure =>
        rw [result] at ended
        cases ended
  apply (queries_keeps couples asks).bind _ _ _ compiles.worlds
  intro dependencies
  apply (onFiles_keeps fun first second => scans scanner first second compiled).bind
  intro tokens
  exact pure_keeps _

end Pipeline

end SealedBuild
