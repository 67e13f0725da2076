import SealedBuild.Proofs.Config.Problems
import SealedBuild.Proofs.Container.Calls
import SealedBuild.Proofs.Pipeline.Attribution

/-!
# Patterns that do not compile

The validation of the settings collects what is wrong with every pattern, and the scan stops at the
first pattern that it cannot compile. Both look at the tokens before the allowed paths and find the
same wrong with each of them, so the scan stops at what the validation has found first. Behind a
configuration that is valid no verification can fail because of its patterns any more.

Main statement: `compilation_of_settings`, for all settings, and for a verification in every world.
-/

namespace SealedBuild

variable {α β κ σ ε : Type} {provider : Provider σ} {engine : Engine ε} {command name : String}
  {settings : VerifySettings} {config : Config} {toolchain : Toolchain} {world : World σ}
  {result : Except Failure α} {failure : Failure} {text : String}

theorem failure?_eq_none_iff : failure? result = none ↔ ∃ value, result = .ok value := by
  cases result <;> simp [failure?]

theorem failure?_eq_some_iff : failure? result = some failure ↔ result = .error failure := by
  cases result <;> simp [failure?]

/-- What follows a result can fail only if the result is a value. -/
theorem failure?_bind {next : α → Except Failure β} {later : Option Failure}
    (follows : ∀ value, failure? (next value) = later) :
    failure? (result >>= next) = (failure? result).or later := by
  cases result with
  | ok value => exact follows value
  | error failure => rfl

theorem failure?_bind_pure (form : α → β) :
    failure? (result >>= fun value => pure (form value)) = failure? result := by
  cases result <;> rfl

/-- A list is mapped up to the first of its members that fails. -/
theorem failure?_mapM (action : α → Except Failure β) (members : List α) :
    failure? (members.mapM action) = (members.filterMap (failure? <| action ·)).head? := by
  induction members with
  | nil => rfl
  | cons member rest ih =>
      have more (value : β) :
          failure? (rest.mapM action >>= fun values => pure (value :: values)) =
            (rest.filterMap (failure? <| action ·)).head? := by
        rw [failure?_bind_pure, ih]
      rw [List.mapM_cons, failure?_bind more, List.filterMap_cons]
      cases failure? (action member) <;> rfl

/-- If every problem of a member is its failure, the first problem is the failure of the list. -/
theorem failure?_mapM_eq {action : α → Except Failure β} {problem? : α → Option κ}
    {refusal : κ → Failure} (agree : ∀ member, failure? (action member) =
      (problem? member).map refusal) (members : List α) :
    failure? (members.mapM action) = (members.filterMap problem?).head?.map refusal := by
  rw [failure?_mapM, ← List.head?_map, List.map_filterMap]
  simp only [agree]

namespace TokenScanner

variable (languages : Languages)

theorem failure?_compileToken (token : Token) : failure? (compileToken languages token) =
    (VerifySettings.tokenProblem? languages token).map fun problem => .config problem.message := by
  unfold compileToken VerifySettings.tokenProblem?
  cases languages.lines.compile token.pattern <;> rfl

theorem failure?_compileAllowed (pattern : String) : failure? (compileAllowed languages pattern) =
    (VerifySettings.allowedPathProblem? languages pattern).map fun problem =>
      .config problem.message := by
  unfold compileAllowed VerifySettings.allowedPathProblem?
  cases languages.paths.compile pattern <;> rfl

/-- A scan stops at the first problem with its patterns. -/
theorem failure?_ofSettings (settings : VerifySettings) :
    failure? (ofSettings languages settings) =
      (settings.validateIn languages).errors.head?.map .config := by
  have later (tokens : List (languages.lines.Pattern × String)) :
      failure? (settings.allowedPaths.mapM (compileAllowed languages) >>= fun allowed =>
        pure (⟨tokens, allowed, settings.skipDirs⟩ : TokenScanner languages)) =
          (settings.allowedPaths.filterMap (VerifySettings.allowedPathProblem? languages)).head?.map
            fun problem => .config problem.message := by
    rw [failure?_bind_pure, failure?_mapM_eq (failure?_compileAllowed languages)]
  rw [ofSettings, failure?_bind later, failure?_mapM_eq (failure?_compileToken languages),
    ← Option.map_or, ← List.head?_append, VerifySettings.validateIn_eq, Validation.of,
    List.head?_map, Option.map_map]
  rfl

variable {languages}

theorem exists_ofSettings_iff : (∃ scanner, ofSettings languages settings = .ok scanner) ↔
    (settings.validateIn languages).isValid = true := by
  rw [← failure?_eq_none_iff, failure?_ofSettings, Option.map_eq_none_iff, List.head?_eq_none_iff,
    Validation.isValid, List.isEmpty_iff]

theorem ofSettings_eq_error_iff : ofSettings languages settings = .error failure ↔
    ∃ text, (settings.validateIn languages).errors.head? = some text ∧ .config text = failure := by
  rw [← failure?_eq_some_iff, failure?_ofSettings, Option.map_eq_some_iff]

end TokenScanner

/-- A configuration that is valid has valid settings of the verification. -/
theorem Config.verify_isValid {languages : Languages}
    (valid : (config.validateIn languages).isValid = true) :
    (config.verify.validateIn languages).isValid = true := by
  rw [VerifySettings.validateIn_eq, Validation.isValid_of_iff]
  rw [validateIn_eq, Validation.isValid_of_iff, problemsIn, List.append_eq_nil_iff] at valid
  exact valid.2

namespace Pipeline

/-- If the patterns can be compiled, a verification fails only where the sandbox cannot run a query
or where the answer to a query is not understood. -/
theorem exists_reply_of_verifyIn {languages : Languages} {sourceRoot : Path}
    (valid : (config.validateIn languages).isValid = true)
    (fails : (verifyIn languages provider config toolchain sourceRoot world).1 =
      .failed failure) :
    ∃ reply ∈ provider.replies (config.queryPlan toolchain) world.sandbox,
      reply.answer = .failed failure ∨
        ∃ output message, reply.answer = .finished output ∧
          failure = .sandbox message output.code := by
  obtain ⟨scanner, compiled⟩ := TokenScanner.exists_ofSettings_iff.mpr (Config.verify_isValid valid)
  have obeys : Action.Obeys provider (verifyIn languages provider config toolchain sourceRoot)
      (config.questions toolchain) := verifyIn_obeys compiled sourceRoot
  obtain ⟨executed, stages, -, progress⟩ := obeys world
  rw [fails] at progress
  cases progress with
  | @stopped done rest last ending split passed stops =>
      refine ⟨(provider.run last.step (provider.stateAfter done.steps world.sandbox)).1, ?_, ?_⟩
      · rw [← Config.steps_questions, split, Plan.steps_append, provider.replies_append]
        exact List.mem_append_right _ List.mem_cons_self
      · generalize (provider.run last.step _).1.answer = answer at stops
        cases stops with
        | failed failure => exact .inl rfl
        | @objected output failure objection =>
            have asked : last ∈ config.questions toolchain := by
              rw [split]
              exact List.mem_append_right _ List.mem_cons_self
            obtain ⟨constraint, -, rfl⟩ := List.mem_map.mp asked
            obtain ⟨-, message, rfl⟩ := interpretQuery_error (failure?_eq_some_iff.mp objection)
            exact .inr ⟨output, message, rfl, rfl⟩

end Pipeline

/-- A container that cannot run a step is a failure of the sandbox. -/
theorem ContainerState.run_ne_config (step : Step) (state : ContainerState ε) :
    (run engine step state).1.answer ≠ .failed (.config text) := by
  unfold run
  split
  · simp
  · dsimp only
    unfold stepResponse
    split <;> simp

/-- What is answered to steps is answered by the provider in some state. -/
theorem Provider.exists_run_of_mem_replies {steps : List Step} {state : σ} {reply : Reply Response}
    (answered : reply ∈ provider.replies steps state) :
    ∃ step at_, reply = (provider.run step at_).1 := by
  induction steps generalizing state with
  | nil => cases answered
  | cons step rest ih =>
      rcases List.mem_cons.mp answered with rfl | later
      · exact ⟨step, state, rfl⟩
      · exact ih later

/-- Validation and compilation of the same patterns, whatever their languages are. The scan can be
set up if and only if the validation finds no error, and otherwise it fails with the error that is
found first. A verification under a valid configuration fails as a matter of the configuration only
if the sandbox itself answers a query like that, which a container does not. -/
theorem compilation_of_settings (languages : Languages) (provider : Provider σ) (engine : Engine ε)
    (command name : String) (settings : VerifySettings) :
    ((∃ scanner, TokenScanner.ofSettings languages settings = .ok scanner) ↔
      (settings.validateIn languages).isValid = true) ∧
    (∀ failure, TokenScanner.ofSettings languages settings = .error failure ↔
      ∃ text, (settings.validateIn languages).errors.head? = some text ∧
        .config text = failure) ∧
    ∀ config toolchain sourceRoot text, (config.validateIn languages).isValid = true →
      (∀ world, (Pipeline.verifyIn languages provider config toolchain sourceRoot world).1 =
          .failed (.config text) →
        ∃ reply ∈ provider.replies (config.queryPlan toolchain) world.sandbox,
          reply.answer = .failed (.config text)) ∧
      ∀ world, (Pipeline.verifyIn languages (ContainerState.provider engine command name) config
        toolchain sourceRoot world).1 ≠ .failed (.config text) := by
  refine ⟨TokenScanner.exists_ofSettings_iff,
    fun failure => TokenScanner.ofSettings_eq_error_iff, ?_⟩
  intro config toolchain sourceRoot text valid
  have blames {τ : Type} (provider : Provider τ) (world : World τ)
      (fails : (Pipeline.verifyIn languages provider config toolchain sourceRoot world).1 =
        .failed (.config text)) :
      ∃ reply ∈ provider.replies (config.queryPlan toolchain) world.sandbox,
        reply.answer = .failed (.config text) := by
    obtain ⟨reply, answered, failed | ⟨output, message, -, other⟩⟩ :=
      Pipeline.exists_reply_of_verifyIn valid fails
    · exact ⟨reply, answered, failed⟩
    · cases other
  refine ⟨blames provider, fun world fails => ?_⟩
  obtain ⟨reply, answered, failed⟩ := blames _ world fails
  obtain ⟨step, state, rfl⟩ := Provider.exists_run_of_mem_replies answered
  exact ContainerState.run_ne_config step state failed

/-- Of what is wrong with two tokens and a pattern of paths, the scan tells the first. -/
example : failure? (Scanner.ofSettings
    { tokens := [⟨"a", ""⟩, ⟨"(", ""⟩, ⟨"[", ""⟩], allowedPaths := ["a**"] }) =
      some (.config
        (Problem.invalidToken "(" (Regex.Error.invalid "(" .groupUnclosed).message).message) := by
  decide +kernel

end SealedBuild
