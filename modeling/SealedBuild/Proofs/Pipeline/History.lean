import SealedBuild.Proofs.Pipeline.Call

/-!
# The history of a pipeline

The history of a pipeline starts at the start and ends with the current stage. A call appends one
segment to it: its whole path and the final stages if it ends with a value, a part of the path and
the failure if it fails, and only a part of the path if it is given up. A stage after which nothing
comes is therefore the last one, and calls that come after it change nothing.

Main statement: `history_of_reachable`, for every world that any sequence of calls leads to.
-/

namespace SealedBuild

variable {σ α β γ : Type} {provider : Provider σ} {config : Config} {request : Request}
  {mode : VerifyMode} {world : World σ} {path final stages history : List Stage}

/-- The stages that a call reaches. As long as the call may still fail it is on its path; the final
stages come after that. -/
inductive Segment (path final : List Stage) : Ending α → List Stage → Prop
  | completed (value : α) : Segment path final (.value value) (path ++ final ++ [.done])
  | failed {stages : List Stage} (failure : Failure) (part : stages <+: path) :
      Segment path final (.failed failure) (stages ++ [.failed failure.message])
  | abandoned {stages : List Stage} (part : stages <+: path) :
      Segment path final .abandoned stages

/-- Nothing but the last of some stages may be one after which nothing comes. -/
def OpenUntilLast (stages : List Stage) : Prop :=
  ∀ stage ∈ stages.dropLast, stage.isTerminal = false

theorem openUntilLast_of_open (open_ : ∀ stage ∈ stages, stage.isTerminal = false) :
    OpenUntilLast stages :=
  fun stage held => open_ stage (List.dropLast_subset stages held)

theorem openUntilLast_concat (open_ : ∀ stage ∈ stages, stage.isTerminal = false)
    (last : Stage) : OpenUntilLast (stages ++ [last]) := by
  intro stage held
  rw [List.dropLast_concat] at held
  exact open_ stage held

/-- Stages that are open until the last one continue open stages. -/
theorem OpenUntilLast.append (open_ : ∀ stage ∈ history, stage.isTerminal = false)
    (more : OpenUntilLast stages) : OpenUntilLast (history ++ stages) := by
  rcases List.eq_nil_or_concat stages with rfl | ⟨front, last, rfl⟩
  · rw [List.append_nil]
    exact openUntilLast_of_open open_
  · rw [List.concat_eq_append] at more ⊢
    rw [← List.append_assoc]
    refine openUntilLast_concat (fun stage held => ?_) last
    rcases List.mem_append.mp held with early | late
    · exact open_ stage early
    · exact more stage (by rwa [List.dropLast_concat])

namespace Segment

theorem map {ending : Ending α} (form : α → β) (segment : Segment path final ending stages) :
    Segment path final (ending.map form) stages := by
  cases segment with
  | completed value => exact .completed (form value)
  | failed failure part => exact .failed failure part
  | abandoned part => exact .abandoned part

/-- Only the last stage of a segment is one after which nothing comes. -/
theorem openUntilLast {ending : Ending α} (segment : Segment path final ending stages)
    (open_ : ∀ stage ∈ path ++ final, stage.isTerminal = false) : OpenUntilLast stages := by
  have part_open {part : List Stage} (along : part <+: path) (stage : Stage) (held : stage ∈ part) :
      stage.isTerminal = false :=
    open_ stage (List.mem_append_left _ (along.subset held))
  cases segment with
  | completed value => exact openUntilLast_concat open_ .done
  | failed failure part => exact openUntilLast_concat (part_open part) _
  | abandoned part => exact openUntilLast_of_open (part_open part)

end Segment

namespace Pipeline

/-- Every exit leaves a segment, whose path goes at least as far as the point up to which the call
may fail. -/
theorem Exit.segment {inside : Toolchain → Action σ α} {afterwards : α → Action σ β}
    {plan : Toolchain → List Step} {path final extra path' final' : List Stage}
    {result : Ending β × World σ}
    (taken : Exit provider config request inside afterwards plan path final world result)
    (closes : ∀ value, Action.Closes (afterwards value) extra)
    (whole : path' ++ final' = .validated :: path ++ final ++ extra)
    (inner : .validated :: path <+: path')
    (failing : ∀ value torn failure, (afterwards value torn).1 = .failed failure →
      .validated :: path ++ final <+: path') :
    ∃ stages, result.2.pipeline = (world.reached stages).pipeline ∧
      Segment path' final' result.1 (stages ++ result.1.finale) := by
  have along {stages : List Stage} (part : stages <+: path) : .validated :: stages <+: path' :=
    (List.cons_prefix_cons.mpr ⟨rfl, part⟩).trans inner
  cases taken with
  | unloaded refused => exact ⟨[], rfl, .failed _ List.nil_prefix⟩
  | unstarted loaded refused => exact ⟨[.validated], rfl, .failed _ (along List.nil_prefix)⟩
  | stuck loaded hangs => exact ⟨[.validated], rfl, .abandoned (along List.nil_prefix)⟩
  | @givenUp toolchain steps stages ready ending stepsAlong someStep stagesAlong =>
      refine ⟨.validated :: stages, rfl, ?_⟩
      rw [Ending.finale, List.append_nil]
      exact .abandoned (along stagesAlong)
  | @broken toolchain steps stages failure ready ending stepsAlong stagesAlong =>
      exact ⟨.validated :: stages, rfl, .failed _ (along stagesAlong)⟩
  | @completed toolchain value outcome ready ending afterwards_eq =>
      subst afterwards_eq
      generalize torn_eq : provider.tearDown _ = torn
      have reached : torn.pipeline = (world.reached (.validated :: path ++ final)).pipeline := by
        rw [← torn_eq]
        rfl
      cases closed : (afterwards value torn).1 with
      | value value' =>
          refine ⟨.validated :: path ++ final ++ extra, ?_, ?_⟩
          · rw [Provider.letGo_pipeline, (closes value).value torn value' closed,
              World.reached_append world (.validated :: path ++ final) extra]
            simp only [World.reached] at reached ⊢
            rw [reached]
          · rw [← whole]
            exact .completed value'
      | failed failure =>
          refine ⟨.validated :: path ++ final, ?_, ?_⟩
          · rw [Provider.letGo_pipeline, (closes value).failed torn failure closed, reached]
          · exact .failed failure (failing value torn failure closed)
      | abandoned => exact absurd closed ((closes value).ends torn)

end Pipeline

namespace Call

theorem path_open (call : Call) (mode : VerifyMode) :
    ∀ stage ∈ call.path mode ++ call.final, stage.isTerminal = false := by
  cases call <;> cases mode <;>
    simp [Call.path, Call.final, VerifyMode.clearance, Stage.isTerminal]

/-- A call of a pipeline that has not ended leaves one segment. -/
theorem segment (call : Call) (provider : Provider σ)
    (running : world.pipeline.stage.isTerminal = false) :
    ∃ stages, (call.perform provider world).2.pipeline = (world.reached stages).pipeline ∧
      Segment (call.path world.pipeline.mode) call.final (call.perform provider world).1
        stages := by
  cases call with
  | run request =>
      obtain ⟨result, run_eq, taken⟩ := Pipeline.run_exit provider request running
      have inner : [.validated, .sandboxReady, .toolchainReady, .built] <+:
          (Call.run request).path world.pipeline.mode := List.prefix_append _ _
      obtain ⟨stages, reached, left⟩ := taken.segment (fun _ => Pipeline.install_closes _ request)
        rfl inner fun _ _ _ _ => List.prefix_refl _
      refine ⟨stages ++ result.1.finale, ?_, ?_⟩
      · rw [World.reached_append]
        simp only [perform, run_eq, World.reached] at reached ⊢
        rw [reached]
      · simp only [perform, run_eq]
        exact left.map Sum.inl
  | verifyOnly request =>
      obtain ⟨result, verifyOnly_eq, taken⟩ := Pipeline.verifyOnly_exit provider request running
      have inner : [.validated, .sandboxReady, .toolchainReady] <+:
          (Call.verifyOnly request).path world.pipeline.mode := List.prefix_refl _
      have whole : (Call.verifyOnly request).path world.pipeline.mode ++
          (Call.verifyOnly request).final =
            [.validated, .sandboxReady, .toolchainReady] ++ [.verified] ++ [] := rfl
      obtain ⟨stages, reached, left⟩ := taken.segment Action.pure_closes whole inner
        fun _ _ _ closed => by simp [Action.pure_apply] at closed
      refine ⟨stages ++ result.1.finale, ?_, ?_⟩
      · rw [World.reached_append]
        simp only [perform, verifyOnly_eq, World.reached] at reached ⊢
        rw [reached]
      · simp only [perform, verifyOnly_eq]
        exact left.map Sum.inr

end Call

/-- A pipeline keeps its settings, and its history is one that starts at the start and ends with the
current stage, which alone may be one after which nothing comes. -/
structure Recorded (config : Config) (mode : VerifyMode) (pipeline : Pipeline) : Prop where
  config_eq : pipeline.config = config
  mode_eq : pipeline.mode = mode
  first : pipeline.history.head? = some .start
  last : pipeline.history.getLast? = some pipeline.stage
  openUntilLast : OpenUntilLast pipeline.history

namespace Recorded

/-- All stages are open if the current one is. -/
theorem all_open (recorded : Recorded config mode world.pipeline)
    (running : world.pipeline.stage.isTerminal = false) :
    ∀ stage ∈ world.pipeline.history, stage.isTerminal = false := by
  obtain ⟨front, split⟩ := List.getLast?_eq_some_iff.mp recorded.last
  intro stage held
  have before := recorded.openUntilLast
  rw [OpenUntilLast, split, List.dropLast_concat] at before
  rw [split] at held
  rcases List.mem_append.mp held with early | late
  · exact before stage early
  · rw [List.mem_singleton.mp late]
    exact running

/-- A stage after which nothing comes is the current one. -/
theorem terminal_of_mem (recorded : Recorded config mode world.pipeline) {stage : Stage}
    (held : stage ∈ world.pipeline.history) (ended : stage.isTerminal = true) :
    world.pipeline.stage.isTerminal = true := by
  cases running : world.pipeline.stage.isTerminal with
  | true => rfl
  | false =>
      have open_ := recorded.all_open running stage held
      exact absurd (open_.symm.trans ended) (by simp)

/-- A new pipeline has recorded its start. -/
theorem fresh (config : Config) (mode : VerifyMode) (files : FileSystem) (sandbox : σ) :
    Recorded config mode (World.fresh config mode files sandbox).pipeline := by
  constructor
  · rfl
  · rfl
  · rfl
  · rfl
  · intro stage held
    simp [World.fresh, Pipeline.new, Pipeline.withMode] at held

/-- A call keeps the record. -/
theorem perform (recorded : Recorded config mode world.pipeline) (call : Call) :
    Recorded config mode (call.perform provider world).2.pipeline := by
  cases ended : world.pipeline.stage.isTerminal with
  | true =>
      rw [call.perform_of_terminal ended]
      exact recorded
  | false =>
      obtain ⟨stages, reached, segment⟩ := call.segment provider ended
      obtain ⟨config_eq, mode_eq⟩ := world.reached_settings stages
      rw [reached]
      constructor
      · exact config_eq.trans recorded.config_eq
      · exact mode_eq.trans recorded.mode_eq
      · rw [World.reached_history, List.head?_append, recorded.first]
        rfl
      · exact world.reached_stage stages recorded.last
      · rw [World.reached_history]
        exact OpenUntilLast.append (recorded.all_open ended)
          (segment.openUntilLast (call.path_open _))

end Recorded

/-- Calls keep the record of a pipeline from its start on. -/
theorem Reachable.recorded (reachable : Reachable provider config mode world) :
    Recorded config mode world.pipeline := by
  induction reachable with
  | fresh files sandbox => exact .fresh config mode files sandbox
  | call call before ih => exact ih.perform call
  | elsewhere files sandbox before ih => exact ih

/-- However a pipeline has been called, its history starts at the start, ends with the current
stage, and has no stage after one after which nothing comes. A call of a pipeline that has not ended
appends one segment of its path, and a call of a pipeline that has ended fails and changes
nothing. -/
theorem history_of_reachable (reachable : Reachable provider config mode world) (call : Call) :
    Recorded config mode world.pipeline ∧
      world.pipeline.history <+: (call.perform provider world).2.pipeline.history ∧
      (world.pipeline.stage.isTerminal = false →
        ∃ stages, (call.perform provider world).2.pipeline.history =
            world.pipeline.history ++ stages ∧
          Segment (call.path mode) call.final (call.perform provider world).1 stages) ∧
      ((∃ stage ∈ world.pipeline.history, stage.isTerminal = true) →
        call.perform provider world =
          (.failed (.config "pipeline has already finished"), world)) := by
  have recorded := reachable.recorded
  have appended (running : world.pipeline.stage.isTerminal = false) :
      ∃ stages, (call.perform provider world).2.pipeline.history =
          world.pipeline.history ++ stages ∧
        Segment (call.path mode) call.final (call.perform provider world).1 stages := by
    obtain ⟨stages, reached, segment⟩ := call.segment provider running
    rw [recorded.mode_eq] at segment
    exact ⟨stages, by rw [reached, World.reached_history], segment⟩
  refine ⟨recorded, ?_, appended, ?_⟩
  · cases ended : world.pipeline.stage.isTerminal with
    | true =>
        have same : (call.perform provider world).2 = world :=
          congrArg Prod.snd (call.perform_of_terminal ended)
        exact ⟨[], by rw [same, List.append_nil]⟩
    | false =>
        obtain ⟨stages, history_eq, -⟩ := appended ended
        rw [history_eq]
        exact List.prefix_append _ _
  · rintro ⟨stage, held, ended⟩
    exact call.perform_of_terminal (recorded.terminal_of_mem held ended)

/-- A pipeline that has installed its binary has come to its end, and refuses to verify anything. -/
theorem history_of_finished_build :
    let after := ((Call.run Sample.request).perform Sample.builder Sample.start).2
    after.pipeline.history =
        [.start, .validated, .sandboxReady, .toolchainReady, .built, .installed, .done] ∧
      (Call.verifyOnly Sample.request).perform Sample.builder after =
        (.failed (.config "pipeline has already finished"), after) := by
  intro after
  have history_eq : after.pipeline.history =
      [.start, .validated, .sandboxReady, .toolchainReady, .built, .installed, .done] := by
    decide +kernel
  have reachable : Reachable Sample.builder {} .skip after :=
    .call (.run Sample.request) (.fresh Sample.files ())
  obtain ⟨-, -, -, refused⟩ := history_of_reachable reachable (.verifyOnly Sample.request)
  refine ⟨history_eq, refused ⟨.done, ?_, rfl⟩⟩
  simp [history_eq]

/-- A run that is given up while its sandbox starts has come to its first stage, and has started
nothing. -/
example :
    let hanging : Provider Unit :=
      { Sample.builder with create := fun _ state => (⟨[], .hung⟩, state) }
    let after := ((Call.run Sample.request).perform hanging Sample.start).2
    after.pipeline.history = [.start, .validated] ∧
      after.events = [.createFailed (.forRequest Sample.request {}) none] := by
  decide +kernel

end SealedBuild
