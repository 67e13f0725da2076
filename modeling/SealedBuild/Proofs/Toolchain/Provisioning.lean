import SealedBuild.Plan
import SealedBuild.Proofs.Container.Arguments

/-!
# What the provisioning steps ask for

The steps before the build name the packages, the channel, the profile, the components and the
targets that are asked for, and all of these can be read back. The packages stand in a step of their
own, which is there only if there are packages. In the step that installs the toolchain the
components end where the first option stands that is none for components; since every second
argument from there on is an option, a component or a target may itself look like one.

Main statement: `provisionSteps_eq_iff`, which says when two lists of provisioning steps are equal.
-/

namespace SealedBuild

/-- What the steps before the build ask for. -/
structure ProvisionOrder where
  channel : String
  profile : String
  components : List String
  targets : List String
  packages : List String
  deriving DecidableEq

namespace ProvisionOrder

/-- What a toolchain and packages of the operating system ask for. -/
def ofToolchain (toolchain : Toolchain) (packages : List String) : ProvisionOrder :=
  ⟨toolchain.channel, toolchain.effectiveProfile, toolchain.components, toolchain.targets, packages⟩

/-- Reads the arguments that install a toolchain. -/
def ofInstallArgs? (packages : List String) : List String → Option ProvisionOrder
  | "toolchain" :: "install" :: channel :: "--profile" :: profile :: rest =>
    match takeValues "--component" rest with
    | (components, rest) =>
      match takeValues "--target" rest with
      | (targets, []) => some ⟨channel, profile, components, targets, packages⟩
      | _ => none
  | _ => none

/-- Reads provisioning steps. -/
def ofSteps? : List Step → Option ProvisionOrder
  | [install, _] => ofInstallArgs? [] install.args
  | [_, ⟨_, _ :: _ :: _ :: packages⟩, install, _] => ofInstallArgs? packages install.args
  | _ => none

variable (toolchain : Toolchain) (packages : List String)

/-- No component is taken for a target, and no target for a component. -/
theorem ofInstallArgs?_installStep :
    ofInstallArgs? packages toolchain.installStep.args = some (ofToolchain toolchain packages) := by
  have targets : takeValues "--target"
      (toolchain.targets.flatMap fun target => ["--target", target]) =
        (toolchain.targets, []) := by
    have none_left : ([] : List String).head? ≠ some "--target" := by simp
    simpa using takeValues_flatMap (fun target => target) toolchain.targets none_left
  have other : (toolchain.targets.flatMap fun target => ["--target", target]).head? ≠
      some "--component" := by
    cases toolchain.targets with
    | nil => simp
    | cons target rest => simp
  have components := takeValues_flatMap (fun component => component) toolchain.components other
  rw [List.map_id'] at components
  rw [Toolchain.installStep, List.append_assoc]
  simp only [List.cons_append, List.nil_append, ofInstallArgs?, components, targets]
  rfl

/-- All that was asked for is read back from the steps. -/
theorem ofSteps?_provisionSteps :
    ofSteps? (toolchain.provisionSteps packages) = some (ofToolchain toolchain packages) := by
  have read := ofInstallArgs?_installStep toolchain packages
  rw [Toolchain.provisionSteps, Toolchain.packageSteps]
  by_cases empty : packages = []
  · subst empty
    rw [if_pos rfl]
    exact read
  · rw [if_neg empty]
    exact read

/-- The steps are made of what is asked for and of nothing else. -/
theorem provisionSteps_congr {toolchain other : Toolchain} {packages others : List String}
    (same : ofToolchain toolchain packages = ofToolchain other others) :
    toolchain.provisionSteps packages = other.provisionSteps others := by
  simp only [ofToolchain, ProvisionOrder.mk.injEq] at same
  obtain ⟨channel, profile, components, targets, rfl⟩ := same
  simp only [Toolchain.provisionSteps, Toolchain.installStep, Toolchain.probeStep,
    Toolchain.argument, channel, profile, components, targets]

end ProvisionOrder

/-- Two lists of provisioning steps are equal exactly if the same channel, the same profile and, in
the same order, the same components, targets and packages are asked for, whatever these look
like. -/
theorem provisionSteps_eq_iff (toolchain other : Toolchain) (packages others : List String) :
    toolchain.provisionSteps packages = other.provisionSteps others ↔
      toolchain.channel = other.channel ∧ toolchain.effectiveProfile = other.effectiveProfile ∧
      toolchain.components = other.components ∧ toolchain.targets = other.targets ∧
      packages = others := by
  have orders : ProvisionOrder.ofToolchain toolchain packages =
      ProvisionOrder.ofToolchain other others ↔
        toolchain.channel = other.channel ∧ toolchain.effectiveProfile = other.effectiveProfile ∧
        toolchain.components = other.components ∧ toolchain.targets = other.targets ∧
        packages = others := by
    rw [ProvisionOrder.ofToolchain, ProvisionOrder.ofToolchain, ProvisionOrder.mk.injEq]
  rw [← orders]
  constructor
  · intro same
    apply Option.some.inj
    calc
      some (ProvisionOrder.ofToolchain toolchain packages)
        = ProvisionOrder.ofSteps? (toolchain.provisionSteps packages) :=
          (ProvisionOrder.ofSteps?_provisionSteps toolchain packages).symm
      _ = ProvisionOrder.ofSteps? (other.provisionSteps others) := by rw [same]
      _ = some (ProvisionOrder.ofToolchain other others) :=
          ProvisionOrder.ofSteps?_provisionSteps other others
  · exact ProvisionOrder.provisionSteps_congr

/-- Names that look like options are not taken for them. -/
example :
    ProvisionOrder.ofSteps?
        (Toolchain.provisionSteps ⟨"1.90.0", none, ["--target"], ["--component"]⟩ ["-y"]) =
      some ⟨"1.90.0", "minimal", ["--target"], ["--component"], ["-y"]⟩ := by
  decide

end SealedBuild
