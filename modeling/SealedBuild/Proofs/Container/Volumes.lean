import SealedBuild.Container
import SealedBuild.Proofs.Config.Problems
import SealedBuild.Proofs.OsPath
import SealedBuild.Proofs.Text.Pieces

/-!
# Volumes

A mount is handed to an engine as one text, its two paths and its mode with colons between them.
The mode never holds a colon, but a path may, and nothing marks the colons that belong to a path. So
the text is read back if no path holds a colon, and otherwise it does not even have three parts; of
the mounts with one text, those with the same number of colons in the path of the host are one. All
this is about paths that are text, as those of a request are: others are not even shown as they are.

Main statement: `volumes_of_session`, for the mounts of every session with a valid configuration.
-/

namespace SealedBuild

open Text

namespace MountMode

variable {mode : MountMode} {text : String}

theorem ofFlag?_eq_some_iff : ofFlag? text = some mode ↔ text = mode.flag := by
  unfold ofFlag?
  split
  next same => cases mode <;> simp [same, MountMode.flag]
  next other =>
    split
    next same => cases mode <;> simp [same, MountMode.flag]
    next other' => cases mode <;> simp [other, other', MountMode.flag]

theorem length_flag (mode : MountMode) : mode.flag.toList.length = 2 := by
  cases mode <;> rfl

theorem colon_not_mem_flag (mode : MountMode) : ':' ∉ mode.flag.toList := by
  cases mode <;> decide

theorem flag_injective : Function.Injective flag := by
  intro mode other same
  exact Option.some.inj ((ofFlag?_eq_some_iff.mpr rfl).symm.trans (ofFlag?_eq_some_iff.mpr same))

end MountMode

/-- The number of colons in a path as it is shown. -/
def OsPath.colons (path : OsPath) : Nat := path.display.toList.count ':'

theorem OsPath.colons_eq_zero_iff {path : OsPath} :
    path.colons = 0 ↔ ':' ∉ path.display.toList :=
  List.count_eq_zero

namespace Mount

variable {mount other : Mount} {volume : String}

/-- Neither path of a mount holds a colon. -/
structure Plain (mount : Mount) : Prop where
  host : mount.hostPath.colons = 0
  container : mount.containerPath.colons = 0

/-- Reads the text of a mount: two paths and a mode, with a colon after each path. -/
def ofVolume? (volume : String) : Option Mount :=
  match cutAt ':' volume.toList with
  | [host, container, flag] =>
    (MountMode.ofFlag? (String.ofList flag)).map fun mode =>
      ⟨.ofPath ⟨String.ofList host⟩, .ofPath ⟨String.ofList container⟩, mode⟩
  | _ => none

/-- The two paths and the mode, as lists of characters. -/
def parts (mount : Mount) : List (List Char) :=
  [mount.hostPath.display.toList, mount.containerPath.display.toList, mount.mode.flag.toList]

theorem IsText.eq_of_parts_eq (isText : mount.IsText) (isText' : other.IsText)
    (same : mount.parts = other.parts) : mount = other := by
  obtain ⟨host, container, mode⟩ := mount
  obtain ⟨host', container', mode'⟩ := other
  simp only [parts, List.cons.injEq, String.toList_inj, and_true] at same
  obtain ⟨hosts, containers, flags⟩ := same
  obtain rfl : host = host' := isText.hostPath.eq_of_display_eq isText'.hostPath hosts
  obtain rfl : container = container' :=
    isText.containerPath.eq_of_display_eq isText'.containerPath containers
  obtain rfl := MountMode.flag_injective flags
  rfl

theorem toList_volumeArg (mount : Mount) : mount.volumeArg.toList = glue ':' mount.parts := by
  simp [volumeArg, parts, glue, String.toList_append]

theorem count_volumeArg (mount : Mount) :
    mount.volumeArg.toList.count ':' = mount.hostPath.colons + mount.containerPath.colons + 2 := by
  have none_left := List.count_eq_zero.mpr mount.mode.colon_not_mem_flag
  simp only [toList_volumeArg, parts, glue, List.count_append, List.count_cons_self, none_left,
    OsPath.colons]
  omega

theorem plain_iff : mount.Plain ↔ ∀ part ∈ mount.parts, ':' ∉ part := by
  constructor
  · rintro ⟨host, container⟩
    simpa [parts, ← OsPath.colons_eq_zero_iff, host, container] using mount.mode.colon_not_mem_flag
  · intro clean
    exact ⟨OsPath.colons_eq_zero_iff.mpr (clean _ (by simp [parts])),
      OsPath.colons_eq_zero_iff.mpr (clean _ (by simp [parts]))⟩

/-- What is read is what is written in text without a colon in a path. -/
theorem ofVolume?_eq_some_iff :
    ofVolume? volume = some mount ↔ volume = mount.volumeArg ∧ mount.IsText ∧ mount.Plain := by
  constructor
  · intro found
    unfold ofVolume? at found
    split at found
    next host container flag cut =>
      obtain ⟨mode, named, rfl⟩ := Option.map_eq_some_iff.mp found
      have parts_eq :
          parts ⟨.ofPath ⟨String.ofList host⟩, .ofPath ⟨String.ofList container⟩, mode⟩ =
            cutAt ':' volume.toList := by
        rw [cut, parts, ← MountMode.ofFlag?_eq_some_iff.mp named]
        simp
      refine ⟨String.toList_inj.mp ?_, ⟨OsPath.isText_ofPath _, OsPath.isText_ofPath _⟩,
        plain_iff.mpr fun part held => ?_⟩
      · rw [toList_volumeArg, parts_eq, glue_cutAt]
      · rw [parts_eq] at held
        exact not_mem_of_mem_cutAt held
    next => cases found
  · rintro ⟨rfl, isText, plain⟩
    have cut : cutAt ':' mount.volumeArg.toList = mount.parts := by
      rw [toList_volumeArg, cutAt_glue (plain_iff.mp plain) (by simp [parts])]
    simp [ofVolume?, cut, parts, MountMode.ofFlag?_eq_some_iff.mpr rfl,
      isText.hostPath.ofPath_display, isText.containerPath.ofPath_display]

/-- With a colon in a path, nothing is read. -/
theorem ofVolume?_volumeArg_eq_none_iff (isText : mount.IsText) :
    ofVolume? mount.volumeArg = none ↔ ¬ mount.Plain := by
  constructor
  · intro nothing plain
    have found := ofVolume?_eq_some_iff.mpr ⟨rfl, isText, plain⟩
    rw [nothing] at found
    cases found
  · intro marked
    rw [Option.eq_none_iff_forall_ne_some]
    intro other found
    obtain ⟨same, -, host, container⟩ := ofVolume?_eq_some_iff.mp found
    have counts := congrArg (fun volume => volume.toList.count ':') same
    simp only [count_volumeArg, host, container] at counts
    exact marked ⟨by omega, by omega⟩

/-- Mounts that are written alike are one if both are text and the paths of the host have as many
colons. -/
theorem eq_iff_of_volumeArg_eq (isText : mount.IsText) (same : other.volumeArg = mount.volumeArg) :
    other = mount ↔ other.IsText ∧ other.hostPath.colons = mount.hostPath.colons := by
  constructor
  · rintro rfl
    exact ⟨isText, rfl⟩
  · rintro ⟨isText', colons⟩
    have texts := congrArg String.toList same
    simp only [toList_volumeArg, parts, glue] at texts
    obtain ⟨host, texts⟩ := append_cons_inj_of_count texts colons
    have lengths := other.mode.length_flag.trans mount.mode.length_flag.symm
    obtain ⟨container, flag⟩ := List.append_inj' texts (by simp [lengths])
    refine isText'.eq_of_parts_eq isText ?_
    rw [parts, parts, host, container, (List.cons.inj flag).2]

end Mount

/-- The mount points of a valid configuration are different. -/
theorem Config.sourceMount_ne_targetMount {config : Config}
    (valid : config.validate.isValid = true) :
    config.sandbox.sourceMount ≠ config.sandbox.targetMount := by
  intro same
  have broken : .sameMounts ∈ config.problems := by
    simp [problems, problemsIn, SandboxSettings.problems, problemIf, same, Path.sameComponents]
  rw [isValid_iff_problems_eq_nil.mp valid] at broken
  cases broken

/-- A mount of a session is read back from its text if no path holds a colon, and otherwise nothing
is read; any other mount in text with the same text is told from it by the colons in the path of the
host. The mounts of one session differ in their texts if no path holds a colon. -/
theorem volumes_of_session {config : Config} (valid : config.validate.isValid = true)
    (request : Request) :
    (∀ mount ∈ (Session.forRequest request config).mounts,
      mount.IsText ∧
      (Mount.ofVolume? mount.volumeArg = some mount ↔ mount.Plain) ∧
      (Mount.ofVolume? mount.volumeArg = none ↔ ¬ mount.Plain) ∧
      ∀ other : Mount, other.volumeArg = mount.volumeArg →
        (other = mount ↔ other.IsText ∧ other.hostPath.colons = mount.hostPath.colons)) ∧
    ((∀ mount ∈ (Session.forRequest request config).mounts, mount.Plain) →
      ((Session.forRequest request config).mounts.map (·.volumeArg)).Nodup) := by
  constructor
  · intro mount mem
    have isText := Session.isText_of_mem_mounts mem
    refine ⟨isText, ?_, Mount.ofVolume?_volumeArg_eq_none_iff isText,
      fun other => Mount.eq_iff_of_volumeArg_eq isText⟩
    rw [Mount.ofVolume?_eq_some_iff, and_iff_right rfl, and_iff_right isText]
  · intro plain
    have isText (mount) (mem : mount ∈ (Session.forRequest request config).mounts) :=
      Session.isText_of_mem_mounts mem
    rw [Session.forRequest, List.forall_mem_cons, List.forall_mem_singleton] at plain isText
    have colons := plain.1.host.trans plain.2.host.symm
    have apart := Config.sourceMount_ne_targetMount valid
    simp only [Session.forRequest, List.map_cons, List.map_nil, List.nodup_cons,
      List.mem_singleton, List.not_mem_nil, not_false_eq_true, List.nodup_nil, and_true]
    intro same
    have mounts := (Mount.eq_iff_of_volumeArg_eq isText.2 same).mpr ⟨isText.1, colons⟩
    exact apart (OsPath.ofPath_inj.mp (congrArg Mount.containerPath mounts))

theorem volumes_of_default_session :
    ({} : Config).validate.isValid = true ∧
    Mount.ofVolume? "/home/me/codex:/workspace:rw" =
      some ⟨.ofPath ⟨"/home/me/codex"⟩, .ofPath ⟨"/workspace"⟩, .readWrite⟩ ∧
    Mount.ofVolume? "/tmp/platform:/platform:rw" =
      some ⟨.ofPath ⟨"/tmp/platform"⟩, .ofPath ⟨"/platform"⟩, .readWrite⟩ := by
  have valid : ({} : Config).validate.isValid = true := by decide +kernel
  obtain ⟨reads, -⟩ := volumes_of_session valid ⟨⟨"/home/me/codex"⟩, ⟨"/tmp/platform"⟩⟩
  rw [Session.forRequest, List.forall_mem_cons, List.forall_mem_singleton] at reads
  simp only [Mount.volumeArg, OsPath.display_ofPath] at reads
  exact ⟨valid, reads.1.2.1.mpr ⟨by decide +kernel, by decide +kernel⟩,
    reads.2.2.1.mpr ⟨by decide +kernel, by decide +kernel⟩⟩

namespace Sample

/-- A directory with a colon in its name, and one that has the same name without it. -/
def coloned : FileSystem where
  entries := [(["a"], .directory), (["a:"], .directory), (["a:", "b"], .directory)]
  workingDirectory := []

/-- A configuration with a colon in a mount point. -/
def colonMount : Config := { sandbox := { sourceMount := ⟨"/c"⟩, targetMount := ⟨"/b:/c"⟩ } }

/-- A request with a colon in its source root. -/
def colonRequest : Request := ⟨⟨"/a:/b"⟩, ⟨"/a"⟩⟩

end Sample

/-- The two mounts of one session may be written alike, and then nothing is read back. -/
theorem one_volume_of_two_mounts :
    Request.make Sample.coloned (some ⟨"/a"⟩) ⟨"/a:/b"⟩ = .ok Sample.colonRequest ∧
    Sample.colonMount.validate.isValid = true ∧
    ∃ source target,
      (Session.forRequest Sample.colonRequest Sample.colonMount).mounts = [source, target] ∧
      source ≠ target ∧ source.volumeArg = "/a:/b:/c:rw" ∧ target.volumeArg = "/a:/b:/c:rw" ∧
      Mount.ofVolume? "/a:/b:/c:rw" = none :=
  ⟨rfl, by decide +kernel, _, _, rfl, by decide, by decide +kernel, by decide +kernel, by decide⟩

end SealedBuild
