import Mathlib.Tactic.SplitIfs
import SealedBuild.Proofs.Json.Rendering
import SealedBuild.Proofs.OsPath
import SealedBuild.Proofs.Outcome
import SealedBuild.Report
import SealedBuild.Session

/-!
# What a serialized form tells

Sessions and query outcomes are read back from the documents that they are written as. A session can
be written if its paths are text. To be read back as it was it also takes what holds of every one by
the types of its parts: the variables stand in the order of their names, each of them once, and the
lifetime has 64 bits. An environment is put in order when it is read, so no other session is read
back.

A report can be written only if the paths of all its matches are text. Since a written document
determines the document, and the parts of a report can be told from their documents, a written
report determines the report, and with it the violations that it tells of.

Main statement: `serialized_forms_determine`, for all sessions, outcomes and reports.
-/

namespace SealedBuild

/-! ### Environments -/

namespace Environment

variable {environment : Environment} {name value : String} {entries : List (String × String)}

/-- The variables stand in the order of their names, and no name stands twice. -/
def IsOrdered (environment : Environment) : Prop := environment.Pairwise fun a b => a.1 < b.1

instance (environment : Environment) : Decidable environment.IsOrdered :=
  inferInstanceAs (Decidable (environment.Pairwise fun a b => a.1 < b.1))

theorem mem_set {entry : String × String} (held : entry ∈ environment.set name value) :
    entry ∈ environment ∨ entry.1 = name := by
  induction environment with
  | nil => exact .inr (congrArg Prod.fst (List.mem_singleton.mp held))
  | cons first rest ih =>
      obtain ⟨key, old⟩ := first
      unfold set at held
      split_ifs at held with same before
      · rcases List.mem_cons.mp held with rfl | later
        · exact .inr rfl
        · exact .inl (List.mem_cons_of_mem _ later)
      · rcases List.mem_cons.mp held with rfl | later
        · exact .inr rfl
        · exact .inl later
      · rcases List.mem_cons.mp held with rfl | later
        · exact .inl List.mem_cons_self
        · exact (ih later).imp_left (List.mem_cons_of_mem _)

/-- A variable is set without any disorder. -/
theorem IsOrdered.set (ordered : environment.IsOrdered) (name value : String) :
    (environment.set name value).IsOrdered := by
  induction environment with
  | nil => exact List.pairwise_singleton _ _
  | cons first rest ih =>
      obtain ⟨key, old⟩ := first
      obtain ⟨smallest, later_ordered⟩ := List.pairwise_cons.mp ordered
      unfold Environment.set
      split_ifs with same before
      · subst same
        exact List.pairwise_cons.mpr ⟨smallest, later_ordered⟩
      · refine List.pairwise_cons.mpr ⟨?_, ordered⟩
        rintro entry held
        rcases List.mem_cons.mp held with rfl | later
        · exact before
        · exact String.lt_trans before (smallest entry later)
      · refine List.pairwise_cons.mpr ⟨?_, ih later_ordered⟩
        rintro entry held
        rcases mem_set held with later | rfl
        · exact smallest entry later
        · exact String.not_le.mp fun after =>
            same (String.le_antisymm after (String.not_lt.mp before))

/-- The environment of any entries is ordered. -/
theorem isOrdered_ofList (entries : List (String × String)) : (ofList entries).IsOrdered := by
  have folded {environment : Environment} (ordered : environment.IsOrdered) :
      (entries.foldl (fun environment entry => environment.set entry.1 entry.2)
        environment).IsOrdered := by
    induction entries generalizing environment with
    | nil => exact ordered
    | cons entry entries ih => exact ih (ordered.set entry.1 entry.2)
  exact folded List.Pairwise.nil

theorem set_of_last (last : ∀ entry ∈ environment, entry.1 < name) :
    environment.set name value = environment ++ [(name, value)] := by
  induction environment with
  | nil => rfl
  | cons first rest ih =>
      obtain ⟨key, old⟩ := first
      have before : key < name := last (key, old) List.mem_cons_self
      have differs : name ≠ key := fun same => String.lt_irrefl key (same ▸ before)
      rw [set, if_neg differs, if_neg (String.lt_asymm before),
        ih fun entry held => last entry (List.mem_cons_of_mem _ held), List.cons_append]

/-- Entries that are ordered already make up their own environment. -/
theorem ofList_of_isOrdered (ordered : IsOrdered entries) : ofList entries = entries := by
  have folded (entries : List (String × String)) {environment : Environment}
      (ordered : IsOrdered (environment ++ entries)) :
      entries.foldl (fun environment entry => environment.set entry.1 entry.2) environment =
        environment ++ entries := by
    induction entries generalizing environment with
    | nil => exact (List.append_nil environment).symm
    | cons entry entries ih =>
        have last (earlier : String × String) (held : earlier ∈ environment) :
            earlier.1 < entry.1 :=
          (List.pairwise_append.mp ordered).2.2 earlier held entry List.mem_cons_self
        rw [List.append_cons] at ordered ⊢
        rw [List.foldl_cons, set_of_last last, ih ordered]
  exact folded entries ordered

theorem ofList_eq_self_iff : ofList entries = entries ↔ IsOrdered entries :=
  ⟨fun same => same ▸ isOrdered_ofList entries, ofList_of_isOrdered⟩

end Environment

/-! ### Reading back -/

theorem Environment.ofJson?_toJson (environment : Environment) :
    ofJson? (.object (environment.map fun entry => (entry.1, .string entry.2))) =
      some (ofList environment) := by
  have entries : (environment.map fun entry => (entry.1, Json.string entry.2)).mapM (fun entry =>
      (Json.string? entry.2).map fun text => (entry.1, text)) = some environment := by
    rw [mapM_eq_some_iff, List.forall₂_map_left_iff]
    exact List.forall₂_same.mpr fun _ _ => rfl
  rw [ofJson?, entries]
  rfl

theorem Json.natural?_natCast (n : Nat) :
    natural? (.number n) = if n < UInt64.size then some n else none := rfl

namespace Mount

variable {mount : Mount} {document : Json}

theorem exists_toJson?_iff : (∃ document, mount.toJson? = some document) ↔ mount.IsText := by
  simp only [toJson?, Option.bind_eq_bind, Option.bind_eq_some_iff, Option.pure_def,
    Option.some.injEq]
  constructor
  · rintro ⟨document, host, hostWritten, container, containerWritten, -⟩
    exact ⟨OsPath.exists_toJson?_iff.mp ⟨host, hostWritten⟩,
      OsPath.exists_toJson?_iff.mp ⟨container, containerWritten⟩⟩
  · intro isText
    obtain ⟨host, hostWritten⟩ := OsPath.exists_toJson?_iff.mpr isText.hostPath
    obtain ⟨container, containerWritten⟩ := OsPath.exists_toJson?_iff.mpr isText.containerPath
    exact ⟨_, host, hostWritten, container, containerWritten, rfl⟩

theorem ofJson?_of_toJson? (written : mount.toJson? = some document) :
    ofJson? document = some mount := by
  simp only [toJson?, Option.bind_eq_bind, Option.bind_eq_some_iff, Option.pure_def,
    Option.some.injEq] at written
  obtain ⟨host, hostWritten, container, containerWritten, rfl⟩ := written
  have mode : MountMode.ofJson? (.string mount.mode.flag) = some mount.mode := by
    cases mount.mode <;> rfl
  simp [ofJson?, Json.Fields.ofJson?, Json.Fields.required, Json.Fields.find?, Json.member?,
    OsPath.osPath?_of_toJson? hostWritten, OsPath.osPath?_of_toJson? containerWritten, mode]

end Mount

namespace Session

variable {session : Session} {document : Json}

/-- A session whose paths are text. -/
structure IsText (session : Session) : Prop where
  mounts : ∀ mount ∈ session.mounts, mount.IsText
  workingDirectory : session.workingDirectory.IsText

theorem exists_toJson?_iff : (∃ document, session.toJson? = some document) ↔ session.IsText := by
  simp only [toJson?, Option.bind_eq_bind, Option.bind_eq_some_iff, Option.pure_def,
    Option.some.injEq]
  constructor
  · rintro ⟨document, mounts, mountsWritten, directory, directoryWritten, -⟩
    have written := exists_mapM_iff.mp ⟨mounts, mountsWritten⟩
    exact ⟨fun mount mem => Mount.exists_toJson?_iff.mp (written mount mem),
      OsPath.exists_toJson?_iff.mp ⟨directory, directoryWritten⟩⟩
  · intro isText
    obtain ⟨mounts, mountsWritten⟩ := exists_mapM_iff.mpr fun mount mem =>
      Mount.exists_toJson?_iff.mpr (isText.mounts mount mem)
    obtain ⟨directory, directoryWritten⟩ :=
      OsPath.exists_toJson?_iff.mpr isText.workingDirectory
    exact ⟨_, mounts, mountsWritten, directory, directoryWritten, rfl⟩

theorem ofJson?_of_toJson? (written : session.toJson? = some document) :
    ofJson? document =
      if session.maxLifetimeSecs < UInt64.size then
        some { session with environment := .ofList session.environment }
      else none := by
  simp only [toJson?, Option.bind_eq_bind, Option.bind_eq_some_iff, Option.pure_def,
    Option.some.injEq] at written
  obtain ⟨mounts, mountsWritten, directory, directoryWritten, rfl⟩ := written
  have mountsRead : Json.list? Mount.ofJson? (.array mounts) = some session.mounts :=
    mapM_of_mapM (fun _ _ => Mount.ofJson?_of_toJson?) mountsWritten
  simp [ofJson?, Json.Fields.ofJson?, Json.Fields.required, Json.Fields.find?, Json.member?,
    Json.string?, mountsRead, OsPath.osPath?_of_toJson? directoryWritten,
    Environment.ofJson?_toJson, Json.natural?_natCast]
  split <;> rfl

/-- A session is read back as it was if its paths are text, its variables are ordered and its
lifetime has 64 bits. -/
theorem toJson?_bind_ofJson?_iff : session.toJson?.bind ofJson? = some session ↔
    session.IsText ∧ session.environment.IsOrdered ∧
      session.maxLifetimeSecs < UInt64.size := by
  have same : (if session.maxLifetimeSecs < UInt64.size then
        some { session with environment := .ofList session.environment }
      else none) = some session ↔
      session.environment.IsOrdered ∧ session.maxLifetimeSecs < UInt64.size := by
    obtain ⟨image, mounts, workingDirectory, environment, maxLifetimeSecs⟩ := session
    rw [← Environment.ofList_eq_self_iff]
    simp [and_comm]
  rw [Option.bind_eq_some_iff, ← exists_toJson?_iff, ← same]
  constructor
  · rintro ⟨document, written, read⟩
    exact ⟨⟨document, written⟩, ofJson?_of_toJson? written ▸ read⟩
  · rintro ⟨⟨document, written⟩, read⟩
    exact ⟨document, written, (ofJson?_of_toJson? written).trans read⟩

end Session

theorem QueryOutcome.ofJson?_toJson (outcome : QueryOutcome) :
    ofJson? outcome.toJson = some outcome := by
  cases outcome with
  | absent => rfl
  | present tree =>
      have lines : (Json.ofStrings tree).strings? = some tree := by
        rw [Json.ofStrings, Json.strings?, mapM_eq_some_iff, List.forall₂_map_left_iff]
        exact List.forall₂_same.mpr fun _ _ => rfl
      simp [ofJson?, toJson, Json.member?, Json.string?, lines]

/-! ### What a report is written as -/

theorem QueryOutcome.toJson_injective : Function.Injective toJson := by
  intro outcome outcome' same
  have read := outcome.ofJson?_toJson
  rw [same, ofJson?_toJson] at read
  exact (Option.some.inj read).symm

theorem DependencyCheck.toJson_injective : Function.Injective toJson := by
  rintro ⟨package, rationale, outcome⟩ ⟨package', rationale', outcome'⟩ same
  simp only [toJson, Json.object.injEq, List.cons.injEq, Prod.mk.injEq, Json.string.injEq,
    QueryOutcome.toJson_injective.eq_iff, true_and, and_true] at same
  obtain ⟨rfl, rfl, rfl⟩ := same
  rfl

theorem TokenMatch.eq_of_toJson? (found found' : TokenMatch) (document : Json)
    (written : found.toJson? = some document) (written' : found'.toJson? = some document) :
    found = found' := by
  obtain ⟨path, line, token, excerpt, allowed⟩ := found
  obtain ⟨path', line', token', excerpt', allowed'⟩ := found'
  obtain ⟨document, pathWritten, rfl⟩ := Option.map_eq_some_iff.mp written
  obtain ⟨document', pathWritten', same⟩ := Option.map_eq_some_iff.mp written'
  simp only [Json.object.injEq, List.cons.injEq, Prod.mk.injEq, Json.string.injEq,
    Json.number.injEq, Json.bool.injEq, Int.natCast_inj, true_and, and_true] at same
  obtain ⟨rfl, rfl, rfl, rfl, rfl⟩ := same
  have read := OsPath.osPath?_of_toJson? pathWritten
  rw [OsPath.osPath?_of_toJson? pathWritten'] at read
  obtain rfl : path' = path := Option.some.inj read
  rfl

/-- A report can be written if the paths of its matches are text. -/
theorem Report.exists_toJson?_iff {report : Report} :
    (∃ document, report.toJson? = some document) ↔
      ∀ found ∈ report.tokens, found.path.IsText := by
  have tokens : (∃ documents, report.tokens.mapM TokenMatch.toJson? = some documents) ↔
      ∀ found ∈ report.tokens, found.path.IsText := by
    rw [exists_mapM_iff]
    refine forall₂_congr fun found _ => ?_
    rw [← OsPath.exists_toJson?_iff, ← Option.isSome_iff_exists, ← Option.isSome_iff_exists,
      TokenMatch.toJson?, Option.isSome_map]
  rw [← tokens, ← Option.isSome_iff_exists, ← Option.isSome_iff_exists, toJson?,
    Option.isSome_map]

theorem Report.eq_of_toJson? {report report' : Report} {document : Json}
    (written : report.toJson? = some document) (written' : report'.toJson? = some document) :
    report = report' := by
  obtain ⟨member, dependencies, tokens⟩ := report
  obtain ⟨member', dependencies', tokens'⟩ := report'
  obtain ⟨documents, tokensWritten, rfl⟩ := Option.map_eq_some_iff.mp written
  obtain ⟨documents', tokensWritten', same⟩ := Option.map_eq_some_iff.mp written'
  simp only [Json.object.injEq, List.cons.injEq, Prod.mk.injEq, Json.string.injEq,
    Json.array.injEq, true_and, and_true] at same
  obtain ⟨rfl, sameDependencies, rfl⟩ := same
  obtain rfl := DependencyCheck.toJson_injective.list_map sameDependencies
  obtain rfl : tokens = tokens' :=
    eq_of_mapM_eq_some TokenMatch.eq_of_toJson? tokensWritten tokensWritten'
  rfl

/-- Serialized forms determine their values. Exactly those sessions are read back whose paths are
text, whose variables are ordered and whose lifetime has 64 bits; every outcome is read back; the
reports on files whose paths are text can be written, and two of them that are written alike are
equal, so the violations can be told from the written report. -/
theorem serialized_forms_determine :
    (∀ session : Session, session.toJson?.bind Session.ofJson? = some session ↔
      session.IsText ∧ session.environment.IsOrdered ∧
        session.maxLifetimeSecs < UInt64.size) ∧
    (∀ outcome : QueryOutcome, QueryOutcome.ofJson? outcome.toJson = some outcome) ∧
    (∀ report : Report, (∃ text, report.toJson?.map Json.render = some text) ↔
      ∀ found ∈ report.tokens, found.path.IsText) ∧
    (∀ (report report' : Report) (text : String), report.toJson?.map Json.render = some text →
      report'.toJson?.map Json.render = some text → report = report') ∧
    (∃ violationsOf : String → List String, ∀ (report : Report) (text : String),
      report.toJson?.map Json.render = some text →
        violationsOf text = report.violations) := by
  have unique (report report' : Report) (text : String)
      (written : report.toJson?.map Json.render = some text)
      (written' : report'.toJson?.map Json.render = some text) : report = report' := by
    obtain ⟨document, isDocument, rendered⟩ := Option.map_eq_some_iff.mp written
    obtain ⟨document', isDocument', rendered'⟩ := Option.map_eq_some_iff.mp written'
    obtain rfl : document = document' := Json.render_injective (rendered.trans rendered'.symm)
    exact Report.eq_of_toJson? isDocument isDocument'
  refine ⟨fun _ => Session.toJson?_bind_ofJson?_iff, QueryOutcome.ofJson?_toJson,
    fun report => ?_, unique, ?_⟩
  · rw [← Report.exists_toJson?_iff, ← Option.isSome_iff_exists, ← Option.isSome_iff_exists,
      Option.isSome_map]
  · classical
    refine ⟨fun text => if written : ∃ report : Report, report.toJson?.map Json.render = some text
      then written.choose.violations else [], fun report text written => ?_⟩
    have exists_report : ∃ report : Report, report.toJson?.map Json.render = some text :=
      ⟨report, written⟩
    dsimp only
    rw [dif_pos exists_report, unique _ _ _ exists_report.choose_spec written]

end SealedBuild
