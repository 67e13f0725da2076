import SealedBuild.Config.Decode
import SealedBuild.Proofs.Outcome
import Mathlib.Data.List.Forall2

/-!
# Configurations in part

A configuration is written down as a table with one table per group of settings. Whatever is left
out of it, and whatever is added under keys that no field asks for, what remains is read field by
field: a field whose key is there keeps its own value, and every other field has its built-in one.
Leaving out a group is no different from leaving out each of its keys. Only the package of a
constraint and the pattern of a token cannot be left out.

Main statements: `Config.ofToml_of_remains`, `Config.named_of_ofToml_ok`,
`Config.field?_overlay_congr` and `Config.overlay_toToml`, which `configuration_of_part` puts
together.
-/

namespace SealedBuild

open Toml (Value Fields Error)

namespace Toml.Value

variable {α β : Type} {value part own : Value} {key : String}

/-- What a table holds under a key. -/
def at? : Value → String → Option Value
  | table entries, key => (entries.find? (·.1 == key)).map (·.2)
  | _, _ => none

/-- The items of an array. -/
def items : Value → List Value
  | array items => items
  | _ => []

/-- What a table holds under the key of a group and the key of a field. -/
def field? (value : Value) (group key : String) : Option Value :=
  (value.at? group).bind (·.at? key)

/-- A value that is read off what a table holds under a key, if it holds anything there. -/
def given (part : Value) (key : String) (read : Value → α) (builtIn : α) : α :=
  (part.at? key).elim builtIn read

/-- What may remain of a value. A table may lose any of its keys and gain others, at every depth. -/
inductive Remains : Value → Value → Prop
  | same (value : Value) : Remains value value
  | array {whole part : List Value} (items : List.Forall₂ Remains whole part) :
      Remains (.array whole) (.array part)
  | table {whole part : List (String × Value)}
      (entries : ∀ key own value, (Value.table whole).at? key = some own →
        (Value.table part).at? key = some value → Remains own value) :
      Remains (.table whole) (.table part)

namespace Remains

variable {wholes : List Value} {whole entries : List (String × Value)}

theorem of_at? (remains : Remains (.table whole) part)
    (own_eq : (Value.table whole).at? key = some own) (value_eq : part.at? key = some value) :
    Remains own value := by
  cases remains with
  | same =>
      obtain rfl := Option.some.inj (own_eq.symm.trans value_eq)
      exact .same own
  | table entries => exact entries key own value own_eq value_eq

/-- A table remains a table. -/
theorem exists_entries (remains : Remains (.table whole) part) :
    ∃ entries, part = .table entries := by
  cases remains with
  | same => exact ⟨_, rfl⟩
  | table entries => exact ⟨_, rfl⟩

/-- The items of an array are all there, in order. -/
theorem forall₂_items (remains : Remains (.array wholes) part) :
    ∃ items, part = .array items ∧ List.Forall₂ Remains wholes items := by
  cases remains with
  | same => exact ⟨wholes, rfl, List.forall₂_same.mpr fun item _ => .same item⟩
  | array items => exact ⟨_, rfl, items⟩

theorem of_entries (each : ∀ entry ∈ entries, ∀ own, (Value.table whole).at? entry.1 = some own →
    Remains own entry.2) : Remains (.table whole) (.table entries) := by
  refine .table fun key own value own_eq value_eq => ?_
  obtain ⟨entry, found, rfl⟩ := Option.map_eq_some_iff.mp value_eq
  have named : entry.1 = key := by simpa using List.find?_some found
  subst named
  exact each entry (List.mem_of_find?_eq_some found) own own_eq

end Remains

/-! ### Readers of what remains -/

theorem asString_of_remains {text : String} (remains : Remains (.string text) value) :
    value.asString = .ok text := by
  cases remains
  rfl

theorem asPath_of_remains {path : Path} (remains : Remains (.string path.text) value) :
    value.asPath = .ok path := by
  cases remains
  rfl

theorem asBool_of_remains {truth : Bool} (remains : Remains (.boolean truth) value) :
    value.asBool = .ok truth := by
  cases remains
  rfl

theorem asNatural_of_remains {n : Nat} (remains : Remains (.integer n) value) :
    value.asNatural = .ok n := by
  cases remains
  rfl

theorem itemsOf_of_forall₂ {decode : Value → Except Error α} {read : β → Value → α}
    {owns : List β} {items : List Value}
    (each : List.Forall₂ (fun own item => decode item = .ok (read own item)) owns items) :
    itemsOf decode items = .ok (owns.zipWith read items) := by
  induction each with
  | nil => rfl
  | cons first _ ih =>
      rw [itemsOf, first, ih]
      rfl

theorem asStrings_of_remains {texts : List String}
    (remains : Remains (.array (texts.map .string)) value) :
    value.asList asString = .ok texts := by
  obtain ⟨items, rfl, each⟩ := remains.forall₂_items
  have reads := (List.forall₂_map_left_iff.mp each).imp fun _ _ => asString_of_remains
  calc itemsOf asString items
      = .ok (texts.zipWith (fun text _ => text) items) := itemsOf_of_forall₂ reads
    _ = .ok ((texts.zip items).map Prod.fst) :=
        congrArg Except.ok (List.map_zip_eq_zipWith (f := Prod.fst)).symm
    _ = .ok texts := congrArg Except.ok (List.map_fst_zip (Nat.le_of_eq reads.length_eq))

/-- The entries that remain of a list of tables are read one by one, if each still has its key. -/
theorem asList_of_remains {decode : Value → Except Error α} {write : α → Value}
    {read : α → Value → α} {owns : List α} (remains : Remains (.array (owns.map write)) value)
    (named : ∀ item ∈ value.items, (item.at? key).isSome)
    (reads : ∀ own item, Remains (write own) item → (item.at? key).isSome →
      decode item = .ok (read own item)) :
    value.asList decode = .ok (owns.zipWith read value.items) := by
  obtain ⟨items, rfl, each⟩ := remains.forall₂_items
  have kept := (List.forall₂_and_left items owns).mpr
    ⟨named, (List.forall₂_map_left_iff.mp each).flip⟩
  exact itemsOf_of_forall₂ (kept.flip.imp fun own item both => reads own item both.2 both.1)

/-! ### Fields of a table -/

section Fields

variable {entries whole : List (String × Value)} {decode : Value → Except Error α}

theorem optional_named (position : Nat) (key : String) (builtIn : α) :
    (Fields.named entries).optional position key decode builtIn =
      ((table entries).at? key).elim (.ok builtIn) decode := by
  rw [Fields.optional, show (Fields.named entries).find? position key = (table entries).at? key
    from rfl]
  cases (table entries).at? key with
  | none => rfl
  | some value => rfl

theorem required_named (position : Nat) (key : String) :
    (Fields.named entries).required position key decode =
      ((table entries).at? key).elim (.error (.missingKey key)) decode := by
  rw [Fields.required, show (Fields.named entries).find? position key = (table entries).at? key
    from rfl]
  cases (table entries).at? key with
  | none => rfl
  | some value => rfl

/-- A field that may be absent is read off what remains of a table. -/
theorem optional_of_remains {read : Value → α} (remains : Remains (.table whole) (.table entries))
    (position : Nat) (key : String) (own : Value) (builtIn : α)
    (own_eq : (table whole).at? key = some own)
    (reads : ∀ value, (table entries).at? key = some value → Remains own value →
      decode value = .ok (read value)) :
    (Fields.named entries).optional position key decode builtIn =
      .ok ((table entries).given key read builtIn) := by
  rw [optional_named, given]
  cases found : (table entries).at? key with
  | none => rfl
  | some value => exact reads value found (remains.of_at? own_eq found)

theorem required_of_remains {result : α} (remains : Remains (.table whole) (.table entries))
    (position : Nat) (key : String) (own : Value) (own_eq : (table whole).at? key = some own)
    (reads : ∀ value, Remains own value → decode value = .ok result)
    (there : ((table entries).at? key).isSome) :
    (Fields.named entries).required position key decode = .ok result := by
  obtain ⟨value, found⟩ := Option.isSome_iff_exists.mp there
  rw [required_named, found]
  exact reads value (remains.of_at? own_eq found)

/-- A field that must be there is missed. -/
theorem required_of_not_isSome (position : Nat) (missing : ¬ ((table entries).at? key).isSome) :
    (Fields.named entries).required position key decode = .error (.missingKey key) := by
  rw [required_named, Option.not_isSome_iff_eq_none.mp missing]
  rfl

theorem ok_of_optional {position : Nat} {builtIn result : α}
    (done : (Fields.named entries).optional position key decode builtIn = .ok result)
    (found : (table entries).at? key = some value) : decode value = .ok result := by
  rwa [optional_named, found] at done

end Fields

/-! ### Entries that lack their key -/

theorem forall_of_itemsOf_ok {decode : Value → Except Error α} {items : List Value}
    {results : List α} (done : itemsOf decode items = .ok results) :
    ∀ item ∈ items, ∃ result, decode item = .ok result := by
  induction items generalizing results with
  | nil => simp
  | cons item rest ih =>
      rw [itemsOf] at done
      split at done
      · rename_i first more first_eq more_eq
        exact List.forall_mem_cons.mpr ⟨⟨first, first_eq⟩, ih more_eq⟩
      · cases done
      · cases done

/-- If no entry without its key is read, then a list of entries is read only if all have it. -/
theorem named_of_asList_ok {decode : Value → Except Error α} {write : α → Value}
    {owns results : List α} (remains : Remains (.array (owns.map write)) value)
    (done : value.asList decode = .ok results)
    (fails : ∀ own item, Remains (write own) item → ¬ (item.at? key).isSome →
      decode item = .error (.missingKey key)) :
    ∀ item ∈ value.items, (item.at? key).isSome := by
  obtain ⟨items, rfl, each⟩ := remains.forall₂_items
  have kept_of (item : Value) (own : α) (kept : Remains (write own) item) :
      (∃ own, Remains (write own) item) ∧ Remains (write own) item := ⟨⟨own, kept⟩, kept⟩
  have exists_own := ((List.forall₂_and_left items owns).mp
    ((List.forall₂_map_left_iff.mp each).flip.imp kept_of)).1
  intro item member
  obtain ⟨result, read_eq⟩ := forall_of_itemsOf_ok done item member
  obtain ⟨own, kept⟩ := exists_own item member
  by_contra unnamed
  rw [fails own item kept unnamed] at read_eq
  cases read_eq

/-! ### Fields one by one -/

/-- A group that is not there is no different from one that nothing is left of. -/
theorem at?_given_congr {other : Value} {group : String} {read : Value → α} {builtIn : α}
    {write : α → Value} (blank : read (.table []) = builtIn)
    (congr : ∀ one other : Value, one.at? key = other.at? key →
      (write (read one)).at? key = (write (read other)).at? key)
    (same : part.field? group key = other.field? group key) :
    (write (part.given group read builtIn)).at? key =
      (write (other.given group read builtIn)).at? key := by
  have given_eq (value : Value) :
      value.given group read builtIn = read ((value.at? group).getD (.table [])) := by
    rw [given]
    cases value.at? group with
    | none => exact blank.symm
    | some held => rfl
  have field?_eq (value : Value) :
      value.field? group key = ((value.at? group).getD (.table [])).at? key := by
    rw [field?]
    cases value.at? group with
    | none => rfl
    | some held => rfl
  rw [given_eq, given_eq]
  apply congr
  rw [← field?_eq, ← field?_eq, same]

theorem at?_cons (name : String) (first : Value) (rest : List (String × Value)) :
    (table ((name, first) :: rest)).at? key =
      if name = key then some first else (table rest).at? key := by
  by_cases named : name = key
  · simp [at?, named]
  · simp [at?, named]

theorem at?_cons_congr {name : String} {first first' : Value} {rest rest' : List (String × Value)}
    (here : name = key → first = first') (later : (table rest).at? key = (table rest').at? key) :
    (table ((name, first) :: rest)).at? key = (table ((name, first') :: rest')).at? key := by
  rw [at?_cons, at?_cons, later]
  split
  · next named => rw [here named]
  · rfl

theorem field?_cons_congr {name group : String} {first first' : Value}
    {rest rest' : List (String × Value)} (here : name = group → first.at? key = first'.at? key)
    (later : (table rest).field? group key = (table rest').field? group key) :
    (table ((name, first) :: rest)).field? group key =
      (table ((name, first') :: rest')).field? group key := by
  rw [field?, field?, at?_cons, at?_cons]
  split
  · next named => exact here named
  · exact later

end Toml.Value

open Toml.Value

variable {part other : Value} {key : String}

/-! ### Constraints and tokens -/

namespace Constraint

/-- A constraint as a table. -/
def toToml (constraint : Constraint) : Value :=
  .table [("package", .string constraint.package), ("disallowed", .boolean constraint.disallowed),
    ("rationale", .string constraint.rationale)]

/-- A constraint, as far as a table has its keys. -/
def overlay (own : Constraint) (part : Value) : Constraint where
  package := own.package
  disallowed := part.given "disallowed" (fun _ => own.disallowed) true
  rationale := part.given "rationale" (fun _ => own.rationale) ""

variable {own : Constraint}

theorem ofToml_of_remains (remains : own.toToml.Remains part)
    (named : (part.at? "package").isSome) : Constraint.ofToml part = .ok (own.overlay part) := by
  obtain ⟨entries, rfl⟩ := remains.exists_entries
  refine bind_of_ok rfl ?_
  refine bind_of_ok (required_of_remains remains 0 "package" _ rfl
    (fun _ => asString_of_remains) named) ?_
  refine bind_of_ok (optional_of_remains remains 1 "disallowed" _ _ rfl
    fun _ _ => asBool_of_remains) ?_
  refine bind_of_ok (optional_of_remains remains 2 "rationale" _ _ rfl
    fun _ _ => asString_of_remains) ?_
  rfl

theorem ofToml_of_not_named (remains : own.toToml.Remains part)
    (unnamed : ¬ (part.at? "package").isSome) :
    Constraint.ofToml part = .error (.missingKey "package") := by
  obtain ⟨entries, rfl⟩ := remains.exists_entries
  refine bind_of_ok rfl ?_
  rw [required_of_not_isSome 0 unnamed]
  rfl

end Constraint

namespace Token

/-- A token as a table. -/
def toToml (token : Token) : Value :=
  .table [("pattern", .string token.pattern), ("rationale", .string token.rationale)]

/-- A token, as far as a table has its keys. -/
def overlay (own : Token) (part : Value) : Token where
  pattern := own.pattern
  rationale := part.given "rationale" (fun _ => own.rationale) ""

variable {own : Token}

theorem ofToml_of_remains (remains : own.toToml.Remains part)
    (named : (part.at? "pattern").isSome) : Token.ofToml part = .ok (own.overlay part) := by
  obtain ⟨entries, rfl⟩ := remains.exists_entries
  refine bind_of_ok rfl ?_
  refine bind_of_ok (required_of_remains remains 0 "pattern" _ rfl
    (fun _ => asString_of_remains) named) ?_
  refine bind_of_ok (optional_of_remains remains 1 "rationale" _ _ rfl
    fun _ _ => asString_of_remains) ?_
  rfl

theorem ofToml_of_not_named (remains : own.toToml.Remains part)
    (unnamed : ¬ (part.at? "pattern").isSome) :
    Token.ofToml part = .error (.missingKey "pattern") := by
  obtain ⟨entries, rfl⟩ := remains.exists_entries
  refine bind_of_ok rfl ?_
  rw [required_of_not_isSome 0 unnamed]
  rfl

end Token

/-! ### Groups of settings -/

namespace SandboxSettings

/-- The settings of the sandbox as a table. -/
def toToml (settings : SandboxSettings) : Value :=
  .table [("engine", .string settings.engine), ("image", .string settings.image),
    ("source_mount", .string settings.sourceMount.text),
    ("target_mount", .string settings.targetMount.text),
    ("build_subdir", .string settings.buildSubdir.text),
    ("max_lifetime_secs", .integer settings.maxLifetimeSecs)]

/-- The settings of the sandbox, as far as a table has their keys. -/
def overlay (own : SandboxSettings) (part : Value) : SandboxSettings :=
  let builtIn : SandboxSettings := {}
  { engine := part.given "engine" (fun _ => own.engine) builtIn.engine
    image := part.given "image" (fun _ => own.image) builtIn.image
    sourceMount := part.given "source_mount" (fun _ => own.sourceMount) builtIn.sourceMount
    targetMount := part.given "target_mount" (fun _ => own.targetMount) builtIn.targetMount
    buildSubdir := part.given "build_subdir" (fun _ => own.buildSubdir) builtIn.buildSubdir
    maxLifetimeSecs :=
      part.given "max_lifetime_secs" (fun _ => own.maxLifetimeSecs) builtIn.maxLifetimeSecs }

theorem ofToml_of_remains {own : SandboxSettings} (remains : own.toToml.Remains part) :
    SandboxSettings.ofToml part = .ok (own.overlay part) := by
  obtain ⟨entries, rfl⟩ := remains.exists_entries
  refine bind_of_ok rfl ?_
  refine bind_of_ok (optional_of_remains remains 0 "engine" _ _ rfl
    fun _ _ => asString_of_remains) ?_
  refine bind_of_ok (optional_of_remains remains 1 "image" _ _ rfl
    fun _ _ => asString_of_remains) ?_
  refine bind_of_ok (optional_of_remains remains 2 "source_mount" _ _ rfl
    fun _ _ => asPath_of_remains) ?_
  refine bind_of_ok (optional_of_remains remains 3 "target_mount" _ _ rfl
    fun _ _ => asPath_of_remains) ?_
  refine bind_of_ok (optional_of_remains remains 4 "build_subdir" _ _ rfl
    fun _ _ => asPath_of_remains) ?_
  refine bind_of_ok (optional_of_remains remains 5 "max_lifetime_secs" _ _ rfl
    fun _ _ => asNatural_of_remains) ?_
  rfl

/-- A field depends on what a table holds under its own key only. -/
theorem at?_overlay_congr (own : SandboxSettings) (same : part.at? key = other.at? key) :
    (own.overlay part).toToml.at? key = (own.overlay other).toToml.at? key := by
  refine at?_cons_congr ?_ <| at?_cons_congr ?_ <| at?_cons_congr ?_ <| at?_cons_congr ?_ <|
    at?_cons_congr ?_ <| at?_cons_congr ?_ <| rfl
  all_goals
    rintro rfl
    simp only [overlay, given, same]

end SandboxSettings

namespace ToolchainSettings

/-- The settings of the toolchain as a table. -/
def toToml (settings : ToolchainSettings) : Value :=
  .table [("manifest", .string settings.manifest.text),
    ("os_packages", .array (settings.osPackages.map .string))]

/-- The settings of the toolchain, as far as a table has their keys. -/
def overlay (own : ToolchainSettings) (part : Value) : ToolchainSettings :=
  let builtIn : ToolchainSettings := {}
  { manifest := part.given "manifest" (fun _ => own.manifest) builtIn.manifest
    osPackages := part.given "os_packages" (fun _ => own.osPackages) builtIn.osPackages }

theorem ofToml_of_remains {own : ToolchainSettings} (remains : own.toToml.Remains part) :
    ToolchainSettings.ofToml part = .ok (own.overlay part) := by
  obtain ⟨entries, rfl⟩ := remains.exists_entries
  refine bind_of_ok rfl ?_
  refine bind_of_ok (optional_of_remains remains 0 "manifest" _ _ rfl
    fun _ _ => asPath_of_remains) ?_
  refine bind_of_ok (optional_of_remains remains 1 "os_packages" _ _ rfl
    fun _ _ => asStrings_of_remains) ?_
  rfl

/-- A field depends on what a table holds under its own key only. -/
theorem at?_overlay_congr (own : ToolchainSettings) (same : part.at? key = other.at? key) :
    (own.overlay part).toToml.at? key = (own.overlay other).toToml.at? key := by
  refine at?_cons_congr ?_ <| at?_cons_congr ?_ <| rfl
  all_goals
    rintro rfl
    simp only [overlay, given, same]

end ToolchainSettings

namespace BuildSettings

/-- The settings of the build as a table. -/
def toToml (settings : BuildSettings) : Value :=
  .table [("package", .string settings.package), ("binary", .string settings.binary)]

/-- The settings of the build, as far as a table has their keys. -/
def overlay (own : BuildSettings) (part : Value) : BuildSettings :=
  let builtIn : BuildSettings := {}
  { package := part.given "package" (fun _ => own.package) builtIn.package
    binary := part.given "binary" (fun _ => own.binary) builtIn.binary }

theorem ofToml_of_remains {own : BuildSettings} (remains : own.toToml.Remains part) :
    BuildSettings.ofToml part = .ok (own.overlay part) := by
  obtain ⟨entries, rfl⟩ := remains.exists_entries
  refine bind_of_ok rfl ?_
  refine bind_of_ok (optional_of_remains remains 0 "package" _ _ rfl
    fun _ _ => asString_of_remains) ?_
  refine bind_of_ok (optional_of_remains remains 1 "binary" _ _ rfl
    fun _ _ => asString_of_remains) ?_
  rfl

/-- A field depends on what a table holds under its own key only. -/
theorem at?_overlay_congr (own : BuildSettings) (same : part.at? key = other.at? key) :
    (own.overlay part).toToml.at? key = (own.overlay other).toToml.at? key := by
  refine at?_cons_congr ?_ <| at?_cons_congr ?_ <| rfl
  all_goals
    rintro rfl
    simp only [overlay, given, same]

end BuildSettings

namespace InstallSettings

/-- The settings of the installation as a table. -/
def toToml (settings : InstallSettings) : Value :=
  .table [("destination", .string settings.destination.text)]

/-- The settings of the installation, as far as a table has their keys. -/
def overlay (own : InstallSettings) (part : Value) : InstallSettings :=
  let builtIn : InstallSettings := {}
  { destination := part.given "destination" (fun _ => own.destination) builtIn.destination }

theorem ofToml_of_remains {own : InstallSettings} (remains : own.toToml.Remains part) :
    InstallSettings.ofToml part = .ok (own.overlay part) := by
  obtain ⟨entries, rfl⟩ := remains.exists_entries
  refine bind_of_ok rfl ?_
  refine bind_of_ok (optional_of_remains remains 0 "destination" _ _ rfl
    fun _ _ => asPath_of_remains) ?_
  rfl

/-- A field depends on what a table holds under its own key only. -/
theorem at?_overlay_congr (own : InstallSettings) (same : part.at? key = other.at? key) :
    (own.overlay part).toToml.at? key = (own.overlay other).toToml.at? key := by
  refine at?_cons_congr ?_ <| rfl
  all_goals
    rintro rfl
    simp only [overlay, given, same]

end InstallSettings

namespace VerifySettings

/-- The settings of the verification as a table. -/
def toToml (settings : VerifySettings) : Value :=
  .table [("enforce", .boolean settings.enforce),
    ("constraints", .array (settings.constraints.map (·.toToml))),
    ("tokens", .array (settings.tokens.map (·.toToml))),
    ("allowed_paths", .array (settings.allowedPaths.map .string)),
    ("skip_dirs", .array (settings.skipDirs.map .string))]

/-- The settings of the verification, as far as a table has their keys. -/
def overlay (own : VerifySettings) (part : Value) : VerifySettings :=
  let builtIn : VerifySettings := {}
  { enforce := part.given "enforce" (fun _ => own.enforce) builtIn.enforce
    constraints := part.given "constraints"
      (fun value => own.constraints.zipWith Constraint.overlay value.items) builtIn.constraints
    tokens := part.given "tokens"
      (fun value => own.tokens.zipWith Token.overlay value.items) builtIn.tokens
    allowedPaths := part.given "allowed_paths" (fun _ => own.allowedPaths) builtIn.allowedPaths
    skipDirs := part.given "skip_dirs" (fun _ => own.skipDirs) builtIn.skipDirs }

/-- Each constraint and each token of a table still has the key that it cannot be without. -/
structure Named (part : Value) : Prop where
  constraints : ∀ value, part.at? "constraints" = some value →
    ∀ item ∈ value.items, (item.at? "package").isSome
  tokens : ∀ value, part.at? "tokens" = some value →
    ∀ item ∈ value.items, (item.at? "pattern").isSome

theorem ofToml_of_remains {own : VerifySettings} (remains : own.toToml.Remains part)
    (named : Named part) : VerifySettings.ofToml part = .ok (own.overlay part) := by
  obtain ⟨entries, rfl⟩ := remains.exists_entries
  refine bind_of_ok rfl ?_
  refine bind_of_ok (optional_of_remains remains 0 "enforce" _ _ rfl
    fun _ _ => asBool_of_remains) ?_
  refine bind_of_ok (optional_of_remains remains 1 "constraints" _ _ rfl
    fun _ found remains => asList_of_remains remains (named.constraints _ found)
      fun _ _ => Constraint.ofToml_of_remains) ?_
  refine bind_of_ok (optional_of_remains remains 2 "tokens" _ _ rfl
    fun _ found remains => asList_of_remains remains (named.tokens _ found)
      fun _ _ => Token.ofToml_of_remains) ?_
  refine bind_of_ok (optional_of_remains remains 3 "allowed_paths" _ _ rfl
    fun _ _ => asStrings_of_remains) ?_
  refine bind_of_ok (optional_of_remains remains 4 "skip_dirs" _ _ rfl
    fun _ _ => asStrings_of_remains) ?_
  rfl

/-- A field depends on what a table holds under its own key only. -/
theorem at?_overlay_congr (own : VerifySettings) (same : part.at? key = other.at? key) :
    (own.overlay part).toToml.at? key = (own.overlay other).toToml.at? key := by
  refine at?_cons_congr ?_ <| at?_cons_congr ?_ <| at?_cons_congr ?_ <| at?_cons_congr ?_ <|
    at?_cons_congr ?_ <| rfl
  all_goals
    rintro rfl
    simp only [overlay, given, same]

/-- What is read has the keys that its constraints and tokens cannot be without. -/
theorem named_of_ofToml_ok {own settings : VerifySettings} (remains : own.toToml.Remains part)
    (done : VerifySettings.ofToml part = .ok settings) : Named part := by
  obtain ⟨entries, rfl⟩ := remains.exists_entries
  obtain ⟨_, ⟨⟩, done⟩ := ok_of_bind done
  obtain ⟨_, -, done⟩ := ok_of_bind done
  obtain ⟨_, constraints_read, done⟩ := ok_of_bind done
  obtain ⟨_, tokens_read, -⟩ := ok_of_bind done
  exact {
    constraints := fun value found => named_of_asList_ok (remains.of_at? rfl found)
      (ok_of_optional constraints_read found) fun _ _ => Constraint.ofToml_of_not_named
    tokens := fun value found => named_of_asList_ok (remains.of_at? rfl found)
      (ok_of_optional tokens_read found) fun _ _ => Token.ofToml_of_not_named }

theorem overlay_toToml (own : VerifySettings) : own.overlay own.toToml = own := by
  have constraints : own.constraints.zipWith Constraint.overlay (own.constraints.map (·.toToml)) =
      own.constraints := by
    rw [List.zipWith_map_right, List.zipWith_self]
    exact List.map_id _
  have tokens : own.tokens.zipWith Token.overlay (own.tokens.map (·.toToml)) = own.tokens := by
    rw [List.zipWith_map_right, List.zipWith_self]
    exact List.map_id _
  calc own.overlay own.toToml
      = { own with
          constraints := own.constraints.zipWith Constraint.overlay
            (own.constraints.map (·.toToml))
          tokens := own.tokens.zipWith Token.overlay (own.tokens.map (·.toToml)) } := rfl
    _ = own := by rw [constraints, tokens]

theorem named_toToml (own : VerifySettings) : Named own.toToml where
  constraints value found item member := by
    obtain rfl := Option.some.inj found
    obtain ⟨constraint, -, rfl⟩ := List.mem_map.mp member
    rfl
  tokens value found item member := by
    obtain rfl := Option.some.inj found
    obtain ⟨token, -, rfl⟩ := List.mem_map.mp member
    rfl

end VerifySettings

/-! ### Configurations -/

namespace Config

/-- A configuration as a table. -/
def toToml (config : Config) : Value :=
  .table [("sandbox", config.sandbox.toToml), ("toolchain", config.toolchain.toToml),
    ("build", config.build.toToml), ("install", config.install.toToml),
    ("verify", config.verify.toToml)]

/-- A configuration, as far as a table has its keys. -/
def overlay (own : Config) (part : Value) : Config where
  sandbox := part.given "sandbox" own.sandbox.overlay {}
  toolchain := part.given "toolchain" own.toolchain.overlay {}
  build := part.given "build" own.build.overlay {}
  install := part.given "install" own.install.overlay {}
  verify := part.given "verify" own.verify.overlay {}

/-- Each constraint and each token of a table still has the key that it cannot be without. -/
def Named (part : Value) : Prop :=
  ∀ value, part.at? "verify" = some value → VerifySettings.Named value

variable {own : Config}

theorem ofToml_of_remains (remains : own.toToml.Remains part) (named : Named part) :
    Config.ofToml part = .ok (own.overlay part) := by
  obtain ⟨entries, rfl⟩ := remains.exists_entries
  refine bind_of_ok rfl ?_
  refine bind_of_ok (optional_of_remains remains 0 "sandbox" _ _ rfl
    fun _ _ => SandboxSettings.ofToml_of_remains) ?_
  refine bind_of_ok (optional_of_remains remains 1 "toolchain" _ _ rfl
    fun _ _ => ToolchainSettings.ofToml_of_remains) ?_
  refine bind_of_ok (optional_of_remains remains 2 "build" _ _ rfl
    fun _ _ => BuildSettings.ofToml_of_remains) ?_
  refine bind_of_ok (optional_of_remains remains 3 "install" _ _ rfl
    fun _ _ => InstallSettings.ofToml_of_remains) ?_
  refine bind_of_ok (optional_of_remains remains 4 "verify" _ _ rfl
    fun _ found remains => VerifySettings.ofToml_of_remains remains (named _ found)) ?_
  rfl

/-- What is read has the keys that its constraints and tokens cannot be without. -/
theorem named_of_ofToml_ok (remains : own.toToml.Remains part) {config : Config}
    (done : Config.ofToml part = .ok config) : Named part := by
  obtain ⟨entries, rfl⟩ := remains.exists_entries
  obtain ⟨_, ⟨⟩, done⟩ := ok_of_bind done
  obtain ⟨_, -, done⟩ := ok_of_bind done
  obtain ⟨_, -, done⟩ := ok_of_bind done
  obtain ⟨_, -, done⟩ := ok_of_bind done
  obtain ⟨_, -, done⟩ := ok_of_bind done
  obtain ⟨_, verify_read, -⟩ := ok_of_bind done
  exact fun value found => VerifySettings.named_of_ofToml_ok (remains.of_at? rfl found)
    (ok_of_optional verify_read found)

/-- A field of a group depends on what a table holds under the two keys of the field only. -/
theorem field?_overlay_congr (own : Config) {group : String}
    (same : part.field? group key = other.field? group key) :
    (own.overlay part).toToml.field? group key = (own.overlay other).toToml.field? group key := by
  refine field?_cons_congr ?sandbox <| field?_cons_congr ?toolchain <| field?_cons_congr ?build <|
    field?_cons_congr ?install <| field?_cons_congr ?verify <| rfl
  all_goals rintro rfl
  case sandbox => exact at?_given_congr rfl (fun _ _ => own.sandbox.at?_overlay_congr) same
  case toolchain => exact at?_given_congr rfl (fun _ _ => own.toolchain.at?_overlay_congr) same
  case build => exact at?_given_congr rfl (fun _ _ => own.build.at?_overlay_congr) same
  case install => exact at?_given_congr rfl (fun _ _ => own.install.at?_overlay_congr) same
  case verify => exact at?_given_congr rfl (fun _ _ => own.verify.at?_overlay_congr) same

theorem overlay_toToml (own : Config) : own.overlay own.toToml = own := by
  have whole : own.overlay own.toToml =
      { own with verify := own.verify.overlay own.verify.toToml } := rfl
  rw [whole, VerifySettings.overlay_toToml]

theorem named_toToml (own : Config) : Named own.toToml := by
  intro value found
  obtain rfl := Option.some.inj found
  exact own.verify.named_toToml

end Config

/-- A configuration is what its table is read as. What remains of the table is read as the
configuration in which each field that is there is its own and each other field is built in, so that
no field depends on the keys of others. Entries of the table are read alike, and reading fails
exactly if one of them has lost its package or its pattern. -/
theorem configuration_of_part (config : Config) (remains : config.toToml.Remains part) :
    Config.ofToml config.toToml = .ok config ∧
    (Config.Named part → Config.ofToml part = .ok (config.overlay part)) ∧
    (¬ Config.Named part → ∃ error, Config.ofToml part = .error error) ∧
    (∀ other group key, part.field? group key = other.field? group key →
      (config.overlay part).toToml.field? group key =
        (config.overlay other).toToml.field? group key) ∧
    (∀ (constraint : Constraint) (entry : Value), constraint.toToml.Remains entry →
      Constraint.ofToml entry = if (entry.at? "package").isSome then .ok (constraint.overlay entry)
        else .error (.missingKey "package")) ∧
    (∀ (token : Token) (entry : Value), token.toToml.Remains entry →
      Token.ofToml entry = if (entry.at? "pattern").isSome then .ok (token.overlay entry)
        else .error (.missingKey "pattern")) := by
  refine ⟨?whole, Config.ofToml_of_remains remains, ?lost, ?apart, ?constraints, ?tokens⟩
  case whole =>
    rw [Config.ofToml_of_remains (.same _) config.named_toToml, config.overlay_toToml]
  case lost =>
    intro unnamed
    cases done : Config.ofToml part with
    | error error => exact ⟨error, rfl⟩
    | ok read => exact absurd (Config.named_of_ofToml_ok remains done) unnamed
  case apart => exact fun _ _ _ => config.field?_overlay_congr
  case constraints =>
    intro constraint entry remains
    split
    · next named => exact Constraint.ofToml_of_remains remains named
    · next unnamed => exact Constraint.ofToml_of_not_named remains unnamed
  case tokens =>
    intro token entry remains
    split
    · next named => exact Token.ofToml_of_remains remains named
    · next unnamed => exact Token.ofToml_of_not_named remains unnamed

namespace Sample

/-- Settings of which several are not the built-in ones. -/
def frugalConfig : Config where
  sandbox := { engine := "podman", maxLifetimeSecs := 600 }
  build := { binary := "codex-lite" }
  verify := {
    enforce := false
    constraints := [⟨"openssl-sys", false, "linked on purpose"⟩]
    tokens := [] }

/-- A part of these settings, in another order and with a note. -/
def frugalPart : Value :=
  .table [("note", .string "for small machines"),
    ("verify", .table [
      ("constraints", .array [.table [("package", .string "openssl-sys"), ("since", .integer 3)]]),
      ("skip_dirs", .array ([".git", "target", "node_modules"].map .string))]),
    ("sandbox", .table [("max_lifetime_secs", .integer 600)])]

theorem frugalPart_remains : frugalConfig.toToml.Remains frugalPart := by
  refine .of_entries fun entry member own own_eq => ?_
  simp only [List.mem_cons, List.not_mem_nil, or_false] at member
  rcases member with rfl | rfl | rfl
  · cases own_eq
  · obtain rfl := Option.some.inj own_eq
    refine .of_entries fun entry member own own_eq => ?_
    simp only [List.mem_cons, List.not_mem_nil, or_false] at member
    rcases member with rfl | rfl
    · obtain rfl := Option.some.inj own_eq
      refine .array (.cons (.of_entries fun entry member own own_eq => ?_) .nil)
      simp only [List.mem_cons, List.not_mem_nil, or_false] at member
      rcases member with rfl | rfl
      · obtain rfl := Option.some.inj own_eq
        exact .same _
      · cases own_eq
    · obtain rfl := Option.some.inj own_eq
      exact .same _
  · obtain rfl := Option.some.inj own_eq
    refine .of_entries fun entry member own own_eq => ?_
    obtain rfl := List.mem_singleton.mp member
    obtain rfl := Option.some.inj own_eq
    exact .same _

theorem frugalPart_named : Config.Named frugalPart := by
  intro value found
  obtain rfl := Option.some.inj found
  refine ⟨fun value found item member => ?_, fun value found => ?_⟩
  · obtain rfl := Option.some.inj found
    obtain rfl := List.mem_singleton.mp member
    rfl
  · cases found

end Sample

/-- Of the settings in part, what is not there is built in: the engine, the binary, the tokens, and
that the constraint forbids its package. -/
theorem configuration_of_frugal_part : Config.ofToml Sample.frugalPart = .ok {
    sandbox := { maxLifetimeSecs := 600 }
    verify := { constraints := [⟨"openssl-sys", true, ""⟩] } } := by
  have read := (configuration_of_part Sample.frugalConfig Sample.frugalPart_remains).2.1
  exact read Sample.frugalPart_named

end SealedBuild
