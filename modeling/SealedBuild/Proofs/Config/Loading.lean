import SealedBuild.Config.Load

/-!
# Loading configurations

The configuration that is asked for is the built-in one or the one that a file holds. It is handed
out if validation finds no problem with it, and what is found keeps it back otherwise.

Main statements: `load_ok_iff` and `load_of_chosen`.
-/

namespace SealedBuild

namespace Validation

variable {errors : List String}

theorem result_of_nil (warnings : List String) (valid : errors = []) :
    result ⟨errors, warnings⟩ = .ok warnings := by
  rw [result, isValid, valid]
  rfl

theorem result_of_ne_nil (warnings : List String) (invalid : errors ≠ []) :
    result ⟨errors, warnings⟩ = .error (.config ("; ".intercalate errors)) := by
  rw [result, isValid, if_neg]
  rwa [List.isEmpty_iff]

end Validation

namespace Config

variable {files : FileSystem} {path? : Option Path} {config : Config}

/-- The configuration that is asked for, read but not checked. -/
inductive Chosen (files : FileSystem) : Option Path → Config → Prop
  | builtIn : Chosen files none {}
  | file {path : Path} {text : String} {config : Config} (content : files.readText path = .ok text)
      (parsed : parse text = .ok config) : Chosen files (some path) config

theorem checked_ok_iff {other : Config} :
    config.checked = .ok other ↔ config.validate.isValid = true ∧ other = config := by
  unfold checked Validation.result
  cases config.validate.isValid with
  | true => simp [Except.map, eq_comm]
  | false => simp [Except.map]

theorem checked_of_not_isValid (invalid : ¬ config.validate.isValid = true) :
    config.checked = .error (.config ("; ".intercalate config.validate.errors)) := by
  rw [checked, Validation.result, if_neg invalid]
  rfl

/-- What is asked for is checked before it is handed out. -/
theorem load_of_chosen (chosen : Chosen files path? config) :
    load files path? = config.checked := by
  cases chosen with
  | builtIn => rfl
  | file content parsed => simp only [load, read, content, parsed]

/-- The configuration that is handed out is the one that is asked for, if it has no problem. -/
theorem load_ok_iff : load files path? = .ok config ↔
    Chosen files path? config ∧ config.validate.isValid = true := by
  constructor
  · intro loaded
    cases path? with
    | none =>
        obtain ⟨valid, rfl⟩ := checked_ok_iff.mp loaded
        exact ⟨.builtIn, valid⟩
    | some path =>
        unfold load at loaded
        dsimp only at loaded
        split at loaded
        · cases loaded
        · rename_i other read_eq
          obtain ⟨valid, rfl⟩ := checked_ok_iff.mp loaded
          unfold read at read_eq
          split at read_eq
          · cases read_eq
          · rename_i text content
            split at read_eq
            · cases read_eq
            · rename_i parsed
              obtain rfl := Except.ok.inj read_eq
              exact ⟨.file content parsed, valid⟩
  · rintro ⟨chosen, valid⟩
    rw [load_of_chosen chosen]
    exact checked_ok_iff.mpr ⟨valid, rfl⟩

/-- At most one configuration is asked for. -/
theorem Chosen.unique {first second : Config} (one : Chosen files path? first)
    (other : Chosen files path? second) : first = second := by
  cases one with
  | builtIn =>
      cases other
      rfl
  | file content parsed =>
      cases other with
      | file content' parsed' =>
          obtain rfl := Except.ok.inj (content.symm.trans content')
          exact Except.ok.inj (parsed.symm.trans parsed')

end Config

end SealedBuild
