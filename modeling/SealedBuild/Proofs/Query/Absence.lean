import SealedBuild.Proofs.Container.Capture
import SealedBuild.Proofs.Pipeline.Gate

/-!
# What an absent package rests on

A query finds its package absent in two ways. It ends well and has printed nothing but white space,
as far as its output has been captured; or it fails and says that some name matches no package. Both
are weaker than they look. The output is captured up to the first line that is not text, and the
complaint may be about the package that was built, which every query names as well.

Main statements: `finds_iff_of_query`, when a query that ends well finds its package, and
`absent_iff_of_failed_query`, when one that fails finds it absent.
-/

namespace SealedBuild

open Text

/-- A query finds a package absent if it ends well and nothing is captured that is not blank, or if
it fails with the complaint that a name matches no package. -/
theorem interpretQuery_eq_absent_iff {package : String} {output : StepOutput} :
    interpretQuery package output = .ok .absent ↔
      (output.success = true ∧ writtenLines output.stdout = []) ∨
        output.success = false ∧
          contains output.stderr "did not match any packages" = true := by
  unfold interpretQuery
  cases output.success with
  | true => by_cases blank : writtenLines output.stdout = [] <;> simp [blank]
  | false =>
    by_cases unmatched : contains output.stderr "did not match any packages" = true
    · simp [unmatched]
    · by_cases ambiguous : contains output.stderr "is ambiguous" = true <;>
        simp [unmatched, ambiguous]

/-- A query that ends well is understood. -/
theorem interpretQuery_of_success (package : String) (output : StepOutput)
    (ended : output.success = true) : ∃ outcome, interpretQuery package output = .ok outcome := by
  unfold interpretQuery
  rw [if_pos ended]
  exact ⟨_, rfl⟩

/-! ### Queries that end well -/

/-- Whether a line of bytes is text and holds nothing but white space. -/
def isBlankLine (line : Bytes) : Bool := line.text?.any isBlankText

/-- After blank lines a line decides whether anything is captured that is not blank: it is not blank
itself, so it is captured if it is text, and ends the reading if it is not. -/
theorem textLines_blank_iff {before after : List Bytes} {line : Bytes}
    (blank : ∀ other ∈ before, isBlankLine other = true) (written : isBlankLine line = false) :
    (∀ text ∈ textLines (before ++ line :: after), isBlankText text = true) ↔
      line.text? = none := by
  induction before with
  | nil =>
    rw [List.nil_append, textLines]
    rw [isBlankLine] at written
    cases isText : line.text? with
    | none => simp
    | some text =>
      rw [isText, Option.any_some] at written
      simp [written]
  | cons other before ih =>
    obtain ⟨first, others⟩ := List.forall_mem_cons.mp blank
    rw [List.cons_append, textLines]
    rw [isBlankLine] at first
    cases isText : Bytes.text? other with
    | none => simp [isText] at first
    | some text =>
      rw [isText, Option.any_some] at first
      rw [List.forall_mem_cons, ih others]
      exact and_iff_right first

/-- No captured line holds a line feed. -/
theorem not_mem_of_mem_textLines {lines : List Bytes} (clean : ∀ line ∈ lines, 10 ∉ line)
    {text : String} (held : text ∈ textLines lines) : '\n' ∉ text.toList := by
  induction lines with
  | nil => cases held
  | cons line lines ih =>
    obtain ⟨first, others⟩ := List.forall_mem_cons.mp clean
    rw [textLines] at held
    cases isText : Bytes.text? line with
    | none => simp [isText] at held
    | some found =>
      rw [isText] at held
      rcases List.mem_cons.mp held with rfl | later
      · rw [Bytes.text?_eq_some_iff.mp isText, Bytes.feed_mem_ofString_iff] at first
        exact first
      · exact ih others later

/-- Something is captured that is not blank if the first line that is not blank is text. -/
theorem writtenLines_captured_eq_nil_iff {stream line : Bytes}
    (first : (splitLines 10 13 stream).find? (fun line => !isBlankLine line) = some line) :
    writtenLines (captured stream) = [] ↔ line.text? = none := by
  have clean : ∀ text ∈ textLines (splitLines 10 13 stream), '\n' ∉ text.toList :=
    fun text => not_mem_of_mem_textLines fun line => not_mem_of_mem_splitLines
  obtain ⟨written, before, after, eq, blank⟩ := List.find?_eq_some_iff_append.mp first
  rw [captured, ← withFeeds, writtenLines_withFeeds_eq_nil_iff clean, eq]
  exact textLines_blank_iff (by simpa using blank) (by simpa using written)

namespace ContainerState

variable {ε : Type} {engine : Engine ε} {state : ContainerState ε} {container : Container}
  {config : Config} {toolchain : Toolchain} {package : String} {stdout stderr : Bytes}

/-- A query that ends well and prints a line that is not blank finds its package if the first such
line is text, and only then; in particular it does if all that is printed is text. -/
theorem finds_iff_of_query (alive : state.container = some container)
    (answered : (state.invoke engine container.command (Container.execArgs container.name
      container.session (config.dependencyQuery toolchain package))).1.answer =
        .exited (some 0) stdout stderr)
    (printed : ∃ line ∈ splitLines 10 13 stdout, isBlankLine line = false) :
    ∃ line output outcome,
      (splitLines 10 13 stdout).find? (fun line => !isBlankLine line) = some line ∧
      (run engine (config.dependencyQuery toolchain package) state).1.answer = .finished output ∧
      interpretQuery package output = .ok outcome ∧
      (outcome ≠ .absent ↔ ∃ text, line.text? = some text) ∧
      ((∃ text, stdout.text? = some text) → outcome ≠ .absent) := by
  have found : ((splitLines 10 13 stdout).find? fun line => !isBlankLine line).isSome := by
    simpa using printed
  obtain ⟨line, first⟩ := Option.isSome_iff_exists.mp found
  obtain ⟨outcome, understood⟩ := interpretQuery_of_success package
    ⟨some 0, captured stdout, captured stderr⟩ rfl
  have absent_iff : outcome = .absent ↔ line.text? = none := by
    have ok_iff : outcome = .absent ↔ (Except.ok outcome : Except Failure _) = .ok .absent := by
      rw [Except.ok.injEq]
    rw [← writtenLines_captured_eq_nil_iff first, ok_iff, ← understood,
      interpretQuery_eq_absent_iff]
    simp [StepOutput.success]
  have finds_iff : outcome ≠ .absent ↔ ∃ text, line.text? = some text :=
    (not_congr absent_iff).trans Option.ne_none_iff_exists'
  refine ⟨line, _, outcome, first, run_of_exited alive answered, understood, finds_iff, ?_⟩
  rintro ⟨text, isText⟩
  have mem := List.mem_of_find?_eq_some first
  rw [Bytes.text?_eq_some_iff.mp isText, Bytes.splitLines_ofString] at mem
  obtain ⟨part, -, rfl⟩ := List.mem_map.mp mem
  exact finds_iff.mpr ⟨part, Bytes.text?_eq_some_iff.mpr rfl⟩

end ContainerState

namespace Sample

/-- A pinned toolchain. -/
def toolchain : Toolchain := ⟨"1.90.0", none, [], []⟩

/-- An engine whose calls end well and print something. -/
def printing (stdout : Bytes) : Engine Unit where
  call _ _ state := (⟨[], .exited (some 0) stdout []⟩, state)

/-- A dependency tree after a blank line. -/
def tree : Bytes := Bytes.ofString "\nsentry v0.34.0\n"

/-- A dependency tree with a path that is not text. -/
def garbled : Bytes := Bytes.ofString "sentry v0.34.0 (/workspace/" ++ 0xff :: Bytes.ofString ")\n"

end Sample

/-- A package whose tree is printed as text is found. -/
theorem finds_of_tree :
    Sample.inBox.container = some Sample.box ∧
    (∃ line ∈ splitLines 10 13 Sample.tree, isBlankLine line = false) ∧
    ∃ output outcome,
      (ContainerState.run (Sample.printing Sample.tree)
        (Sample.strict.dependencyQuery Sample.toolchain "sentry") Sample.inBox).1.answer =
          .finished output ∧
      interpretQuery "sentry" output = .ok outcome ∧ outcome ≠ .absent := by
  have alive : Sample.inBox.container = some Sample.box := rfl
  have answered : (Sample.inBox.invoke (Sample.printing Sample.tree) Sample.box.command
      (Container.execArgs Sample.box.name Sample.box.session
        (Sample.strict.dependencyQuery Sample.toolchain "sentry"))).1.answer =
      .exited (some 0) Sample.tree [] := by decide +kernel
  have printed : ∃ line ∈ splitLines 10 13 Sample.tree, isBlankLine line = false := by decide
  obtain ⟨-, output, outcome, -, ran, understood, -, finds⟩ :=
    ContainerState.finds_iff_of_query alive answered printed
  exact ⟨alive, printed, output, outcome, ran, understood,
    finds ⟨_, Bytes.text?_eq_some_iff.mpr rfl⟩⟩

/-- A package whose tree is printed with a path that is not text is absent. -/
theorem absent_of_garbled_tree :
    Sample.inBox.container = some Sample.box ∧
    (Sample.inBox.invoke (Sample.printing Sample.garbled) Sample.box.command
      (Container.execArgs Sample.box.name Sample.box.session
        (Sample.strict.dependencyQuery Sample.toolchain "sentry"))).1.answer =
          .exited (some 0) Sample.garbled [] ∧
    (∃ line ∈ splitLines 10 13 Sample.garbled, isBlankLine line = false) ∧
    ∃ output, (ContainerState.run (Sample.printing Sample.garbled)
        (Sample.strict.dependencyQuery Sample.toolchain "sentry") Sample.inBox).1.answer =
          .finished output ∧
      interpretQuery "sentry" output = .ok .absent := by
  have alive : Sample.inBox.container = some Sample.box := rfl
  have answered : (Sample.inBox.invoke (Sample.printing Sample.garbled) Sample.box.command
      (Container.execArgs Sample.box.name Sample.box.session
        (Sample.strict.dependencyQuery Sample.toolchain "sentry"))).1.answer =
      .exited (some 0) Sample.garbled [] := by decide +kernel
  exact ⟨alive, answered, by decide, _, ContainerState.run_of_exited alive answered, by decide⟩

/-! ### Queries that fail -/

namespace StepOutput

variable {output : StepOutput} {name : String}

/-- A step complains that a name matches no package. -/
def SaysUnmatched (output : StepOutput) (name : String) : Prop :=
  contains output.stderr
    ("package ID specification `" ++ name ++ "` " ++ "did not match any packages") = true

instance : Decidable (output.SaysUnmatched name) := inferInstanceAs (Decidable (_ = true))

/-- A complaint about one name holds the words that all complaints have in common. -/
theorem SaysUnmatched.words_occur (unmatched : output.SaysUnmatched name) :
    contains output.stderr "did not match any packages" = true :=
  contains_of_contains_append unmatched

end StepOutput

/-- A query that fails finds its package absent if those words occur anywhere. -/
theorem interpretQuery_eq_absent_iff_of_failed {package : String} {output : StepOutput}
    (failed : output.success = false) :
    interpretQuery package output = .ok .absent ↔
      contains output.stderr "did not match any packages" = true := by
  rw [interpretQuery_eq_absent_iff]
  simp [failed]

/-- A complaint about any name makes every package absent. -/
theorem StepOutput.SaysUnmatched.absent {package name : String} {output : StepOutput}
    (unmatched : output.SaysUnmatched name) (failed : output.success = false) :
    interpretQuery package output = .ok .absent :=
  (interpretQuery_eq_absent_iff_of_failed failed).mpr unmatched.words_occur

/-- A step has failed with the complaint that a name matches no package. -/
def Reply.Misses (reply : Reply Response) (name : String) : Prop :=
  ∃ output, reply.answer = .finished output ∧ output.success = false ∧ output.SaysUnmatched name

/-- A query that misses any name finds its package absent. -/
theorem Reply.Misses.findsAbsent {reply : Reply Response} {name : String}
    (misses : reply.Misses name) (package : String) : reply.FindsAbsent package := by
  obtain ⟨output, finished, failed, unmatched⟩ := misses
  exact ⟨output, finished, unmatched.absent failed⟩

section Verification

variable {σ : Type} {provider : Provider σ} {config : Config} {toolchain : Toolchain}
  {sourceRoot : Path} {world : World σ} {scanner : Scanner} {name : String}

/-- Queries whose replies make every package absent find all their packages absent. -/
theorem findsAbsent_of_replies {constraints : List Constraint} {sandbox : σ}
    (absent : ∀ reply ∈ provider.replies
      (constraints.map fun constraint => config.dependencyQuery toolchain constraint.package)
      sandbox, ∀ package, reply.FindsAbsent package) :
    List.Forall₂ (fun constraint reply => reply.FindsAbsent constraint.package) constraints
      (provider.replies
        (constraints.map fun constraint => config.dependencyQuery toolchain constraint.package)
        sandbox) := by
  induction constraints generalizing sandbox with
  | nil => exact .nil
  | cons constraint rest ih =>
    rw [List.map_cons, Provider.replies] at absent ⊢
    obtain ⟨first, others⟩ := List.forall_mem_cons.mp absent
    exact .cons (first constraint.package) (ih others)

/-- A verification whose queries all miss one name ends with a report that no package is present. -/
theorem verify_of_misses (compiled : Scanner.ofSettings config.verify = .ok scanner)
    (misses : ∀ reply ∈ provider.replies (config.queryPlan toolchain) world.sandbox,
      reply.Misses name) :
    ∃ report, (Pipeline.verify provider config toolchain sourceRoot world).1 = .value report ∧
      ∀ check ∈ report.dependencies, check.isPresent = false := by
  have absent := findsAbsent_of_replies fun reply given => (misses reply given).findsAbsent
  obtain ⟨checks, answered⟩ := Answered.of_absent absent
  exact ⟨⟨config.build.package, checks, _⟩,
    Pipeline.verify_value_iff.mpr ⟨scanner, compiled, rfl, answered, rfl⟩,
    answered.absent_iff.mpr absent⟩

/-- A query that fails finds its package absent if the words of the complaint occur in what it
leaves behind, whichever name the complaint is about. So a verification whose queries all complain
that the built package matches nothing reports no package, and is passed if the scan finds no token
outside of the allowed paths. -/
theorem absent_iff_of_failed_query (provider : Provider σ) (config : Config)
    (toolchain : Toolchain) (sourceRoot : Path) (world : World σ) :
    (∀ package output, output.success = false →
      (interpretQuery package output = .ok .absent ↔
        contains output.stderr "did not match any packages" = true)) ∧
    (∀ package output name, output.success = false → output.SaysUnmatched name →
      interpretQuery package output = .ok .absent) ∧
    ∀ scanner, Scanner.ofSettings config.verify = .ok scanner →
      (∀ reply ∈ provider.replies (config.queryPlan toolchain) world.sandbox,
        reply.Misses config.build.package) →
      ∃ report, (Pipeline.verify provider config toolchain sourceRoot world).1 = .value report ∧
        (∀ check ∈ report.dependencies, check.isPresent = false) ∧
        (report.passed = true ↔ ∀ found ∈ report.tokens, found.allowed = true) := by
  refine ⟨fun package output => interpretQuery_eq_absent_iff_of_failed, ?_, ?_⟩
  · intro package output name failed unmatched
    exact unmatched.absent failed
  · intro scanner compiled misses
    obtain ⟨report, ends, absent⟩ := verify_of_misses compiled misses
    refine ⟨report, ends, absent, ?_⟩
    rw [Report.passed_iff]
    exact and_iff_right absent

end Verification

namespace Sample

/-- What a query leaves behind if the package that was built does not exist. -/
def memberless : StepOutput :=
  ⟨some 101, "", "error: package ID specification `codex-cli` did not match any packages\n"⟩

/-- A provider whose queries complain that the package that was built does not exist. -/
def stale : Provider Unit := .scripted fun _ => ⟨[], .finished memberless⟩

end Sample

/-- A verification of a package that does not exist is passed. -/
theorem verify_of_missing_member :
    Scanner.ofSettings Sample.strict.verify = .ok ⟨[], [], Sample.strict.verify.skipDirs⟩ ∧
    (∀ reply ∈ Sample.stale.replies (Sample.strict.queryPlan Sample.toolchain) (),
      reply.Misses "codex-cli") ∧
    ∃ report, (Pipeline.verify Sample.stale Sample.strict Sample.toolchain ⟨"/source"⟩
        (World.fresh Sample.strict .enforce Sample.files ())).1 = .value report ∧
      report.passed = true := by
  have compiled : Scanner.ofSettings Sample.strict.verify =
      .ok ⟨[], [], Sample.strict.verify.skipDirs⟩ := rfl
  have misses : ∀ reply ∈ Sample.stale.replies (Sample.strict.queryPlan Sample.toolchain) (),
      reply.Misses "codex-cli" := by
    intro reply given
    rw [Sample.stale, Provider.replies_scripted] at given
    obtain ⟨step, -, rfl⟩ := List.mem_map.mp given
    exact ⟨Sample.memberless, rfl, rfl, by decide⟩
  obtain ⟨-, -, verified⟩ := absent_iff_of_failed_query Sample.stale Sample.strict Sample.toolchain
    ⟨"/source"⟩ (World.fresh Sample.strict .enforce Sample.files ())
  obtain ⟨report, ends, -, passed_iff⟩ := verified _ compiled misses
  obtain ⟨scanner, compiled', -, -, tokens⟩ := Pipeline.verify_value_iff.mp ends
  obtain rfl := Except.ok.inj (compiled.symm.trans compiled')
  refine ⟨compiled, misses, report, ends, passed_iff.mpr fun found held => ?_⟩
  rw [tokens, TokenScanner.scan_eq_nil rfl] at held
  cases held

/-- A package that does not exist makes another package absent. -/
theorem absent_of_missing_member :
    Sample.memberless.success = false ∧
    Sample.memberless.SaysUnmatched "codex-cli" ∧
    ¬ Sample.memberless.SaysUnmatched "native-tls" ∧
    interpretQuery "native-tls" Sample.memberless = .ok .absent := by
  decide

end SealedBuild
