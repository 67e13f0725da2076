import SealedBuild.Constraint
import SealedBuild.Proofs.Regex.Words

/-!
# Lines that the default tokens catch

Each default token is the stem of a name with some suffixes, at the start of a word, in front of one
of three endings: an equals sign, a quote, or the two colons of a path. Which lines are caught can
therefore be read off the names. A package that is used in one of the three ways is caught if the
way in which its name is spelled there ends in a name that a token knows.

The tokens are not kept in step with the constraints. No token knows `hyper-tls`, and in a path,
where hyphens are spelled as underscores, the names of `openssl-sys` and `tokio-native-tls` get
lost: the one because its suffix is known with a hyphen only, the other because no word starts
behind an underscore.

Main statement: `coverage_of_default_tokens`.
-/

namespace SealedBuild

open Regex Text Unicode

/-! ### Uses of a package -/

/-- The ways in which a line uses a package. -/
inductive Use
  | manifestKey
  | featureEnd
  | cratePath
  deriving DecidableEq

namespace Use

/-- The name of a package, as it is spelled in a use of it. -/
def spelling : Use → String → List Char
  | cratePath, package => package.toList.map fun c => if c = '-' then '_' else c
  | _, package => package.toList

/-- What tells a use behind the name. -/
def Ends : Use → List Char → Prop
  | manifestKey, ending => ∃ blanks, (∀ c ∈ blanks, isBlank c = true) ∧ ending = blanks ++ ['=']
  | featureEnd, ending => ending = ['"']
  | cratePath, ending => ending = [':', ':']

/-- The shortest ending. -/
def mark : Use → List Char
  | manifestKey => ['=']
  | featureEnd => ['"']
  | cratePath => [':', ':']

theorem ends_mark (use : Use) : use.Ends use.mark := by
  cases use with
  | manifestKey => exact ⟨[], by simp, rfl⟩
  | featureEnd => rfl
  | cratePath => rfl

end Use

/-- A line uses a package, at its start or behind a character that belongs to no word. -/
def Uses (line : String) (use : Use) (package : String) : Prop :=
  ∃ before ending after, line.toList = before ++ (use.spelling package ++ ending) ++ after ∧
    inWord false before.getLast? = false ∧ use.Ends ending

/-- Whether one of the default tokens matches a line. -/
def isCaught (line : String) : Bool :=
  defaultTokens.any fun token => (Regex.compile token.pattern).toOption.any (·.isMatch line)

namespace Regex

/-- The expression of the endings. -/
def Node.ending : Node :=
  .choice (.sequence (.counted (.set .blank) 0 none) (.set (.single '=')))
    (.choice (.sequence (.set (.single ':')) (.set (.single ':'))) (.set (.single '"')))

theorem describes_ending :
    Node.ending.Describes = Anywhere fun word => ∃ use : Use, use.Ends word := by
  have key : (Node.sequence (.counted (.set .blank) 0 none) (.set (.single '='))).Describes =
      Anywhere Use.manifestKey.Ends := by
    rw [describes_sequence, describes_many, describes_single, then_anywhere]
    refine anywhere_congr fun word => ⟨?_, ?_⟩
    · rintro ⟨blanks, _, rfl, ⟨-, blank⟩, rfl⟩
      exact ⟨blanks, blank, rfl⟩
    · rintro ⟨blanks, blank, rfl⟩
      exact ⟨blanks, _, rfl, ⟨Nat.zero_le _, blank⟩, rfl⟩
  have path : (Node.sequence (.set (.single ':')) (.set (.single ':'))).Describes =
      Anywhere Use.cratePath.Ends := by
    rw [describes_sequence, describes_single, then_anywhere]
    exact anywhere_congr fun word => by simp [Use.Ends]
  rw [Node.ending, describes_choice key (describes_choice path (describes_single '"'))]
  refine anywhere_congr fun word => ⟨?_, ?_⟩
  · rintro (ends | ends | ends)
    · exact ⟨.manifestKey, ends⟩
    · exact ⟨.cratePath, ends⟩
    · exact ⟨.featureEnd, ends⟩
  · rintro ⟨use, ends⟩
    cases use with
    | manifestKey => exact .inl ends
    | featureEnd => exact .inr (.inr ends)
    | cratePath => exact .inr (.inl ends)

end Regex

/-! ### The names that the tokens know -/

/-- The names with one stem. The suffixes of the stem are expressed in front of another
expression. -/
structure Family where
  stem : String
  IsSuffix : List Char → Prop
  suffix : Node → Node
  starts : inWord false stem.toList.head? = true
  describes : ∀ rest, (suffix rest).Describes = Then (Anywhere IsSuffix) rest.Describes

namespace Family

variable {family : Family} {before word after : List Char}

/-- A stem with one of its suffixes. -/
def IsName (family : Family) (name : List Char) : Prop :=
  ∃ suffix, name = family.stem.toList ++ suffix ∧ family.IsSuffix suffix

/-- The expression of the names of a family, from the start of a word to an ending. -/
def node (family : Family) : Node :=
  .sequence (.look (.wordBoundary false)) (.spelled family.stem.toList (family.suffix .ending))

/-- A boundary in front of a name is the start of a word. -/
theorem holds_boundary_iff (family : Family) {name rest : List Char} (isName : family.IsName name) :
    (Look.wordBoundary false).holds before.getLast? (name ++ rest).head? = true ↔
      inWord false before.getLast? = false := by
  obtain ⟨suffix, rfl, -⟩ := isName
  have starts := family.starts
  rw [List.append_assoc]
  cases stem : family.stem.toList with
  | nil =>
      rw [stem] at starts
      cases starts
  | cons c more =>
      rw [stem, List.head?_cons] at starts
      rw [List.cons_append, List.head?_cons, Look.holds, starts]
      cases inWord false before.getLast? <;> decide

theorem describes_node_iff : family.node.Describes before word after ↔
    inWord false before.getLast? = false ∧
      ∃ name ending, word = name ++ ending ∧ family.IsName name ∧ ∃ use : Use, use.Ends ending := by
  have parts : family.node.Describes = Then (Node.look (.wordBoundary false)).Describes
      (Then (Anywhere family.IsName) (Anywhere fun word => ∃ use : Use, use.Ends word)) := by
    have name : Then (Anywhere (· = family.stem.toList)) (Anywhere family.IsSuffix) =
        Anywhere family.IsName := by
      rw [then_anywhere]
      refine anywhere_congr fun word => ⟨?_, ?_⟩
      · rintro ⟨_, suffix, rfl, rfl, isSuffix⟩
        exact ⟨suffix, rfl, isSuffix⟩
      · rintro ⟨suffix, rfl, isSuffix⟩
        exact ⟨_, suffix, rfl, rfl, isSuffix⟩
    rw [node, describes_sequence, describes_spelled, family.describes, describes_ending,
      ← then_assoc (Anywhere _), name]
  rw [parts]
  constructor
  · rintro ⟨_, _, rfl, ⟨rfl, boundary⟩, name, ending, rfl, isName, ends⟩
    rw [List.append_assoc] at boundary
    exact ⟨(family.holds_boundary_iff isName).mp boundary, name, ending, rfl, isName, ends⟩
  · rintro ⟨apart, name, ending, rfl, isName, ends⟩
    have boundary : (Look.wordBoundary false).holds before.getLast?
        (name ++ (ending ++ after)).head? = true := (family.holds_boundary_iff isName).mpr apart
    rw [← List.append_assoc] at boundary
    exact ⟨[], name ++ ending, rfl, ⟨rfl, boundary⟩, name, ending, rfl, isName, ends⟩

/-- The names of the telemetry upload. -/
def sentry : Family where
  stem := "sentry"
  IsSuffix suffix := suffix = [] ∨
    ∃ letters, suffix = '-' :: letters ∧ letters ≠ [] ∧ ∀ c ∈ letters, 'a' ≤ c ∧ c ≤ 'z'
  suffix rest := .sequence (.counted (.sequence (.set (.single '-'))
    (.counted (.set (.between 'a' 'z')) 1 none)) 0 (some 1)) rest
  starts := by decide
  describes rest := by
    have part : (Node.sequence (.set (.single '-'))
        (.counted (.set (.between 'a' 'z')) 1 none)).Describes = Anywhere fun word =>
          ∃ letters, word = '-' :: letters ∧ letters ≠ [] ∧ ∀ c ∈ letters, 'a' ≤ c ∧ c ≤ 'z' := by
      rw [describes_sequence, describes_single, describes_many, then_anywhere]
      refine anywhere_congr fun word => ?_
      simp only [CharSet.contains, decide_eq_true_iff, ← List.length_pos_iff]
      constructor
      · rintro ⟨_, letters, rfl, rfl, some, small⟩
        exact ⟨letters, rfl, some, small⟩
      · rintro ⟨letters, rfl, some, small⟩
        exact ⟨['-'], letters, rfl, rfl, some, small⟩
    rw [describes_sequence, describes_optional part]

/-- The names of the native TLS backend. -/
def nativeTls : Family where
  stem := "native"
  IsSuffix suffix := suffix = "-tls".toList ∨ suffix = "_tls".toList
  suffix rest := .sequence (.set (.union (.single '-') (.single '_')))
    (.spelled "tls".toList rest)
  starts := by decide
  describes rest := by
    rw [describes_sequence, describes_spelled, ← then_assoc, describes_set, then_anywhere]
    refine congrArg (Then · _) (anywhere_congr fun word => ?_)
    simp only [CharSet.contains, Bool.or_eq_true, contains_single_iff]
    constructor
    · rintro ⟨_, _, rfl, ⟨c, rfl, rfl | rfl⟩, rfl⟩
      · exact .inl rfl
      · exact .inr rfl
    · rintro (rfl | rfl)
      · exact ⟨['-'], _, rfl, ⟨_, rfl, .inl rfl⟩, rfl⟩
      · exact ⟨['_'], _, rfl, ⟨_, rfl, .inr rfl⟩, rfl⟩

/-- The names of the OpenSSL bindings. -/
def openssl : Family where
  stem := "openssl"
  IsSuffix suffix := suffix = [] ∨ suffix = "-sys".toList
  suffix rest := .sequence (.counted (.spelled "-sy".toList (.set (.single 's'))) 0 (some 1)) rest
  starts := by decide
  describes rest := by
    have part : (Node.spelled "-sy".toList (.set (.single 's'))).Describes =
        Anywhere (· = "-sys".toList) := by
      rw [describes_spelled, describes_single, then_anywhere]
      refine anywhere_congr fun word => ⟨?_, fun same => ⟨_, _, same, rfl, rfl⟩⟩
      rintro ⟨_, _, rfl, rfl, rfl⟩
      rfl
    rw [describes_sequence, describes_optional part]

/-- The families of the default tokens. -/
def defaults : List Family := [sentry, nativeTls, openssl]

/-- The default tokens are compiled to the expressions of their names. -/
theorem isCaught_eq (line : String) :
    isCaught line = defaults.any fun family => Regex.isMatch ⟨family.node⟩ line := rfl

end Family

/-! ### Coverage -/

/-- A name that one of the default tokens knows. -/
def IsKnown (name : List Char) : Prop := ∃ family ∈ Family.defaults, family.IsName name

variable {line package : String} {use : Use} {front name : List Char}

/-- A line is caught by a known name with an ending, at the start of a word. -/
theorem isCaught_iff : isCaught line = true ↔
    ∃ before name ending after, line.toList = before ++ (name ++ ending) ++ after ∧
      inWord false before.getLast? = false ∧ IsKnown name ∧ ∃ use : Use, use.Ends ending := by
  rw [Family.isCaught_eq, List.any_eq_true]
  simp only [isMatch_iff, Family.describes_node_iff]
  constructor
  · rintro ⟨family, default, before, _, after, split, apart, name, ending, rfl, isName, ends⟩
    exact ⟨before, name, ending, after, split, apart, ⟨family, default, isName⟩, ends⟩
  · rintro ⟨before, name, ending, after, split, apart, ⟨family, default, isName⟩, ends⟩
    exact ⟨family, default, before, _, after, split, apart, name, ending, rfl, isName, ends⟩

/-- A use is caught if its spelling ends in a known name that starts a word there. -/
theorem isCaught_of_uses (spelled : use.spelling package = front ++ name)
    (apart : inWord false front.getLast? = false) (known : IsKnown name)
    (uses : Uses line use package) : isCaught line = true := by
  obtain ⟨before, ending, after, split, start, ends⟩ := uses
  refine isCaught_iff.mpr ⟨before ++ front, name, ending, after, ?_, ?_, known, use, ends⟩
  · rw [split, spelled]
    simp only [List.append_assoc]
  · rw [List.getLast?_append]
    cases last : front.getLast? with
    | none => exact start
    | some c => rwa [last] at apart

/-- The line that is nothing but a use of a package. -/
def bareUse (use : Use) (package : String) : String :=
  String.ofList (use.spelling package ++ use.mark)

theorem uses_bareUse (use : Use) (package : String) :
    Uses (bareUse use package) use package := by
  refine ⟨[], use.mark, [], ?_, rfl, use.ends_mark⟩
  rw [bareUse, String.toList_ofList, List.append_nil, List.nil_append]

/-- The uses of forbidden packages that the default tokens miss. -/
def gaps : List (Use × String) := [(.cratePath, "openssl-sys"), (.cratePath, "tokio-native-tls"),
  (.manifestKey, "hyper-tls"), (.featureEnd, "hyper-tls"), (.cratePath, "hyper-tls")]

theorem uncaught_of_mem_gaps : ∀ gap ∈ gaps, isCaught (bareUse gap.1 gap.2) = false := by decide

/-- In every other use of a forbidden package its spelling ends in a known name. -/
theorem exists_known_of_not_mem_gaps : ∀ constraint ∈ defaultConstraints, ∀ use : Use,
    (use, constraint.package) ∉ gaps → ∃ front name,
      use.spelling constraint.package = front ++ name ∧ inWord false front.getLast? = false ∧
        IsKnown name := by
  have nativeTls : IsKnown "native-tls".toList :=
    ⟨.nativeTls, by simp [Family.defaults], _, rfl, .inl rfl⟩
  have nativeTlsPath : IsKnown "native_tls".toList :=
    ⟨.nativeTls, by simp [Family.defaults], _, rfl, .inr rfl⟩
  have opensslSys : IsKnown "openssl-sys".toList :=
    ⟨.openssl, by simp [Family.defaults], _, rfl, .inr rfl⟩
  have sentry : IsKnown "sentry".toList :=
    ⟨.sentry, by simp [Family.defaults], [], rfl, .inl rfl⟩
  -- a spelling is a known name as a whole, or what stands in front of the name ends in a hyphen
  intro constraint listed use outside
  simp only [defaultConstraints, List.mem_cons, List.not_mem_nil, or_false] at listed
  rcases listed with rfl | rfl | rfl | rfl | rfl
  case inl =>
    cases use with
    | cratePath => exact ⟨[], _, rfl, rfl, nativeTlsPath⟩
    | _ => exact ⟨[], _, rfl, rfl, nativeTls⟩
  case inr.inl =>
    cases use with
    | cratePath => exact absurd (by decide) outside
    | _ => exact ⟨[], _, rfl, rfl, opensslSys⟩
  case inr.inr.inl =>
    cases use <;> exact ⟨[], _, rfl, rfl, sentry⟩
  case inr.inr.inr.inl =>
    cases use <;> exact absurd (by decide) outside
  case inr.inr.inr.inr =>
    cases use with
    | cratePath => exact absurd (by decide) outside
    | _ => exact ⟨"tokio-".toList, _, rfl, by decide, nativeTls⟩

/-- What the default tokens catch. A line is caught if and only if it holds, at the start of a word,
a name that a token knows, with one of the endings. The uses of a forbidden package are caught in
every line unless they are among the gaps. -/
theorem coverage_of_default_tokens {constraint : Constraint}
    (listed : constraint ∈ defaultConstraints) (use : Use) :
    (∀ line, isCaught line = true ↔
      ∃ before name ending after, line.toList = before ++ (name ++ ending) ++ after ∧
        inWord false before.getLast? = false ∧ IsKnown name ∧ ∃ use : Use, use.Ends ending) ∧
    ((∀ line, Uses line use constraint.package → isCaught line = true) ↔
      (use, constraint.package) ∉ gaps) := by
  refine ⟨fun line => isCaught_iff, ?_, fun outside line uses => ?_⟩
  · intro covered isGap
    have caught := covered _ (uses_bareUse use constraint.package)
    rw [uncaught_of_mem_gaps _ isGap] at caught
    cases caught
  · obtain ⟨front, name, spelled, apart, known⟩ :=
      exists_known_of_not_mem_gaps constraint listed use outside
    exact isCaught_of_uses spelled apart known uses

/-- A manifest key of the OpenSSL bindings is caught in every line. -/
theorem openssl_key_caught :
    Constraint.forbid "openssl-sys" "native OpenSSL linkage" ∈ defaultConstraints ∧
      ∀ line, Uses line .manifestKey "openssl-sys" → isCaught line = true := by
  have listed : Constraint.forbid "openssl-sys" "native OpenSSL linkage" ∈ defaultConstraints := by
    decide
  exact ⟨listed, (coverage_of_default_tokens listed .manifestKey).2.mpr (by decide)⟩

/-- A path into the OpenSSL bindings is not caught. -/
theorem openssl_path_uncaught :
    Constraint.forbid "openssl-sys" "native OpenSSL linkage" ∈ defaultConstraints ∧
      Uses "use openssl_sys::SSL;" .cratePath "openssl-sys" ∧
      isCaught "use openssl_sys::SSL;" = false :=
  ⟨by decide, ⟨"use ".toList, "::".toList, "SSL;".toList, by decide, by decide, rfl⟩, by decide⟩

end SealedBuild
