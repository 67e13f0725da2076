import SealedBuild.Config.Problem
import SealedBuild.FileSystem.Listing
import SealedBuild.Report
import SealedBuild.Text.Lines
import SealedBuild.Text.Slice

/-!
# Scanning for tokens

A scan reads every text file of a tree, line by line, and reports each line that a token's pattern
matches. Files that are not text are passed over, and so is what cannot be read: files and
directories that the system keeps back, and files whose path is too long to be opened. A match on a
path that one of the allowed patterns describes is reported too, but it is no violation.
-/

namespace SealedBuild

open Text

namespace Scanner

/-- The number of characters after which an excerpt is cut off. -/
def maxExcerpt : Nat := 160

/-- A line without the blanks at its ends. If it is long, it is cut at the offset of the first
character that is too many; there would be no excerpt if that offset were not a boundary. -/
def excerpt? (line : String) : Option String :=
  let text := trim line.toList
  match (charIndices text)[maxExcerpt]? with
  | some (cut, _) => (before? text cut).map fun part => String.ofList part ++ "..."
  | none => some (String.ofList text)

/-- Every line has an excerpt, since the offset of a character is always a boundary. -/
theorem isSome_excerpt? (line : String) : (excerpt? line).isSome = true := by
  unfold excerpt?
  dsimp only
  split
  next cut c found => rw [before?_of_charIndices found]; rfl
  next none => rfl

/-- The excerpt of a line. -/
def excerpt (line : String) : String := (excerpt? line).get (isSome_excerpt? line)

end Scanner

/-- The patterns of a scan, compiled in their languages. -/
structure TokenScanner (languages : Languages) where
  /-- The tokens, each with its text. -/
  tokens : List (languages.lines.Pattern × String)
  allowed : List languages.paths.Pattern
  skipDirs : List String

namespace TokenScanner

variable {languages : Languages}

section Compilation

variable (languages)

/-- Compiles a token. -/
def compileToken (token : Token) : Except Failure (languages.lines.Pattern × String) :=
  match languages.lines.compile token.pattern with
  | .ok pattern => .ok (pattern, token.pattern)
  | .error error =>
    .error (.config (Problem.invalidToken token.pattern (languages.lines.message error)).message)

/-- Compiles a pattern of allowed paths. -/
def compileAllowed (pattern : String) : Except Failure languages.paths.Pattern :=
  match languages.paths.compile pattern with
  | .ok compiled => .ok compiled
  | .error error =>
    .error (.config (Problem.invalidAllowedPath pattern (languages.paths.message error)).message)

/-- Compiles the patterns of the settings; the first one that is refused is reported. -/
def ofSettings (settings : VerifySettings) : Except Failure (TokenScanner languages) := do
  let tokens ← settings.tokens.mapM (compileToken languages)
  let allowed ← settings.allowedPaths.mapM (compileAllowed languages)
  return ⟨tokens, allowed, settings.skipDirs⟩

end Compilation

/-- Whether tokens are allowed on a path in text. -/
def isAllowed (scanner : TokenScanner languages) (path : Path) : Bool :=
  scanner.allowed.any fun pattern => languages.paths.isMatch pattern path.text

/-- Whether tokens are allowed on a path. No pattern describes a path that is not text. -/
def allows (scanner : TokenScanner languages) (path : OsPath) : Bool :=
  path.text?.any fun text => scanner.isAllowed ⟨text⟩

/-- The names of directories to skip, as the system stores them. -/
def skipNames (scanner : TokenScanner languages) : List RawName :=
  scanner.skipDirs.map Bytes.ofString

/-- The matches on one line. -/
def matchesOnLine (scanner : TokenScanner languages) (path : OsPath) (number : Nat)
    (line : String) : List TokenMatch :=
  (scanner.tokens.filter fun token => languages.lines.isMatch token.1 line).map fun token =>
    { path, line := number, token := token.2, excerpt := Scanner.excerpt line
      allowed := scanner.allows path }

/-- The matches in a text, whose first line has the given number. -/
def matchesInLines (scanner : TokenScanner languages) (path : OsPath) :
    Nat → List String → List TokenMatch
  | _, [] => []
  | number, line :: rest =>
    scanner.matchesOnLine path number line ++ matchesInLines scanner path (number + 1) rest

/-- The matches in a file. -/
def matchesInFile (scanner : TokenScanner languages) (names : RawPlace) (content : Bytes) :
    List TokenMatch :=
  match content.text? with
  | some text => scanner.matchesInLines (.ofNames names) 1 (linesOf text)
  | none => []

/-- Whether the file that names lead to from a root can be opened by its path. -/
def canOpen (root : Path) (names : RawPlace) : Bool :=
  FileSystem.takes ((OsPath.ofPath root).join (.ofNames names))

/-- The files that a scan of a path reads. A path that leads to a regular file without a link at its
end gives that file itself. -/
def scannedFiles (scanner : TokenScanner languages) (files : FileSystem) (root : Path) :
    List (RawPlace × Bytes) :=
  match FileSystem.malformed? root with
  | some _ => []
  | none =>
    match FileSystem.walk files false FileSystem.maxLinks (files.startOf root) root.steps with
    | .error _ => []
    | .ok place =>
      match files.lookup place with
      | some (.file mode content) =>
        if files.access.mayRead place.raw mode then [([], content)] else []
      | _ =>
        match files.resolve root with
        | .ok place =>
          if files.isDirectoryAt place then
            (files.listing scanner.skipNames place.raw).filter fun file => canOpen root file.1
          else []
        | .error _ => []

/-- The matches in the tree below a path. -/
def scan (scanner : TokenScanner languages) (files : FileSystem) (root : Path) :
    List TokenMatch :=
  (scanner.scannedFiles files root).flatMap fun file => scanner.matchesInFile file.1 file.2

/-- A scan for no tokens finds nothing. -/
theorem scan_eq_nil {scanner : TokenScanner languages} (noTokens : scanner.tokens = [])
    (files : FileSystem) (root : Path) : scanner.scan files root = [] := by
  have inLines (path : OsPath) (number : Nat) (lines : List String) :
      scanner.matchesInLines path number lines = [] := by
    induction lines generalizing number with
    | nil => rfl
    | cons line rest ih => simp [matchesInLines, matchesOnLine, noTokens, ih]
  simp only [scan, List.flatMap_eq_nil_iff]
  intro file _
  unfold matchesInFile
  split
  · exact inLines _ _ _
  · rfl

end TokenScanner

/-- The scanner of the program. -/
abbrev Scanner := TokenScanner .standard

/-- Compiles the patterns of the settings for the program. -/
abbrev Scanner.ofSettings (settings : VerifySettings) : Except Failure Scanner :=
  TokenScanner.ofSettings .standard settings

end SealedBuild
