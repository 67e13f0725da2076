
/-!
# Constraints

What must not get into a build: packages that may not appear in the dependency graph, and tokens
that may not appear in the source tree outside of documentation. The built-in set covers native TLS
bindings and the telemetry upload.
-/

namespace SealedBuild

/-- A package whose presence in the dependency graph is checked. -/
structure Constraint where
  package : String
  disallowed : Bool
  rationale : String
  deriving DecidableEq

/-- A pattern of source text that tells a forbidden dependency. -/
structure Token where
  pattern : String
  rationale : String
  deriving DecidableEq

/-- A constraint that forbids a package. -/
def Constraint.forbid (package rationale : String) : Constraint :=
  { package, disallowed := true, rationale }

/-- The packages that are forbidden unless a configuration says otherwise. -/
def defaultConstraints : List Constraint := [
  .forbid "native-tls" "legacy TLS binding that links OpenSSL",
  .forbid "openssl-sys" "native OpenSSL linkage",
  .forbid "sentry" "telemetry SDK that uploads logs off-box",
  .forbid "hyper-tls" "alternate TLS backend built on native-tls",
  .forbid "tokio-native-tls" "alternate TLS backend built on native-tls"
]

/-- The tokens that are searched for unless a configuration says otherwise: a manifest key, the end
of a feature string, or a path into the package. -/
def defaultTokens : List Token := [
  { pattern := "\\bsentry(?:-[a-z]+)?(?:\\s*=|::|\")", rationale := "telemetry upload SDK" },
  { pattern := "\\bnative[-_]tls(?:\\s*=|::|\")", rationale := "native TLS backend" },
  { pattern := "\\bopenssl(?:-sys)?(?:\\s*=|::|\")", rationale := "OpenSSL linkage" }
]

/-- The paths on which tokens are expected unless a configuration says otherwise: documentation and
history. -/
def defaultAllowedPaths : List String :=
  ["*.md", "**/*.md", "docs/**", "**/docs/**", "CHANGELOG*", "**/CHANGELOG*"]

end SealedBuild
