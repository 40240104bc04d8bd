/-!
# Configuration files to start from

A new configuration file explains every setting with its default and sets nothing:
the lines with settings and headers are commented out, so that taking the comment
sign away is all that a user has to do.
-/

namespace SearchQuery.Template

/-- The lines for a file in a project. -/
def projectLines : List String :=
  ["# sift project configuration",
    "#",
    "# Settings here apply to every directory below this file. Files closer to the",
    "# working directory take precedence over this one, and this one over",
    "# ~/.sift.toml.",
    "",
    "# Stop looking for parent and global configuration files here.",
    "root = false",
    "",
    "[query]",
    "# Treat ' as a quote character when repairing unbalanced input.",
    "balance_single_quotes = false",
    "",
    "[output]",
    "# Default rendering for `sift parse` and `sift words`: \"tree\" or \"json\".",
    "format = \"tree\""]

/-- The lines for the file in the home directory. -/
def globalLines : List String :=
  ["# sift global configuration",
    "#",
    "# Lowest-precedence settings, applied when no project .sift.toml overrides",
    "# them.",
    "",
    "[query]",
    "# Treat ' as a quote character when repairing unbalanced input.",
    "balance_single_quotes = false",
    "",
    "[output]",
    "# Default rendering for `sift parse` and `sift words`: \"tree\" or \"json\".",
    "format = \"tree\"",
    "",
    "# Style terminal output. --no-color and NO_COLOR also disable it.",
    "color = true"]

/-- A line with a comment sign, unless it is empty or has one. -/
def commentOut (line : String) : String :=
  if line = "" || line.toList.head? = some '#' then line else "# " ++ line

/-- The text of commented lines. -/
def ofLines (lines : List String) : String :=
  String.join (lines.map fun line => commentOut line ++ "\n")

/-- The text of a new file in a project. -/
def project : String := ofLines projectLines

/-- The text of a new file in the home directory. -/
def global : String := ofLines globalLines

end SearchQuery.Template
