/-
**Ready-made sets of ignore patterns.**

One set for each of some ecosystems, known by a short tag.  The order of the table is the order in
which the tags are shown.
-/

set_option relaxedAutoImplicit false
set_option autoImplicit false

namespace Forage.Ecosystem

/-- Build results of Go. -/
def goPatterns : List String := [
    "*.exe", "*.exe~", "*.dll", "*.so", "*.dylib", "*.test", "*.out", "coverage.*",
    "*.coverprofile", "profile.cov", "vendor/", "go.work", "go.work.sum"
  ]

/-- What package managers of Node leave behind. -/
def nodePatterns : List String := [
    "node_modules/", "npm-debug.log*", "yarn-debug.log*", "yarn-error.log*", ".npm",
    ".eslintcache", ".nyc_output", "coverage/", ".coverage", "*.tgz", "*.tar.gz", ".cache/"
  ]

/-- Build results and environments of Python. -/
def pythonPatterns : List String := [
    "__pycache__/", "*.py[cod]", "*$py.class", "*.so", ".Python", "build/", "develop-eggs/",
    "dist/", "downloads/", "eggs/", ".eggs/", "lib/", "lib64/", "parts/", "sdist/", "var/",
    "wheels/", "pip-wheel-metadata/", "share/python-wheels/", "*.egg-info/", ".installed.cfg",
    "*.egg", "MANIFEST", ".env", ".venv", "env/", "venv/", "ENV/", "env.bak/", "venv.bak/"
  ]

/-- Build results of Java. -/
def javaPatterns : List String := [
    "*.class", "*.log", "*.ctxt", ".mtj.tmp/", "*.jar", "*.war", "*.nar", "*.ear", "*.zip",
    "*.tar.gz", "*.rar", "hs_err_pid*", "target/", ".mvn/", "mvnw", "mvnw.cmd", ".gradle/",
    "build/", "gradle-app.setting", "!gradle-wrapper.jar", ".gradletasknamecache"
  ]

/-- Build results of Rust. -/
def rustPatterns : List String := [
    "target/", "**/*.rs.bk", "*.pdb", "Cargo.lock"
  ]

/-- What editors and desktops leave behind. -/
def commonPatterns : List String := [
    ".DS_Store", "Thumbs.db", "*.tmp", "*.temp", "*.log", ".idea/", ".vscode/", "*.swp", "*.swo",
    "*~", ".env", ".env.local", ".env.*.local"
  ]

/-- The sets by tag. -/
def table : List (String × List String) :=
  [("go", goPatterns), ("node", nodePatterns), ("python", pythonPatterns), ("java", javaPatterns),
    ("rust", rustPatterns), ("common", commonPatterns)]

def tags : List String := table.map Prod.fst

def patterns? (tag : String) : Option (List String) := table.lookup tag

end Forage.Ecosystem
