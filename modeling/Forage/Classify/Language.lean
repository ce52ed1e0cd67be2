/-
**Languages.**

A language is known by its file extensions, by names or globs of file names, by MIME types and by
the interpreters that its scripts name.  Two languages are the same if their lowercased names are.

* `Language`, `Language.key` — a language and its lowercased name;
* `Language.builtin` — the languages known from the start, in order.
-/

import Forage.Text.Lowercase

set_option relaxedAutoImplicit false
set_option autoImplicit false

namespace Forage

/-- A language and how it is recognised. -/
structure Language where
  name : String
  /-- Extensions with their dot. -/
  extensions : List String
  /-- Names of files, or globs of names. -/
  patterns : List String
  mimeTypes : List String
  /-- Texts that the interpreter directive of a script may contain. -/
  shebangs : List String
deriving DecidableEq, Repr

namespace Language

/-- What a language is registered under. -/
def key (l : Language) : String := Text.lowercase l.name

def builtin : List Language := [
  { name := "Go"
    extensions := [".go", ".mod", ".sum"]
    patterns := ["go.mod", "go.sum", "go.work", "go.work.sum"]
    mimeTypes := ["text/x-go"]
    shebangs := ["go run"] },
  { name := "JavaScript"
    extensions := [".js", ".mjs", ".jsx", ".es6", ".es"]
    patterns := [".eslintrc.js", ".babelrc.js"]
    mimeTypes := ["application/javascript", "text/javascript"]
    shebangs := ["node", "nodejs"] },
  { name := "TypeScript"
    extensions := [".ts", ".tsx", ".d.ts"]
    patterns := ["tsconfig.json", ".tslintrc"]
    mimeTypes := ["application/typescript"]
    shebangs := [] },
  { name := "Python"
    extensions := [".py", ".pyw", ".pyi", ".pyx", ".pyd"]
    patterns := ["Pipfile", "pyproject.toml", "setup.py", "requirements.txt"]
    mimeTypes := ["text/x-python", "application/x-python"]
    shebangs := ["python", "python2", "python3"] },
  { name := "Java"
    extensions := [".java", ".class", ".jar", ".gradle"]
    patterns := ["build.gradle", "pom.xml", "gradle.properties"]
    mimeTypes := ["text/x-java-source"]
    shebangs := [] },
  { name := "C"
    extensions := [".c", ".h"]
    patterns := []
    mimeTypes := ["text/x-c", "text/x-csrc"]
    shebangs := [] },
  { name := "C++"
    extensions := [".cpp", ".cxx", ".cc", ".c++", ".hpp", ".hxx", ".hh", ".h++"]
    patterns := []
    mimeTypes := ["text/x-c++", "text/x-c++src"]
    shebangs := [] },
  { name := "Rust"
    extensions := [".rs", ".rlib"]
    patterns := ["Cargo.toml", "Cargo.lock"]
    mimeTypes := ["text/rust"]
    shebangs := [] },
  { name := "C#"
    extensions := [".cs", ".csx", ".csproj", ".sln"]
    patterns := []
    mimeTypes := ["text/x-csharp"]
    shebangs := [] },
  { name := "Ruby"
    extensions := [".rb", ".rbw", ".rake", ".gemspec"]
    patterns := ["Rakefile", "Gemfile", "Gemfile.lock"]
    mimeTypes := ["text/x-ruby"]
    shebangs := ["ruby"] },
  { name := "PHP"
    extensions := [".php", ".php3", ".php4", ".php5", ".phtml"]
    patterns := []
    mimeTypes := ["text/x-php", "application/x-php"]
    shebangs := ["php"] },
  { name := "Shell"
    extensions := [".sh", ".bash", ".zsh", ".fish", ".csh", ".tcsh", ".ksh"]
    patterns := []
    mimeTypes := ["text/x-shellscript", "application/x-sh"]
    shebangs := ["sh", "bash", "zsh", "fish", "csh", "tcsh", "ksh"] },
  { name := "HTML"
    extensions := [".html", ".htm", ".xhtml"]
    patterns := []
    mimeTypes := ["text/html", "application/xhtml+xml"]
    shebangs := [] },
  { name := "CSS"
    extensions := [".css", ".scss", ".sass", ".less"]
    patterns := []
    mimeTypes := ["text/css"]
    shebangs := [] },
  { name := "JSON"
    extensions := [".json", ".jsonc", ".json5"]
    patterns := [".eslintrc", ".babelrc", "tsconfig.json", "package.json"]
    mimeTypes := ["application/json", "text/json"]
    shebangs := [] },
  { name := "YAML"
    extensions := [".yaml", ".yml"]
    patterns := [".github/workflows/*.yml", ".github/workflows/*.yaml"]
    mimeTypes := ["text/yaml", "application/x-yaml"]
    shebangs := [] },
  { name := "XML"
    extensions := [".xml", ".xsl", ".xslt", ".xsd"]
    patterns := ["pom.xml", "web.xml"]
    mimeTypes := ["text/xml", "application/xml"]
    shebangs := [] },
  { name := "Markdown"
    extensions := [".md", ".markdown", ".mdown", ".mkd"]
    patterns := ["README.md", "CHANGELOG.md"]
    mimeTypes := ["text/markdown", "text/x-markdown"]
    shebangs := [] },
  { name := "SQL"
    extensions := [".sql"]
    patterns := []
    mimeTypes := ["text/x-sql"]
    shebangs := [] },
  { name := "Docker"
    extensions := [".dockerfile"]
    patterns := ["Dockerfile", "Dockerfile.*", ".dockerignore"]
    mimeTypes := ["text/x-dockerfile"]
    shebangs := [] },
  { name := "Makefile"
    extensions := [".mk", ".mak"]
    patterns := ["Makefile", "makefile", "GNUmakefile", "*.mk"]
    mimeTypes := ["text/x-makefile"]
    shebangs := [] }]

end Language

end Forage
