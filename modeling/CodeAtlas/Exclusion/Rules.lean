-- Exclusion rules. Which names a pattern matches is up to a library: it compiles the lines of a
-- project's ignore file, or of the template, and further ones.
import CodeAtlas.Disk
import CodeAtlas.Text.Quoted
import CodeAtlas.Text.Segments

namespace CodeAtlas.Exclusion

/-! ## Libraries -/

/-- Why a line is no pattern. -/
inductive PatternError where
  | invalid (line : String)
  | reversedRange (low high : Char)
  deriving DecidableEq

/-- How it is said that a line is no pattern. -/
def PatternError.message : PatternError → String
  | .invalid line => "Invalid git pattern: " ++ Quoted.quote line
  | .reversedRange low high => "bad character range " ++ String.ofList [low, '-', high]

/-- A pattern that excludes the paths it matches, or takes them back in. -/
structure Rule where
  excludes : Bool
  holds : String → Bool

/-- Patterns that have been compiled: all that matters is which paths they leave out. The path of a
folder ends in a slash. -/
structure Rules where
  leavesOut : String → Bool

/-- A library for patterns: what a single line stands for, if it is a pattern or may be passed over,
and what lines stand for when they are taken together. -/
structure Library where
  ruleOf : String → Except PatternError (Option Rule)
  compile : List String → Except PatternError Rules

/-- How an entry is written for the rules. -/
def entryPath (name : String) (isFolder : Bool) : String := if isFolder then name ++ "/" else name

/-- The entry is excluded. -/
def Rules.excluded (rules : Rules) (name : String) (isFolder : Bool) : Bool :=
  rules.leavesOut (entryPath name isFolder)

/-! ## Lines one by one -/

/-- The patterns of lines, up to the first line that is none. -/
def rulesOf (ruleOf : String → Except PatternError (Option Rule)) :
    List String → Except PatternError (List Rule)
  | [] => .ok []
  | line :: rest => do
    let rule ← ruleOf line
    let rules ← rulesOf ruleOf rest
    return rule.toList ++ rules

/-- What the last matching pattern says. A path that none matches is kept. -/
def verdict (rules : List Rule) (path : String) : Bool :=
  match rules.reverse.find? fun r => r.holds path with
  | some rule => rule.excludes
  | none => false

/-! ## The rules of a project -/

/-- The file of a project that holds its own patterns. -/
def ignoreFile : String := ".tsgraphignore"

/-- The lines for a project that has no file of its own: dependencies, build outputs, version
control, manifests, settings of tools, and what is no code. -/
def template : List String :=
  ["# tsgraph ignore patterns (gitignore syntax, matched against entry names)", "",
    "# ===================", "# Dependencies / build outputs", "# ===================",
    "node_modules/", "dist/", "build/", "coverage/", ".bolt/", "", "# ===================",
    "# Version control", "# ===================", ".git/", ".gitignore", "",
    "# ===================", "# Package manifests and lockfiles", "# ===================",
    "package.json", "package-lock.json", "yarn.lock", "", "# ===================",
    "# Tooling configs", "# ===================", "tsconfig.json", "tsconfig.app.json",
    "tsconfig.node.json", "vite.config.ts", "vite.config.js", "vite-env.d.ts", "webpack.config.js",
    "babel.config.js", "postcss.config.js", "tailwind.config.js", "tailwind.config.ts",
    "eslint.config.js", ".eslintrc.cjs", ".prettierrc", ".prettierrc.json", ".prettierrc.json5",
    ".prettierrc.yaml", ".prettierrc.yml", "jest.config.js", "jest.config.ts", "jest.config.json",
    "jest.setup.*", "config.json", "", "# ===================", "# Misc", "# ===================",
    "README.md", "LICENSE", "index.html", "prompt"]

/-- Why the rules of a project cannot be had. -/
inductive LoadError where
  | disk (e : DiskError)
  | text (f : Utf8.Fault)
  | pattern (e : PatternError)
  deriving DecidableEq

/-- How it is said that the rules of a project cannot be had. -/
def LoadError.message : LoadError → String
  | .disk e => e.message
  | .text f => f.message
  | .pattern e => e.message

/-- The lines of a text in a file. -/
def linesOf (cs : List Char) : List String := (Lines.split cs).map String.ofList

/-- The lines of the ignore file in a folder, or of the template if there is no such file. -/
def baseLines (disk : Disk) (folder : Option (List String)) : Except LoadError (List String) :=
  match folder with
  | none => .ok template
  | some folder =>
    let path := folder ++ [ignoreFile]
    match disk.find? path with
    | .error e => .error (.disk e)
    | .ok none => .ok template
    | .ok (some _) => do
      let bytes ← (disk.read path).mapError .disk
      let cs ← (Utf8.decode bytes).mapError .text
      return linesOf cs

/-- The rules of a project in a folder, with further patterns after them. -/
def load (L : Library) (disk : Disk) (folder : Option (List String)) (extra : List String) :
    Except LoadError Rules := do
  let lines ← baseLines disk folder
  (L.compile (lines ++ extra)).mapError .pattern

/-- The rules that a caller asks for: none at all if they are not to be respected, those that are
given, or else those of the template. -/
def choose (L : Library) (respected : Bool) (given : Option Rules) :
    Except LoadError (Option Rules) :=
  if !respected then .ok none
  else
    match given with
    | some rules => .ok (some rules)
    | none => (load L [] none []).map some

end CodeAtlas.Exclusion
