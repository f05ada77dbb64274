-- What a run has to say besides its result: problems of single files, which do not stop it, and
-- notes.
import CodeAtlas.Project.Node
import CodeAtlas.Source.Grammar
import CodeAtlas.Text.Quoted

namespace CodeAtlas

/-! ## Problems -/

/-- Why a source file was not read: it is larger than allowed, or its text has a fault. -/
inductive Problem where
  | tooLarge (size : Nat)
  | faulty (f : Fault)
  deriving DecidableEq

namespace Problem

def message : Problem → String
  | tooLarge size => "file too large (" ++ Grouped.ofNat size ++ " bytes)"
  | faulty f => f.detail.message

/-- Where in the file the problem is, if that is known. -/
def location? : Problem → Option Location
  | tooLarge _ => none
  | faulty f => some f.location

end Problem

/-- A problem of the file at a path. -/
structure FileProblem where
  path : Label
  problem : Problem
  deriving DecidableEq

/-! ## Notes -/

/-- Something worth saying about a run. -/
inductive Note where
  | excluded (path : String)
  | faultFound (path : String) (f : Fault)
  | tooLarge (path : String) (size : Nat) (limit : Int)
  | notParsed (path : String) (f : Fault)
  | unresolved (specifier path target : String)
  | pointsAtUnparsed (specifier path target : String)
  | redeclared (name path former : String)
  | finished (files edges dependencies errors : Nat)
  deriving DecidableEq

namespace Note

/-- The note is for everyone, and not only for those who follow the details. -/
def isWarning : Note → Bool
  | tooLarge _ _ _ | notParsed _ _ => true
  | _ => false

/-- The part of the program that a note comes from. -/
def origin : Note → String
  | excluded _ | tooLarge _ _ _ | notParsed _ _ | finished _ _ _ _ => "tsgraph.scanner"
  | faultFound _ _ => "tsgraph.parser"
  | unresolved _ _ _ | pointsAtUnparsed _ _ _ => "tsgraph.graph"
  | redeclared _ _ _ => "tsgraph.linker"

/-- What a note says. -/
def text : Note → String
  | excluded path => "Excluded " ++ path
  | faultFound path f =>
    "Parse error in " ++ path ++ " at " ++ toString f.location.line ++ ":"
      ++ toString f.location.column ++ " (" ++ f.detail.message ++ ")"
  | tooLarge path size limit =>
    "Skipping " ++ path ++ ": " ++ Grouped.ofNat size ++ " bytes exceeds limit of "
      ++ Grouped.ofInt limit ++ " bytes"
  | notParsed path f => "Parse failed for " ++ path ++ ": " ++ f.message path
  | unresolved specifier path target =>
    "Unresolved import " ++ Quoted.quote specifier ++ " in " ++ path ++ " (looked for "
      ++ target ++ ")"
  | pointsAtUnparsed specifier path target =>
    "Import " ++ Quoted.quote specifier ++ " in " ++ path ++ " points at unparsed " ++ target
  | redeclared name path former =>
    "Function " ++ name ++ " redeclared in " ++ path ++ " (was " ++ former ++ ")"
  | finished files edges dependencies errors =>
    "Analyzed " ++ toString files ++ " files: " ++ toString edges ++ " call edges, "
      ++ toString dependencies ++ " dependencies, " ++ toString errors ++ " errors"

def line (n : Note) : String :=
  (if n.isWarning then "WARNING " else "DEBUG ") ++ n.origin ++ ": " ++ n.text

end Note

end CodeAtlas
