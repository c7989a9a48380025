import Assay.Case
import Assay.Files.Basic
import Assay.Retry
import Assay.Trigger.Settings
import Assay.Yaml.Document

/-!
# Configurations

A configuration lists the cases to run, says how, and may name a trigger that sets the observed
system to work before. It is a YAML file, and the paths in it are relative to where it lies.
-/

namespace Assay

open Document (Node)

/-- The cases of a configuration and how to run them. -/
structure Suite where
  cases : List Case := []
  retry : Retry := {}
  /-- Whether to stop at the first case that fails. -/
  failFast : Bool := false
  /-- Whether to run all cases at the same time. -/
  concurrent : Bool := false
  deriving DecidableEq, Inhabited

/-- A whole configuration. -/
structure Config where
  trigger : Option Trigger.Settings := none
  suite : Suite := {}
  deriving DecidableEq, Inhabited

/-- Reads the cases of a configuration. -/
def Suite.read : Node → Except Document.Error Suite :=
  Node.record [["cases"], ["retry"], ["failFast", "fail-fast"], ["concurrency"]] (fun s i n => do
    match i with
    | 0 => return { s with cases := ← n.items Case.read }
    | 1 => return { s with retry := ← Retry.read n }
    | 2 => return { s with failFast := ← n.bool }
    | _ => return { s with concurrent := ← n.bool }) {}

namespace Config

/-- Why a configuration cannot be loaded. -/
inductive Error where
  | file (path : String) (cause : Files.Error)
  | document (path : String)
  deriving DecidableEq, Repr

/-- The wording of an error. -/
def Error.message : Error → String
  | .file path cause => "failed to read configuration " ++ path ++ ": " ++ cause.message
  | .document path => "failed to parse configuration " ++ path ++ ": <reason>"

/-- The configuration that is looked for if none is named. -/
def defaultPath : String := "e2e.yaml"

/-- Reads a configuration. -/
def read : Node → Except Document.Error Config :=
  Node.record [["trigger"], ["assert"]] (fun c i n => do
    match i with
    | 0 => return { c with trigger := ← n.optional Trigger.Settings.read }
    | _ => return { c with suite := ← Suite.read n }) {}

/-- The configuration with the paths of its cases relative to a directory. -/
def resolve (env : Environment) (directory : String) (c : Config) : Config :=
  { c with suite := { c.suite with cases := c.suite.cases.map (Case.resolve env directory) } }

/-- Loads the configuration at a path. -/
def load (env : Environment) (files : Files) (path : String) : Except Error Config := do
  let text ← (files.read path).mapError (.file path)
  let config ← ((Yaml.source text.toList).read read).mapError fun _ => .document path
  return config.resolve env (Path.parent path)

end Config

end Assay
