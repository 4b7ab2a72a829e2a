import DocBinder.Log
import DocBinder.Project.Config

/-!
# Initializing a project

A project is initialized once: its directory is made, and a configuration is written. A directory
that was made stays when the configuration is refused.
-/

namespace DocBinder.Project

/-- What initializing changes: the files and the log. -/
structure Preparation where
  files : FileTree
  log : List Log.Line
deriving Inhabited

namespace Preparation

/-- A step of initializing, which keeps what was done before a failure. -/
abbrev Step (α : Type) := ExceptT Failure (StateM Preparation) α

/-- The path of the configuration file when none is given. -/
def defaultConfigPath : String :=
  ".gdocs-sync/config.yaml"

/-- A failure to initialize. -/
def refused (note : String) : Failure :=
  .of (.initialization note)

/-- Add a line to the log. -/
def report (message : String) : Step Unit :=
  modify fun preparation =>
    { preparation with log := preparation.log ++ [⟨.info, .initialization, message⟩] }

/-- Keep changed files. -/
def keep (files : FileTree) : Step Unit :=
  modify fun preparation => { preparation with files := files }

/-- Make the directory of the project. -/
def makeDirectory (directory : String) : Step Unit := do
  match (← get).files.makeDirectories directory with
  | .error (refusal, path) => throw (refused
      s!"Failed to create docs directory {directory}: {refusal.message path}")
  | .ok files =>
      keep files
      report s!"Using docs directory: {directory}"

/-- The title of a project: the given one without blanks around it, unless none is given. -/
def titleFor (given : Option String) : Except Failure String :=
  match given with
  | none | some "" => .ok Config.default.title
  | some title =>
      let trimmed := Text.strip title.toList
      if trimmed.isEmpty then .error (refused "Document title cannot be empty")
      else .ok (String.ofList trimmed)

/-- Initialize a project: make its directory and write its configuration to a path. -/
def setUp (path directory : String) (title : Option String) : Step Config := do
  if (← get).files.contains path then
    throw (refused (s!"Configuration file already exists at {path}\n"
      ++ "Please delete it first if you want to reinitialize."))
  let directory := Path.normalize directory
  makeDirectory directory
  let title ← ExceptT.mk (pure (titleFor title))
  let config : Config := { Config.default with docsDirectory := directory, title }
  match config.save (← get).files path with
  | .error failure => throw (refused s!"Failed to save configuration: {failure.message}")
  | .ok files =>
      keep files
      report s!"Configuration saved to {path}"
      return config

end Preparation

end DocBinder.Project
