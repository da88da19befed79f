import ScopedCheck.Path

namespace ScopedCheck

/-- The reason for which the system refuses a single operation. -/
inductive Fault where
  | notFound
  | notDirectory
  | isDirectory
  | tooManyLinks
  | nameTooLong
  | permissionDenied
  | alreadyExists
  /-- A path or an argument holds a NUL character. -/
  | nulCharacter
  /-- The content of a file is not UTF-8. -/
  | notText
  | other
  deriving DecidableEq, Repr, Inhabited

/-- What ends a run. -/
inductive Failure where
  | configUnreadable (path : Path) (cause : Fault)
  | configMalformed (path : Path) (message : String)
  | workingDirectory (cause : Fault)
  | directoryUnreadable (path : Path) (cause : Fault)
  | tempConfigUnwritable (directory : Path) (cause : Fault)
  | checkerNotFound (searchedFrom : Path)
  | checkerNotRun (path : Path) (cause : Fault)
  | signalHandling (cause : Fault)
  | pathNotText (path : String)
  | argumentNotText (argument : String)
  deriving DecidableEq, Repr

namespace Failure

def message : Failure → String
  | configUnreadable path _ => "failed to read tsconfig at " ++ path.text
  | configMalformed path message => "failed to parse tsconfig at " ++ path.text ++ ": " ++ message
  | workingDirectory _ => "failed to resolve the current working directory"
  | directoryUnreadable path _ => "failed to read directory " ++ path.text
  | tempConfigUnwritable directory _ => "failed to write temporary tsconfig in " ++ directory.text
  | checkerNotFound searchedFrom =>
    "vue-tsc binary not found (searched from " ++ searchedFrom.text ++ ")"
  | checkerNotRun path _ => "failed to run " ++ path.text
  | signalHandling _ => "failed to install signal handler"
  | pathNotText path => "path is not valid UTF-8: " ++ path
  | argumentNotText argument => "argument is not valid UTF-8: " ++ argument

def code : Failure → String
  | configUnreadable .. => "vue_tsc_files::config_read"
  | configMalformed .. => "vue_tsc_files::config_parse"
  | workingDirectory .. => "vue_tsc_files::working_dir"
  | directoryUnreadable .. => "vue_tsc_files::directory_read"
  | tempConfigUnwritable .. => "vue_tsc_files::temp_config"
  | checkerNotFound .. => "vue_tsc_files::checker_not_found"
  | checkerNotRun .. => "vue_tsc_files::child_process"
  | signalHandling .. => "vue_tsc_files::signal_handler"
  | pathNotText .. => "vue_tsc_files::non_utf8_path"
  | argumentNotText .. => "vue_tsc_files::non_utf8_argument"

def help? : Failure → Option String
  | configUnreadable .. => some "pass the project config explicitly with `-p <path>`"
  | workingDirectory .. => some "run vue-tsc-files from an existing project directory"
  | checkerNotFound .. =>
    some "install `vue-tsc` and `typescript` in the project, or set VUE_TSC_FILES_BIN"
  | _ => none

def cause? : Failure → Option Fault
  | configUnreadable _ cause | workingDirectory cause | directoryUnreadable _ cause
  | tempConfigUnwritable _ cause | checkerNotRun _ cause | signalHandling cause => some cause
  | _ => none

end Failure

end ScopedCheck
