/-!
# Errors of the file system
-/

namespace TypedLayouts

/-- Why an operation on files failed. -/
inductive FileError where
  /-- There is no such file, or no directory for it. -/
  | notFound
  /-- There is something at the path already. -/
  | alreadyExists
  /-- A part of the path is a file where a directory is needed. -/
  | notADirectory
  /-- There is a directory where a file is needed. -/
  | isADirectory
  /-- A name, or the path as a whole, is too long. -/
  | nameTooLong
  /-- The path has a character with code zero in it. -/
  | nulInName
  /-- The contents are not text. -/
  | notText
  /-- Any other reason, in the system's words. -/
  | other (reason : String)
  deriving DecidableEq, Repr

/-- The wording of the system. -/
def FileError.message : FileError → String
  | .notFound => "No such file or directory (os error 2)"
  | .alreadyExists => "File exists (os error 17)"
  | .notADirectory => "Not a directory (os error 20)"
  | .isADirectory => "Is a directory (os error 21)"
  | .nameTooLong => "File name too long (os error 36)"
  | .nulInName => "file name contained an unexpected NUL byte"
  | .notText => "stream did not contain valid UTF-8"
  | .other reason => reason

end TypedLayouts
