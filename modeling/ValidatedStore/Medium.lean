/-!
# Media

A medium keeps texts under keys. Reading does not change it; a write either succeeds or reports an
error, and says in both cases what the medium is afterwards.
-/

namespace ValidatedStore

/-- Why reading or writing a file failed. -/
inductive IoCause
  /-- There is nothing at the place. -/
  | notFound
  /-- A file stands where a directory is to be made. -/
  | alreadyExists
  /-- A file stands where a directory has to be passed through. -/
  | notADirectory
  /-- A directory stands where a file is expected. -/
  | isADirectory
  /-- The file name is longer than the file system allows. -/
  | nameTooLong
  /-- The path contains the character that ends paths. -/
  | nulInPath
  /-- The bytes of the file are no text. -/
  | notText
  /-- The medium was told to refuse reads. -/
  | readRefused
  /-- The medium was told to refuse writes. -/
  | writeRefused
deriving DecidableEq

/-- The cause in words. -/
def IoCause.message : IoCause → String
  | .notFound => "No such file or directory (os error 2)"
  | .alreadyExists => "File exists (os error 17)"
  | .notADirectory => "Not a directory (os error 20)"
  | .isADirectory => "Is a directory (os error 21)"
  | .nameTooLong => "File name too long (os error 36)"
  | .nulInPath => "file name contained an unexpected NUL byte"
  | .notText => "stream did not contain valid UTF-8"
  | .readRefused => "read refused"
  | .writeRefused => "write refused"

/-- Why a medium failed. -/
inductive StorageError
  /-- Reading or writing failed. -/
  | io (cause : IoCause)
  /-- The key cannot be kept on this medium. -/
  | invalidKey (key : String)
deriving DecidableEq

/-- The error in words. -/
def StorageError.message : StorageError → String
  | .io cause => "I/O error: " ++ cause.message
  | .invalidKey key => "invalid storage key '" ++ key ++ "'"

/-- States of a medium, with the two operations that stores need. -/
class Medium (μ : Type) where
  /-- The text under a key, if there is one. -/
  read : μ → String → Except StorageError (Option String)
  /-- Replace the text under a key; returns the medium after the attempt. -/
  write : μ → String → String → Except StorageError Unit × μ

end ValidatedStore
