/-!
# Errors

Every operation that can fail does so with an `Error`, which has a coarse code for the host engine
and a message for a person.
-/

namespace TextAnalysis

/-- Why a file could not be read or written. -/
inductive FileFault where
  | notFound
  | isADirectory
  | notADirectory
  | nameTooLong
  | nulInName
  | notText
deriving Repr, DecidableEq

namespace FileFault

/-- The kind of a fault, by name. -/
def kind : FileFault → String
  | notFound => "NotFound"
  | isADirectory => "IsADirectory"
  | notADirectory => "NotADirectory"
  | nameTooLong => "InvalidFilename"
  | nulInName => "InvalidInput"
  | notText => "InvalidData"

/-- A fault in words. -/
def message : FileFault → String
  | notFound => "No such file or directory (os error 2)"
  | isADirectory => "Is a directory (os error 21)"
  | notADirectory => "Not a directory (os error 20)"
  | nameTooLong => "File name too long (os error 36)"
  | nulInName => "file name contained an unexpected NUL byte"
  | notText => "stream did not contain valid UTF-8"

end FileFault

/-- Why a JSON text could not be read: it is not JSON, it ends too early, or it is JSON of another
shape than the one wanted. -/
inductive JsonFault where
  | malformed
  | incomplete
  | unsuitable
deriving Repr, DecidableEq

/-- The kind of a fault, by name. -/
def JsonFault.kind : JsonFault → String
  | malformed => "Syntax"
  | incomplete => "Eof"
  | unsuitable => "Data"

/-- What went wrong. -/
inductive Error where
  /-- A construction parameter is bad or not supported. -/
  | configuration (reason : String)
  /-- A wrapped tokenizer or a token sink failed. -/
  | delegate (reason : String)
  /-- The stop-word store could not be consulted. -/
  | stopWordLookup (reason : String)
  /-- The settings differ from those an index was built with. -/
  | settingsMismatch (reason : String)
  /-- Data could not be compressed or restored. -/
  | compression (reason : String)
  /-- A file could not be read or written. -/
  | file (fault : FileFault)
  /-- A JSON text could not be read. -/
  | json (fault : JsonFault)
  /-- Any other failure. -/
  | other (reason : String)
deriving Repr, DecidableEq

/-- The status codes that a host engine distinguishes. -/
inductive ErrorCode where
  | configuration
  | delegate
  | stopWordLookup
  | mismatch
  | compression
  | file
  | internal
deriving Repr, DecidableEq

namespace Error

/-- An argument that is not acceptable counts as a configuration error. -/
def invalidArgument (reason : String) : Error :=
  configuration ("Invalid argument: " ++ reason)

/-- The status code of an error. A JSON text holds settings, so a fault in it is one of
configuration. -/
def code : Error → ErrorCode
  | configuration _ => .configuration
  | delegate _ => .delegate
  | stopWordLookup _ => .stopWordLookup
  | settingsMismatch _ => .mismatch
  | compression _ => .compression
  | file _ => .file
  | json _ => .configuration
  | other _ => .internal

/-- An error in words. -/
def message : Error → String
  | configuration reason => "Configuration error: " ++ reason
  | delegate reason => "Delegate error: " ++ reason
  | stopWordLookup reason => "Stop word lookup failed: " ++ reason
  | settingsMismatch reason => "Settings mismatch: " ++ reason
  | compression reason => "Compression error: " ++ reason
  | file fault => "I/O error: " ++ fault.message
  | json fault => "JSON error: " ++ fault.kind
  | other reason => "Error: " ++ reason

end Error

end TextAnalysis
