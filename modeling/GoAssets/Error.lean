import GoAssets.Path
import GoAssets.Text.Quoted

/-!
# Errors

Every failure of the library is a cause: why a file could not be scanned (`ScanError`), why a
source text was refused (`SourceError`), why a configuration was refused (`ConfigError`), or
any of the three (`Error`). The wording is one function per kind, and every error has an
`ErrorCode` for machines. A scan continues past the errors that concern one file only.
-/

namespace GoAssets

/-- Why the file system refused an operation. -/
inductive IoFailure where
  | notFound
  | permissionDenied
  | notADirectory
  | isADirectory
  | notUtf8
  | reported (text : String)
deriving DecidableEq, Repr

def IoFailure.message : IoFailure → String
  | .notFound => "No such file or directory (os error 2)"
  | .permissionDenied => "Permission denied (os error 13)"
  | .notADirectory => "Not a directory (os error 20)"
  | .isADirectory => "Is a directory (os error 21)"
  | .notUtf8 => "stream did not contain valid UTF-8"
  | .reported text => text

/-- The code that an error carries for machines. -/
inductive ErrorCode where
  | scanError
  | fileTooLarge
  | unknownMethod
  | pathResolution
  | parseError
  | syntaxError
  | configError
deriving DecidableEq, Repr

def ErrorCode.text : ErrorCode → String
  | .scanError => "SCAN_ERROR"
  | .fileTooLarge => "FILE_TOO_LARGE"
  | .unknownMethod => "UNKNOWN_METHOD"
  | .pathResolution => "PATH_RESOLUTION"
  | .parseError => "PARSE_ERROR"
  | .syntaxError => "SYNTAX_ERROR"
  | .configError => "CONFIG_ERROR"

/-! ## Scanning -/

/-- Why a file could not be scanned. -/
inductive ScanError where
  | unreadable (path : Path) (cause : IoFailure)
  /-- The file has more bytes than the configured limit. -/
  | fileTooLarge (path : Path) (size limit : Nat)
  /-- A call on the namespace has a method that is not part of its interface. -/
  | unknownMethod (ns method : String) (path : Path)
  /-- The directory of a declared group cannot be determined. -/
  | groupPath (path : Path) (literal : String) (cause : IoFailure)
deriving DecidableEq, Repr

namespace ScanError

def code : ScanError → ErrorCode
  | unreadable .. => .scanError
  | fileTooLarge .. => .fileTooLarge
  | unknownMethod .. => .unknownMethod
  | groupPath .. => .pathResolution

/-- Whether the error concerns its file only, so that the scan goes on with the next one. -/
def isFileScoped : ScanError → Bool
  | fileTooLarge .. | groupPath .. => true
  | unreadable .. | unknownMethod .. => false

def message : ScanError → String
  | unreadable path cause => "IO error scanning " ++ path.text ++ ": " ++ cause.message
  | fileTooLarge path size limit =>
    "File too large: " ++ path.text ++ " (" ++ toString size ++ " bytes, max "
      ++ toString limit ++ ")"
  | unknownMethod ns method path =>
    "Unknown call to " ++ ns ++ "." ++ method ++ " in " ++ path.text
  | groupPath path literal cause =>
    "Cannot resolve group path " ++ Text.quote literal ++ " declared in " ++ path.text ++ ": "
      ++ cause.message

end ScanError

/-! ## Source text -/

/-- Why a source text was refused. -/
inductive SourceError where
  | grammarMissing (reason : String)
  | parserFailed (path : Path) (reason : String)
  /-- The text is not in the grammar. -/
  | malformed (path : Path) (line column errorCount : Nat)
  /-- The file does not say which package it belongs to. -/
  | missingPackage (path : Path)
deriving DecidableEq, Repr

namespace SourceError

def code : SourceError → ErrorCode
  | grammarMissing .. | parserFailed .. => .parseError
  | malformed .. | missingPackage .. => .syntaxError

def path? : SourceError → Option Path
  | grammarMissing _ => none
  | parserFailed path _ | malformed path .. | missingPackage path => some path

def message : SourceError → String
  | grammarMissing reason => "Grammar could not be loaded: " ++ reason
  | parserFailed path reason => "Tree-sitter error parsing " ++ path.text ++ ": " ++ reason
  | malformed path line column errorCount =>
    "Syntax error in " ++ path.text ++ " at " ++ toString line ++ ":" ++ toString column ++ " ("
      ++ toString errorCount ++ " error node(s))"
  | missingPackage path => "Missing package clause in " ++ path.text

end SourceError

/-! ## Configuration -/

/-- Why a configuration was refused. -/
inductive ConfigError where
  /-- A configuration file is missing or cannot be read as text. -/
  | fileNotFound (path : Path)
  /-- A configuration text cannot be decoded, or a configuration cannot be encoded. -/
  | malformed (path : Path) (reason : String)
  | invalid (field reason : String)
deriving DecidableEq, Repr

namespace ConfigError

def code : ConfigError → ErrorCode
  | _ => .configError

def message : ConfigError → String
  | fileNotFound path => "Config file not found: " ++ path.text
  | malformed path reason => "Config parse error in " ++ path.text ++ ": " ++ reason
  | invalid field reason => "Config validation failed for " ++ field ++ ": " ++ reason

end ConfigError

/-! ## Any failure -/

inductive Error where
  | scan (cause : ScanError)
  | source (cause : SourceError)
  | config (cause : ConfigError)
deriving DecidableEq, Repr

namespace Error

def code : Error → ErrorCode
  | scan cause => cause.code
  | source cause => cause.code
  | config cause => cause.code

def message : Error → String
  | scan cause => "Scan error: " ++ cause.message
  | source cause => "Parse error: " ++ cause.message
  | config cause => "Configuration error: " ++ cause.message

end Error

/-- A message preceded by its code in brackets. -/
def codedMessage (code : ErrorCode) (message : String) : String :=
  "[" ++ code.text ++ "] " ++ message

end GoAssets
