import IdentityService.Assoc
import IdentityService.Bytes.Utf8
import IdentityService.Fault.Fault
import IdentityService.Text.Blank
import IdentityService.Text.Lines

/-!
# Provider Credentials

The credential of the identity provider is the text of a file, trimmed.  A path that
leads to no file, and a file of blanks, are configuration errors.

## Main definitions

- `Folder.fileText?`: the text of the file to which a path leads.
- `Credential.read`: the credential at a path.
-/

namespace IdentityService

/-! ## §1 Files -/

/-- What a name in a folder stands for. -/
inductive FolderEntry
  | file (text : String)
  | folder
  deriving DecidableEq, Repr

/-- The working folder: its entries by relative path. -/
abbrev Folder := Assoc FolderEntry

namespace Folder

/-- The greatest size of a name in bytes. -/
def maxNameSize : Nat := 255

/-- The parts of a path; a repeated separator and a part that stays in place are dropped. -/
def pathParts (path : String) : List String :=
  ((path.toList.splitOn '/').map String.ofList).filter fun part => !part.isEmpty && part != "."

/-- The entry that the parts of a path lead to, from a folder on. -/
def entryFrom (files : Folder) (here : List String) : List String → Outcome (Option FolderEntry)
  | [] => .ok (some .folder)
  | part :: rest =>
      if maxNameSize < (Utf8.ofString part).length then .error .system
      else if part == ".." then
        if here.isEmpty then .ok none else entryFrom files here.dropLast rest
      else
        match files.get? ("/".intercalate (here ++ [part])) with
        | some .folder => entryFrom files (here ++ [part]) rest
        | some (.file text) => .ok (if rest.isEmpty then some (.file text) else none)
        | none => .ok none

/-- The text of the file to which a relative path leads, if there is one. -/
def fileText? (files : Folder) (path : String) : Outcome (Option String) :=
  if path.startsWith "/" || path.toList.contains '\x00' then .ok none
  else do
    match ← entryFrom files [] (pathParts path) with
    | some (.file text) => .ok (some text)
    | _ => .ok none

end Folder

/-! ## §2 Credentials -/

namespace Credential

/-- The error for a path that leads to no file. -/
def notFound (path : String) : ServiceError :=
  .config ("Identity provider credential file not found: " ++ Text.quoted path
    ++ ". Set IDENTITY_PROVIDER_CREDENTIALS_PATH.")

/-- The error for a file of blanks. -/
def blank (path : String) : ServiceError :=
  .config ("Identity provider credential file is empty: " ++ Text.quoted path)

/-- The credential at a path. -/
def read (files : Folder) (path : String) : Outcome String := do
  match ← files.fileText? path with
  | none => .error (.service (notFound path))
  | some text =>
      let credential := String.ofList (Text.trim (Text.unifiedLines text.toList))
      if credential.isEmpty then .error (.service (blank path)) else .ok credential

end Credential

end IdentityService
