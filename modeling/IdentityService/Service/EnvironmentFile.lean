import IdentityService.Text.Blank
import IdentityService.Text.Lines

/-!
# Environment Files

A file of variables, one binding a line: a name, an equals sign and a value.  A value may be
quoted, and a reference to another variable in it is replaced.  Blank lines, comments and
lines that are no binding are skipped.

## Main definitions

- `EnvironmentFile.bindings`: the bindings of a file as they are written.
- `EnvironmentFile.resolved`: the bindings after references have been replaced.
-/

namespace IdentityService

/-- Variables of the environment, in order; of two with one name the later one holds. -/
abbrev Environment := List (String × String)

namespace EnvironmentFile

open Text

/-! ## §1 Stretches of a line -/

/-- Blank space that does not end a line. -/
def isInlineBlank (c : Char) : Bool := isBlank c && c != '\n'

/-- The rest after the end of the line that is being read. -/
def afterLine (cs : List Char) : List Char := (cs.dropWhile (· != '\n')).drop 1

/-- The rest after blank space and a comment, if the line ends there. -/
def lineEnd? (cs : List Char) : Option (List Char) :=
  match cs.dropWhile isInlineBlank with
  | '#' :: rest => some (afterLine rest)
  | '\n' :: rest => some rest
  | [] => some []
  | _ => none

/-- The rest after the word that may stand before a name. -/
def afterExport (cs : List Char) : List Char :=
  match cs with
  | 'e' :: 'x' :: 'p' :: 'o' :: 'r' :: 't' :: c :: rest =>
      if isInlineBlank c then rest.dropWhile isInlineBlank else cs
  | _ => cs

/-! ## §2 Names and values -/

/-- A name, quoted or not, and the rest. -/
def name? : List Char → Option (List Char × List Char)
  | '\'' :: rest =>
      let name := rest.takeWhile (· != '\'')
      match rest.dropWhile (· != '\'') with
      | _ :: after => if name.isEmpty then none else some (name, after)
      | [] => none
  | cs =>
      let stops := fun c => c == '=' || c == '#' || isBlank c
      let name := cs.takeWhile (!stops ·)
      if name.isEmpty then none else some (name, cs.dropWhile (!stops ·))

/-- The text up to the closing quote, and the rest.  A character behind a backslash does not close
the text. -/
def quotedText? (quote : Char) : List Char → Option (List Char × List Char)
  | [] => none
  | '\\' :: c :: rest =>
      (quotedText? quote rest).map fun (text, after) => ('\\' :: c :: text, after)
  | c :: rest =>
      if c = quote then some ([], rest)
      else (quotedText? quote rest).map fun (text, after) => (c :: text, after)

/-- The character for which an escape stands between double quotes. -/
def escaped? : Char → Option Char
  | '\\' => some '\\'
  | '\'' => some '\''
  | '"' => some '"'
  | 'a' => some '\x07'
  | 'b' => some '\x08'
  | 'f' => some '\x0c'
  | 'n' => some '\n'
  | 'r' => some '\r'
  | 't' => some '\t'
  | 'v' => some '\x0b'
  | _ => none

/-- The character for which an escape stands between single quotes. -/
def plainEscaped? (c : Char) : Option Char := if c = '\\' || c = '\'' then some c else none

/-- Replaces the escapes of a quoted text. -/
def unescaped (escape? : Char → Option Char) : List Char → List Char
  | '\\' :: c :: rest =>
      match escape? c with
      | some d => d :: unescaped escape? rest
      | none => '\\' :: unescaped escape? (c :: rest)
  | c :: rest => c :: unescaped escape? rest
  | [] => []

/-- Cuts an unquoted value off before a comment, which blank space separates from it. -/
def withoutComment : List Char → List Char
  | [] => []
  | c :: rest =>
      if isBlank c && (rest.dropWhile isBlank).head? == some '#' then []
      else c :: withoutComment rest

/-- A value, and the rest. -/
def value? : List Char → Option (List Char × List Char)
  | '\'' :: rest =>
      (quotedText? '\'' rest).map fun (text, after) => (unescaped plainEscaped? text, after)
  | '"' :: rest =>
      (quotedText? '"' rest).map fun (text, after) => (unescaped escaped? text, after)
  | cs =>
      let text := withoutComment (cs.takeWhile (· != '\n'))
      some ((text.reverse.dropWhile isBlank).reverse, cs.dropWhile (· != '\n'))

/-! ## §3 Bindings -/

/-- A name and its value, if it has one. -/
abbrev Binding := String × Option String

/-- Reads the line that starts here: its binding, if it is one, and the rest.  A line that goes
wrong is skipped from there on. -/
def binding (cs : List Char) : Option Binding × List Char :=
  let cs := afterExport cs
  if cs.head? == some '#' then (none, afterLine cs)
  else
    match name? cs with
    | none => (none, afterLine cs)
    | some (name, cs) =>
        let ended := fun (value : Option String) (cs : List Char) =>
          match lineEnd? cs with
          | some rest => (some (String.ofList name, value), rest)
          | none => (none, afterLine cs)
        match cs.dropWhile isInlineBlank with
        | '=' :: rest =>
            let rest := rest.dropWhile isInlineBlank
            match value? rest with
            | some (value, after) => ended (some (String.ofList value)) after
            | none => (none, afterLine rest)
        | cs => ended none cs

/-- The bindings of at most a number of lines. -/
def bindingsFrom : Nat → List Char → List Binding
  | 0, _ => []
  | fuel + 1, cs =>
      match cs.dropWhile isBlank with
      | [] => []
      | cs =>
          let (b, rest) := binding cs
          b.toList ++ bindingsFrom fuel rest

/-- A text without the mark of its encoding. -/
def withoutMark : List Char → List Char
  | '\uFEFF' :: rest => rest
  | cs => cs

/-- The bindings of a file. -/
def bindings (text : String) : List Binding :=
  let cs := unifiedLines (withoutMark text.toList)
  bindingsFrom (cs.length + 1) cs

/-! ## §4 References -/

/-- A reference behind its opening: the name, the text that stands in for an absent variable, and
the rest. -/
def reference? (cs : List Char) : Option (List Char × List Char × List Char) :=
  let name := cs.takeWhile fun c => c != '\x7d' && c != ':'
  match cs.dropWhile fun c => c != '\x7d' && c != ':' with
  | '\x7d' :: rest => some (name, [], rest)
  | ':' :: '-' :: rest =>
      match rest.dropWhile (· != '\x7d') with
      | _ :: after => some (name, rest.takeWhile (· != '\x7d'), after)
      | [] => none
  | _ => none

/-- Replaces the references in a value; `look` gives the value of a variable that is known. -/
def replaced (look : String → Option (Option String)) : Nat → List Char → List Char
  | 0, cs => cs
  | _, [] => []
  | fuel + 1, '$' :: '\x7b' :: rest =>
      match reference? rest with
      | some (name, default, after) =>
          let value := match look (String.ofList name) with
            | some known => (known.getD "").toList
            | none => default
          value ++ replaced look fuel after
      | none => '$' :: replaced look fuel ('\x7b' :: rest)
  | fuel + 1, c :: rest => c :: replaced look fuel rest

/-- The last value of a name in a list of bindings. -/
def lastValue? {α : Type} (name : String) (bs : List (String × α)) : Option α :=
  (bs.reverse.find? (·.1 == name)).map (·.2)

/-- The bindings of a file after references have been replaced.  A reference means the latest
binding above it, or else the variable of the environment. -/
def resolved (environment : Environment) (text : String) : List Binding :=
  (bindings text).foldl (fun known (name, value) =>
    let look := fun (wanted : String) =>
      match lastValue? wanted known with
      | some v => some v
      | none => (lastValue? wanted environment).map some
    let value := value.map fun v => String.ofList (replaced look (v.length + 1) v.toList)
    known ++ [(name, value)]) []

end EnvironmentFile

end IdentityService
