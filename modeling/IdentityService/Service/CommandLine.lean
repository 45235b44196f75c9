import IdentityService.Number.Reading
import IdentityService.Service.Settings

/-!
# The Command Line

The options with which the service is launched.  A long option may be shortened as long as
its meaning is clear, a value may stand behind an equals sign, and of a repeated option the
last one holds.  Words that belong to no option are an error.

## Main definitions

- `LaunchOptions.ofWords`: the options in a list of words, or the status with which the launch
  ends.
- `LaunchPlan.ofSettings`: what the server is started with.
-/

namespace IdentityService

/-! ## §1 Switches -/

/-- A switch of the command line. -/
inductive Switch
  | help
  | reload
  | host
  | port
  | logLevel
  deriving DecidableEq, Repr

namespace Switch

/-- Every switch, in order. -/
def all : List Switch := [help, reload, host, port, logLevel]

/-- The long spelling of a switch. -/
def long : Switch → String
  | help => "--help"
  | reload => "--reload"
  | host => "--host"
  | port => "--port"
  | logLevel => "--log-level"

/-- Whether a switch is followed by a value. -/
def takesValue : Switch → Bool
  | help | reload => false
  | host | port | logLevel => true

/-- The switch with exactly this spelling. -/
def spelled? (s : String) : Option Switch :=
  if s == "-h" then some help else all.find? (·.long == s)

/-- The switches that a shortened long spelling may mean. -/
def shortened (s : String) : List Switch := all.filter (·.long.startsWith s)

end Switch

/-! ## §2 Words -/

/-- What a word of the command line is. -/
inductive CommandWord
  /-- A switch, with the value behind an equals sign if there is one. -/
  | switch (s : Switch) (attached : Option String)
  /-- A switch with something behind it that does not belong there. -/
  | malformed
  /-- It looks like a switch and is none. -/
  | unknown
  /-- A shortened switch with several meanings. -/
  | ambiguous
  /-- A value. -/
  | value (text : String)
  /-- The word after which there are only values. -/
  | separator
  deriving DecidableEq, Repr

namespace CommandWord

/-- Splits a word at its first equals sign. -/
def splitAtEquals (s : String) : String × Option String :=
  let cs := s.toList
  let name := String.ofList (cs.takeWhile (· != '='))
  match cs.dropWhile (· != '=') with
  | _ :: rest => (name, some (String.ofList rest))
  | [] => (name, none)

/-- Whether a word is written like a negative number. -/
def isNegativeNumber (s : String) : Bool :=
  let isDigit := fun c => (Text.digitValue? c).isSome
  match s.toList with
  | '-' :: cs =>
      let cs := if cs.getLast? == some '\n' then cs.dropLast else cs
      let whole := cs.takeWhile isDigit
      match cs.dropWhile isDigit with
      | [] => !whole.isEmpty
      | '.' :: fraction => !fraction.isEmpty && fraction.all isDigit
      | _ => false
  | _ => false

/-- A switch with an attached value, which it must take. -/
def attach (s : Switch) (attached : Option String) : CommandWord :=
  if attached.isSome && !s.takesValue then malformed else switch s attached

/-- What a word is that goes on after the short spelling of the help switch.  Behind it, and
behind an equals sign at first, there may be the letter of the switch again and nothing else. -/
def shortHelp (cs : List Char) : CommandWord :=
  let letters := match cs with
    | '=' :: rest => rest
    | _ => cs
  if !letters.isEmpty && letters.all (· == 'h') then switch .help none else malformed

/-- What a word is that is spelled like no switch. -/
def other (s : String) : CommandWord :=
  if isNegativeNumber s || s.toList.contains ' ' then value s else unknown

/-- What a word is before the separator. -/
def ofText (s : String) : CommandWord :=
  if s == "--" then separator
  else if s == "-" || !s.startsWith "-" then value s
  else
    match Switch.spelled? s with
    | some found => switch found none
    | none =>
        let (name, attached) := splitAtEquals s
        if s.startsWith "--" then
          match Switch.spelled? name, Switch.shortened name with
          | some found, _ => attach found attached
          | none, [found] => attach found attached
          | none, [] => other s
          | none, _ => ambiguous
        else
          match s.toList with
          | '-' :: 'h' :: rest => shortHelp rest
          | _ => other s

/-- What the words are; after the separator all are values. -/
def ofTexts : List String → List CommandWord
  | [] => []
  | s :: rest =>
      match ofText s with
      | separator => separator :: rest.map value
      | w => w :: ofTexts rest

end CommandWord

/-! ## §3 Options -/

/-- The options of a launch. -/
structure LaunchOptions where
  reload : Bool
  host : Option String
  port : Option Int
  logLevel : Option String
  deriving DecidableEq, Repr

namespace LaunchOptions

/-- No options. -/
def none : LaunchOptions := ⟨false, .none, .none, .none⟩

/-- The fault that ends a launch after a usage error. -/
def usage : Fault := .exit 2

/-- The fault that ends a launch after help was given. -/
def helped : Fault := .exit 0

/-- Takes the value of a switch away. -/
def withoutValue (o : LaunchOptions) : Switch → LaunchOptions
  | .host => { o with host := .none }
  | .port => { o with port := .none }
  | .logLevel => { o with logLevel := .none }
  | _ => o

/-- Sets the value of a switch.  The word that separates options from values is no value. -/
def withValue (o : LaunchOptions) (s : Switch) (value : String) : Outcome LaunchOptions :=
  if value == "--" then .ok (o.withoutValue s)
  else match s with
  | .host => .ok { o with host := some value }
  | .logLevel => .ok { o with logLevel := some value }
  | .port =>
      match Number.readInteger? value with
      | some n => .ok { o with port := some n }
      | .none => .error usage
  | _ => .error usage

/-- Reads the words in order; `stray` tells whether a word before belongs to no option. -/
def readWords (o : LaunchOptions) (stray : Bool) : List CommandWord → Outcome LaunchOptions
  | [] => if stray then .error usage else .ok o
  | .switch .help _ :: _ => .error helped
  | .switch .reload _ :: rest => readWords { o with reload := true } stray rest
  | .switch s (some value) :: rest =>
      match o.withValue s value with
      | .ok o => readWords o stray rest
      | .error f => .error f
  | .switch s .none :: .value value :: rest =>
      match o.withValue s value with
      | .ok o => readWords o stray rest
      | .error f => .error f
  | .switch _ .none :: _ => .error usage
  | .value _ :: rest => readWords o true rest
  | .unknown :: rest => readWords o true rest
  | _ :: _ => .error usage

/-- The options in a list of words.  An ambiguous word is found before any option counts. -/
def ofWords (words : List String) : Outcome LaunchOptions :=
  let words := CommandWord.ofTexts words
  if words.contains .ambiguous then .error usage else readWords none false words

end LaunchOptions

/-! ## §4 Plans -/

/-- What the server is started with. -/
structure LaunchPlan where
  host : String
  port : Int
  reload : Bool
  logLevel : String
  deriving DecidableEq, Repr

namespace LaunchPlan

/-- The application that is served. -/
def application : String := "api:app"

/-- A text, unless it is absent or empty. -/
def textOr (given : Option String) (default : String) : String :=
  match given with
  | some s => if s.isEmpty then default else s
  | none => default

/-- The options where they are given, and the settings elsewhere; empty texts and a zero port
count as not given. -/
def ofSettings (s : ServiceSettings) (o : LaunchOptions) : LaunchPlan :=
  ⟨textOr o.host s.host, if o.port.getD 0 = 0 then s.port else o.port.getD 0,
    o.reload || s.reload, Text.lower (textOr o.logLevel s.logLevel)⟩

/-- The plan of a launch.  The settings are read first. -/
def ofWords (environment : Environment) (file : Option String) (words : List String) :
    Outcome LaunchPlan := do
  let settings ← ServiceSettings.load environment file
  let options ← LaunchOptions.ofWords words
  .ok (ofSettings settings options)

/-- A plan as a record. -/
def toJson (p : LaunchPlan) : Json :=
  .object [("host", .text p.host), ("port", .int p.port), ("reload", .bool p.reload),
    ("log_level", .text p.logLevel)]

end LaunchPlan

end IdentityService
