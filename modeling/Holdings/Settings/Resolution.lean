/-
# Where settings come from

Each setting is taken from the first place that has it: a named argument, a variable of the
environment, the environment file, the default.  How names are compared, and which variables and
files count, is a matter of options (`Settings/Options.lean`); of several names that agree, the last
one counts.  The variables are those of the environment itself, and the files lie in a folder that
holds at most the one environment file.

What is found is then checked, the level before the form: a level must be one of five names, and the form
a truth value, zero or one, or a word for one of the two.
-/
import Holdings.Amount.Range
import Holdings.Entity.Verdict
import Holdings.Settings.EnvFile
import Holdings.Settings.Options

namespace Holdings

/-- What settings are read from, beside named arguments. -/
structure Environment where
  values : List (String × String)
  envFile : Option String
  deriving DecidableEq, Repr, Inhabited

namespace Environment

open Settings (Options)

/-! ## 1. Variables and files -/

/-- The environment without variables and without a file. -/
def empty : Environment := ⟨[], none⟩

/-- The environment without a variable. -/
def dropVariable (e : Environment) (name : String) : Environment :=
  { e with values := e.values.filter fun p => p.1 != name }

/-- The environment with a variable set.  Neither name nor text can hold the zero character, and a
name is not empty and holds no sign of equality. -/
def setVariable (e : Environment) (name text : String) : Except Fault Environment :=
  if name.toList.contains '\x00' ∨ text.toList.contains '\x00' then
    .error (.refused .zeroCharacter)
  else if name.toList.contains '=' then .error (.refused .variableName)
  else if name.isEmpty then .error .badName
  else .ok { e with values := Value.putEntry name text e.values }

/-- The environment with another file. -/
def writeFile (e : Environment) (text : String) : Environment := { e with envFile := some text }

/-- The folder that environment files lie in. -/
def folder (e : Environment) : Folder :=
  ⟨[], (e.envFile.map fun text => (⟨.around 0, Options.envFileName⟩, text)).toList⟩

/-- The text of an environment file, if it is there.  A path may start at the home of a user, where no
such files are known. -/
def fileText? (e : Environment) (name : String) : Except Fault (Option String) :=
  match (Path.ofText name).user? with
  | some user => if user.isEmpty then .ok none else .error .noHome
  | none =>
    match e.folder.read name with
    | .ok text => .ok (some text)
    | .error .badName => .error .badName
    | .error _ => .ok none

/-- The texts of environment files, in order; a file that is not there is passed over. -/
def fileTexts (e : Environment) (names : List String) : Except Fault (List String) := do
  return (← names.mapM e.fileText?).filterMap id

/-- The bindings of environment files, one file after the other. -/
def fileBindings (e : Environment) (texts : List String) : List EnvFile.Binding :=
  texts.flatMap (EnvFile.read fun name => e.values.lookup name)

/-! ## 2. Looking up -/

/-- Whether a binding counts: one of the empty text may not. -/
def counts (o : Options) (b : EnvFile.Binding) : Bool := !(o.skipsEmpty && b.2 = some "")

/-- The value that bindings have for a setting. -/
def valueIn? (o : Options) (setting : String) (bindings : List EnvFile.Binding) : Option Datum :=
  ((o.lastMatch (o.beginning ++ setting) (bindings.filter (counts o))).join).map o.datumOf

/-- The value of a setting, where it is first found; `fromFiles` are the bindings of the environment
files. -/
def find? (e : Environment) (o : Options) (fromFiles : List EnvFile.Binding) (named : Fields)
    (setting : String) : Option Datum :=
  (o.lastMatch setting named).orElse fun _ =>
    (valueIn? o setting (e.values.map fun p => (p.1, some p.2))).orElse fun _ =>
      valueIn? o setting fromFiles

end Environment

/-! ## 3. Checks -/

namespace Datum

/-- One of the names of levels. -/
def checkLevel : Datum → Verdict LogLevel
  | .text s =>
    match LogLevel.ofName? s with
    | some l => .valid l
    | none => .defect .unknownLevel
  | _ => .defect .unknownLevel

/-- The truth value of a word. -/
def flagOfWord? (s : String) : Option Bool :=
  let w := Text.lowerAscii s
  if ["1", "true", "t", "yes", "y", "on"].contains w then some true
  else if ["0", "false", "f", "no", "n", "off"].contains w then some false
  else none

/-- The truth value of a number. -/
def flagOfInt? (n : Int) : Option Bool :=
  if n = 0 then some false else if n = 1 then some true else none

/-- A truth value that was found, or the defect of not being readable as one. -/
def flagVerdict : Option Bool → Verdict Bool
  | some b => .valid b
  | none => .defect .unreadableBool

/-- The truth value of a whole number; one beyond the signed 64-bit words is not even read. -/
def checkWholeFlag (n : Int) : Verdict Bool :=
  if Amount.isWord n then flagVerdict (flagOfInt? n) else .defect .notBool

/-- The least word, which no float that is read as an integer is equal to. -/
def leastWord : Int := Amount.wordMin

/-- A truth value, a number or a word for one.  A float is read if it is whole and lies strictly
between the least word and its opposite. -/
def checkFlag : Datum → Verdict Bool
  | .bool b => .valid b
  | .int n => checkWholeFlag n
  | .float x =>
    match x.toInt? with
    | some n => if n = leastWord then .defect .notBool else checkWholeFlag n
    | none => .defect .notBool
  | .text s => flagVerdict (flagOfWord? s)
  | .bytes bs => flagVerdict ((String.fromUTF8? ⟨bs.toArray⟩).bind flagOfWord?)
  | _ => .defect .notBool

end Datum

/-! ## 4. Resolution -/

/-- A setting that was found and checked, or its default. -/
def settingOr (setting : String) (default : α) (check : Datum → Verdict α) :
    Option Datum → Verdict α
  | some v => (check v).under setting
  | none => .valid default

/-- Settings that were found, checked one after the other. -/
def Settings.ofFound (find? : String → Option Datum) : Verdict Settings :=
  (Verdict.both
    (settingOr "log_level" .warning Datum.checkLevel (find? "log_level"))
    (settingOr "log_json" false Datum.checkFlag (find? "log_json"))).map
      fun p => Settings.ofLevel p.1 p.2

/-- The settings of an environment under named arguments and options, and what is to be told about
the files that were read for them. -/
def Environment.settings (e : Environment) (o : Settings.Options) (named : Fields) :
    Except Fault (Verdict Settings × List String) :=
  (e.fileTexts o.files).map fun texts =>
    (Settings.ofFound (e.find? o (e.fileBindings texts) named), texts.flatMap EnvFile.notices)

end Holdings
