/-
# How settings are looked up

A call that makes settings may also say where and how they are looked up.  Such an option has a name
that starts with an underscore and may be given by name or in order; an option that is null says
nothing, and one that has no say in the two settings is passed over.

* Names are compared without regard to the case of their letters, unless the call says otherwise.
* The names of variables start with `LEDGER_ASSETS_`, unless another beginning is given.
* The file `.env` is read, unless others are named, or none.
* A variable that is set to the empty text is set, and no text stands for null, unless the call
  says otherwise.
-/
import Holdings.Entity
import Holdings.Folder
import Holdings.Text.Blank

namespace Holdings.Settings

/-- How settings are looked up. -/
structure Options where
  /-- Whether the case of letters counts in names. -/
  isCaseSensitive : Bool
  /-- What the names of variables start with. -/
  beginning : String
  /-- The environment files, in the order in which they are read. -/
  files : List String
  /-- Whether a variable that is set to the empty text counts as not set. -/
  skipsEmpty : Bool
  /-- The text that stands for null. -/
  nullText : Option String
  deriving DecidableEq, Repr, Inhabited

namespace Options

/-- The name of the environment file. -/
def envFileName : String := ".env"

/-- How settings are looked up where a call says nothing. -/
def default : Options := ⟨false, "LEDGER_ASSETS_", [envFileName], false, none⟩

/-! ## 1. Options by order -/

/-- The names of all options, in the order in which they may be given without a name. -/
def names : List String := [
  "_case_sensitive", "_nested_model_default_partial_update", "_env_prefix", "_env_prefix_target",
  "_env_file", "_env_file_encoding", "_env_ignore_empty", "_env_nested_delimiter",
  "_env_nested_max_split", "_env_parse_none_str", "_env_parse_enums", "_cli_prog_name",
  "_cli_parse_args", "_cli_settings_source", "_cli_parse_none_str", "_cli_hide_none_type",
  "_cli_avoid_json", "_cli_enforce_required", "_cli_use_class_docs_for_groups",
  "_cli_exit_on_error", "_cli_prefix", "_cli_flag_prefix_char", "_cli_implicit_flags",
  "_cli_ignore_unknown_args", "_cli_kebab_case", "_cli_shortcuts", "_secrets_dir",
  "_build_sources"]

/-- Values in order and by name, all of them by name; no option may be given twice. -/
def nameAll (args : List α) (named : List (String × α)) : Except Fault (List (String × α)) :=
  let ordered := names.zip args
  if names.length < args.length ∨ ordered.any (fun p => (named.lookup p.1).isSome) then
    .error .wrongKind
  else .ok (ordered ++ named)

/-! ## 2. Options from values -/

/-- The value of an option, if one is given that says something. -/
def given? (named : Fields) (name : String) : Option Datum :=
  match named.lookup name with
  | some .null => none
  | v => v

/-- The names of files: one text, or the elements of a list or the keys of a dictionary. -/
def fileNames : Datum → Except Fault (List String)
  | .text s => .ok [s]
  | .list xs => xs.mapM fun
    | .text s => .ok s
    | _ => .error .wrongKind
  | .dict es => .ok (es.map Prod.fst)
  | .bytes [] => .ok []
  | _ => .error .wrongKind

/-- The beginning of the names of variables. -/
def beginningOf : Option Datum → Except Fault String
  | none => .ok default.beginning
  | some (.text s) => .ok s
  | some _ => .error .wrongKind

/-- The environment files; null names none. -/
def filesOf : Option Datum → Except Fault (List String)
  | none => .ok default.files
  | some .null => .ok []
  | some v => fileNames v

/-- How settings are looked up under named values. -/
def ofNamed (named : Fields) : Except Fault Options := do
  let beginning ← beginningOf (given? named "_env_prefix")
  let files ← filesOf (named.lookup "_env_file")
  return {
    isCaseSensitive := ((given? named "_case_sensitive").map Value.isTruthy).getD false
    beginning := beginning
    files := files
    skipsEmpty := ((given? named "_env_ignore_empty").map Value.isTruthy).getD false
    nullText := (given? named "_env_parse_none_str").bind fun
      | .text s => some s
      | _ => none }

/-! ## 3. Names under options -/

/-- A name in the form in which names are compared. -/
def fold (o : Options) (name : String) : String :=
  if o.isCaseSensitive then name else Text.lowerAscii name

/-- The last value whose name is this one. -/
def lastMatch (o : Options) (name : String) (bindings : List (String × α)) : Option α :=
  (bindings.reverse.find? fun b => o.fold b.1 = o.fold name).map Prod.snd

/-- What a text that was found stands for. -/
def datumOf (o : Options) (s : String) : Datum := if o.nullText = some s then .null else .text s

end Options

end Holdings.Settings
