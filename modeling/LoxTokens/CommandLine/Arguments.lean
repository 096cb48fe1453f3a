import LoxTokens.OutputFormat

/-! # Command-line arguments

`-v`, `--verbose` and `--format` may stand before the command and after it, once in each place;
what stands after the command wins.  Before the command `-V` and `--version` end the reading at
once.  After the command the first `--` makes all that follows plain values.  Everything else
that begins with a dash, other than a dash alone, is refused. -/

namespace LoxTokens

inductive Command where
  /-- Scan a file. -/
  | run (file : Text)
  /-- Scan a text given on the command line. -/
  | eval (code : Text)
  /-- Scan the lines of the input one by one. -/
  | repl
  | version
deriving DecidableEq, Repr

structure Invocation where
  command : Command
  verbose : Bool
  format : Option OutputFormat
deriving DecidableEq, Repr

/-- What the arguments ask for. -/
inductive Request where
  | invoke (i : Invocation)
  /-- Name the program and its version, and nothing more. -/
  | showVersion
  /-- The arguments are not understood. -/
  | refused
deriving DecidableEq, Repr

/-- The options met in one place. -/
structure Options where
  verbose : Bool
  format : Option OutputFormat
deriving DecidableEq, Repr

namespace Options

def none : Options := ⟨false, .none⟩

/-- The options of two places together; the later format wins. -/
def merge (outer inner : Options) : Options :=
  ⟨outer.verbose || inner.verbose, inner.format.or outer.format⟩

def setVerbose? (o : Options) : Option Options :=
  if o.verbose then .none else some { o with verbose := true }

def setFormat? (o : Options) (value : Text) : Option Options :=
  match o.format, OutputFormat.ofName? value with
  | .none, some f => some { o with format := some f }
  | _, _ => .none

end Options

/-- What one argument with a dash does to the options. -/
inductive OptionStep where
  | options (o : Options) (rest : List Text)
  | showVersion
  | refused

/-- Whether an argument begins with a dash and is not a dash alone. -/
def isDashed : Text → Bool
  | '-' :: _ :: _ => true
  | _ => false

/-- The letters after a single dash. -/
def shortOptions (versionAllowed : Bool) (rest : List Text) : Options → Text → OptionStep
  | o, [] => .options o rest
  | o, 'v' :: letters =>
    match o.setVerbose? with
    | some o => shortOptions versionAllowed rest o letters
    | none => .refused
  | _, 'V' :: _ => if versionAllowed then .showVersion else .refused
  | _, _ => .refused

/-- One argument that begins with a dash, and the value after it if it takes one. -/
def optionStep (versionAllowed : Bool) (o : Options) (arg : Text) (rest : List Text) :
    OptionStep :=
  let format? (value : Text) (rest : List Text) : OptionStep :=
    match o.setFormat? value with
    | some o => .options o rest
    | none => .refused
  if arg = "--verbose".toList then
    match o.setVerbose? with
    | some o => .options o rest
    | none => .refused
  else if arg = "--version".toList then if versionAllowed then .showVersion else .refused
  else if arg = "--format".toList then
    match rest with
    | value :: rest => if isDashed value then .refused else format? value rest
    | [] => .refused
  else if "--format=".toList.isPrefixOf arg then format? (arg.drop "--format=".length) rest
  else if "--".toList.isPrefixOf arg then .refused
  else shortOptions versionAllowed rest o (arg.drop 1)

theorem rest_shortOptions {a : Bool} {rest : List Text} {o : Options} {t : Text} {o' : Options}
    {rest' : List Text} (h : shortOptions a rest o t = .options o' rest') : rest' = rest := by
  fun_induction shortOptions a rest o t <;> simp_all

theorem length_optionStep {a : Bool} {o : Options} {arg : Text} {rest : List Text} {o' : Options}
    {rest' : List Text} (h : optionStep a o arg rest = .options o' rest') :
    rest'.length ≤ rest.length := by
  unfold optionStep at h
  dsimp only at h
  repeat' split at h
  all_goals first
    | (simp only [OptionStep.options.injEq] at h; simp [← h.2])
    | (simp only [reduceCtorEq] at h)
    | exact Nat.le_of_eq (congrArg List.length (rest_shortOptions h))

/-- The options and plain values after the command. -/
def innerArguments (o : Options) : List Text → Option (Options × List Text)
  | [] => some (o, [])
  | arg :: rest =>
    if arg = "--".toList then some (o, rest)
    else if isDashed arg then
      match h : optionStep false o arg rest with
      | .options o rest' =>
        have := length_optionStep h
        innerArguments o rest'
      | _ => none
    else (innerArguments o rest).map fun (o, values) => (o, arg :: values)
termination_by args => args.length

/-- The command of a name with its plain values. -/
def command? (name : Text) (values : List Text) : Option Command :=
  if name = "run".toList then
    match values with
    | [file] => if file = [] then none else some (.run file)
    | _ => none
  else if name = "eval".toList then
    match values with
    | [code] => some (.eval code)
    | _ => none
  else if name = "repl".toList then if values = [] then some .repl else none
  else if name = "version".toList then if values = [] then some .version else none
  else none

/-- The request that arguments make after the options `o`. -/
def Request.after (o : Options) : List Text → Request
  | [] => .refused
  | arg :: rest =>
    if arg = "--".toList then .refused
    else if isDashed arg then
      match h : optionStep true o arg rest with
      | .options o rest' =>
        have := length_optionStep h
        Request.after o rest'
      | .showVersion => .showVersion
      | .refused => .refused
    else
      match innerArguments .none rest with
      | none => .refused
      | some (inner, values) =>
        match command? arg values with
        | none => .refused
        | some c => .invoke ⟨c, (o.merge inner).verbose, (o.merge inner).format⟩
termination_by args => args.length

/-- The request that the arguments of the program make. -/
def Request.ofArguments (args : List Text) : Request := .after .none args

end LoxTokens
