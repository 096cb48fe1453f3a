import LoxTokens.CommandLine.Program
import LoxTokens.Config.Read
import LoxTokens.Proofs.StoredFiles

/-! # What reaches the output of a run

A run that scans one source is given more than the source: arguments, a configuration, a log level.
Of all that only the format reaches its exit code and its output (`visible_run`), and a configuration
that cannot be had reaches neither in any run (`visible_run_of_configError`).  So two runs over one
text in one format cannot be told apart by them (`output_noninterference`). -/

namespace LoxTokens

/-- What the caller of a run sees besides the error stream: exit code and output. -/
def RunResult.visible (r : RunResult) : Nat × Text := (r.code, r.out)

namespace Program

/-- The text that a command scans, or why there is none.  A prompt and a version scan none. -/
def sourceOf? (files : Files) : Command → Option (Except FileError Text)
  | .run file => some (files.readText file)
  | .eval code => some (.ok code)
  | .repl => none
  | .version => none

/-- The format named on the command line, else that of the configuration if there is one, else
text. -/
def formatOf (flag : Option OutputFormat) (config : Except ConfigError Config) : OutputFormat :=
  match flag, config with
  | some f, _ => f
  | none, .ok c => c.format
  | none, .error _ => .text

/-- Exit code and output of a run over a source. -/
def outcomeOf (format : OutputFormat) : Except FileError Text → Nat × Text
  | .ok text =>
    (if (Scanned.ofSource text).hasErrors then dataError else 0,
      renderTokens (Scanned.ofSource text).tokens format)
  | .error _ => (failure, [])

variable {args : List Text} {i : Invocation} {s : Surroundings}
  {source source' : Except FileError Text}

theorem effectiveFormat_eq (i : Invocation) (s : Surroundings) :
    effectiveFormat i s = formatOf i.format s.config := by
  unfold effectiveFormat effectiveConfig formatOf
  cases i.format with
  | some f => rfl
  | none => cases s.config <;> rfl

theorem visible_invoke (worded : ConfigError → Text)
    (hsource : sourceOf? s.files i.command = some source) :
    (invoke worded i s).visible = outcomeOf (formatOf i.format s.config) source := by
  rw [← effectiveFormat_eq]
  unfold invoke
  cases hcommand : i.command with
  | repl | version =>
      rw [hcommand] at hsource
      cases hsource
  | eval code =>
      rw [hcommand] at hsource
      obtain rfl := Option.some.inj hsource
      rfl
  | run file =>
      rw [hcommand] at hsource
      obtain rfl := Option.some.inj hsource
      cases hread : s.files.readText file with
      | ok text =>
          simp only [perform, hread]
          rfl
      | error e =>
          simp only [perform, hread]
          rfl

/-- Of what a run is given, the source and the format decide its exit code and output. -/
theorem visible_run (worded : ConfigError → Text) (hargs : Request.ofArguments args = .invoke i)
    (hsource : sourceOf? s.files i.command = some source) :
    (run args s worded).visible = outcomeOf (formatOf i.format s.config) source := by
  have hrun : run args s worded = invoke worded i s := by rw [run, hargs]
  rw [hrun, visible_invoke worded hsource]

theorem outcomeOf_congr (format : OutputFormat) (h : source.toOption = source'.toOption) :
    outcomeOf format source = outcomeOf format source' := by
  cases source with
  | ok text =>
      cases source' with
      | ok text' =>
          obtain rfl : text = text' := Option.some.inj h
          rfl
      | error e => cases h
  | error e =>
      cases source' with
      | ok text' => cases h
      | error e' => rfl

/-! ### Configurations that cannot be had -/

theorem perform_congr {s s' : Surroundings} (c : Command) (format : OutputFormat)
    (hconfig : effectiveConfig s = effectiveConfig s') (hfiles : s.files = s'.files)
    (hinput : s.input = s'.input) : perform c format s = perform c format s' := by
  cases c with
  | run | eval | version => simp only [perform, hfiles]
  | repl => simp only [perform, hconfig, hfiles, hinput]

theorem visible_invoke_eq_perform (worded : ConfigError → Text) (i : Invocation)
    (s : Surroundings) :
    (invoke worded i s).visible = ((perform i.command (effectiveFormat i s) s).1,
      (perform i.command (effectiveFormat i s) s).2.1) := rfl

/-- Whatever the arguments, a configuration that cannot be had counts as one that sets nothing. -/
theorem visible_run_of_configError (worded : ConfigError → Text) (args : List Text)
    {e : ConfigError} (h : s.config = .error e) :
    (run args s worded).visible = (run args { s with config := .ok .standard } worded).visible := by
  have hconfig : effectiveConfig s = effectiveConfig { s with config := .ok .standard } := by
    rw [effectiveConfig, h]
    rfl
  unfold run
  cases Request.ofArguments args with
  | refused | showVersion => rfl
  | invoke i =>
      have hformat : effectiveFormat i s = effectiveFormat i { s with config := .ok .standard } := by
        rw [effectiveFormat, effectiveFormat, hconfig]
      have hperform := perform_congr i.command (effectiveFormat i s) hconfig rfl rfl
      simp only [visible_invoke_eq_perform]
      rw [hperform, hformat]

theorem loadUser_of_absent {files : Files} {path : Text} (h : files.present path = false) :
    Config.loadUser files (some path) = .ok .standard := by
  rw [Config.loadUser, Config.load, h]
  rfl

/-- **Only the source and the format reach the output of a run that scans a source.**  Whatever the
configuration file holds, if it can be had at all, whatever the log level asked for, and whatever
else is around or how errors are worded: a text gives its tokens in the format, and the exit code
tells whether it has errors; a file that is no text gives nothing and an exit code of its own.  So
runs over the same text in the same format agree, one over a file with one over its content, and a
configuration that cannot be had changes nothing compared with none. -/
theorem output_noninterference (worded : ConfigError → Text) (configFiles : Files)
    (path logVariable : Option Text) (files : Files) (input : List UInt8)
    (hargs : Request.ofArguments args = .invoke i)
    (hsource : sourceOf? files i.command = some source) :
    let config := Config.loadUser configFiles path
    let result := run args ⟨config, logVariable, files, input⟩ worded
    (∀ text, source = .ok text →
      result.out = renderTokens (Scanned.ofSource text).tokens (formatOf i.format config) ∧
        result.code = if (Scanned.ofSource text).hasErrors then 65 else 0) ∧
    (∀ e, source = .error e → result.out = [] ∧ result.code ≠ 0 ∧ result.code ≠ 65) ∧
    (∀ (worded' : ConfigError → Text) (configFiles' : Files) (path' logVariable' : Option Text)
        (files' : Files) (input' : List UInt8) (args' : List Text) (i' : Invocation)
        (source' : Except FileError Text),
      Request.ofArguments args' = .invoke i' → sourceOf? files' i'.command = some source' →
      source'.toOption = source.toOption →
      formatOf i'.format (Config.loadUser configFiles' path') = formatOf i.format config →
      let result' :=
        run args' ⟨Config.loadUser configFiles' path', logVariable', files', input'⟩ worded'
      result'.out = result.out ∧ result'.code = result.code) ∧
    (∀ (file code : Text) (evalArgs : List Text) (verbose : Bool), i.command = .run file →
      files.read file = .ok (Text.utf8 code) →
      Request.ofArguments evalArgs = .invoke ⟨.eval code, verbose, i.format⟩ →
      let evaluated := run evalArgs ⟨config, logVariable, files, input⟩ worded
      evaluated.out = result.out ∧ evaluated.code = result.code) ∧
    (∀ (e : ConfigError) (noFiles : Files) (place : Text), config = .error e →
      noFiles.present place = false →
      let unconfigured :=
        run args ⟨Config.loadUser noFiles (some place), logVariable, files, input⟩ worded
      unconfigured.out = result.out ∧ unconfigured.code = result.code) := by
  intro config result
  have hresult : result.visible = outcomeOf (formatOf i.format config) source :=
    visible_run worded hargs hsource
  have hagrees : ∀ {other : RunResult}, other.visible = result.visible →
      other.out = result.out ∧ other.code = result.code := by
    intro other h
    exact ⟨congrArg Prod.snd h, congrArg Prod.fst h⟩
  refine ⟨?_, ?_, ?_, ?_, ?_⟩
  · rintro text rfl
    exact ⟨congrArg Prod.snd hresult, congrArg Prod.fst hresult⟩
  · rintro e rfl
    have hcode : result.code = failure := congrArg Prod.fst hresult
    refine ⟨congrArg Prod.snd hresult, ?_, ?_⟩
    · rw [hcode]
      decide
    · rw [hcode]
      decide
  · intro worded' configFiles' path' logVariable' files' input' args' i' source' hargs' hsource'
      htext hformat
    have hresult' := visible_run
      (s := ⟨Config.loadUser configFiles' path', logVariable', files', input'⟩) worded' hargs' hsource'
    apply hagrees
    rw [hresult', hresult, hformat]
    exact outcomeOf_congr _ htext
  · intro file code evalArgs verbose hcommand hread heval
    have hcode : source = .ok code := by
      rw [hcommand, sourceOf?, Files.readText, hread] at hsource
      simp only [Text.ofUtf8?_utf8] at hsource
      exact (Option.some.inj hsource).symm
    have hevaluated := visible_run (s := ⟨config, logVariable, files, input⟩) worded heval rfl
    apply hagrees
    rw [hevaluated, hresult, hcode]
  · intro e noFiles place hconfig habsent
    have hbroken := visible_run_of_configError (s := ⟨config, logVariable, files, input⟩) worded args
      hconfig
    apply hagrees
    rw [loadUser_of_absent habsent]
    exact hbroken.symm

/-- A configuration that does not parse beside a source of a stray character and a name. -/
def brokenConfigTree : Files :=
  FileTree.view
    ⟨[(["config".toList], Text.utf8 "= =".toList), (["source".toList], Text.utf8 "@ x".toList)], []⟩

/-- Under a configuration that does not parse, the source in the file and the source on the command
line come out alike. -/
theorem output_noninterference_broken_config :
    let config := Config.loadUser brokenConfigTree (some "config".toList)
    let result := run ["-v".toList, "run".toList, "source".toList] ⟨config, none, brokenConfigTree, []⟩
    let evaluated := run ["eval".toList, "@ x".toList] ⟨config, none, brokenConfigTree, []⟩
    config = .error .parse ∧
      brokenConfigTree.read "source".toList = .ok (Text.utf8 "@ x".toList) ∧
      result.out = "IDENTIFIER x null\nEOF  null\n".toList ∧ result.code = 65 ∧
      evaluated.out = result.out ∧ evaluated.code = result.code := by
  intro config result evaluated
  have hconfig : config = .error .parse := rfl
  have hread : brokenConfigTree.read "source".toList = .ok (Text.utf8 "@ x".toList) := rfl
  have hargs : Request.ofArguments ["-v".toList, "run".toList, "source".toList] =
      .invoke ⟨.run "source".toList, true, none⟩ := by decide +kernel
  have heval : Request.ofArguments ["eval".toList, "@ x".toList] =
      .invoke ⟨.eval "@ x".toList, false, none⟩ := by decide +kernel
  have hsource : sourceOf? brokenConfigTree (.run "source".toList) = some (.ok "@ x".toList) := rfl
  obtain ⟨htext, -, -, hsame, -⟩ := output_noninterference ConfigError.brief brokenConfigTree
    (some "config".toList) none brokenConfigTree [] hargs hsource
  obtain ⟨hout, hcode⟩ := htext "@ x".toList rfl
  refine ⟨hconfig, hread, ?_, ?_, hsame _ _ _ false rfl hread heval⟩
  · refine hout.trans ?_
    rw [show Config.loadUser brokenConfigTree (some "config".toList) = .error .parse from hconfig]
    decide +kernel
  · rw [hcode]
    decide +kernel

end Program
end LoxTokens
