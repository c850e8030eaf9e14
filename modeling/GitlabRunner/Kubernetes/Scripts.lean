import GitlabRunner.Kubernetes.Prepare

/-!
# The scripts config map and the container commands

`generateScripts` fills the data of the scripts config map: a helper script chosen by the
shell, `parse_pwsh_script.ps1` for `pwsh` and `powershell` and `detect_shell_script` for any
other, then one script per build stage, except the stages the shell skips. The pod mounts the
config map at `scriptsDir`, so each key is a file there. `getContainerInfo` builds the command
a stage runs in its container from the paths of those files, switching on the same shell.

Over every shell, stage list and generator:
- the keys are the helper script of the shell and the stages that were not skipped
  (`generateScripts_keys`);
- the command of a stage whose script was generated names that script, which holds the text
  generated for the stage, and every script path it names is a key of the config map
  (`getContainerInfo_scripts`). The two functions switch on the shell each in its own
  `switch`; this is where they are shown to agree;
- after `Prepare` with no configured shell, the PowerShell helper script is there exactly for
  a Windows helper image, and the shell detection script exactly for any other
  (`prepare_scripts_helper`). A configured shell decides on its own: `pwsh` on a Linux helper
  image gets the PowerShell script, `bash` on a Windows one the detection script.

`shell.GenerateScript`, the scripts of the `shells` package and `Build.BuildStages` are not
under `src/`: they are inputs. A stage name is a file name that `path.Clean` leaves as it is,
so `path.Join` is a concatenation.
-/

namespace GitlabRunner.Kubernetes

/-- `shells.SNPwsh` (the `shells` package is not under `src/`). -/
def snPwsh : String := "pwsh"

/-- `detectShellScriptName`. -/
def detectShellScriptName : String := "detect_shell_script"

/-- `parsePwshScriptName`. -/
def parsePwshScriptName : String := "parse_pwsh_script.ps1"

/-- `common.ExecutorCommand`, the fields `getContainerInfo` reads. -/
structure ExecutorCommand where
  stage : String
  predefined : Bool
  deriving DecidableEq, Repr

namespace Executor

/-- `scriptPath`: `path.Join(s.scriptsDir(), stage)`. -/
def scriptPath (s : Executor) (stage : String) : String := s.scriptsDir ++ "/" ++ stage

/-- `buildRedirectionCmd`. -/
def buildRedirectionCmd (s : Executor) : String := "2>&1 | tee -a " ++ s.logFile

/-- `getContainerInfo`: the container a stage runs in and its command. `o` holds the
executor's options, whose shell is `s.Shell().Shell`. -/
def getContainerInfo (s : Executor) (o : ExecutorOptions) (cmd : ExecutorCommand) :
    String × List String :=
  if o.shell = snPwsh ∨ o.shell = snPowershell then
    if cmd.predefined then
      (helperContainerName, ("Get-Content -Path " ++ s.scriptPath cmd.stage ++ " | ") ::
        s.helperImageInfo.cmd ++ [s.buildRedirectionCmd])
    else
      (buildContainerName,
        [s.scriptPath parsePwshScriptName, s.scriptPath cmd.stage, s.buildRedirectionCmd])
  else if cmd.predefined then
    (helperContainerName,
      s.helperImageInfo.cmd ++ ["<<<", s.scriptPath cmd.stage, s.buildRedirectionCmd])
  else
    (buildContainerName, ["sh", s.scriptPath detectShellScriptName, s.scriptPath cmd.stage,
      s.buildRedirectionCmd])

end Executor

/-- What `shell.GenerateScript` returns for a stage: its script, `common.ErrSkipBuildStage`, or
another error. -/
inductive GeneratedScript where
  | script (text : String)
  | skip
  | error (err : String)
  deriving DecidableEq, Repr

/-- The loop of `generateScripts` over the build stages. -/
def generateStageScripts (generate : String → GeneratedScript) :
    List String → List (String × String) → Except String (List (String × String))
  | [], scripts => .ok scripts
  | stage :: stages, scripts =>
    match generate stage with
    | .skip => generateStageScripts generate stages scripts
    | .error err => .error ("generating trap shell script: " ++ err)
    | .script script => generateStageScripts generate stages (mapInsert stage script scripts)

/-- `generateScripts`. `validationScript` is `shells.PwshValidationScript`, `detectScript`
`shells.BashDetectShellScript`, `stages` `s.Build.BuildStages()` and `generate` the shell's
`GenerateScript` with the executor's shell information. -/
def generateScripts (o : ExecutorOptions) (validationScript : String → String)
    (detectScript : String) (stages : List String) (generate : String → GeneratedScript) :
    Except String (List (String × String)) :=
  let scripts :=
    if o.shell = snPwsh ∨ o.shell = snPowershell then
      mapInsert parsePwshScriptName (validationScript o.shell) []
    else mapInsert detectShellScriptName detectScript []
  generateStageScripts generate stages scripts

/-! ## Script paths -/

namespace Executor

theorem scriptPath_inj {s : Executor} {a b : String} : s.scriptPath a = s.scriptPath b ↔ a = b := by
  refine ⟨fun h => ?_, congrArg _⟩
  have h := congrArg String.data h
  simp only [scriptPath, String.data_append, List.append_cancel_left_eq] at h
  exact String.ext h

theorem scriptPath_data (s : Executor) (k : String) :
    ∃ rest, (s.scriptPath k).data = '/' :: rest :=
  ⟨_, rfl⟩

/-- A string that starts with another character than `/` is no script path. -/
theorem ne_scriptPath {s : Executor} {arg : String} (c : Char) (hc : c ≠ '/')
    (h : arg.data.head? = some c) (k : String) : arg ≠ s.scriptPath k := by
  rintro rfl
  obtain ⟨rest, hrest⟩ := s.scriptPath_data k
  rw [hrest] at h
  exact hc (Option.some.inj h).symm

theorem buildRedirectionCmd_ne_scriptPath (s : Executor) (k : String) :
    s.buildRedirectionCmd ≠ s.scriptPath k :=
  ne_scriptPath '2' (by decide) (by rfl) k

end Executor

/-! ## The config map -/

section Generate

variable {generate : String → GeneratedScript}

/-- A key that is no stage, or whose stage is skipped, keeps its entry. -/
theorem lookup_generateStageScripts_of_skip {stages : List String}
    {scripts r : List (String × String)} (h : generateStageScripts generate stages scripts = .ok r)
    {k : String} (hk : k ∉ stages ∨ generate k = .skip) : r.lookup k = scripts.lookup k := by
  induction stages, scripts using generateStageScripts.induct generate with
  | case1 scripts => cases h; rfl
  | case2 stage stages scripts hskip ih =>
    simp only [generateStageScripts, hskip] at h
    exact ih h (hk.imp (fun hk hmem => hk (List.mem_cons_of_mem _ hmem)) id)
  | case3 stage stages scripts err herr => simp [generateStageScripts, herr] at h
  | case4 stage stages scripts script hscript ih =>
    simp only [generateStageScripts, hscript] at h
    have hne : k ≠ stage := by
      rintro rfl
      rcases hk with hk | hk
      · exact hk (List.mem_cons_self _ _)
      · rw [hscript] at hk; cases hk
    rw [ih h (hk.imp (fun hk hmem => hk (List.mem_cons_of_mem _ hmem)) id),
      lookup_mapInsert_ne _ _ hne]

/-- A stage whose script was generated has it under its name. -/
theorem lookup_generateStageScripts_of_script {stages : List String}
    {scripts r : List (String × String)} (h : generateStageScripts generate stages scripts = .ok r)
    {k text : String} (hk : k ∈ stages) (hgen : generate k = .script text) :
    r.lookup k = some text := by
  induction stages, scripts using generateStageScripts.induct generate with
  | case1 scripts => cases hk
  | case2 stage stages scripts hskip ih =>
    simp only [generateStageScripts, hskip] at h
    rcases List.mem_cons.1 hk with rfl | hk
    · rw [hskip] at hgen; cases hgen
    · exact ih h hk
  | case3 stage stages scripts err herr => simp [generateStageScripts, herr] at h
  | case4 stage stages scripts script hscript ih =>
    simp only [generateStageScripts, hscript] at h
    by_cases hks : k ∈ stages
    · exact ih h hks
    · obtain rfl : k = stage := by simpa [hks] using hk
      rw [hscript] at hgen
      cases hgen
      rw [lookup_generateStageScripts_of_skip h (.inl hks), lookup_mapInsert_self]

/-- No stage of a loop that ended without an error failed to generate. -/
theorem generate_ne_error {stages : List String} {scripts r : List (String × String)}
    (h : generateStageScripts generate stages scripts = .ok r) {k err : String}
    (hk : k ∈ stages) : generate k ≠ .error err := by
  induction stages, scripts using generateStageScripts.induct generate with
  | case1 scripts => cases hk
  | case2 stage stages scripts hskip ih =>
    simp only [generateStageScripts, hskip] at h
    rcases List.mem_cons.1 hk with rfl | hk
    · simp [hskip]
    · exact ih h hk
  | case3 stage stages scripts err herr => simp [generateStageScripts, herr] at h
  | case4 stage stages scripts script hscript ih =>
    simp only [generateStageScripts, hscript] at h
    rcases List.mem_cons.1 hk with rfl | hk
    · simp [hscript]
    · exact ih h hk

/-- The map `generateScripts` starts from holds the helper script of the shell alone. -/
theorem lookup_helperScripts (c : Prop) [Decidable c] (v w k : String) :
    ((if c then mapInsert parsePwshScriptName v [] else mapInsert detectShellScriptName w []).lookup
        k).isSome ↔ k = if c then parsePwshScriptName else detectShellScriptName := by
  split_ifs <;> simp only [mapInsert, List.lookup_cons, List.lookup_nil] <;> split <;> simp_all

/-- The helper script of the shell and every stage that was not skipped are keys. -/
theorem lookup_generateScripts_of_key {o : ExecutorOptions} {validationScript : String → String}
    {detectScript : String} {stages : List String} {scripts : List (String × String)}
    (h : generateScripts o validationScript detectScript stages generate = .ok scripts)
    {k : String} (hk : k = (if o.shell = snPwsh ∨ o.shell = snPowershell then parsePwshScriptName
        else detectShellScriptName) ∨ (k ∈ stages ∧ generate k ≠ .skip)) :
    (scripts.lookup k).isSome := by
  simp only [generateScripts] at h
  cases hgen : generate k with
  | script text =>
    by_cases hks : k ∈ stages
    · simp [lookup_generateStageScripts_of_script h hks hgen]
    · rw [lookup_generateStageScripts_of_skip h (.inl hks), lookup_helperScripts]
      exact hk.resolve_right fun hk => hks hk.1
  | skip =>
    rw [lookup_generateStageScripts_of_skip h (.inr hgen), lookup_helperScripts]
    exact hk.resolve_right fun hk => hk.2 hgen
  | error err =>
    have hks : k ∉ stages := fun hks => generate_ne_error h hks hgen
    rw [lookup_generateStageScripts_of_skip h (.inl hks), lookup_helperScripts]
    exact hk.resolve_right fun hk => hks hk.1

end Generate

/-- The keys of the scripts config map are the helper script of the shell,
`parse_pwsh_script.ps1` for `pwsh` and `powershell` and `detect_shell_script` for any other,
and the stages whose script was not skipped. -/
theorem generateScripts_keys {o : ExecutorOptions} {validationScript : String → String}
    {detectScript : String} {stages : List String} {generate : String → GeneratedScript}
    {scripts : List (String × String)}
    (h : generateScripts o validationScript detectScript stages generate = .ok scripts)
    (k : String) :
    (scripts.lookup k).isSome ↔
      k = (if o.shell = snPwsh ∨ o.shell = snPowershell then parsePwshScriptName
        else detectShellScriptName) ∨ (k ∈ stages ∧ generate k ≠ .skip) := by
  refine ⟨fun hsome => ?_, lookup_generateScripts_of_key h⟩
  by_cases hk : k ∈ stages ∧ generate k ≠ .skip
  · exact .inr hk
  · simp only [generateScripts] at h
    rw [not_and_or, not_not] at hk
    rw [lookup_generateStageScripts_of_skip h hk, lookup_helperScripts] at hsome
    exact .inl hsome

/-- The stages of a job whose `get_sources` stage the shell skips. -/
def skippingGenerate (stage : String) : GeneratedScript :=
  if stage = "get_sources" then .skip else .script stage

theorem generateScripts_keys_sample :
    ∃ scripts, generateScripts executorOptions id "detect"
        ["prepare_script", "get_sources", "step_script"] skippingGenerate = .ok scripts ∧
      (scripts.lookup "get_sources").isSome = false :=
  let h := @generateScripts_keys executorOptions id "detect"
    ["prepare_script", "get_sources", "step_script"] skippingGenerate _ rfl "get_sources"
  ⟨_, rfl, Bool.eq_false_iff.2 fun hs => absurd (h.1 hs) (by decide)⟩

/-- The command a stage runs names the script generated for it, which the config map holds
under the stage's name, and every script path the command names is a key of the config map,
as long as the helper image's own command names none. -/
theorem getContainerInfo_scripts {s : Executor} {o : ExecutorOptions}
    {validationScript : String → String} {detectScript : String} {stages : List String}
    {generate : String → GeneratedScript} {scripts : List (String × String)}
    {cmd : ExecutorCommand} {text : String}
    (h : generateScripts o validationScript detectScript stages generate = .ok scripts)
    (hstage : cmd.stage ∈ stages) (hgen : generate cmd.stage = .script text)
    (hcmd : ∀ arg ∈ s.helperImageInfo.cmd, ∀ k, arg ≠ s.scriptPath k) :
    scripts.lookup cmd.stage = some text ∧
    (s.scriptPath cmd.stage ∈ (s.getContainerInfo o cmd).2 ∨
      "Get-Content -Path " ++ s.scriptPath cmd.stage ++ " | " ∈ (s.getContainerInfo o cmd).2) ∧
    ∀ k, s.scriptPath k ∈ (s.getContainerInfo o cmd).2 → (scripts.lookup k).isSome := by
  have hgs := h
  simp only [generateScripts] at hgs
  have hkey := fun k => lookup_generateScripts_of_key h (k := k)
  have hstage' := hkey cmd.stage (.inr ⟨hstage, by simp [hgen]⟩)
  refine ⟨lookup_generateStageScripts_of_script hgs hstage hgen, ?_, fun k hk => ?_⟩
  · unfold Executor.getContainerInfo
    split_ifs <;> simp
  · unfold Executor.getContainerInfo at hk
    have hr := s.buildRedirectionCmd_ne_scriptPath k
    split_ifs at hk with hpwsh hpre hpre <;>
      simp only [List.mem_cons, List.mem_append, List.mem_singleton, List.not_mem_nil,
        or_false, or_assoc, Executor.scriptPath_inj] at hk
    · rcases hk with hk | hk | hk
      · exact absurd hk.symm (Executor.ne_scriptPath 'G' (by decide) (by rfl) k)
      · exact absurd rfl (hcmd _ hk k)
      · exact absurd hk.symm hr
    · rcases hk with rfl | rfl | hk
      · exact hkey _ (.inl (if_pos hpwsh).symm)
      · exact hstage'
      · exact absurd hk.symm hr
    · rcases hk with hk | hk | rfl | hk
      · exact absurd rfl (hcmd _ hk k)
      · exact absurd hk.symm (Executor.ne_scriptPath '<' (by decide) (by rfl) k)
      · exact hstage'
      · exact absurd hk.symm hr
    · rcases hk with hk | rfl | rfl | hk
      · exact absurd hk.symm (Executor.ne_scriptPath 's' (by decide) (by rfl) k)
      · exact hkey _ (.inl (if_neg hpwsh).symm)
      · exact hstage'
      · exact absurd hk.symm hr

theorem getContainerInfo_scripts_sample :
    ∃ scripts, generateScripts executorOptions id "detect"
        ["prepare_script", "get_sources", "step_script"] skippingGenerate = .ok scripts ∧
      scripts.lookup "step_script" = some "step_script" ∧
      (scripts.lookup "detect_shell_script").isSome :=
  let h := @getContainerInfo_scripts sampleExecutor executorOptions id "detect"
    ["prepare_script", "get_sources", "step_script"] skippingGenerate _ ⟨"step_script", false⟩
    "step_script" rfl (by decide) rfl
    (fun _ harg k => Executor.ne_scriptPath 'g' (by decide)
      (by rw [List.mem_singleton.1 harg]; rfl) k)
  ⟨_, rfl, h.1, h.2.2 "detect_shell_script" (by decide)⟩

/-- After `Prepare` from the executor's own options, and for stages that do not share a name
with a helper script, the config map holds the PowerShell helper script exactly when the shell
is `pwsh` or `powershell`, and the shell detection script exactly otherwise. With a configured
shell that is the configured one; with none, PowerShell for a Windows helper image and `bash`
for any other. -/
theorem prepare_scripts_helper {s : Executor} {inp : PrepareInputs}
    {order : List (String × ConfigField)} {p : Prepared} {validationScript : String → String}
    {detectScript : String} {stages : List String} {generate : String → GeneratedScript}
    {scripts : List (String × String)}
    (h : s.prepare executorOptions inp order = .ok p)
    (hgen : generateScripts p.options validationScript detectScript stages generate = .ok scripts)
    (hstages : parsePwshScriptName ∉ stages ∧ detectShellScriptName ∉ stages) :
    (inp.config.shell ≠ "" →
      ((scripts.lookup parsePwshScriptName).isSome ↔
          inp.config.shell = snPwsh ∨ inp.config.shell = snPowershell) ∧
        ((scripts.lookup detectShellScriptName).isSome ↔
          ¬ (inp.config.shell = snPwsh ∨ inp.config.shell = snPowershell))) ∧
    (inp.config.shell = "" →
      ((scripts.lookup parsePwshScriptName).isSome ↔
          p.executor.helperImageInfo.osType = osTypeWindows) ∧
        ((scripts.lookup detectShellScriptName).isSome ↔
          p.executor.helperImageInfo.osType ≠ osTypeWindows)) := by
  have hsh : p.options.shell = if inp.config.shell ≠ "" then inp.config.shell
      else if p.executor.helperImageInfo.osType = osTypeWindows then snPowershell else "bash" := by
    rw [(prepare_options_dirs h).1, updateShell_shell]
    unfold setupDefaultExecutorOptions
    split_ifs <;> rfl
  simp only [generateScripts] at hgen
  rw [lookup_generateStageScripts_of_skip hgen (.inl hstages.1),
    lookup_generateStageScripts_of_skip hgen (.inl hstages.2), lookup_helperScripts,
    lookup_helperScripts, hsh]
  refine ⟨fun hc => ?_, fun hc => ?_⟩
  · simp only [if_pos hc]
    by_cases hp : inp.config.shell = snPwsh ∨ inp.config.shell = snPowershell <;>
      simp [hp, parsePwshScriptName, detectShellScriptName]
  · by_cases hw : p.executor.helperImageInfo.osType = osTypeWindows <;>
      simp [hc, hw, snPwsh, snPowershell, parsePwshScriptName, detectShellScriptName]

theorem prepare_scripts_helper_windows :
    ∃ p scripts, sampleExecutor.prepare executorOptions windowsInputs nodeSelectorOptions =
        .ok p ∧
      generateScripts p.options id "detect" ["prepare_script", "get_sources", "step_script"]
        skippingGenerate = .ok scripts ∧
      (scripts.lookup parsePwshScriptName).isSome :=
  let h := @prepare_scripts_helper sampleExecutor windowsInputs nodeSelectorOptions _ id "detect"
    ["prepare_script", "get_sources", "step_script"] skippingGenerate _ rfl rfl (by decide)
  ⟨_, _, rfl, rfl, (h.2 rfl).1.2 (by decide)⟩

end GitlabRunner.Kubernetes
