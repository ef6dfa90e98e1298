import OddBox.Configuration.Reload
import OddBox.KeyedList

/-!
What a hosted process is started with: the program, the arguments, the variables and the
directory that its loop hands to the system. The port that the loop has picked stands in the
arguments and in the variables.
-/

namespace OddBox.ProcHost

open OddBox.Configuration

/-! ## The binary -/

/-- What a loop asks of the file system. -/
structure Files where
  currentDir : String
  pathExists : String → Bool
  /-- `which::which`. -/
  which : String → Option String

def isAbsolute (path : String) : Bool := path.toList.head? == some '/'

/-- `Path::join`. -/
def join (base path : String) : String :=
  if isAbsolute path || base == "" then path
  else if base.toList.getLast? == some '/' then base ++ path
  else base ++ "/" ++ path

def resolveBinPath (files : Files) (workdir bin : String) : Option String :=
  let path := if isAbsolute bin then bin else join workdir bin
  if files.pathExists path then some path
  else
    let path := join files.currentDir bin
    if files.pathExists path then some path else files.which bin

/-! ## The command -/

structure Command where
  program : String
  args : List String
  /-- What the child has besides the variables of odd-box itself. -/
  envs : List (String × EnvVar)
  currentDir : String
  deriving DecidableEq, Repr

/-- The variables of the process stand over those of the configuration, and the port stands
over both. -/
def childVariables (globals : List EnvVar) (process : ResolvedProcess) (port : UInt16) :
    List (String × EnvVar) :=
  KeyedList.collect EnvVar.key
    (globals ++ process.envVars.getD [] ++ [⟨"PORT", portText port⟩])

def resolveArgs (process : ResolvedProcess) (port : UInt16) : List String :=
  (process.args.getD []).map fun arg => replace arg "$port" (portText port)

/-- The command for a process whose port has been picked, if its binary is found. -/
def launchCommand (files : Files) (globals : List EnvVar) (process : ResolvedProcess)
    (port : UInt16) : Option Command :=
  let workdir := process.dir.getD files.currentDir
  (resolveBinPath files workdir process.bin).map fun program =>
    { program := program
      args := resolveArgs process port
      envs := childVariables globals process port
      currentDir := workdir }

def Command.env (self : Command) (key : String) : Option String :=
  (self.envs.lookup key).map EnvVar.value

/-- The child of a process is told the port: in its variables, and in its arguments wherever
they ask for it. -/
structure Command.Tells (command : Command) (process : ResolvedProcess) (port : UInt16) :
    Prop where
  env : command.env "PORT" = some (portText port)
  args : command.args = resolveArgs process port

section

variable {files : Files} {globals : List EnvVar} {process : ResolvedProcess} {port : UInt16}
  {command : Command}

theorem launchCommand_tells (h : launchCommand files globals process port = some command) :
    command.Tells process port := by
  obtain ⟨program, -, rfl⟩ := Option.map_eq_some_iff.mp h
  refine ⟨?_, rfl⟩
  change ((childVariables globals process port).lookup "PORT").map EnvVar.value = _
  rw [childVariables, KeyedList.collect_concat, KeyedList.lookup_insert, if_pos rfl]
  rfl

/-- Every other variable has the last value that the process gives it, or else the last that
the configuration gives it. -/
theorem launchCommand_variable (h : launchCommand files globals process port = some command)
    {key : String} (hkey : key ≠ "PORT") :
    command.env key = ((KeyedList.lastKeyed EnvVar.key (process.envVars.getD []) key).or
      (KeyedList.lastKeyed EnvVar.key globals key)).map EnvVar.value := by
  obtain ⟨program, -, rfl⟩ := Option.map_eq_some_iff.mp h
  change ((childVariables globals process port).lookup key).map EnvVar.value = _
  rw [childVariables, KeyedList.collect_concat, KeyedList.lookup_insert, if_neg (Ne.symm hkey),
    KeyedList.lookup_collect, KeyedList.lastKeyed, List.reverse_append, List.find?_append]
  rfl

end

end OddBox.ProcHost
