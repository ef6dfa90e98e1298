import OddBox.Api.Persistence
import OddBox.Configuration.VersionDispatch
import OddBox.Checked
import OddBox.KeyedList
import OddBox.Machine

/-!
What the starts of the program do to its configuration files. A file of an older version is
copied under a name that is free, then the text of the latest version takes its place; a start
can be cut short at any point of this.
-/

namespace OddBox.Configuration

open OddBox.Api (Loader Writable isValid_readBack)

/-! ## Files -/

/-- The files, by their canonical paths. -/
structure Disk where
  files : List (String × String)

namespace Disk

variable (self : Disk)

def read (path : String) : Option String := self.files.lookup path

def exist (path : String) : Bool := (self.read path).isSome

def remove (path : String) : Disk := ⟨self.files.filter (·.1 != path)⟩

def write (path text : String) : Disk := ⟨(path, text) :: (self.remove path).files⟩

@[simp] theorem read_write (path text other : String) :
    (self.write path text).read other = if path = other then some text else self.read other := by
  rw [read, write, KeyedList.lookup_cons]
  by_cases hpath : path = other
  · rw [if_pos hpath, if_pos hpath]
  · rw [if_neg hpath, if_neg hpath]
    exact KeyedList.lookup_filter_ne hpath

theorem read_remove {path other : String} (h : path ≠ other) :
    (self.remove path).read other = self.read other :=
  KeyedList.lookup_filter_ne h

end Disk

theorem mem_of_lookup {files : List (String × String)} {path text : String}
    (h : files.lookup path = some text) : (path, text) ∈ files := by
  obtain ⟨front, back, rfl, -⟩ := List.lookup_eq_some_iff.mp h
  simp

/-! ## The name of a backup -/

def backupPath (originalPath : String) (i : Nat) : String :=
  originalPath ++ ".backup" ++ toString i

section

variable (disk : Disk) (originalPath : String)

/-- The search from a number on, with a number of further ones to try. -/
def newPathFrom : Nat → Nat → String
  | i, 0 => backupPath originalPath i
  | i, left + 1 =>
    if disk.exist (backupPath originalPath i) then newPathFrom (i + 1) left
    else backupPath originalPath i

def newPath : String := newPathFrom disk originalPath 1 disk.files.length

variable {disk originalPath}

theorem backupPath_injective : Function.Injective (backupPath originalPath) := by
  intro i j h
  have hnumber := congrArg String.toList h
  simp only [backupPath, String.toList_append, List.append_cancel_left_eq] at hnumber
  exact Nat.repr_injective (String.toList_injective hnumber)

theorem newPathFrom_eq (left i : Nat) :
    ∃ j, i ≤ j ∧ j ≤ i + left ∧ newPathFrom disk originalPath i left = backupPath originalPath j ∧
      (disk.exist (backupPath originalPath j) = true →
        ∀ k, i ≤ k → k ≤ i + left → disk.exist (backupPath originalPath k) = true) := by
  induction left generalizing i with
  | zero =>
    refine ⟨i, le_rfl, le_rfl, rfl, ?_⟩
    intro hexist k hlow hhigh
    obtain rfl : k = i := by omega
    exact hexist
  | succ left ih =>
    rw [newPathFrom]
    split
    · rename_i hfirst
      obtain ⟨j, hlow, hhigh, hname, hall⟩ := ih (i + 1)
      refine ⟨j, by omega, by omega, hname, ?_⟩
      intro hexist k hk hk'
      rcases Nat.eq_or_lt_of_le hk with rfl | hlater
      · exact hfirst
      · exact hall hexist k hlater (by omega)
    · rename_i hfree
      exact ⟨i, le_rfl, by omega, rfl, fun hexist => absurd hexist hfree⟩

/-- More names are tried than there are files. -/
theorem newPath_free : disk.read (newPath disk originalPath) = none := by
  obtain ⟨j, -, -, hname, hall⟩ := @newPathFrom_eq disk originalPath
    disk.files.length 1
  rw [newPath, hname]
  by_contra hread
  have hexist : disk.exist (backupPath originalPath j) = true :=
    Option.isSome_iff_ne_none.mpr hread
  have htaken := hall hexist
  have hsub : (List.range (disk.files.length + 1)).map
      (fun k => backupPath originalPath (k + 1)) ⊆ disk.files.map Prod.fst := by
    intro path hpath
    obtain ⟨k, hk, rfl⟩ := List.mem_map.mp hpath
    have hk := List.mem_range.mp hk
    obtain ⟨text, htext⟩ := Option.isSome_iff_exists.mp (htaken (k + 1) (by omega) (by omega))
    exact List.mem_map_of_mem (mem_of_lookup htext)
  have hnodup : ((List.range (disk.files.length + 1)).map
      fun k => backupPath originalPath (k + 1)).Nodup :=
    List.nodup_range.map fun a b h => by simpa using backupPath_injective h
  have hlength := (hnodup.subperm hsub).length_le
  simp only [List.length_map, List.length_range] at hlength
  omega

theorem newPath_eq : ∃ i, newPath disk originalPath = backupPath originalPath i := by
  obtain ⟨i, -, -, hname, -⟩ := @newPathFrom_eq disk originalPath
    disk.files.length 1
  exact ⟨i, hname⟩

end

/-! ## A start -/

/-- What the starts have in common. -/
structure Setting where
  loader : Loader
  printable : Char → Bool
  /-- The canonical path that a path leads to. -/
  canonical : String → String
  /-- The text that `--init` writes. -/
  initCfg : String

namespace Setting

variable (self : Setting)

def cfgPath (disk : Disk) : Option String → String
  | some cfg => cfg
  | none =>
    if disk.exist (self.canonical "odd-box.toml") then "odd-box.toml"
    else if disk.exist (self.canonical "oddbox.toml") then "oddbox.toml"
    else "Config.toml"

def readToString (disk : Disk) (cfgPath : String) : Except String String :=
  match disk.read (self.canonical cfgPath) with
  | some contents => .ok contents
  | none => .error ("failed to open configuration file " ++ quoted self.printable cfgPath)

/-- `initialize_configuration` once the path is chosen. -/
def readConfiguration (disk : Disk) (cfgPath : String) :
    Except String (OddBoxV3Config × OddBoxConfigVersion × Bool) := do
  let contents ← self.readToString disk cfgPath
  let configuration ← AnyOddBoxConfig.parse self.loader.readId self.loader.toml contents
  let (config, originalVersion, wasUpgraded) ←
    configuration.tryUpgradeToLatestVersion self.loader.upgradeId
  config.isValid
  .ok ({ config with path := some (self.canonical cfgPath) }, originalVersion, wasUpgraded)

def initializeConfiguration (disk : Disk) (configuration : Option String) :
    Except String (OddBoxV3Config × OddBoxConfigVersion × Bool) :=
  self.readConfiguration disk (self.cfgPath disk configuration)

/-- The files that `main` writes when the configuration was upgraded, in order. -/
def upgradeWrites (disk : Disk) (config : OddBoxV3Config) : List (String × String) :=
  match config.path with
  | none => []
  | some originalPath =>
    match disk.read originalPath with
    | none => []
    | some original =>
      [(newPath disk originalPath, original), (originalPath, config.toString self.printable)]

def startWrites (disk : Disk) (configuration : Option String) : List (String × String) :=
  match self.initializeConfiguration disk configuration with
  | .ok (config, _, true) => self.upgradeWrites disk config
  | .ok (_, _, false) => []
  | .error _ => []

/-- `generate_config` for `--init`. -/
def generateConfig (disk : Disk) : Disk :=
  if disk.exist (self.canonical "odd-box.toml") then disk
  else
    match AnyOddBoxConfig.parse self.loader.readId self.loader.toml self.initCfg with
    | .ok (.v3 _) => disk.write (self.canonical "odd-box.toml") self.initCfg
    | .ok _ => disk
    | .error _ => disk

end Setting

/-- The point where a start is cut short. -/
structure Interruption where
  /-- The files that are written before. -/
  made : Nat
  /-- What there is of the next one, if anything. -/
  part : Option String

def Disk.writeAll (self : Disk) (writes : List (String × String)) : Disk :=
  writes.foldl (fun disk entry => disk.write entry.1 entry.2) self

def Disk.writeSome (self : Disk) (writes : List (String × String)) :
    Option Interruption → Disk
  | none => self.writeAll writes
  | some interruption =>
    match writes[interruption.made]?, interruption.part with
    | some entry, some part =>
      (self.writeAll (writes.take interruption.made)).write entry.1 part
    | _, _ => self.writeAll (writes.take interruption.made)

inductive DiskEvent where
  | start (configuration : Option String) (interruption : Option Interruption)
  | init
  /-- Somebody else writes a file, or removes it. -/
  | edit (path : String) (text : Option String)

def Setting.step (self : Setting) (disk : Disk) : DiskEvent → Disk
  | .start configuration interruption =>
    disk.writeSome (self.startWrites disk configuration) interruption
  | .init => self.generateConfig disk
  | .edit path (some text) => disk.write path text
  | .edit path none => disk.remove path

theorem writeSome_nil (disk : Disk) (interruption : Option Interruption) :
    disk.writeSome [] interruption = disk := by
  rcases interruption with _ | ⟨made, _ | part⟩
  · rfl
  · cases made <;> rfl
  · cases made <;> rfl

/-- A start that is cut short has written nothing, a part of the first file, all of it, or a
part of the second one as well. -/
theorem writeSome_pair (disk : Disk) (first second : String × String)
    (interruption : Option Interruption) :
    disk.writeSome [first, second] interruption = disk ∨
      (∃ part, disk.writeSome [first, second] interruption = disk.write first.1 part) ∨
      ∃ text, disk.writeSome [first, second] interruption =
        (disk.write first.1 first.2).write second.1 text := by
  rcases interruption with _ | ⟨_ | _ | made, _ | part⟩
  · exact .inr (.inr ⟨second.2, rfl⟩)
  · exact .inl rfl
  · exact .inr (.inl ⟨part, rfl⟩)
  · exact .inr (.inl ⟨first.2, rfl⟩)
  · exact .inr (.inr ⟨part, rfl⟩)
  · refine .inr (.inr ⟨second.2, ?_⟩)
    simp [Disk.writeSome, Disk.writeAll]
  · refine .inr (.inr ⟨second.2, ?_⟩)
    simp [Disk.writeSome, Disk.writeAll]

namespace Setting

variable {setting : Setting} {disk : Disk}

/-- What a configuration that is read is made of. -/
theorem readConfiguration_eq_ok {cfgPath : String} {config : OddBoxV3Config}
    {version : OddBoxConfigVersion} {wasUpgraded : Bool}
    (h : setting.readConfiguration disk cfgPath = .ok (config, version, wasUpgraded)) :
    ∃ contents, ∃ latest : OddBoxV3Config,
      disk.read (setting.canonical cfgPath) = some contents ∧
      latest.isValid = .ok () ∧ config = { latest with path := some (setting.canonical cfgPath) } := by
  unfold readConfiguration at h
  obtain ⟨contents, hread, hcontents⟩ := Checked.bind_eq_ok.mp h
  obtain ⟨configuration, -, hparsed⟩ := Checked.bind_eq_ok.mp hcontents
  obtain ⟨⟨latest, original, upgraded⟩, -, hlatest⟩ := Checked.bind_eq_ok.mp hparsed
  obtain ⟨⟨⟩, hvalid, hmade⟩ := Checked.bind_eq_ok.mp hlatest
  cases hmade
  refine ⟨contents, latest, ?_, hvalid, rfl⟩
  rw [readToString] at hread
  cases hfile : disk.read (setting.canonical cfgPath) with
  | none =>
    rw [hfile] at hread
    cases hread
  | some found =>
    rw [hfile] at hread
    cases hread
    rfl

/-- What a start leaves: all files as they were, a new one, or the original in a new one and
another text in its place. -/
theorem step_start (setting : Setting) (disk : Disk) (configuration : Option String)
    (interruption : Option Interruption) :
    setting.step disk (.start configuration interruption) = disk ∨
      ∃ config version original path,
        setting.initializeConfiguration disk configuration = .ok (config, version, true) ∧
        path = setting.canonical (setting.cfgPath disk configuration) ∧
        disk.read path = some original ∧
        ((∃ part, setting.step disk (.start configuration interruption) =
            disk.write (newPath disk path) part) ∨
          ∃ text, setting.step disk (.start configuration interruption) =
            (disk.write (newPath disk path) original).write path text) := by
  rw [step, startWrites]
  rcases hinit : setting.initializeConfiguration disk configuration with
    failed | ⟨config, version, wasUpgraded⟩
  · exact .inl (writeSome_nil disk interruption)
  · cases wasUpgraded with
    | false => exact .inl (writeSome_nil disk interruption)
    | true =>
      obtain ⟨original, latest, hread, -, hconfig⟩ := readConfiguration_eq_ok hinit
      have hwrites : setting.upgradeWrites disk config =
          [(newPath disk (setting.canonical (setting.cfgPath disk configuration)), original),
            (setting.canonical (setting.cfgPath disk configuration),
              config.toString setting.printable)] := by
        rw [upgradeWrites, hconfig]
        simp only [hread]
      dsimp only
      rw [hwrites]
      rcases writeSome_pair disk
          (newPath disk (setting.canonical (setting.cfgPath disk configuration)), original)
          (setting.canonical (setting.cfgPath disk configuration),
            config.toString setting.printable) interruption with hsame | hwritten
      · exact .inl hsame
      · exact .inr ⟨config, version, original, _, rfl, rfl, hread, hwritten⟩

end Setting

/-! ## What is kept -/

/-- A path, or that of a backup of it, of a backup of a backup, and so on. -/
inductive IsCopy (path : String) : String → Prop where
  | self : IsCopy path path
  | backup {copy : String} (h : IsCopy path copy) (i : Nat) : IsCopy path (backupPath copy i)

/-- Nobody else changes the files with these paths. -/
def Leaves (paths : String → Prop) : DiskEvent → Prop
  | .start _ _ => True
  | .init => True
  | .edit path _ => ¬ paths path

/-- The text is in the file or in a backup of it. -/
def Kept (path text : String) (disk : Disk) : Prop :=
  ∃ copy, IsCopy path copy ∧ disk.read copy = some text

namespace Setting

variable {setting : Setting} {disk : Disk} {path text : String}

theorem read_generateConfig {other : String} (h : disk.read other = some text) :
    (setting.generateConfig disk).read other = some text := by
  unfold generateConfig
  split
  · exact h
  · rename_i hfree
    have hother : setting.canonical "odd-box.toml" ≠ other := by
      rintro rfl
      exact hfree (by rw [Disk.exist, h]; rfl)
    split
    · rw [Disk.read_write, if_neg hother]
      exact h
    · exact h
    · exact h

theorem read_edit {edited other : String} (h : edited ≠ other) (change : Option String) :
    (setting.step disk (.edit edited change)).read other = disk.read other := by
  cases change with
  | some written => rw [step, Disk.read_write, if_neg h]
  | none => exact Disk.read_remove disk h

/-- A new file is none of those that are there. -/
theorem newPath_ne {other : String} (h : disk.read other = some text) :
    newPath disk path ≠ other := by
  intro hsame
  have hfree := @newPath_free disk path
  rw [hsame, h] at hfree
  cases hfree

theorem step_kept (h : Kept path text disk) {event : DiskEvent}
    (hleaves : Leaves (IsCopy path) event) : Kept path text (setting.step disk event) := by
  obtain ⟨copy, hcopy, hread⟩ := h
  cases event with
  | init => exact ⟨copy, hcopy, read_generateConfig hread⟩
  | edit edited change =>
    have hother : edited ≠ copy := fun hsame => hleaves (hsame ▸ hcopy)
    exact ⟨copy, hcopy, (read_edit hother change).trans hread⟩
  | start configuration interruption =>
    rcases step_start setting disk configuration interruption with
      hsame | ⟨config, version, original, upgraded, -, -, horiginal, ⟨part, hstep⟩ |
        ⟨written, hstep⟩⟩
    · exact ⟨copy, hcopy, by rw [hsame, hread]⟩
    · refine ⟨copy, hcopy, ?_⟩
      rw [hstep, Disk.read_write, if_neg (newPath_ne hread), hread]
    · by_cases hupgraded : upgraded = copy
      · -- The upgrade takes the place of this copy, and has made another one before.
        obtain ⟨i, hi⟩ := @newPath_eq disk upgraded
        refine ⟨newPath disk upgraded, ?_, ?_⟩
        · rw [hi, hupgraded]
          exact hcopy.backup i
        · rw [hstep, Disk.read_write, if_neg (newPath_ne horiginal).symm, Disk.read_write,
            if_pos rfl, ← horiginal, hupgraded, hread]
      · refine ⟨copy, hcopy, ?_⟩
        rw [hstep, Disk.read_write, if_neg hupgraded, Disk.read_write,
          if_neg (newPath_ne hread), hread]

/-- **No text is lost**: whatever is started, cut short or not, every text that was in a file
stays in it or in a backup of it until somebody else changes one of these. -/
theorem texts_kept (setting : Setting) {disk : Disk} {path text : String}
    (hread : disk.read path = some text) {events : List DiskEvent}
    (hleaves : ∀ event ∈ events, Leaves (IsCopy path) event) :
    ∃ copy, IsCopy path copy ∧ (Machine.run setting.step disk events).read copy = some text :=
  (Machine.meets_of_forall hleaves disk).invariant (I := Kept path text)
    (fun _ _ hkept hevent => step_kept hkept hevent) ⟨path, .self, hread⟩

/-! ## One upgrade -/

end Setting

/-- Paths are canonical, and identifiers are all the same. -/
def sampleSetting : Setting where
  loader := ⟨readerCrate, fun _ => ⟨"id"⟩, fun _ _ => ⟨"id"⟩⟩
  printable _ := true
  canonical path := path
  initCfg := "version = \"V3\"\n"

def oldFile : Disk := ⟨[("odd-box.toml", "version = \"V2\"\n")]⟩

namespace Setting

/-- The text of version 2 is found again after two starts, the first of which is cut short. -/
theorem texts_kept_twice : ∃ copy, IsCopy "odd-box.toml" copy ∧
    (Machine.run sampleSetting.step oldFile
      [.start none (some ⟨0, some "version"⟩), .start none none]).read copy =
        some "version = \"V2\"\n" :=
  texts_kept sampleSetting rfl (by simp [Leaves])

end Setting

end OddBox.Configuration
