import BoardDebug.Proofs.CommandLine.DebugRun
import BoardDebug.Proofs.Settings.Keys

namespace BoardDebug

open Json (Value)

namespace Files

/-- A name of a file in the working directory, not of a place elsewhere. -/
def IsPlain (name : String) : Prop :=
  Octets.spell name = name ∧ name ∉ ["", ".", ".."] ∧ '\x00' ∉ name.toList ∧ '/' ∉ name.toList ∧
    name.length ≤ 255

instance (name : String) : Decidable (IsPlain name) :=
  inferInstanceAs (Decidable (_ ∧ _))

variable {files : Files} {name : String}

/-- What lies in the working directory under a plain name is found there. -/
theorem lookup_of_isPlain (hname : IsPlain name) (hhere : files.body? files.here = some .directory)
    (hlink : ∀ target, files.body? (files.here ++ [name]) ≠ some (.link target)) :
    files.lookup true name = .ok (files.here ++ [name]) := by
  obtain ⟨-, hdots, hnul, hslash, hlength⟩ := hname
  have hparts : name.splitOn "/" = [name] := by
    rw [Text.splitOn_slash, List.splitOnP_eq_singleton]
    · simp
    · intro c hc
      simpa using ne_of_mem_of_not_mem hc hslash
  have hroot : name.startsWith "/" = false := by
    refine Bool.eq_false_iff.2 fun hroot => hslash ?_
    have hprefix : ['/'] <+: name.toList := by simpa using hroot
    exact hprefix.subset List.mem_cons_self
  have hnul : name.contains '\x00' = false := by simpa using hnul
  obtain ⟨hempty, hdot, hup⟩ : name ≠ "" ∧ name ≠ "." ∧ name ≠ ".." := by simpa using hdots
  have hwalk : files.walk true maxLinks files.here [name] = .ok (files.here ++ [name]) := by
    rw [walk, hhere]
    simp only [hempty, hdot, hup, or_self, if_false, Nat.not_lt.2 hlength]
    cases hbody : files.body? (files.here ++ [name]) with
    | none => rfl
    | some body =>
      cases body with
      | link target => exact absurd hbody (hlink target)
      | _ => simp [walk]
  simp [lookup, hnul, hempty, hroot, hparts, hwalk, show ¬4095 < name.length by omega]

/-- A file in the working directory, if there is one, is read by its name. -/
theorem read_of_isPlain {content : Option Bytes} (hname : IsPlain name)
    (hhere : files.body? files.here = some .directory)
    (hcontent : files.body? (files.here ++ [name]) = content.map .file) :
    (files.read name).toOption = content := by
  have hlookup : files.lookup true name = .ok (files.here ++ [name]) := by
    refine lookup_of_isPlain hname hhere fun target => ?_
    rw [hcontent]
    cases content <;> simp
  rw [read, contents, hname.1, find, at?, hlookup]
  cases content with
  | none =>
    have hnode : files.node? (files.here ++ [name]) = none := by simpa [body?] using hcontent
    simp only [hnode]
    rfl
  | some bytes =>
    obtain ⟨node, hnode, hbody⟩ := Option.map_eq_some_iff.1 hcontent
    simp only [hnode, hbody]
    rfl

end Files

namespace Settings

open CommandLine (DebugArguments)

/-! ### Files in the working directory -/

section Directory

variable {files : Files} {contents : List (String × Bytes)} {paths : List String}

/-- The settings in the file of a name, given what the files hold; a file that is not there gives
none. -/
def settingsOf? (contents : List (String × Bytes)) (path : String) : Option Layer :=
  ((SettingsFormat.ofPath? path).bind fun format => (contents.lookup path).map format.parse).getD
    (some [])

theorem readFile_eq {path : String} (hpath : Files.IsPlain path)
    (hhere : files.body? files.here = some .directory)
    (hcontent : files.body? (files.here ++ [path]) = (contents.lookup path).map .file) :
    readFile files path = settingsOf? contents path := by
  rw [settingsOf?, ← Files.read_of_isPlain hpath hhere hcontent, readFile]
  cases SettingsFormat.ofPath? path with
  | none => rfl
  | some format => cases files.read path <;> rfl

/-- A working directory with nothing but some files. -/
def directory (contents : List (String × Bytes)) : Files where
  entries := contents.zipIdx.map fun ((name, _), i) => ([name], i + 1)
  nodes := ⟨.directory, 0o755, 0⟩ :: contents.map fun (_, bytes) => ⟨.file bytes, 0o644, 0⟩
  here := []
  mask := 0
  time := 0

theorem mapM_readFile (hpaths : ∀ path ∈ paths, Files.IsPlain path ∧
      (directory contents).body? [path] = (contents.lookup path).map .file) :
    paths.mapM (readFile (directory contents)) = paths.mapM (settingsOf? contents) := by
  induction paths with
  | nil => rfl
  | cons path rest ih =>
    obtain ⟨⟨hpath, hcontent⟩, hrest⟩ := List.forall_mem_cons.1 hpaths
    rw [List.mapM_cons, List.mapM_cons, readFile_eq hpath rfl hcontent, ih hrest]

/-- What the files of a working directory say, if all of them can be read. -/
def layersOf (contents : List (String × Bytes)) (asked : Option String) : List Layer :=
  ((fileNames ++ asked.toList).mapM (settingsOf? contents)).getD []

theorem mapM_readFile_eq_layersOf {asked : Option String}
    (hpaths : ∀ path ∈ fileNames ++ asked.toList, Files.IsPlain path ∧
      (directory contents).body? [path] = (contents.lookup path).map .file)
    (h : ((fileNames ++ asked.toList).mapM (settingsOf? contents)).isSome) :
    (fileNames ++ asked.toList).mapM (readFile (directory contents)) =
      some (layersOf contents asked) := by
  obtain ⟨layers, hlayers⟩ := Option.isSome_iff_exists.1 h
  rw [mapM_readFile hpaths, layersOf, hlayers]
  rfl

end Directory

/-! ### The last source counts -/

section

variable {α : Type}

/-- What counts of a key: the last value that is given for it. -/
def lastGiven (unsaid : α) (given : List (Option α)) : α :=
  (given.filterMap id).getLast?.getD unsaid

theorem lastGiven_concat (unsaid : α) (given : List (Option α)) (last : Option α) :
    lastGiven unsaid (given ++ [last]) = last.getD (lastGiven unsaid given) := by
  cases last <;> simp [lastGiven]

/-- The last value that is given is the last one that is spelled, if all of them are understood. -/
theorem getLast?_bind_read {key : Key α} {sources : List Layer}
    (h : ∀ source ∈ sources, ∀ value, key.spelled? source = some value →
      (key.read value).isSome) :
    (sources.filterMap key.spelled?).getLast?.bind key.read =
      ((sources.map key.given?).filterMap id).getLast? := by
  induction sources using List.reverseRecOn with
  | nil => rfl
  | append_singleton before last ih =>
    obtain ⟨hbefore, hlast⟩ := List.forall_mem_append.1 h
    rw [List.filterMap_append, List.map_append, List.filterMap_append, List.map_singleton]
    cases hspelled : key.spelled? last with
    | none => simpa [hspelled, Key.given?] using ih hbefore
    | some value =>
      obtain ⟨a, ha⟩ := Option.isSome_iff_exists.1 (hlast last (by simp) value hspelled)
      simp [hspelled, Key.given?, ha]

end

theorem forall_of_mapM {α β : Type} {read : α → Option β} {P : β → Prop} {items : List α}
    {found : List β} (hP : ∀ a b, read a = some b → P b) (h : items.mapM read = some found) :
    ∀ b ∈ found, P b := by
  induction items generalizing found with
  | nil =>
    cases h
    exact List.forall_mem_nil _
  | cons first rest ih =>
    rw [List.mapM_cons] at h
    simp only [Option.bind_eq_bind, Option.bind_eq_some_iff] at h
    obtain ⟨b, hb, more, hmore, ⟨⟩⟩ := h
    exact List.forall_mem_cons.2 ⟨hP first b hb, ih hmore⟩

/-- Of the last two values that sources give for a key at most one is a table, so that no tables are
joined. -/
def Key.IsUnjoined {α : Type} (key : Key α) (sources : List Layer) : Prop :=
  ¬((sources.filterMap key.spelled?).dropLast.getLast?.any Value.isTable ∧
    (sources.filterMap key.spelled?).getLast?.any Value.isTable)

instance {α : Type} (key : Key α) (sources : List Layer) : Decidable (key.IsUnjoined sources) :=
  inferInstanceAs (Decidable ¬_)

variable {sources : List Layer}

theorem spelled?_mergeAll (h : ∀ source ∈ sources, IsSound source) {α : Type} (key : Key α)
    (hunjoined : key.IsUnjoined sources) :
    key.spelled? (Layer.mergeAll sources) = (sources.filterMap key.spelled?).getLast? := by
  have hspelled : (sources.map key.spelled?).filterMap id = sources.filterMap key.spelled? := by
    rw [List.filterMap_map, Function.id_comp]
  rw [Key.spelled?, at?_mergeAll h, ← hspelled]
  rw [Key.IsUnjoined, ← hspelled] at hunjoined
  exact Layer.foldl_joined _ hunjoined

theorem value_mergeAll (h : ∀ source ∈ sources, IsSound source) {α : Type} (key : Key α)
    (hunjoined : key.IsUnjoined sources) :
    key.value (Layer.mergeAll sources) = lastGiven (key.get standard) (sources.map key.given?) := by
  have hunderstood : ∀ source ∈ sources, ∀ value, key.spelled? source = some value →
      (key.read value).isSome := fun source hsource => (h source hsource).2.understood key
  rw [Key.value, Key.given?, spelled?_mergeAll h key hunjoined, lastGiven,
    getLast?_bind_read hunderstood]

/-- All sources of settings but the flags, the latest last. -/
def allSources (layers : List Layer) (environment : List (String × String)) : List Layer :=
  usual :: layers ++ [Environment.layers environment]

variable {files : Files} {asked : Option String} {environment : List (String × String)}
  {layers : List Layer}

theorem load_eq_ok {settings : Settings}
    (hasked : ∀ path ∈ asked, (SettingsFormat.ofPath? path).isSome)
    (hread : (fileNames ++ asked.toList).mapM (readFile files) = some layers)
    (hsettings : ofLayer? (Layer.mergeAll (allSources layers environment)) = some settings) :
    load files asked environment = .ok settings := by
  have hjoin : load.join files asked environment = .ok settings := by
    rw [allSources] at hsettings
    simp only [load.join, hread, hsettings]
  cases asked with
  | none => exact hjoin
  | some path =>
    have hformat : (SettingsFormat.ofPath? path).isNone = false := by
      rw [← Option.not_isSome, hasked path rfl]
      rfl
    simp only [load, hformat, hjoin]
    rfl

/-- Of sources that give their sections as tables, the last one that gives a setting counts: first
what is usual, then the files in the order of their names, the one that is asked for, the variables,
and the flags. Two tables for one setting are joined, so this says nothing of them. -/
theorem load_precedence (hasked : ∀ path ∈ asked, (SettingsFormat.ofPath? path).isSome)
    (hread : (fileNames ++ asked.toList).mapM (readFile files) = some layers)
    (hlayers : ∀ layer ∈ layers, IsWellTyped layer)
    (henvironment : IsWellTyped (Environment.layers environment)) :
    ∃ settings, load files asked environment = .ok settings ∧
      ∀ (arguments : DebugArguments) {α : Type} (key : Key α),
        (key.flag? arguments).isSome ∨ key.IsUnjoined (allSources layers environment) →
        key.get (arguments.apply settings) = lastGiven (key.get standard)
          ((allSources layers environment).map key.given? ++ [key.flag? arguments]) := by
  have hsound : ∀ source ∈ allSources layers environment, IsSound source := by
    have htidy := forall_of_mapM (fun _ _ => isTidy_of_readFile) hread
    refine List.forall_mem_append.2 ⟨List.forall_mem_cons.2
      ⟨⟨isTidy_usual, isWellTyped_usual⟩, fun layer hlayer => ⟨htidy _ hlayer, hlayers _ hlayer⟩⟩,
      List.forall_mem_singleton.2 ⟨isTidy_layers environment, henvironment⟩⟩
  obtain ⟨settings, hsettings, hvalues⟩ := exists_ofLayer? (isSound_mergeAll hsound) fun key =>
    find?_mergeAll_ne_none hsound List.mem_cons_self (find?_usual_ne_none key)
  refine ⟨settings, load_eq_ok hasked hread hsettings, fun arguments α key hkey => ?_⟩
  rw [key.get_apply, hvalues, lastGiven_concat]
  obtain hflag | hunjoined := hkey
  · obtain ⟨a, ha⟩ := Option.isSome_iff_exists.1 hflag
    rw [ha, Option.getD_some, Option.getD_some]
  · rw [value_mergeAll hsound key hunjoined]

example : fileNames = [".hf2dbg.toml", ".hf2dbg.json", ".hf2dbg.yaml", ".hf2dbg.yml",
    ".hf2dbg.local.toml", ".hf2dbg.local.json", ".hf2dbg.local.yaml", ".hf2dbg.local.yml"] := by
  decide +kernel

def sampleFiles : List (String × Bytes) :=
  [(".hf2dbg.toml", Utf8.encode "device.serial_number='A1'\nsession.poll_interval=50".toList),
    (".hf2dbg.local.json", Utf8.encode "\x7b\"session\":
      \x7b\"halt_strategy\": \x7b\"push\": null\x7d, \"poll_interval\": 70\x7d\x7d".toList),
    ("extra.toml", Utf8.encode "artifacts.binary='x.hex'".toList)]

def sampleEnvironment : List (String × String) :=
  [("PATH", "/usr/bin"), ("HF2DBG_SESSION__HALT_STRATEGY", "poll")]

def sampleArguments : DebugArguments :=
  { DebugArguments.blank with device := some ⟨0x239a, 0x18, none⟩ }

def sampleSources : List Layer :=
  allSources (layersOf sampleFiles (some "extra.toml")) sampleEnvironment

def sampleValue {α : Type} (key : Key α) : α :=
  lastGiven (key.get standard) (sampleSources.map key.given? ++ [key.flag? sampleArguments])

/-- Two settings files, one that is asked for, a variable and a device without a serial number. -/
theorem load_precedence_sample :
    ∃ settings, load (directory sampleFiles) (some "extra.toml") sampleEnvironment = .ok settings ∧
      (sampleArguments.apply settings).session.strategy = .poll ∧
      (sampleArguments.apply settings).session.pollInterval = 70 ∧
      (sampleArguments.apply settings).device.vendorId = some 0x239a ∧
      (sampleArguments.apply settings).device.serialNumber = none ∧
      (sampleArguments.apply settings).device.requestTimeout = 2000 ∧
      (sampleArguments.apply settings).artifacts.binary = "x.hex" := by
  have hasked : ∀ path ∈ some "extra.toml", (SettingsFormat.ofPath? path).isSome := by
    decide +kernel
  have hread : (fileNames ++ (some "extra.toml").toList).mapM (readFile (directory sampleFiles)) =
      some (layersOf sampleFiles (some "extra.toml")) :=
    mapM_readFile_eq_layersOf (by decide +kernel) (by decide +kernel)
  have htidy := forall_of_mapM (fun _ _ => isTidy_of_readFile) hread
  -- Each computation reads the files again, so there is one for all sources and one for all keys.
  obtain ⟨hfits, hvariables⟩ :
      (∀ layer ∈ layersOf sampleFiles (some "extra.toml"), fitsAll layer) ∧
      fitsAll (Environment.layers sampleEnvironment) := by
    decide +kernel
  obtain ⟨settings, hload, hvalues⟩ := load_precedence hasked hread
    (fun layer hlayer => isWellTyped_of_fitsAll (htidy layer hlayer) (hfits layer hlayer))
    (isWellTyped_of_fitsAll (isTidy_layers sampleEnvironment) hvariables)
  obtain ⟨hstrategy, hinterval, hvendor, hserial, htimeout, hbinary⟩ :
      sampleValue .haltStrategy = .poll ∧ sampleValue .pollInterval = 70 ∧
      sampleValue .vendorId = some 0x239a ∧ sampleValue .serialNumber = none ∧
      sampleValue .requestTimeout = 2000 ∧ sampleValue .binary = "x.hex" := by
    decide +kernel
  have hunjoined : ∀ key ∈ Key.all, key.2.IsUnjoined sampleSources := by decide +kernel
  have hvalue {α : Type} (key : Key α) :
      key.get (sampleArguments.apply settings) = sampleValue key :=
    hvalues sampleArguments key (.inr (hunjoined _ key.mem_all))
  exact ⟨settings, hload, (hvalue .haltStrategy).trans hstrategy,
    (hvalue .pollInterval).trans hinterval, (hvalue .vendorId).trans hvendor,
    (hvalue .serialNumber).trans hserial, (hvalue .requestTimeout).trans htimeout,
    (hvalue .binary).trans hbinary⟩

def tabledFiles : List (String × Bytes) :=
  [(".hf2dbg.json", Utf8.encode
      "\x7b\"session\": \x7b\"halt_strategy\": \x7b\"poll\": null\x7d\x7d\x7d".toList),
    (".hf2dbg.local.json", Utf8.encode
      "\x7b\"session\": \x7b\"halt_strategy\": \x7b\"push\": null\x7d\x7d\x7d".toList)]

def listedFiles : List (String × Bytes) :=
  [(".hf2dbg.json", Utf8.encode "\x7b\"session\": [\"poll\", 50]\x7d".toList),
    (".hf2dbg.local.json", Utf8.encode "\x7b\"session\": \x7b\"poll_interval\": 70\x7d\x7d".toList)]

theorem exists_load_directory {contents : List (String × Bytes)} {session : SessionConfig}
    (hpaths : ∀ path ∈ fileNames, Files.IsPlain path ∧
      (directory contents).body? [path] = (contents.lookup path).map .file)
    (h : (fileNames.mapM (settingsOf? contents)).isSome)
    (hsession : (ofLayer? (Layer.mergeAll (allSources (layersOf contents none) []))).map
      (·.session) = some session) :
    ∃ settings, load (directory contents) none [] = .ok settings ∧ settings.session = session := by
  obtain ⟨settings, hsettings, rfl⟩ := Option.map_eq_some_iff.1 hsession
  refine ⟨settings, load_eq_ok (by simp) ?_ hsettings, rfl⟩
  exact mapM_readFile_eq_layersOf (by simpa using hpaths) (by simpa using h)

/-- Where two sources give an enumeration as a table, the least name counts and not the last one. A
section that is a list is lost as a whole when a later source gives one of its keys. -/
theorem load_of_tables_and_lists :
    (∃ layers settings, fileNames.mapM (readFile (directory tabledFiles)) = some layers ∧
      (∀ layer ∈ layers, IsWellTyped layer) ∧
      lastGiven (Key.haltStrategy.get standard)
        ((allSources layers []).map Key.haltStrategy.given?) = .push ∧
      load (directory tabledFiles) none [] = .ok settings ∧ settings.session = ⟨.poll, 200⟩) ∧
    ∃ settings settings', load (directory (listedFiles.take 1)) none [] = .ok settings ∧
      settings.session = ⟨.poll, 50⟩ ∧
      load (directory listedFiles) none [] = .ok settings' ∧ settings'.session = ⟨.auto, 70⟩ := by
  have hread : (fileNames ++ (none : Option String).toList).mapM
      (readFile (directory tabledFiles)) = some (layersOf tabledFiles none) :=
    mapM_readFile_eq_layersOf (by decide +kernel) (by decide +kernel)
  have htidy := forall_of_mapM (fun _ _ => isTidy_of_readFile) hread
  have hfits : ∀ layer ∈ layersOf tabledFiles none, fitsAll layer := by
    decide +kernel
  obtain ⟨settings, htabled⟩ :
      ∃ settings, load (directory tabledFiles) none [] = .ok settings ∧
        settings.session = ⟨.poll, 200⟩ :=
    exists_load_directory (by decide +kernel) (by decide +kernel) (by decide +kernel)
  obtain ⟨before, hbefore, hbeforeSession⟩ :
      ∃ settings, load (directory (listedFiles.take 1)) none [] = .ok settings ∧
        settings.session = ⟨.poll, 50⟩ :=
    exists_load_directory (by decide +kernel) (by decide +kernel) (by decide +kernel)
  obtain ⟨after, hafter⟩ :
      ∃ settings, load (directory listedFiles) none [] = .ok settings ∧
        settings.session = ⟨.auto, 70⟩ :=
    exists_load_directory (by decide +kernel) (by decide +kernel) (by decide +kernel)
  refine ⟨⟨layersOf tabledFiles none, settings, by simpa using hread, fun layer hlayer => ?_,
    by decide +kernel, htabled⟩, before, after, hbefore, hbeforeSession, hafter⟩
  exact isWellTyped_of_fitsAll (htidy layer hlayer) (hfits layer hlayer)

end Settings

end BoardDebug
