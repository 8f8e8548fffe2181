import AttributeRules.Proofs.ConfigCommands
import AttributeRules.Proofs.SavedConfig

/-! Configurations that are saved, loaded and saved again.

A configuration can be saved wherever a file can be written (`Config.exists_save`), and wherever one was saved before
(`Config.exists_save_of_find`). What is loaded afterwards is the configuration with its numbers as they are read, or
nothing if a line separator stands in it (`Config.load_of_find_toText`). The numbers of a configuration that was read
stay as they are, so only line separators are in the way of loading what was saved. -/

namespace AttributeRules

/-- A file can be written at the path, once the directories above it are made. -/
def FileSystem.IsWritable (fs : FileSystem) (path : Path) : Prop :=
  ∃ made place, fs.makeParents path = (.ok (), made) ∧ made.resolveFile path = .ok place

namespace Config
variable {fs : FileSystem} {path : Path} {c : Config} {text : String}

theorem exists_save (c : Config) (hpath : fs.IsWritable path) :
    ∃ after, c.save fs path = (.ok (), after) ∧ after.find path = .ok (.file c.toText) := by
  obtain ⟨made, place, hmade, hplace⟩ := hpath
  have hwrite : made.write path c.toText = .ok (made.put place (.file c.toText)) :=
    FileSystem.write_eq_ok_iff.mpr ⟨place, hplace, rfl⟩
  refine ⟨made.put place (.file c.toText), ?_, FileSystem.find_write hwrite⟩
  rw [save, hmade]
  simp only [hwrite]

/-- A file that is there can be written over. -/
theorem exists_save_of_find (c : Config) (hfind : fs.find path = .ok (.file text)) :
    ∃ after, c.save fs path = (.ok (), after) ∧ after.find path = .ok (.file c.toText) := by
  rcases c.save_cases fs path with hsave | ⟨e, after, -, hnone⟩
  · exact hsave
  · exact absurd hfind (hnone text).1

theorem load_of_find_malformed (hfind : fs.find path = .ok (.file text)) (htext : ofText? text = none) :
    load fs path = .error (.malformed path text) := by
  rw [load, FileSystem.exists?, FileSystem.read, hfind]
  simp only [htext]
  rfl

theorem load_of_find_toText (hfind : fs.find path = .ok (.file c.toText)) :
    load fs path = if c.Unbroken then .ok c.stored else .error (.malformed path c.toText) := by
  have htext := c.ofText?_toText_eq
  split
  · rename_i hunbroken
    rw [if_pos hunbroken] at htext
    exact load_of_find hfind htext
  · rename_i hbroken
    rw [if_neg hbroken] at htext
    exact load_of_find_malformed hfind htext

theorem read_of_find (hfind : fs.find path = .ok (.file text)) : fs.read path = .ok text := by
  rw [FileSystem.read, hfind]

/-- A configuration that was read can be saved wherever a file can be written. It is loaded from there as it was, unless
a line separator stands in a name, a rule or the connective: then the file cannot be read as a configuration. Saving it
once more writes the same text. -/
theorem load_saved_of_read (hread : ofText? text = some c) (hpath : fs.IsWritable path) :
    ∃ after again, c.save fs path = (.ok (), after) ∧ after.read path = .ok c.toText ∧
      load after path = (if c.Unbroken then .ok c else .error (.malformed path c.toText)) ∧
      c.save after path = (.ok (), again) ∧ again.read path = .ok c.toText := by
  obtain ⟨after, hsave, hfind⟩ := c.exists_save hpath
  obtain ⟨again, hagain, hfound⟩ := c.exists_save_of_find hfind
  have hload := load_of_find_toText hfind
  rw [stored_of_ofText? hread] at hload
  exact ⟨after, again, hsave, read_of_find hfind, hload, hagain, read_of_find hfound⟩

/-- Records written as arrays, with the largest number for a limit, and a name with a quote, a backslash and a control
character. -/
theorem load_saved_of_arrays :
    ∃ c, ofText? "[\x7b'\"\\\\\x01é': 'b > 1', '': \"\"\x7d, [Infinity, 'OR']]" = some c ∧
      c.rules.entries = [("", ""), ("\"\\\x01é", "b > 1")] ∧ c.settings = ⟨0xFFFFFFFFFFFFFFFF, "OR", 2⟩ ∧
      FileSystem.IsWritable {} "a/c.json" ∧
      ∃ after again : FileSystem, c.save {} "a/c.json" = (.ok (), after) ∧ load after "a/c.json" = .ok c ∧
        c.save after "a/c.json" = (.ok (), again) ∧ again.read "a/c.json" = after.read "a/c.json" := by
  have hread : ofText? "[\x7b'\"\\\\\x01é': 'b > 1', '': \"\"\x7d, [Infinity, 'OR']]" =
      some { rules := NameMap.ofList [("", ""), ("\"\\\x01é", "b > 1")],
             settings := ⟨0xFFFFFFFFFFFFFFFF, "OR", 2⟩ } := by
    decide +kernel
  have hpath : FileSystem.IsWritable {} "a/c.json" := ⟨_, _, rfl, rfl⟩
  obtain ⟨after, again, hsave, htext, hload, hagain, hread'⟩ := load_saved_of_read hread hpath
  rw [if_pos (by decide +kernel)] at hload
  exact ⟨_, hread, by decide +kernel, rfl, hpath, after, again, hsave, hload, hagain, hread'.trans htext.symm⟩

/-- A rule with an escaped line separator is read, and what is saved of it is not. -/
theorem load_saved_line_separator :
    ∃ c, ofText? "\x7brules: \x7br: 'a =\\u20281'\x7d\x7d" = some c ∧ (c.save {} "c.json").1 = .ok () ∧
      load (c.save {} "c.json").2 "c.json" = .error (.malformed "c.json" c.toText) :=
  ⟨{ rules := NameMap.ofList [("r", "a =\u20281")] }, by decide +kernel⟩

end Config

/-- A change that succeeds has been saved. -/
theorem Command.exists_change_of_exitCode {lib : Libraries} {mode : OutputMode} {fs : FileSystem} {path : Path}
    {c : Config} {key value : String} (hload : Config.load fs path = .ok c)
    (hexit : (run lib mode (some path) fs (.config (.set key value))).exitCode = 0) :
    ∃ saved, (change c key value).outcome = .ok saved ∧
      (run lib mode (some path) fs (.config (.set key value))).files.find path = .ok (.file saved.toText) := by
  cases editEnds_run lib mode path fs (.set key value) rfl with
  | failed hcode => exact absurd hexit hcode
  | @saved saved _ hsave hfind => exact ⟨saved, (outcome_setEntry hload).symm.trans hsave, hfind⟩

end AttributeRules
