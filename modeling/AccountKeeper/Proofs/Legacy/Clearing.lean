import AccountKeeper.Proofs.Action
import AccountKeeper.Proofs.Files.Changes
import AccountKeeper.Proofs.Legacy.Documents

/-!
# Clearing the settings file

Clearing takes the settings out of the file and leaves everything else in it, so
that nothing is read afterwards and clearing once more changes nothing.  Only
settings that are written as a list are still there afterwards.
-/

set_option autoImplicit false

namespace AccountKeeper

namespace SettingsFile

def inTree (path : String) : SettingsFile FileTree := ⟨FileTree.system, path⟩

variable {path text : String} {tree tree' after : FileTree} {document : Toml.Entries}

/-! ## Runs -/

theorem run_leads : ActionE.run (liftM ((inTree path).files.leads (inTree path).path) :
    Action FileTree Bool) tree = (.ok (tree.leads path), tree) := rfl

theorem run_text_of_leads {outcome : Except FileFault String} (there : tree.leads path = true)
    (read : (FileTree.system.readText path).run tree = (outcome, tree)) :
    (inTree path).text?.run tree =
      ((outcome.map some).mapError fun fault => .legacy (.unreadable fault), tree) := by
  unfold text?
  rw [ActionE.run_bind, run_leads, there]
  dsimp only
  rw [if_pos rfl, ActionE.run_bind, ActionE.run_mapError,
    show ((inTree path).files.readText (inTree path).path).run tree = _ from read]
  cases outcome <;> rfl

section Content

variable (content : tree.read path = .ok text.toUTF8)

include content

theorem run_readText : (FileTree.system.readText path).run tree = (.ok text, tree) := by
  have bytes : (FileTree.system.read path).run tree = (.ok text.toUTF8, tree) :=
    congrArg (fun outcome => (outcome, tree)) content
  unfold FileSystem.readText
  rw [ActionE.run_bind, bytes]
  dsimp only
  rw [Text.Utf8.fromUTF8?_toUTF8]
  rfl

theorem run_text : (inTree path).text?.run tree = (.ok (some text), tree) :=
  run_text_of_leads (FileTree.leads_of_read content) (run_readText content)

theorem run_read :
    (inTree path).read.run tree =
      ((LegacySettings.ofDocument text).mapError fun fault => .legacy (.malformed fault), tree) := by
  unfold SettingsFile.read
  rw [ActionE.run_bind, run_text content]
  dsimp only
  cases LegacySettings.ofDocument text <;> rfl

theorem read_eq_ok {settings : LegacySettings}
    (accepted : (LegacySettings.ofDocument text).toOption = some settings) :
    ((inTree path).read.run tree).1 = .ok settings := by
  rw [run_read content, ActionE.mapError_eq_ok]
  cases outcome : LegacySettings.ofDocument text with
  | error fault =>
    rw [outcome] at accepted
    cases accepted
  | ok found =>
    rw [outcome] at accepted
    cases accepted
    rfl

theorem run_clear :
    (inTree path).clear.run tree =
      match Toml.parse text with
      | some document => ((inTree path).replace (LegacySettings.clearFrom document)).run tree
      | none => (.error (.legacy (.malformed .notADocument)), tree) := by
  unfold clear document?
  rw [ActionE.run_bind, ActionE.run_bind, run_text content]
  dsimp only
  cases Toml.parse text <;> rfl

end Content

/-- The tree with a document in the file, after directories were made for it. -/
theorem run_replace_eq_ok :
    ((inTree path).replace document).run tree = (.ok (), after) ↔
      ∃ made place, tree.makeParents path = (.ok (), made) ∧ made.Writable path place ∧
        after = made.put place (.file (Toml.print document).toUTF8 (made.modeAt place)) := by
  have parents : ((inTree path).files.makeParents path).run tree = tree.makeParents path := rfl
  have writing (made : FileTree) :
      ((inTree path).files.writeText (inTree path).path (Toml.print document)).run made =
        (FileTree.changing (·.write path (Toml.print document).toUTF8)).run made := rfl
  unfold replace
  rw [ActionE.run_bind, ActionE.run_mapError,
    show ((inTree path).files.makeParents (inTree path).path).run tree = _ from parents]
  rcases tree.makeParents path with ⟨outcome, made⟩
  cases outcome with
  | error fault =>
    constructor
    · intro replaced
      cases replaced
    · rintro ⟨_, _, parents, _⟩
      cases parents
  | ok _ =>
    dsimp only [ActionE.mapError_ok]
    rw [ActionE.run_mapError, writing]
    constructor
    · intro replaced
      cases written : made.write path (Toml.print document).toUTF8 with
      | error fault =>
        rw [FileTree.run_changing_error written] at replaced
        cases replaced
      | ok changed =>
        rw [FileTree.run_changing_ok written] at replaced
        cases replaced
        obtain ⟨place, writable, rfl⟩ := FileTree.write_eq_ok.mp written
        exact ⟨made, place, rfl, writable, rfl⟩
    · rintro ⟨_, place, parents, writable, rfl⟩
      cases parents
      rw [FileTree.run_changing_ok (writable.write _)]
      rfl

theorem read_of_replace (replaced : ((inTree path).replace document).run tree = (.ok (), after)) :
    after.read path = .ok (Toml.print document).toUTF8 := by
  obtain ⟨made, place, _, writable, rfl⟩ := run_replace_eq_ok.mp replaced
  exact writable.read _ _

theorem replace_again (replaced : ((inTree path).replace document).run tree = (.ok (), after)) :
    ∃ again, ((inTree path).replace document).run after = (.ok (), again) ∧
      ∀ place, again.at? place = after.at? place := by
  obtain ⟨made, place, parents, writable, rfl⟩ := run_replace_eq_ok.mp replaced
  have writable' := writable.again (Toml.print document).toUTF8 (made.modeAt place)
  refine ⟨_, run_replace_eq_ok.mpr ⟨_, place,
    FileTree.makeParents_again parents (.put writable.leaf _), writable', rfl⟩, fun other => ?_⟩
  have there := writable.put_at? (.file (Toml.print document).toUTF8 (made.modeAt place)) place
  rw [if_pos rfl] at there
  rw [writable'.put_at?]
  split
  · rename_i here
    rw [here, there, FileTree.modeAt, there]
  · rfl

/-! ## Clearing -/

/-- What clearing takes away and what it keeps.  The settings are gone afterwards unless they were
written as a list, everything else keeps its value, and clearing again changes nothing. -/
theorem clear_removes_settings_iff (path text : String) (tree after : FileTree)
    (settings : LegacySettings) (content : tree.read path = .ok text.toUTF8)
    (accepted : ((inTree path).read.run tree).1 = .ok settings)
    (cleared : (inTree path).clear.run tree = (.ok (), after))
    (recovered : ∀ document, Toml.parse text = some document →
      ∃ items, Toml.Recovered (LegacySettings.clearFrom document) items) :
    ∃ document document' text', Toml.parse text = some document ∧
      after.read path = .ok text'.toUTF8 ∧ Toml.parse text' = some document' ∧
      (((inTree path).read.run after).1 = .ok {} ↔
        ¬∃ first others, document.get? "auth" = some (.array (first :: others))) ∧
      LegacySettings.KeepsRest document document' ∧
      ∃ again, (inTree path).clear.run after = (.ok (), again) ∧
        ∀ place, again.at? place = after.at? place := by
  rw [run_read content, ActionE.mapError_eq_ok] at accepted
  rw [run_clear content] at cleared
  cases parsed : Toml.parse text with
  | none =>
    rw [parsed] at cleared
    cases cleared
  | some document =>
    rw [parsed] at cleared
    obtain ⟨items, done, valued⟩ := Toml.parse_eq_some.mp parsed
    obtain ⟨items', recovered'⟩ := recovered document parsed
    have written := read_of_replace cleared
    refine ⟨document, LegacySettings.clearFrom document, _, rfl, written, recovered'.parse, ?_,
      LegacySettings.keepsRest_clearFrom document, ?_⟩
    · rw [run_read written, ActionE.mapError_eq_ok]
      exact LegacySettings.ofDocument_cleared_iff done (Toml.Document.shows done valued) accepted
        recovered'
    · rw [run_clear written, recovered'.parse]
      dsimp only
      rw [LegacySettings.clearFrom_clearFrom]
      exact replace_again cleared

/-! ## One file -/

def withFile (text : String) : FileTree :=
  ({} : FileTree).put ["settings.toml"] (.file text.toUTF8 FileTree.newFileMode)

theorem writable_bare : ({} : FileTree).Writable "/settings.toml" ["settings.toml"] :=
  ⟨rfl, .of_absent rfl⟩

theorem read_withFile (text : String) :
    (withFile text).read "/settings.toml" = .ok text.toUTF8 :=
  writable_bare.read _ _

theorem run_clear_withFile {text : String} {document : Toml.Entries}
    (parsed : Toml.parse text = some document) :
    ∃ after, (inTree "/settings.toml").clear.run (withFile text) = (.ok (), after) ∧
      after.read "/settings.toml" =
        .ok (Toml.print (LegacySettings.clearFrom document)).toUTF8 := by
  have writable : (withFile text).Writable "/settings.toml" ["settings.toml"] :=
    writable_bare.again _ _
  have replaced : ((inTree "/settings.toml").replace (LegacySettings.clearFrom document)).run
      (withFile text) = (.ok (), _) :=
    run_replace_eq_ok.mpr ⟨withFile text, _, rfl, writable, rfl⟩
  refine ⟨_, ?_, read_of_replace replaced⟩
  rw [run_clear (read_withFile text), parsed]
  exact replaced

def tableText : String :=
  "clone_with_ssh = true\n\n[auth]\nhost = \"github.com\"\nnote = \"old\"\n"

/-- A table loses its settings and keeps the rest. -/
theorem clear_removes_settings_iff_for_table :
    ∃ after, (inTree "/settings.toml").clear.run (withFile tableText) = (.ok (), after) ∧
      ((inTree "/settings.toml").read.run after).1 = .ok {} := by
  have parsed : Toml.parse tableText = some [("auth", .table [("host", .string "github.com"),
      ("note", .string "old")]), ("clone_with_ssh", .scalar (.boolean true))] := by
    decide +kernel
  have rest : LegacySettings.clearFrom [("auth", .table [("host", .string "github.com"),
      ("note", .string "old")]), ("clone_with_ssh", .scalar (.boolean true))] =
      [("auth", .table [("note", .string "old")]), ("clone_with_ssh", .scalar (.boolean true))] := by
    decide +kernel
  have again : Toml.parse (Toml.print [("auth", .table [("note", .string "old")]),
      ("clone_with_ssh", .scalar (.boolean true))]) =
        some [("auth", .table [("note", .string "old")]),
          ("clone_with_ssh", .scalar (.boolean true))] := by
    decide +kernel
  have accepted : (LegacySettings.ofDocument tableText).toOption =
      some { host := some "github.com" } := by
    decide +kernel
  obtain ⟨after, cleared, _⟩ := run_clear_withFile parsed
  refine ⟨after, cleared, ?_⟩
  obtain ⟨document, _, _, parsed', _, _, gone, _⟩ := clear_removes_settings_iff "/settings.toml"
    tableText (withFile tableText) after { host := some "github.com" } (read_withFile _)
    (read_eq_ok (read_withFile _) accepted) cleared
    (by
      intro document parsed'
      cases parsed.symm.trans parsed'
      rw [rest]
      exact Toml.recovered_of_parse again (by simp))
  cases parsed.symm.trans parsed'
  refine gone.mpr ?_
  rintro ⟨first, others, list⟩
  cases list

/-- Settings in a list survive: the file is as it was, and the same host is read again. -/
theorem clear_keeps_list :
    ((inTree "/settings.toml").read.run (withFile "auth = [\"ghe.corp\"]\n")).1 =
        .ok { host := some "ghe.corp" } ∧
      ∃ after, (inTree "/settings.toml").clear.run (withFile "auth = [\"ghe.corp\"]\n") =
          (.ok (), after) ∧
        ((inTree "/settings.toml").read.run after).1 = .ok { host := some "ghe.corp" } := by
  have parsed : Toml.parse "auth = [\"ghe.corp\"]\n" =
      some [("auth", .array [.string "ghe.corp"])] := by
    decide +kernel
  have printed : Toml.print (LegacySettings.clearFrom [("auth", .array [.string "ghe.corp"])]) =
      "auth = [\"ghe.corp\"]\n" := by
    decide +kernel
  have accepted : (LegacySettings.ofDocument "auth = [\"ghe.corp\"]\n").toOption =
      some { host := some "ghe.corp" } := by
    decide +kernel
  obtain ⟨after, cleared, content⟩ := run_clear_withFile parsed
  rw [printed] at content
  exact ⟨read_eq_ok (read_withFile _) accepted, after, cleared, read_eq_ok content accepted⟩

end SettingsFile

end AccountKeeper
