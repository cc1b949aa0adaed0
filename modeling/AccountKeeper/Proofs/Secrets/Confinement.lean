import AccountKeeper.Proofs.Secrets.Vault

/-!
# What the vault touches

Calls on the vault change the file of their key and nothing else, besides making
the directory for it, as long as nothing is stored through a symbolic link.  A
symbolic link is refused when a secret is looked up, but neither when one is
stored nor when one is erased.
-/

set_option autoImplicit false

namespace AccountKeeper

namespace FileTree

variable {before ready after : FileTree} {path : String} {made : List String}

/-- Everything stands as it stood, apart from what a path names and from new directories that other
paths lead to. -/
def Confined (before after : FileTree) (path : String) (made : List String) : Prop :=
  ∀ place, after.at? place = before.at? place ∨
    before.Names path place ∨ after.Names path place ∨
      (before.at? place = none ∧
        ∃ above ∈ made, after.find .always above = .ok (place, .directory))

theorem Confined.refl (tree : FileTree) (path : String) (made : List String) :
    tree.Confined tree path made := fun _ => .inl rfl

theorem Confined.of_made (extended : before.Made ready made) :
    before.Confined ready path made := by
  intro place
  rcases extended.only place with same | new
  · exact .inl same
  · exact .inr (.inr (.inr new))

theorem Confined.of_made_change {place : Place} (extended : before.Made ready made)
    (keeps : ready.KeepsWays after) (names : ready.Names path place)
    (others : ∀ other ≠ place, after.at? other = ready.at? other) :
    before.Confined after path made := by
  intro other
  by_cases here : other = place
  · subst here
    exact .inr (.inr (.inl (names.mono keeps)))
  rw [others other here]
  rcases extended.only other with same | ⟨absent, above, member, leads⟩
  · exact .inl same
  · obtain ⟨_, _, _, there, _⟩ := find_eq_ok.mp leads
    refine .inr (.inr (.inr ⟨absent, above, member, ?_⟩))
    exact find_mono keeps leads (keeps.directory other there) (by simp)

theorem Confined.of_remove (removed : before.remove path = .ok after) :
    before.Confined after path made := by
  obtain ⟨place, followed, _, noDirectory, rfl⟩ := remove_eq_ok.mp removed
  have not_root : place ≠ [] := by
    rintro rfl
    exact noDirectory rfl
  intro other
  by_cases here : other = place
  · subst here
    exact .inr (.inl ⟨_, followed, rfl⟩)
  · exact .inl (by rw [at?_erase _ _ _ not_root, if_neg here])

/-- The directory of a link that is named below it exists already. -/
theorem makeDirectories_of_link {directory name : String} (isName : Path.IsName name)
    (rooted : before.Rooted) (linked : before.NamesLink (Path.join directory name)) :
    before.makeDirectories directory = (.ok (), before) := by
  obtain ⟨_, target, ⟨arrival, followed, rfl⟩, there⟩ := linked
  rcases follow_join isName followed with ⟨rfl, _⟩ | ⟨middle, led, rfl⟩
  · rfl
  · have inside : before.at? middle.place = some .directory :=
      rooted middle.place name (by rw [there]; simp)
    exact makeDirectories_of_leads (leadsToDirectory_iff.mpr
      ⟨middle.place, find_eq_ok.mpr ⟨middle, led, rfl, inside, fun _ => rfl⟩⟩)

end FileTree

/-- The directories that a call on a vault may make. -/
def SecretCall.makes (directory : String) : SecretCall → List String
  | .set _ (some _) => directory :: Path.above directory
  | _ => []

namespace Session

variable {cipher : Cipher} {directory service key : String} {s : Session}

theorem files_get (key : String) (s : Session) :
    (((vault cipher directory service).store.perform (.get key)).run s).2.files = s.files := by
  show (((vault cipher directory service).get key).run s).2.files = s.files
  rcases @run_get_state cipher directory service s key with same | ⟨entry, same⟩
  · rw [same]
  · rw [same]
    rfl

theorem confined_erase (valid : SecretKey.Valid key) (s : Session) (made : List String) :
    s.files.Confined (((vault cipher directory service).set key none).run s).2.files
      ((vault cipher directory service).pathOf key) made := by
  by_cases leads : s.files.leads ((vault cipher directory service).pathOf key) = true
  · obtain ⟨entry, run⟩ := run_erase_present valid leads
    rw [run]
    cases removed : s.files.remove ((vault cipher directory service).pathOf key) with
    | ok files => exact .of_remove removed
    | error fault => exact .refl _ _ _
  · obtain ⟨entry, run⟩ := run_erase_absent valid (Bool.not_eq_true _ ▸ leads)
    rw [run]
    exact .refl _ _ _

theorem confined_put (valid : SecretKey.Valid key) (text : String) (s : Session)
    (noLink : ¬(s.files.makeDirectories directory).2.NamesLink
      ((vault cipher directory service).pathOf key)) :
    s.files.Confined (((vault cipher directory service).set key (some text)).run s).2.files
      ((vault cipher directory service).pathOf key) (directory :: Path.above directory) := by
  have extended := FileTree.made_makeDirectories directory s.files
  cases unlocked : s.password with
  | none =>
    rw [run_put_locked valid unlocked]
    exact .refl _ _ _
  | some password =>
    rcases @run_put_unlocked cipher directory service s key valid _ unlocked text with
      ⟨failure, run, _⟩ | ⟨place, entry, _, writable, run⟩
    · rw [run]
      exact .of_made extended
    · rw [run]
      refine .of_made_change extended (writable.leaf.keeps_sealed _)
        (FileTree.names_of_follow writable.followed noLink) ?_
      intro other different
      exact (writable.leaf.sealed_at? _ other).trans (if_neg different)

/-- A run fails and leaves all files as they are. -/
def Refuses {α : Type} (s : Session) (run : Except Failure α × Session) : Prop :=
  run.1.isOk = false ∧ ∀ place, run.2.files.at? place = s.files.at? place

theorem refuses_error {α : Type} {failure : Failure} {after : Session}
    (same : after.files = s.files) :
    s.Refuses ((.error failure, after) : Except Failure α × Session) :=
  ⟨rfl, fun _ => by rw [same]⟩

theorem not_refuses_ok {α : Type} {value : α} {after : Session} :
    ¬s.Refuses (Except.ok value, after) := fun refuses => by cases refuses.1

theorem refuses_perform_set (store : SecretStore Session) (key : String) (value : Option String) :
    s.Refuses ((store.perform (.set key value)).run s) ↔
      s.Refuses ((store.set key value).run s) := by
  rw [SecretStore.run_perform_set]
  rcases (store.set key value).run s with ⟨outcome, after⟩
  cases outcome <;> exact Iff.rfl

section Links

variable (valid : SecretKey.Valid key) (linked : s.files.NamesLink
  ((vault cipher directory service).pathOf key))

include valid linked

theorem get_refuses_link_iff :
    s.Refuses (((vault cipher directory service).get key).run s) ↔
      s.files.leads ((vault cipher directory service).pathOf key) = true := by
  by_cases leads : s.files.leads ((vault cipher directory service).pathOf key) = true
  · obtain ⟨place, target, names, there⟩ := linked
    obtain ⟨failure, run⟩ := run_get_link valid leads (FileTree.named_of_names
      ((vault cipher directory service).endsInSlash_pathOf key) names there)
    rw [run]
    exact iff_of_true (refuses_error rfl) leads
  · rw [run_get_absent valid (Bool.not_eq_true _ ▸ leads)]
    exact iff_of_false not_refuses_ok leads

theorem not_erase_refuses_link (plain : '/' ∉ service.toList) :
    ¬s.Refuses (((vault cipher directory service).set key none).run s) := by
  by_cases leads : s.files.leads ((vault cipher directory service).pathOf key) = true
  · obtain ⟨entry, run⟩ := run_erase_present valid leads
    obtain ⟨_, target, ⟨arrival, followed, rfl⟩, there⟩ := linked
    have isName := SecretKey.isName_sealedName plain valid
    obtain ⟨place, rfl⟩ : ∃ place, arrival = ⟨place, true, false⟩ := by
      rcases FileTree.follow_join isName followed with ⟨_, rfl⟩ | ⟨_, _, rfl⟩
      · exact ⟨_, rfl⟩
      · exact ⟨_, rfl⟩
    have removed := FileTree.remove_eq_ok.mpr
      ⟨place, followed, by rw [there]; rfl, by rw [there]; simp, rfl⟩
    rw [run, removed]
    exact not_refuses_ok
  · obtain ⟨entry, run⟩ := run_erase_absent valid (Bool.not_eq_true _ ▸ leads)
    rw [run]
    exact not_refuses_ok

/-- Storing follows a link to where it leads. -/
theorem put_refuses_link_iff (plain : '/' ∉ service.toList) (rooted : s.files.Rooted)
    (text : String) :
    s.Refuses (((vault cipher directory service).set key (some text)).run s) ↔
      s.password = none ∨
        ¬∃ place, s.files.Writable ((vault cipher directory service).pathOf key) place := by
  have there : s.files.makeDirectories directory = (.ok (), s.files) :=
    FileTree.makeDirectories_of_link (SecretKey.isName_sealedName plain valid) rooted linked
  cases unlocked : s.password with
  | none =>
    rw [run_put_locked valid unlocked]
    exact iff_of_true (refuses_error rfl) (.inl rfl)
  | some password =>
    rcases @run_put_unlocked cipher directory service s key valid _ unlocked text with
      ⟨failure, run, refused⟩ | ⟨place, entry, _, writable, run⟩
    · rw [there] at run refused
      rw [run]
      exact iff_of_true (refuses_error rfl) (.inr fun writable => refused ⟨rfl, writable⟩)
    · rw [there] at writable
      rw [run]
      refine iff_of_false not_refuses_ok fun refused => ?_
      rcases refused with locked | unwritable
      · cases locked
      · exact unwritable ⟨place, writable⟩

end Links

end Session

/-- Calls on the vault stay within the file of their key and the directories made for it, unless a
secret is stored through a link.  With a link in place of the file, a call fails and leaves all
files as they are in exactly the cases listed last. -/
theorem vault_confined_and_link_refused_iff (cipher : Cipher) (directory service : String)
    (call : SecretCall) (s : Session) :
    let vault := Session.vault cipher directory service
    let path := vault.pathOf call.key
    let run := (vault.store.perform call).run s
    (∀ key, call = .get key → run.2.files = s.files) ∧
    ((∀ key text, call = .set key (some text) →
        ¬(s.files.makeDirectories directory).2.NamesLink path) →
      s.files.Confined run.2.files path (call.makes directory)) ∧
    (SecretKey.Valid call.key → '/' ∉ service.toList → s.files.Rooted →
      s.files.NamesLink path →
        (s.Refuses run ↔
          match call with
          | .get _ => s.files.leads path = true
          | .set _ none => False
          | .set _ (some _) => s.password = none ∨ ¬∃ place, s.files.Writable path place)) := by
  intro vault path run
  refine ⟨?_, fun unlinked => ?_, fun valid plain rooted linked => ?_⟩
  · rintro key rfl
    exact Session.files_get key s
  · by_cases valid : SecretKey.Valid call.key
    · cases call with
      | get key =>
        have same : run.2.files = s.files := Session.files_get key s
        rw [same]
        exact .refl _ _ _
      | set key value =>
        have same : run.2.files = ((vault.set key value).run s).2.files :=
          congrArg (·.2.files) (SecretStore.run_perform_set vault.store key value s)
        rw [same]
        cases value with
        | none => exact Session.confined_erase valid s _
        | some text => exact Session.confined_put valid text s (unlinked key text rfl)
    · obtain ⟨failure, refused⟩ := SecretKey.require_of_invalid valid
      have same : run = (.error failure, s) := Session.run_perform_invalid call refused
      rw [same]
      exact .refl _ _ _
  · cases call with
    | get key => exact Session.get_refuses_link_iff valid linked
    | set key value =>
      refine (Session.refuses_perform_set vault.store key value).trans ?_
      cases value with
      | none => exact iff_of_false (Session.not_erase_refuses_link valid linked plain) id
      | some text => exact Session.put_refuses_link_iff valid linked plain rooted text

/-! ## A link to a file of somebody else -/

namespace Session

/-- A directory for secrets and a file of somebody else, which nobody else can write. -/
def plainFiles : FileTree :=
  (({} : FileTree).put ["credentials"] .directory).put ["other.age"]
    (.file "not a secret".toUTF8 0o640)

/-- The same, with a link to the file in place of the file of a secret. -/
def linkedFiles : FileTree :=
  plainFiles.put ["credentials", "gh-accounts.token.age"] (.link "../other.age")

theorem rooted_linkedFiles : linkedFiles.Rooted := by
  have directory := (FileTree.rooted_bare []).put [] "credentials" .directory rfl
    (.of_absent rfl)
  have other := directory.put [] "other.age" (.file "not a secret".toUTF8 0o640) rfl
    (.of_absent rfl)
  exact other.put ["credentials"] "gh-accounts.token.age" (.link "../other.age") rfl
    (.of_absent rfl)

def tokenPath : String :=
  (vault (.age 14 20) "/credentials" serviceName).pathOf "token"

theorem names_tokenPath :
    linkedFiles.Names tokenPath ["credentials", "gh-accounts.token.age"] :=
  ⟨⟨["credentials", "gh-accounts.token.age"], true, false⟩, rfl, rfl⟩

theorem namesLink_tokenPath : linkedFiles.NamesLink tokenPath :=
  ⟨_, "../other.age", names_tokenPath, rfl⟩

theorem writable_tokenPath : linkedFiles.Writable tokenPath ["other.age"] where
  followed := rfl
  leaf := by
    have there : linkedFiles.at? ["other.age"] = some (.file "not a secret".toUTF8 0o640) := rfl
    exact ⟨by simp [there], by simp [there]⟩

theorem not_namesLink_plainFiles :
    ¬(plainFiles.makeDirectories "/credentials").2.NamesLink tokenPath := by
  have made : plainFiles.makeDirectories "/credentials" = (.ok (), plainFiles) :=
    FileTree.makeDirectories_of_leads rfl
  rw [made]
  rintro ⟨place, target, names, there⟩
  have named : plainFiles.Names tokenPath ["credentials", "gh-accounts.token.age"] :=
    ⟨⟨_, true, false⟩, rfl, rfl⟩
  obtain rfl := named.unique names
  cases there

def opened (files : FileTree) : Session where
  files
  password := some "test_password_123"
  randomness := id

end Session

/-- A link in place of a file is refused when the secret is looked up, and a new file is the only
change when it is stored. -/
theorem vault_confined_and_link_refused_iff_at_token :
    (SecretKey.Valid "token" ∧ '/' ∉ serviceName.toList ∧ Session.linkedFiles.Rooted ∧
      Session.linkedFiles.NamesLink Session.tokenPath) ∧
    (Session.opened Session.linkedFiles).Refuses
      (((Session.vault (.age 14 20) "/credentials" serviceName).store.perform
        (.get "token")).run (Session.opened Session.linkedFiles)) ∧
    Session.plainFiles.Confined
      (((Session.vault (.age 14 20) "/credentials" serviceName).store.perform
        (.set "token" (some "ghp_secret"))).run (Session.opened Session.plainFiles)).2.files
      Session.tokenPath ["/credentials"] := by
  have valid : SecretKey.Valid "token" := by decide
  have noSlash : '/' ∉ serviceName.toList := by decide
  obtain ⟨_, _, refused⟩ := vault_confined_and_link_refused_iff (.age 14 20) "/credentials"
    serviceName (.get "token") (Session.opened Session.linkedFiles)
  obtain ⟨_, confined, _⟩ := vault_confined_and_link_refused_iff (.age 14 20) "/credentials"
    serviceName (.set "token" (some "ghp_secret")) (Session.opened Session.plainFiles)
  refine ⟨⟨valid, noSlash, Session.rooted_linkedFiles, Session.namesLink_tokenPath⟩, ?_, ?_⟩
  · exact (refused valid noSlash Session.rooted_linkedFiles Session.namesLink_tokenPath).mpr rfl
  · exact confined fun _ _ _ => Session.not_namesLink_plainFiles

/-- A secret is stored through a link: the file of somebody else is overwritten and closed. -/
theorem stored_through_link :
    let vault := Session.vault (.age 14 20) "/credentials" serviceName
    let linked := Session.opened Session.linkedFiles
    let run := (vault.store.perform (.set "token" (some "ghp_secret"))).run linked
    SecretKey.Valid "token" ∧ linked.files.NamesLink (vault.pathOf "token") ∧
      run.1 = .ok none ∧ ¬linked.files.Names (vault.pathOf "token") ["other.age"] ∧
      linked.files.at? ["other.age"] = some (.file "not a secret".toUTF8 0o640) ∧
      ∃ content, run.2.files.at? ["other.age"] = some (.file content 0o600) := by
  intro vault linked run
  have valid : SecretKey.Valid "token" := by decide
  have equation : run = _ := SecretStore.run_perform_set vault.store "token" _ linked
  have made : linked.files.makeDirectories "/credentials" = (.ok (), linked.files) :=
    FileTree.makeDirectories_of_leads rfl
  have writable : linked.files.Writable (vault.pathOf "token") ["other.age"] :=
    Session.writable_tokenPath
  refine ⟨valid, Session.namesLink_tokenPath, ?_⟩
  obtain ⟨entry, stored⟩ := Session.run_put_at valid rfl made writable "ghp_secret"
  rw [show (vault.store.set "token" (some "ghp_secret")).run linked = _ from stored] at equation
  rw [equation]
  refine ⟨rfl, fun names => ?_, rfl, ?_⟩
  · exact absurd (Session.names_tokenPath.unique names) (by decide)
  · exact ⟨_, (writable.leaf.sealed_at? _ _).trans (if_pos rfl)⟩

end AccountKeeper
