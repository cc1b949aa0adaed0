import AccountKeeper.Accounts.Register
import AccountKeeper.Proofs.Action

/-!
# A register on a desk

A desk holds what a register works on: the list in memory, the content of the
state file, and the secrets.  `Outages` says which calls on files and secrets
fail, and what a failing write leaves in the file.  The theorems give each
operation of the register as one equation.
-/

set_option autoImplicit false

namespace AccountKeeper

/-- What a register works on. -/
structure Desk where
  listed : List Account := []
  file : Option ByteArray := none
  secrets : SecretTable := {}
  /-- How many calls on the secrets were made. -/
  secretCalls : Nat := 0
  saves : Nat := 0
  journal : List JournalEntry := []

namespace Desk

instance : Journal Desk where
  record entry desk := { desk with journal := desk.journal ++ [entry] }

def listedPart : Part Desk (List Account) where
  get desk := desk.listed
  set listed desk := { desk with listed }

/-- The desk after a call on the secrets that has no effect. -/
def called (desk : Desk) : Desk :=
  { desk with secretCalls := desk.secretCalls + 1 }

/-- The desk after a secret was stored or erased. -/
def storing (desk : Desk) (key : String) (value : Option String) : Desk :=
  { desk.called with secrets := desk.secrets.put key value }

def listing (desk : Desk) (listed : List Account) : Desk :=
  { desk with listed }

/-- The desk after an attempt to write the list that leaves a content in the file. -/
def saving (desk : Desk) (file : Option ByteArray) : Desk :=
  { desk with file, saves := desk.saves + 1 }

def reporting (desk : Desk) (entry : JournalEntry) : Desk :=
  { desk with journal := desk.journal ++ [entry] }

@[simp] theorem record_eq (entry : JournalEntry) (desk : Desk) :
    Journal.record entry desk = desk.reporting entry := rfl

def onFile (desk : Desk) (path : String) : Except Failure (List Account) :=
  match desk.file with
  | none => .ok []
  | some content =>
    match String.fromUTF8? content with
    | none => .error (.account (.stateFile (.read .notText)))
    | some text =>
      (AccountDocument.read text).mapError fun fault =>
        .account (.stateFile (.corrupted path fault))

end Desk

/-- The calls that fail: those on the secrets by the number of such calls before, those on the
state file by the number of the save they are part of. -/
structure Outages where
  secrets : Nat → Option CredentialFailure
  directory : Nat → Option FileFault
  /-- The fault of a write, and what it makes of the content of the file. -/
  write : Nat → Option (FileFault × (Option ByteArray → Option ByteArray))
  mode : Nat → Option FileFault

namespace Outages

variable (outages : Outages)

/-- No call fails. -/
def never : Outages where
  secrets _ := none
  directory _ := none
  write _ := none
  mode _ := none

/-- Lets a call succeed with a new desk, or fail with another one. -/
def attempt {ε : Type} (fault : Option ε) (failed succeeded : Desk) : Except ε Unit × Desk :=
  match fault with
  | some fault => (.error fault, failed)
  | none => (.ok (), succeeded)

def files : FileSystem Desk where
  leads _ := return (← get).file.isSome
  read _ := ActionE.of fun desk => (desk.file.elim (.error .notFound) .ok, desk)
  write _ content := ActionE.of fun desk =>
    match outages.write desk.saves with
    | some (fault, damage) => (.error fault, { desk with file := damage desk.file })
    | none => (.ok (), { desk with file := some content })
  setMode _ _ := ActionE.of fun desk => attempt (outages.mode desk.saves) desk desk
  remove _ := ActionE.of fun desk => (.ok (), { desk with file := none })
  isLink _ := return false
  makeParents _ := ActionE.of fun desk =>
    let begun := desk.saving desk.file
    attempt (outages.directory begun.saves) begun begun
  makeDirectories _ := return ()

/-- The secrets; a call that fails has no effect. -/
def secretStore : SecretStore Desk where
  get key := ActionE.of fun desk =>
    match outages.secrets desk.secretCalls with
    | some failure => (.error (.credential failure), desk.called)
    | none => (.ok (desk.secrets.get? key), desk.called)
  set key value := ActionE.of fun desk =>
    match outages.secrets desk.secretCalls with
    | some failure => (.error (.credential failure), desk.called)
    | none => (.ok (), desk.storing key value)
  name := "desk"

def register (path : String) : AccountRegister Desk where
  files := outages.files
  path
  secrets := outages.secretStore
  listed := Desk.listedPart

variable (path : String) (desk : Desk)

theorem run_setSecret (key : String) (value : Option String) :
    (outages.secretStore.set key value).run desk =
      match outages.secrets desk.secretCalls with
      | some failure => (.error (.credential failure), desk.called)
      | none => (.ok (), desk.storing key value) := rfl

theorem run_accounts :
    ((outages.register path).accounts).run desk = (.ok desk.listed, desk) := rfl

theorem run_token (id : AccountId) :
    ((outages.register path).token id).run desk =
      match outages.secrets desk.secretCalls with
      | some failure => (.error (.credential failure), desk.called)
      | none => (.ok (desk.secrets.get? id.secretKey), desk.called) := rfl

theorem run_list (listed : List Account) :
    ((outages.register path).listed.assign listed : Action Desk PUnit).run desk =
      (.ok (), desk.listing listed) := rfl

theorem run_state_list (listed : List Account) :
    StateT.run ((outages.register path).listed.assign listed : StateM Desk PUnit) desk =
      ((), desk.listing listed) := rfl

/-! ## Saving -/

def saveFault (save : Nat) : Option StateFileFault :=
  match outages.directory save, outages.write save, outages.mode save with
  | some fault, _, _ => some (.directory fault)
  | none, some (fault, _), _ => some (.write fault)
  | none, none, some fault => some (.permissions fault)
  | none, none, none => none

/-- What a save of some content leaves in the file. -/
def leftBySave (save : Nat) (before : Option ByteArray) (content : ByteArray) :
    Option ByteArray :=
  match outages.directory save, outages.write save with
  | some _, _ => before
  | none, some (_, damage) => damage before
  | none, none => some content

theorem run_save (accounts : List Account) :
    ((outages.register path).save accounts).run desk =
      ((outages.saveFault (desk.saves + 1)).elim (.ok ()) fun fault =>
          .error (.account (.stateFile fault)),
        desk.saving (outages.leftBySave (desk.saves + 1) desk.file
          (AccountDocument.print accounts).toUTF8)) := by
  unfold AccountRegister.save saveFault leftBySave register files FileSystem.writeText attempt
  simp only [ActionE.run_bind, ActionE.run_mapError, ActionE.run_of,
    show (desk.saving desk.file).saves = desk.saves + 1 from rfl]
  cases outages.directory (desk.saves + 1) with
  | some fault => rfl
  | none =>
    dsimp only [ActionE.mapError_ok]
    rw [show (desk.saving desk.file).saves = desk.saves + 1 from rfl]
    cases outages.write (desk.saves + 1) with
    | some failure => rfl
    | none =>
      dsimp only [ActionE.mapError_ok]
      cases outages.mode (desk.saves + 1) <;> rfl

/-! ## Additions -/

/-- Whether a list takes an account, before anything is written. -/
def admission (listed : List Account) (account : Account) : Except Failure Unit :=
  match Login.require account.login with
  | .error failure => .error failure
  | .ok () =>
    if listed.any fun other =>
        other.id = account.id || other.isSameIdentity account.login account.server then
      .error (.account (.duplicate account.login account.server.display))
    else .ok ()

def undone (before : List Account) (account : Account) (cause : Failure) : Desk :=
  let restored := (desk.listing before).reporting ⟨.accounts, .warn,
    "Failed to persist account " ++ account.display ++ ", rolling back: " ++ cause.message⟩
  match outages.secrets desk.secretCalls with
  | none => restored.storing account.id.secretKey none
  | some failure => restored.called.reporting ⟨.accounts, .warn,
      "Failed to erase token after rollback: " ++ (Failure.credential failure).message⟩

/-- Undoing gives the list back and erases one secret, if that call works; no other changes. -/
theorem undone_eq (before : List Account) (account : Account) (cause : Failure) :
    (outages.undone desk before account cause).listed = before ∧
      (outages.undone desk before account cause).file = desk.file ∧
      ∀ key, (outages.undone desk before account cause).secrets.get? key =
        if key = account.id.secretKey ∧ outages.secrets desk.secretCalls = none then none
        else desk.secrets.get? key := by
  unfold undone
  cases outages.secrets desk.secretCalls with
  | none =>
    refine ⟨rfl, rfl, fun key => ?_⟩
    simp only [and_true]
    exact SecretTable.get?_put _ _ _ _
  | some failure => exact ⟨rfl, rfl, fun key => by simp; rfl⟩

theorem run_rollBack (before : List Account) (account : Account) (cause : Failure) :
    StateT.run ((outages.register path).rollBack before account cause) desk =
      ((), outages.undone desk before account cause) := by
  unfold AccountRegister.rollBack undone
  simp only [ActionE.run_state_bind, run_state_list, Journal.run_state_note, Desk.record_eq,
    ActionE.run_outcome]
  rw [show (outages.register path).secrets = outages.secretStore from rfl, run_setSecret,
    show ((desk.listing before).reporting _).secretCalls = desk.secretCalls from rfl]
  cases outages.secrets desk.secretCalls <;> rfl

/-- The desk once the token of a new account is stored and its list was to be written. -/
def enlisted (account : Account) (token : String) : Desk :=
  let after := desk.listed ++ [account]
  ((desk.storing account.id.secretKey (some token)).listing after).saving
    (outages.leftBySave (desk.saves + 1) desk.file (AccountDocument.print after).toUTF8)

theorem enlisted_secrets (account : Account) (token key : String) :
    (outages.enlisted desk account token).secrets.get? key =
      if key = account.id.secretKey then some token else desk.secrets.get? key :=
  SecretTable.get?_put _ _ _ _

/-- An addition is refused, or its token cannot be stored, or it is undone, or it succeeds. -/
theorem run_add (account : Account) (token : String) :
    ((outages.register path).add account token).run desk =
      match admission desk.listed account, outages.secrets desk.secretCalls,
        outages.saveFault (desk.saves + 1) with
      | .error failure, _, _ => (.error failure, desk)
      | .ok (), some failure, _ => (.error (.credential failure), desk.called)
      | .ok (), none, some fault =>
        (.error (.account (.stateFile fault)),
          outages.undone (outages.enlisted desk account token) desk.listed account
            (.account (.stateFile fault)))
      | .ok (), none, none =>
        (.ok (), (outages.enlisted desk account token).reporting
          ⟨.accounts, .debug, "Registered account " ++ account.display⟩) := by
  unfold AccountRegister.add admission
  rw [ActionE.run_bind, ActionE.run_ofExcept]
  cases Login.require account.login with
  | error failure => rfl
  | ok _ =>
    simp only [ActionE.run_bind, run_accounts]
    split
    · simp
    · simp only [ActionE.run_bind]
      rw [show (outages.register path).secrets = outages.secretStore from rfl, run_setSecret]
      cases outages.secrets desk.secretCalls with
      | some failure => rfl
      | none =>
        simp only [run_list, ActionE.run_attempt, run_save]
        rw [show ((desk.storing account.id.secretKey (some token)).listing
          (desk.listed ++ [account])).saves = desk.saves from rfl]
        cases outages.saveFault (desk.saves + 1) with
        | none => rfl
        | some fault =>
          simp only [Option.elim, ActionE.run_bind, ActionE.run_ofState, run_rollBack]
          rfl

/-! ## Other operations -/

theorem run_setToken (id : AccountId) (token : String) :
    ((outages.register path).setToken id token).run desk =
      if desk.listed.any (·.id = id) then
        match outages.secrets desk.secretCalls with
        | some failure => (.error (.credential failure), desk.called)
        | none => (.ok (), desk.storing id.secretKey (some token))
      else (.error (.account (.notFound id.display)), desk) := by
  unfold AccountRegister.setToken
  rw [ActionE.run_bind, run_accounts]
  cases known : desk.listed.any (·.id = id) with
  | true => simp [known, register, run_setSecret]
  | false => simp [known]

theorem run_load :
    (outages.register path).load.run desk =
      match desk.onFile path with
      | .ok accounts => (.ok (), desk.listing accounts)
      | .error failure => (.error failure, desk) := by
  have found : (outages.register path).readFile.run desk =
      ((desk.onFile path).map fun accounts => desk.file.map fun _ => accounts, desk) := by
    unfold AccountRegister.readFile Desk.onFile
    rw [ActionE.run_bind]
    have leads : (liftM ((outages.register path).files.leads (outages.register path).path) :
        Action Desk Bool).run desk = (.ok desk.file.isSome, desk) := rfl
    rw [leads]
    cases content_eq : desk.file with
    | none => rfl
    | some content =>
      have read : ((outages.register path).files.read (outages.register path).path).run desk =
          (.ok content, desk) := by
        change (desk.file.elim _ _, desk) = _
        rw [content_eq]
        rfl
      simp only [Option.isSome_some, if_true, ActionE.run_bind, ActionE.run_mapError,
        FileSystem.readText, read]
      cases String.fromUTF8? content with
      | none => rfl
      | some text => cases decoded : AccountDocument.read text <;> simp [decoded] <;> rfl
  unfold AccountRegister.load
  rw [ActionE.run_bind, found]
  cases listed : desk.onFile path with
  | error failure => rfl
  | ok accounts =>
    simp only [Except.map, run_list]
    cases content_eq : desk.file with
    | some content => rfl
    | none =>
      unfold Desk.onFile at listed
      rw [content_eq] at listed
      cases listed
      rfl

end Outages

end AccountKeeper
