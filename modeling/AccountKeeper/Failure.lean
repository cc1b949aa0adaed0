import AccountKeeper.Account
import AccountKeeper.Age.Fault
import AccountKeeper.Files.Fault
import AccountKeeper.Secrets.Key
import AccountKeeper.Text.Utf8
import AccountKeeper.Toml.Fault

/-!
# Failures

Everything that can go wrong, by cause.  `Failure.message` puts a failure into
words, `Failure.chain` lists the causes behind it, and `Failure.exitCode` is
the exit code of a command that ends with it.
-/

set_option autoImplicit false

namespace AccountKeeper

inductive ConfigFailure where
  | unreadable (cause : FileFault)
  | malformed (cause : Toml.Fault)
  | noDirectory
  | invalidValue (reason : String)
  deriving DecidableEq, Repr

inductive SealFault where
  | format (cause : Age.Fault)
  | notText (cause : Text.Utf8Fault)
  | other (text : String)
  deriving DecidableEq, Repr

inductive CredentialFailure where
  | keyringUnavailable (reason : String)
  | keyring (reason : String)
  | encryption (cause : SealFault)
  | decryptionFailed
  | masterPasswordNotSet
  | weakPassword
  | noStoreAvailable
  | files (cause : FileFault)
  deriving DecidableEq, Repr

inductive StateFileFault where
  | directory (cause : FileFault)
  | write (cause : FileFault)
  | permissions (cause : FileFault)
  | read (cause : FileFault)
  | corrupted (path : String) (cause : Toml.Fault)
  | readOnly
  | other (text : String)
  deriving DecidableEq, Repr

inductive AccountFailure where
  | stateFile (cause : StateFileFault)
  | duplicate (login server : String)
  | notFound (id : String)
  | invalidLogin (cause : Login.Fault)
  deriving DecidableEq, Repr

inductive WriteFault where
  | directory (cause : FileFault)
  | file (cause : FileFault)
  | other (text : String)
  deriving DecidableEq, Repr

inductive LegacyFailure where
  | unreadable (cause : FileFault)
  | malformed (cause : Toml.Fault)
  | unwritable (cause : WriteFault)
  deriving DecidableEq, Repr

inductive LookupFailure where
  | authentication (reason : String)
  | network (reason : String)
  | unexpectedResponse (reason : String)
  | invalidServer (reason : String)
  | cancelled
  deriving DecidableEq, Repr

inductive InputFault where
  | server (input : String) (cause : ServerAddress.Fault)
  | secretKey (cause : SecretKey.Fault)
  | other (text : String)
  deriving DecidableEq, Repr

inductive Failure where
  | config (cause : ConfigFailure)
  | credential (cause : CredentialFailure)
  | account (cause : AccountFailure)
  | legacy (cause : LegacyFailure)
  | lookup (cause : LookupFailure)
  | input (cause : InputFault)
  /-- A migration was started from inside the asynchronous runtime. -/
  | wrongThread
  deriving DecidableEq, Repr

/-! ## Messages -/

abbrev DocumentWording := Toml.Fault → String

def ConfigFailure.messageWith (document : DocumentWording) : ConfigFailure → String
  | unreadable cause => "Failed to read config file: " ++ cause.message
  | malformed cause => "Failed to parse config: " ++ document cause
  | noDirectory => "Cannot determine the user config directory; set GH_ACCOUNTS_CONFIG"
  | invalidValue reason => "Invalid config value: " ++ reason

def SealFault.message : SealFault → String
  | format cause => cause.message
  | notText cause => "Invalid UTF-8: " ++ cause.message
  | other text => text

def CredentialFailure.message : CredentialFailure → String
  | keyringUnavailable reason => "OS keyring unavailable: " ++ reason
  | keyring reason => "Keyring operation failed: " ++ reason
  | encryption cause => "Encryption error: " ++ cause.message
  | decryptionFailed => "Decryption failed: wrong master password or corrupted file"
  | masterPasswordNotSet => "Master password not set"
  | weakPassword => "Master password too weak (minimum 8 characters)"
  | noStoreAvailable => "No secure credential storage available"
  | files cause => "I/O error: " ++ cause.message

def StateFileFault.messageWith (document : DocumentWording) : StateFileFault → String
  | directory cause => "Failed to create directory: " ++ cause.message
  | write cause => "Failed to write state file: " ++ cause.message
  | permissions cause => "Failed to set permissions: " ++ cause.message
  | read cause => "Failed to read state file: " ++ cause.message
  | corrupted path cause => "Corrupted state file " ++ path ++ ": " ++ document cause
  | readOnly => "account store is read-only"
  | other text => text

def AccountFailure.messageWith (document : DocumentWording) : AccountFailure → String
  | stateFile cause => "Account state file error: " ++ cause.messageWith document
  | duplicate login server =>
    "Account '" ++ login ++ "' on '" ++ server ++ "' is already registered"
  | notFound id => "Account '" ++ id ++ "' not found"
  | invalidLogin cause => "Invalid login: " ++ cause.message

def WriteFault.message : WriteFault → String
  | directory cause => "Failed to create directory: " ++ cause.message
  | file cause => "Failed to write settings file: " ++ cause.message
  | other text => text

def LegacyFailure.messageWith (document : DocumentWording) : LegacyFailure → String
  | unreadable cause => "Failed to read legacy settings: " ++ cause.message
  | malformed cause => "Failed to parse legacy settings: " ++ document cause
  | unwritable cause => "Failed to write legacy settings: " ++ cause.message

def LookupFailure.message : LookupFailure → String
  | authentication reason => "Authentication failed: " ++ reason
  | network reason => "Network error: " ++ reason
  | unexpectedResponse reason => "Unexpected response: " ++ reason
  | invalidServer reason => "Invalid server address: " ++ reason
  | cancelled => "Operation cancelled by user"

def InputFault.message : InputFault → String
  | server input cause => "Invalid server address '" ++ input ++ "': " ++ cause.reason
  | secretKey cause => cause.message
  | other text => text

namespace Failure

def messageWith (document : DocumentWording) : Failure → String
  | config cause => "Configuration error: " ++ cause.messageWith document
  | credential cause => "Credential error: " ++ cause.message
  | account cause => "Account error: " ++ cause.messageWith document
  | legacy cause => "Legacy settings error: " ++ cause.messageWith document
  | lookup cause => "Validation failed: " ++ cause.message
  | input cause => "Invalid input: " ++ cause.message
  | wrongThread =>
    "Migration must be started from the interactive thread, not from inside an async runtime"

def message (failure : Failure) : String :=
  failure.messageWith Toml.Fault.message

/-- The failure and the causes behind it, each in words. -/
def chain (failure : Failure) : List String :=
  failure.message ::
    match failure with
    | config cause =>
      cause.messageWith Toml.Fault.message ::
        match cause with
        | .unreadable cause => [cause.message]
        | .malformed cause => [cause.message]
        | _ => []
    | credential cause =>
      cause.message ::
        match cause with
        | .files cause => [cause.message]
        | _ => []
    | account cause => [cause.messageWith Toml.Fault.message]
    | legacy cause =>
      cause.messageWith Toml.Fault.message ::
        match cause with
        | .unreadable cause => [cause.message]
        | .malformed cause => [cause.message]
        | .unwritable _ => []
    | lookup cause => [cause.message]
    | input _ => []
    | wrongThread => []

def exitCode : Failure → Nat
  | input _ => 3
  | lookup (.authentication _) => 2
  | _ => 1

end Failure

namespace ServerAddress

def read (input : String) : Except Failure ServerAddress :=
  (parse input).mapError fun fault => .input (.server input fault)

def readHost (host : Option String) : Except Failure ServerAddress :=
  read (host.getD defaultHost)

end ServerAddress

namespace SecretKey

def require (key : String) : Except Failure Unit :=
  (check key).mapError fun fault => .input (.secretKey fault)

end SecretKey

namespace Login

def require (login : String) : Except Failure Unit :=
  (check login).mapError fun fault => .account (.invalidLogin fault)

end Login

end AccountKeeper
