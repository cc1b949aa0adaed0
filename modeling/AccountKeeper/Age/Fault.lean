/-!
# Faults of encrypted files

Why a file in the age format cannot be decrypted.
-/

set_option autoImplicit false

namespace AccountKeeper.Age

inductive Fault where
  /-- The first line names another version, or the recipients are not understood. -/
  | unknownFormat
  | invalidHeader
  | incomplete
  | wrongPassphrase
  /-- The passphrase would take too long to try. -/
  | excessiveWork (seconds : Nat)
  | invalidMac
  | damagedPayload
  | truncatedPayload
  | extraChunk
  | emptyLastChunk
  /-- The file is encrypted to keys and not to a passphrase. -/
  | notPassphrase
  deriving DecidableEq, Repr

def Fault.message : Fault → String
  | unknownFormat => "Unknown age format.\nHave you tried upgrading to the latest version?"
  | invalidHeader => "Header is invalid"
  | incomplete => "failed to fill whole buffer"
  | wrongPassphrase => "Decryption failed"
  | excessiveWork seconds =>
    "Excessive work parameter for passphrase.\nDecryption would take around " ++
      Nat.repr seconds ++ " seconds."
  | invalidMac => "Header MAC is invalid"
  | damagedPayload => "decryption error"
  | truncatedPayload => "age file is truncated"
  | extraChunk => "last chunk has been processed"
  | emptyLastChunk =>
    "Last age STREAM chunk is empty. Please report this, " ++
      "and/or try decrypting with an older rage version."
  | notPassphrase => "Invalid encryption format (expected passphrase)"

end AccountKeeper.Age
