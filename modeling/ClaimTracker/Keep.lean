/-!
# Keeps

A keep holds one durable document, which is overwritten in place. Reading may refuse a document that
is longer than a limit; reading and writing may fail for reasons of the keep's own.
-/

namespace ClaimTracker

abbrev Octets := List UInt8

/-- Why a keep did not do what it was asked to. -/
inductive Keep.Error where
  | tooLarge (size limit : Nat)
  /-- Anything else, in words. -/
  | failed (message : String)
deriving DecidableEq, Repr

def Keep.Error.message : Keep.Error → String
  | .tooLarge size limit =>
    "snapshot exceeds maximum allowed size of " ++ toString limit ++ " bytes (got " ++
      toString size ++ ")"
  | .failed message => message

/-- A place that holds one durable document. -/
class Keep (κ : Type) where
  /-- Where the document is, for messages. -/
  location : κ → String
  held : κ → Option Octets
  /-- Reads the document, if there is one, under a limit on its length. -/
  get : Nat → κ → Except Keep.Error (Option Octets) × κ
  put : Octets → κ → Except Keep.Error Unit × κ

end ClaimTracker
