import KitchenFlow.Text.Blank
import KitchenFlow.Text.Hex
import KitchenFlow.Vault.Aes
import KitchenFlow.Vault.Gcm

/-!
# The credential vault

The vault keeps secrets in envelopes: the hexadecimal nonce, a colon, and the hexadecimal sealed
text. Its key is 32 bytes long and configured as hexadecimal text. The nonce of an envelope has to
be fresh; it comes from outside.
-/

namespace KitchenFlow

/-- Why an envelope cannot be opened. -/
inductive EnvelopeFault where
  | noSeparator
  | nonceNotHex (e : Hex.HexError)
  | nonceLength (found : Nat)
  | bodyNotHex (e : Hex.HexError)
  | notAuthentic
  | notText
deriving DecidableEq, Repr

/-- The number of bytes of a nonce. -/
def nonceSize : Nat := 16

/-- The number of bytes of a key. -/
def keySize : Nat := 32

/-- The wording of a fault. -/
def EnvelopeFault.message : EnvelopeFault → String
  | .noSeparator => "missing IV separator"
  | .nonceNotHex e => "IV is not hex: " ++ e.message
  | .nonceLength n =>
    "IV must be " ++ toString nonceSize ++ " bytes, got " ++ toString n
  | .bodyNotHex e => "body is not hex: " ++ e.message
  | .notAuthentic => "authentication failed"
  | .notText => "plaintext is not UTF-8"

/-- Why a text is no key. -/
inductive KeyFault where
  | notHex (e : Hex.HexError)
  | length (found : Nat)
deriving DecidableEq, Repr

/-- The wording of a fault. -/
def KeyFault.message : KeyFault → String
  | .notHex e => "key must be hex: " ++ e.message
  | .length n => "expected " ++ toString keySize ++ " bytes, got " ++ toString n

/-- What can go wrong with the vault. -/
inductive VaultError where
  | missingKey
  | invalidKey (fault : KeyFault)
  | decryption (fault : EnvelopeFault)
deriving DecidableEq, Repr

/-- The wording of an error. -/
def VaultError.message : VaultError → String
  | .missingKey => "Vault key is not configured"
  | .invalidKey f => "Vault key is invalid: " ++ f.message
  | .decryption f => "Decryption failed: " ++ f.message

/-- A vault with its key. -/
structure Vault where
  key : List UInt8
  length_key : key.length = keySize

namespace Vault

/-- The vault with a key. -/
def ofKey (key : List UInt8) : Except VaultError Vault :=
  if h : key.length = keySize then .ok ⟨key, h⟩ else .error (.invalidKey (.length key.length))

/-- The vault with a key given as hexadecimal text. -/
def ofHex (text : String) : Except VaultError Vault :=
  match Hex.decode (Text.trim text) with
  | .ok key => ofKey key
  | .error e => .error (.invalidKey (.notHex e))

/-- The vault with a configured key; a blank one is none. -/
def ofConfig (text : Option String) : Except VaultError Vault :=
  match text.filter fun t => !Text.isBlank t with
  | some t => ofHex t
  | none => .error .missingKey

/-- The cipher of a vault. -/
def cipher (v : Vault) : Gcm.Cipher := Aes.encipher (Aes.schedule v.key)

/-- The envelope that holds a text under a nonce. -/
def encrypt (v : Vault) (nonce : List UInt8) (plain : String) : String :=
  Hex.encode nonce ++ ":" ++ Hex.encode (Gcm.sealText v.cipher nonce plain.toUTF8.toList)

/-- Reads hexadecimal text inside an envelope. -/
def part (fault : Hex.HexError → EnvelopeFault) (text : String) :
    Except EnvelopeFault (List UInt8) := (Hex.decode text).mapError fault

/-- Opens an envelope. -/
def openEnvelope (v : Vault) (text : String) : Except EnvelopeFault String :=
  match Text.cutFirst? ':' text with
  | none => .error .noSeparator
  | some (nonceText, bodyText) => do
    let nonce ← part .nonceNotHex nonceText
    if nonce.length ≠ nonceSize then .error (.nonceLength nonce.length)
    else do
      let body ← part .bodyNotHex bodyText
      match Gcm.openSealed v.cipher nonce body with
      | none => .error .notAuthentic
      | some plain =>
        match String.fromUTF8? ⟨plain.toArray⟩ with
        | none => .error .notText
        | some text => .ok text

/-- Opens an envelope; what goes wrong is an error of the vault. -/
def decrypt (v : Vault) (text : String) : Except VaultError String :=
  (v.openEnvelope text).mapError .decryption

/-- A vault for diagnostics, without its key. -/
def describe (_ : Vault) : String := "CredentialVault(<key>)"

end Vault
end KitchenFlow
