import CommandShell.Text.Utf8

set_option autoImplicit false

namespace CommandShell

namespace Octets

def ofBytes (bytes : Bytes) : Text := bytes.map fun b => Char.ofNat b.toNat

def bytes (octets : Text) : Bytes := octets.map fun c => UInt8.ofNat c.toNat

def ofText (text : Text) : Text := ofBytes (Text.utf8 text)

def text (octets : Text) : Text := Bytes.lossyText (bytes octets)

theorem bytes_of_bytes (data : Bytes) : bytes (ofBytes data) = data := by
  induction data with
  | nil => rfl
  | cons b rest ih =>
    have valid : b.toNat.isValidChar := .inl (by have := b.toNat_lt; omega)
    have same : UInt8.ofNat (Char.ofNat b.toNat).toNat = b := by
      rw [Char.ofNat, dif_pos valid]
      exact UInt8.ofNat_toNat
    change UInt8.ofNat (Char.ofNat b.toNat).toNat :: bytes (ofBytes rest) = b :: rest
    rw [same, ih]

end Octets

end CommandShell
