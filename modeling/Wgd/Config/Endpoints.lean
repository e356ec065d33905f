import Wgd.Config.Parse
import Wgd.Net.Display

/-! What an endpoint prints reads back as the same endpoint. -/

set_option autoImplicit false

namespace Wgd.Config

open Wgd.Net

/-- What `std::net::SocketAddr` can hold: only an IPv6 address has a scope, of 32 bits. -/
structure SocketAddr.Proper (addr : SocketAddr) : Prop where
  unscoped : addr.ip.isIpv6 = false → addr.scopeId = 0
  fits : addr.scopeId < 0x100000000

def SocketAddr.toText (addr : SocketAddr) : String :=
  let port := Nat.toDigits 10 addr.port.toNat
  match addr.ip with
  | .v4 bits => String.ofList (showIpv4 bits ++ ':' :: port)
  | .v6 bits =>
    let scope := if addr.scopeId = 0 then [] else '%' :: Nat.toDigits 10 addr.scopeId
    String.ofList ('[' :: (showIpv6 bits ++ (scope ++ ']' :: ':' :: port)))

theorem readPort_toDigits (port : UInt16) : readPort (':' :: Nat.toDigits 10 port.toNat) = some port := by
  have fits : port.toNat < 65536 := port.toNat_lt
  have reads := @readNumber_toDigits 10 (Nat.toDigits 10 port.toNat).length 65536 port.toNat true [] (by omega) (by omega)
    fits (Nat.le_refl _) ends_nil
  rw [List.append_nil] at reads
  simp [readPort, readGivenChar, reads]

theorem readScopeId_toDigits {scopeId : Nat} (fits : scopeId < 0x100000000) {rest : List Char} (ends : Ends 10 rest) :
    readScopeId ('%' :: (Nat.toDigits 10 scopeId ++ rest)) = some (scopeId, rest) := by
  apply readNumber_toDigits (by omega) (by omega) fits _ ends
  simp

theorem parseSocketAddr_toText {addr : SocketAddr} (proper : addr.Proper) :
    parseSocketAddr addr.toText.toList = some addr := by
  obtain ⟨ip, port, scopeId⟩ := addr
  cases ip with
  | v4 bits =>
    have plain : scopeId = 0 := proper.unscoped rfl
    have colon : Ends 10 (':' :: Nat.toDigits 10 port.toNat) := ends_of_char (by decide)
    simp [parseSocketAddr, SocketAddr.toText, readIpv4Addr_showIpv4 bits colon, readPort_toDigits, plain]
  | v6 bits =>
    have bracket : ∀ text, readIpv4Addr ('[' :: text) = none := fun _ => rfl
    have undotted : ∀ number, '.' ∉ Nat.toDigits 10 number := fun _ =>
      not_mem_toDigits (by omega) (by omega) (by decide)
    have closed : Closes (']' :: ':' :: Nat.toDigits 10 port.toNat) :=
      ⟨by simp [undotted], .inr ⟨_, _, rfl, by decide, by decide⟩⟩
    by_cases plain : scopeId = 0
    · have scope : readScopeId (']' :: ':' :: Nat.toDigits 10 port.toNat) =
          some (0, ']' :: ':' :: Nat.toDigits 10 port.toNat) := rfl
      simp [parseSocketAddr, SocketAddr.toText, bracket, plain, readGivenChar, readIpv6Addr_showIpv6 bits closed, scope,
        readPort_toDigits]
    · have closes : Closes ('%' :: (Nat.toDigits 10 scopeId ++ ']' :: ':' :: Nat.toDigits 10 port.toNat)) :=
        ⟨by simp [undotted], .inr ⟨_, _, rfl, by decide, by decide⟩⟩
      have scope := readScopeId_toDigits proper.fits closed.ends.decimal
      simp [parseSocketAddr, SocketAddr.toText, bracket, plain, readGivenChar, readIpv6Addr_showIpv6 bits closes, scope,
        readPort_toDigits]

end Wgd.Config
