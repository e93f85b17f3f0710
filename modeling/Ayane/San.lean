import Ayane.Lib.Net
import Ayane.Lib.Text
import Ayane.ServerCrates

/-!
# Subject alternative names

`ayane/src/san.rs`: one normalized form for the names of a request, of a token and of
a certificate.
-/

namespace Ayane

inductive San where
  | dns (name : String)
  | ip (addr : Net.IpAddr)
  | email (address : String)
  | uri (uri : String)
  deriving DecidableEq

namespace San

/-- Classify a text: an IP literal, else a URI, else an email, else a DNS name. -/
def parse (s : String) : San :=
  match Net.IpAddr.parse s with
  | some addr => .ip addr
  | none =>
    if Text.contains "://" s then .uri s
    else if '@' ∈ s.toList then .email s
    else .dns s

def toString : San → String
  | .dns d => d
  | .email m => m
  | .uri u => u
  | .ip addr => addr.display

def toGeneralName (crates : ServerCrates) : San → Result GeneralName
  | .dns d => do
    let name ← mapErr (fun e => .badRequest ("invalid DNS SAN " ++ Text.debug d ++ ": " ++ e))
      (crates.serverDer.ia5String d)
    .ok (.dnsName name)
  | .email m => do
    let name ← mapErr (fun e => .badRequest ("invalid email SAN " ++ Text.debug m ++ ": " ++ e))
      (crates.serverDer.ia5String m)
    .ok (.rfc822Name name)
  | .uri u => do
    let name ← mapErr (fun e => .badRequest ("invalid URI SAN " ++ Text.debug u ++ ": " ++ e))
      (crates.serverDer.ia5String u)
    .ok (.uniformResourceIdentifier name)
  | .ip addr => do
    let octets := match addr with
      | .v4 octets => octets.toList
      | .v6 octets => octets.toList
    let octets ← mapErr derError (crates.serverDer.octetString octets)
    .ok (.ipAddress octets)

/-- The name in our form, or `none` for a kind that is not modelled. -/
def ofGeneralName : GeneralName → Option San
  | .dnsName d => some (.dns d)
  | .rfc822Name m => some (.email m)
  | .uniformResourceIdentifier u => some (.uri u)
  | .ipAddress octets =>
    if h : octets.length = 4 then some (.ip (.v4 ⟨octets.toArray, by simpa using h⟩))
    else if h : octets.length = 16 then some (.ip (.v6 ⟨octets.toArray, by simpa using h⟩))
    else none
  | .other _ => none

end San

end Ayane
