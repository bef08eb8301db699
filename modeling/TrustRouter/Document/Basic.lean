import TrustRouter.Configuration.Basic
import TrustRouter.Document.Graph
import TrustRouter.Document.Policy
import TrustRouter.Json.Read
import TrustRouter.LoadError

/-! # Documents

A document is a named text of at most one mebibyte. It is decoded into a **fragment**: what it
declares, in the order of its arrays. Its revision number counts only if it is a number, and is
ignored otherwise.
-/

namespace TrustRouter

/-- What one document declares. -/
structure Fragment where
  serialNumber : Option Json.Number
  settings : Option Settings
  clients : List RpClient
  realms : List IdpRealm
  servers : List AaaServer
  communities : List Community.Declaration
deriving DecidableEq

open Decoded in
/-- Decodes a whole document. -/
def Fragment.ofJson (v : Json) : Decoded Fragment := do
  let o ← object v
  return {
    serialNumber := (o.lookup "serial_number").bind Json.number?
    settings := ← optional o "tr_internal" Settings.ofJson
    clients := ← list o "rp_clients" RpClient.ofJson
    realms := ← list o "idp_realms" IdpRealm.ofJson
    servers := ← list o "default_servers" AaaServer.ofJson
    communities := ← list o "communities" Community.Declaration.ofJson }

/-- Declares everything that a fragment declares. -/
def Draft.merge (d : Draft) (f : Fragment) : Draft where
  settings := match f.settings with
    | none => d.settings
    | some s => (d.addSettings s).settings
  clients := d.clients ++ f.clients
  realms := d.realms ++ f.realms
  servers := d.servers ++ f.servers
  communities := d.communities ++ f.communities

/-- A text with the name it is reported under. -/
structure Document where
  name : String
  text : String
deriving DecidableEq

namespace Document

/-- The greatest number of bytes of a document: one mebibyte. -/
def maxBytes : Nat := 1024 * 1024

/-- Decodes a document. -/
def fragment [Json.Diagnosis] (d : Document) : Except LoadError Fragment :=
  if maxBytes < d.text.utf8ByteSize then .error (.malformed ⟨d.name, none⟩ .tooLong)
  else
    match Json.ofText? d.text with
    | none => .error (.malformed ⟨d.name, none⟩ (.notJson (Json.Diagnosis.words d.text)))
    | some v => (Fragment.ofJson v).mapError (.ofFault d.name)

/-- The document of that name with these bytes. -/
def ofBytes (name : String) (bytes : ByteArray) : Except LoadError Document :=
  if maxBytes < bytes.size then .error (.malformed ⟨name, none⟩ .tooLong)
  else
    match String.fromUTF8? bytes with
    | none => .error (.malformed ⟨name, none⟩ .notUtf8)
    | some text => .ok ⟨name, text⟩

end Document

end TrustRouter
