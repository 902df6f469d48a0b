import EdgeProxy.Certificate.Basic
import EdgeProxy.Fault
import EdgeProxy.Json.Basic
import EdgeProxy.Number.Binary64
import EdgeProxy.Text.Blank
/-!
What certificate a hostname serves.  Whatever goes wrong with a connection is part of the status; a hostname that
no connection can be asked for, and a certificate of a version that there is not, are faults.
-/

namespace EdgeProxy

/-- What becomes of a connection to a hostname. -/
inductive PeerReply where
  | timedOut
  | refused
  /-- The system could not connect. -/
  | failed (reason : String)
  /-- The handshake failed. -/
  | handshakeFailed (reason : String)
  /-- The handshake succeeded, with the certificate that was served. -/
  | served (certificate : Option (List UInt8))
  /-- No connection can be asked for with this hostname, port or timeout. -/
  | unusable
deriving DecidableEq, Repr

/-- Why there is no certificate to report. -/
inductive ProbeError where
  | timeout
  | refused
  | connection (reason : String)
  | handshake (reason : String)
  | noCertificate
  | unreadable
  | disabled
deriving DecidableEq, Repr

def ProbeError.text : ProbeError → String
  | timeout => "Timeout"
  | refused => "Connection refused"
  | connection reason => if reason.isEmpty then "Connection failed" else reason
  | handshake reason => "TLS error: " ++ reason
  | noCertificate => "No certificate found"
  | unreadable => "Unreadable certificate: <x509 error>"
  | disabled => "Host disabled"

/-- What is reported of a certificate. -/
structure CertificateFacts where
  days : Int
  expires : Instant
  issuer : String
  subject : String
deriving DecidableEq, Repr

/-- The certificate of a hostname, or why there is none. -/
structure CertificateStatus where
  domain : String
  outcome : Except ProbeError CertificateFacts

namespace CertificateStatus

/-- Whether a certificate is served that is good for another day. -/
def isValid (s : CertificateStatus) : Bool :=
  match s.outcome with
  | .ok facts => 0 < facts.days
  | .error _ => false

def toJson (s : CertificateStatus) : Json :=
  match s.outcome with
  | .error e => .obj [("domain", .str s.domain), ("valid", .bool false), ("error", .str e.text)]
  | .ok facts =>
    .obj [("domain", .str s.domain), ("valid", .bool s.isValid), ("daysRemaining", .int facts.days),
      ("expiresAt", .str facts.expires.text), ("issuer", .str facts.issuer),
      ("subject", .str facts.subject)]

/-- A text, or another one if it is absent or empty. -/
def orElse (s : Option String) (default : String) : String :=
  match s with
  | some s => if s.isEmpty then default else s
  | none => default

/-- The whole days between two instants, rounded down.  The difference is taken in seconds and then
in days, each as a number of 64 bits. -/
def wholeDays (start finish : Instant) : Int :=
  let us := finish.microseconds - start.microseconds
  let seconds := Binary64.ofQuotient (us < 0) us.natAbs 1000000
  match seconds.magnitude? with
  | none => 0
  | some (n, d) =>
    match (Binary64.ofQuotient (us < 0) n (d * 86400)).magnitude? with
    | none => 0
    | some (n, d) => if us < 0 then -(((n + d - 1) / d : Nat) : Int) else (n / d : Nat)

/-- What is reported of a certificate for a domain. -/
def factsOf (c : Certificate) (domain : String) (now : Instant) : CertificateFacts where
  days := wholeDays now c.expires
  expires := c.expires
  issuer :=
    match Certificate.valueOf? c.issuer Certificate.organization with
    | some s => orElse (some s) "Unknown"
    | none => orElse (Certificate.valueOf? c.issuer Certificate.commonName) "Unknown"
  subject := orElse (Certificate.valueOf? c.subject Certificate.commonName) domain

/-- What a served certificate shows. -/
def outcomeOf (bytes : List UInt8) (domain : String) (now : Instant) :
    Except Fault (Except ProbeError CertificateFacts) :=
  match Certificate.ofBytes bytes with
  | .certificate c => .ok (.ok (factsOf c domain now))
  | .badVersion => .error .badVersion
  | .unreadable => .ok (.error .unreadable)

/-- The status that a peer's reply shows. -/
def ofReply (reply : PeerReply) (hostname : String) (now : Instant) : Except Fault CertificateStatus :=
  match reply with
  | .timedOut => .ok ⟨hostname, .error .timeout⟩
  | .refused => .ok ⟨hostname, .error .refused⟩
  | .failed reason => .ok ⟨hostname, .error (.connection reason)⟩
  | .handshakeFailed reason => .ok ⟨hostname, .error (.handshake reason)⟩
  | .served none => .ok ⟨hostname, .error .noCertificate⟩
  | .served (some []) => .ok ⟨hostname, .error .noCertificate⟩
  | .served (some bytes) => (outcomeOf bytes hostname now).map fun outcome => ⟨hostname, outcome⟩
  | .unusable => .error .badTarget

end CertificateStatus

end EdgeProxy
