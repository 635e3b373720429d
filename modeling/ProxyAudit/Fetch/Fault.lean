import ProxyAudit.Text.Decimal

/-!
# Faults of a transfer

A transfer that cannot be carried out ends with a numbered fault. Each number has a fixed text;
a fault may add a detail of its own.
-/

namespace ProxyAudit

/-- Why a transfer ended: a numbered cause and, now and then, a detail. -/
structure Fault where
  code : UInt32
  detail : Option String
  deriving DecidableEq, Repr

namespace Fault

-- ---------------------------------------------------------------------------
-- The causes that a transfer over HTTP meets
-- ---------------------------------------------------------------------------

/-- The URL asks for a scheme that is not served, or the reply is not HTTP. -/
def unsupported : Fault := ⟨1, none⟩

/-- The URL cannot be read. -/
def malformedUrl : Fault := ⟨3, none⟩

/-- The proxy address cannot be read, or its name has no address. -/
def unresolvedProxy : Fault := ⟨5, none⟩

/-- The host name has no address. -/
def unresolvedHost : Fault := ⟨6, none⟩

/-- Nobody listens at the address. -/
def unreachable : Fault := ⟨7, none⟩

/-- The head of a reply makes no sense. -/
def senselessReply : Fault := ⟨8, none⟩

/-- The body ended before its announced end. -/
def partialBody : Fault := ⟨18, none⟩

/-- The time for the transfer ran out. -/
def timedOut : Fault := ⟨28, none⟩

/-- No secure connection can be made. -/
def insecure : Fault := ⟨35, none⟩

/-- A local file cannot be read. -/
def unreadableFile : Fault := ⟨37, none⟩

/-- An option or a wait was given a value out of range. -/
def badArgument : Fault := ⟨43, none⟩

/-- More redirects than allowed. -/
def tooManyRedirects : Fault := ⟨47, none⟩

/-- The connection closed before any reply. -/
def emptyReply : Fault := ⟨52, none⟩

/-- The connection broke while the reply was read. -/
def receiveFailure : Fault := ⟨56, none⟩

/-- A text for the transfer holds a NUL. -/
def embeddedNul : Fault := ⟨75, none⟩

-- ---------------------------------------------------------------------------
-- Texts
-- ---------------------------------------------------------------------------

/-- The fixed text of a cause. -/
def textOfCode : Nat → String
  | 0 => "No error"
  | 1 => "Unsupported protocol"
  | 2 => "Failed initialization"
  | 3 => "URL using bad/illegal format or missing URL"
  | 4 => "A requested feature, protocol or option was not found built-in in this libcurl due to a build-time decision."
  | 5 => "Could not resolve proxy name"
  | 6 => "Could not resolve hostname"
  | 7 => "Could not connect to server"
  | 8 => "Weird server reply"
  | 9 => "Access denied to remote resource"
  | 10 => "FTP: The server failed to connect to data port"
  | 11 => "FTP: unknown PASS reply"
  | 12 => "FTP: Accepting server connect has timed out"
  | 13 => "FTP: unknown PASV reply"
  | 14 => "FTP: unknown 227 response format"
  | 15 => "FTP: cannot figure out the host in the PASV response"
  | 16 => "Error in the HTTP2 framing layer"
  | 17 => "FTP: could not set file type"
  | 18 => "Transferred a partial file"
  | 19 => "FTP: could not retrieve (RETR failed) the specified file"
  | 21 => "Quote command returned error"
  | 22 => "HTTP response code said error"
  | 23 => "Failed writing received data to disk/application"
  | 25 => "Upload failed (at start/before it took off)"
  | 26 => "Failed to open/read local data from file/application"
  | 27 => "Out of memory"
  | 28 => "Timeout was reached"
  | 30 => "FTP: command PORT failed"
  | 31 => "FTP: command REST failed"
  | 33 => "Requested range was not delivered by the server"
  | 35 => "SSL connect error"
  | 36 => "Could not resume download"
  | 37 => "Could not read a file:// file"
  | 38 => "LDAP: cannot bind"
  | 39 => "LDAP: search failed"
  | 42 => "Operation was aborted by an application callback"
  | 43 => "A libcurl function was given a bad argument"
  | 45 => "Failed binding local connection end"
  | 47 => "Number of redirects hit maximum amount"
  | 48 => "An unknown option was passed in to libcurl"
  | 49 => "Malformed option provided in a setopt"
  | 52 => "Server returned nothing (no headers, no data)"
  | 53 => "SSL crypto engine not found"
  | 54 => "Can not set SSL crypto engine as default"
  | 55 => "Failed sending data to the peer"
  | 56 => "Failure when receiving data from the peer"
  | 58 => "Problem with the local SSL certificate"
  | 59 => "Could not use specified SSL cipher"
  | 60 => "SSL peer certificate or SSH remote key was not OK"
  | 61 => "Unrecognized or bad HTTP Content or Transfer-Encoding"
  | 63 => "Maximum file size exceeded"
  | 64 => "Requested SSL level failed"
  | 65 => "Send failed since rewinding of the data stream failed"
  | 66 => "Failed to initialize SSL crypto engine"
  | 67 => "Login denied"
  | 68 => "TFTP: File Not Found"
  | 69 => "TFTP: Access Violation"
  | 70 => "Disk full or allocation exceeded"
  | 71 => "TFTP: Illegal operation"
  | 72 => "TFTP: Unknown transfer ID"
  | 73 => "Remote file already exists"
  | 74 => "TFTP: No such user"
  | 77 => "Problem with the SSL CA cert (path? access rights?)"
  | 78 => "Remote file not found"
  | 79 => "Error in the SSH layer"
  | 80 => "Failed to shut down the SSL connection"
  | 81 => "Socket not ready for send/recv"
  | 82 => "Failed to load CRL file (path? access rights?, format?)"
  | 83 => "Issuer check against peer certificate failed"
  | 84 => "FTP: The server did not accept the PRET command."
  | 85 => "RTSP CSeq mismatch or invalid CSeq"
  | 86 => "RTSP session error"
  | 87 => "Unable to parse FTP file list"
  | 88 => "Chunk callback failed"
  | 89 => "The max connection limit is reached"
  | 90 => "SSL public key does not match pinned public key"
  | 91 => "SSL server certificate status verification FAILED"
  | 92 => "Stream error in the HTTP/2 framing layer"
  | 93 => "API function called from within callback"
  | 94 => "An authentication function returned an error"
  | 95 => "HTTP/3 error"
  | 96 => "QUIC connection error"
  | 97 => "proxy handshake error"
  | 98 => "SSL Client Certificate required"
  | 99 => "Unrecoverable error in select/poll"
  | 100 => "A value or data field grew larger than allowed"
  | 101 => "ECH attempted but failed"
  | _ => "Unknown error"

/-- The text of a fault: the number in brackets, its text, and the detail in parentheses. -/
def message (f : Fault) : String :=
  let head := "[" ++ Decimal.text f.code.toNat ++ "] " ++ textOfCode f.code.toNat
  match f.detail with
  | none => head
  | some detail => head ++ " (" ++ detail ++ ")"

/-- A fault whose time ran out. -/
def isTimeout (f : Fault) : Bool :=
  f.code == 28

/-- A fault of the connection: it could not be made, or it broke. -/
def isConnection (f : Fault) : Bool :=
  [5, 6, 7, 18, 26, 52, 55, 56].contains f.code

end Fault

end ProxyAudit
