import Codaze.Foundation.Utf8

/-!
# Websocket messages

A close code is its number; `CloseCode::from` sorts the numbers into the codes that may
be sent and those that may not.
-/
namespace Codaze.Websocket
open Foundation

structure CloseFrame where
  code : ℕ
  reason : String
  deriving DecidableEq, Repr

/-- `tungstenite::Message`; axum's message has no raw frame. -/
inductive Message where
  | text (text : String)
  | binary (bytes : List Byte)
  | ping (bytes : List Byte)
  | pong (bytes : List Byte)
  | close (frame : Option CloseFrame)
  | frame (bytes : List Byte)
  deriving DecidableEq, Repr

/-- `Normal` and `Away`. -/
def isNormalWebsocketCloseCode (code : ℕ) : Bool := code == 1000 || code == 1001

/-- Neither `Status`, `Abnormal`, `Tls`, `Reserved` nor `Bad`. -/
def isWireLegalCloseCode (code : ℕ) : Bool :=
  (1000 ≤ code && code ≤ 1013 && code != 1004 && code != 1005 && code != 1006) ||
    (3000 ≤ code && code ≤ 4999)

def sanitizeCloseFrame (frame : CloseFrame) : Option CloseFrame :=
  if isWireLegalCloseCode frame.code then some frame else none

namespace Message

/-- Text and Binary messages, the payload of a session. -/
def isPayload : Message → Bool
  | text _ | binary _ => true
  | _ => false

end Message

/-- `map_client_message_to_upstream`; the message is one of axum's. -/
def mapClientMessageToUpstream : Message → Option Message
  | .close frame => some (.close (frame.bind sanitizeCloseFrame))
  | .frame _ => none
  | message => some message

def mapUpstreamMessageToClient : Message → Option Message
  | .close frame => some (.close (frame.bind sanitizeCloseFrame))
  | .frame _ => none
  | message => some message

end Codaze.Websocket
