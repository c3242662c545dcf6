import AlloyAssist.Json.Reader
import AlloyAssist.Json.Writer
import AlloyAssist.Session.Basic

/-!
# The server

The server reads message after message and writes what the session sends. A text that
is no message is answered once and ends the reading; so does the editor's leaving. The
server decides nothing about where the texts come from.
-/

namespace AlloyAssist

open Protocol

/-- A session, and whether further messages are read. -/
structure Server where
  session : Session
  isReading : Bool

namespace Server

/-- Before the first message. -/
def start : Server := ⟨.start, true⟩

/-- Stop reading because a text was no message. -/
def giveUp (server : Server) (fault : Fault) : Server × List Json :=
  ({ server with isReading := false }, [({ id := .null, outcome := .error fault } : Reply).toJson])

/-- Take a call, and write what comes of it. -/
def take (catalog : Catalog) (server : Server) (call : Call) : Server × List Json :=
  match server.session.handle catalog call with
  | none => ({ server with isReading := false }, [])
  | some reaction =>
      ({ server with session := reaction.session },
        reaction.sent.map Notification.toJson ++ (reaction.reply.map Reply.toJson).toList)

/-- Read one message. A text that starts with something else than a message is
refused for that before anything behind it is looked at. -/
def read (catalog : Catalog) (server : Server) (text : List Char) : Server × List Json :=
  match Json.readFront? text with
  | none => server.giveUp .parseError
  | some (json, rest) =>
      match Incoming.ofJson? json with
      | none => server.giveUp .invalidRequest
      | some incoming =>
          if Json.skipGap rest ≠ [] then server.giveUp .parseError
          else
            match incoming with
            | .reply => (server, [])
            | .call call => server.take catalog call

/-- Receive the text of one frame. An empty frame says nothing. -/
def receive (catalog : Catalog) (server : Server) (text : String) : Server × List Json :=
  if !server.isReading || text.isEmpty then (server, []) else server.read catalog text.toList

/-- Receive the bytes of one frame, which must be UTF-8. -/
def receiveBytes (catalog : Catalog) (server : Server) (bytes : ByteArray) :
    Server × List Json :=
  match String.fromUTF8? bytes with
  | some text => server.receive catalog text
  | none => if server.isReading then server.giveUp .parseError else (server, [])

/-- Receive frame after frame, and collect what is written for each. -/
def receiveAll (catalog : Catalog) (server : Server) : List String → List (List Json)
  | [] => []
  | text :: texts =>
      match server.receive catalog text with
      | (server, written) => written :: receiveAll catalog server texts

end Server

end AlloyAssist
