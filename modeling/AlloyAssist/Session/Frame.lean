import AlloyAssist.Json.Writer
import AlloyAssist.Number.Digits

/-!
# Frames

On a stream every message is preceded by header lines and an empty line. Of the
headers only the length of the message in bytes matters.
-/

namespace AlloyAssist.Frame

open Number

/-- The header that tells the length. -/
def lengthHeader : String := "Content-Length"

/-- A message with its header. -/
def encode (json : Json) : String :=
  let body := json.render
  lengthHeader ++ ": " ++ toString body.utf8ByteSize ++ "\r\n\r\n" ++ body

/-- The length that a header line tells, if it does. -/
def length? (line : String) : Option Nat :=
  let chars := line.toList
  if chars.takeWhile (· != ':') = lengthHeader.toList then
    let digits := ((chars.dropWhile (· != ':')).drop 1).filter (!·.isWhitespace)
    if !digits.isEmpty && digits.all Char.isDigit then some (decimalValue digits) else none
  else none

end AlloyAssist.Frame
