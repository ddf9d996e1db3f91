import EdgeLink.ForStd.LetterCase
import EdgeLink.Native.UnixDomainServer

/-! # Control commands

`control_command_processor.cpp`: the commands of the control socket. An iterator is its
position in the string. `isspace` and `toupper` are those of the C locale, which the program
never leaves. -/

namespace EdgeLink.ControlCommandProcessor

open CText

/-- Drop the white space at both ends. -/
def trim (text : Bytes) : Bytes :=
  let first := text.findIdx (!isSpace ·)
  -- the base of the reverse iterator is the position behind the item that was found
  let last := text.length - text.reverse.findIdx (!isSpace ·)
  if first ≥ last then [] else (text.take last).drop first

/-- The text in upper case. -/
def toUpper (text : Bytes) : Bytes :=
  text.map CText.toUpper

/-- `ControlCommandProcessor::process`. -/
def process (request : Bytes) : Bytes :=
  let command := toUpper (trim request)
  if command.isEmpty then ascii "ERROR EMPTY_COMMAND"
  else if command = ascii "PING" then ascii "OK PONG"
  else if command = ascii "STATUS" then ascii "OK RUNNING"
  else if command = ascii "HELP" then ascii "OK COMMANDS PING STATUS HELP"
  else ascii "ERROR UNKNOWN_COMMAND"

/-- A message of a control client under the message handler that `main` installs. -/
def handled (message : Bytes) : ControlRequest where
  message := message
  outcome := .returned (process message)

end EdgeLink.ControlCommandProcessor
