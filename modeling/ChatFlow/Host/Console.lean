/-
This file holds the host of the command line, which prints what is asked of it.

Every action becomes a line; a user is supposed to give one and the same answer to every message.
Web requests are looked at but never sent: this host names the first thing that is wrong with a
request, or says that it could not be sent.
-/

import ChatFlow.Run.Host
import ChatFlow.Web.Address

namespace ChatFlow.Console

/-! ### What is printed -/

/-- The name under which an action is printed. Web requests are not printed. -/
def lineName? : Action → Option String
  | .reply _ => some "reply"
  | .sendChannel _ => some "sendChannel"
  | .sendDirect _ => some "sendDm"
  | .sendEmbed _ => some "sendEmbed"
  | .addRole _ => some "addRole"
  | .removeRole _ => some "removeRole"
  | .log .. => some "log"
  | .webRequest _ => none
  | .await _ => some "interactiveMessage"

/-- What is printed of an action. -/
def line? (action : Action) : Option Json :=
  (lineName? action).map fun name =>
    Json.ofFields [("action", .string name), ("payload", action.payload)]

/-! ### Web requests -/

/-- A character of a method or of the name of a header. -/
def isTokenLetter (letter : Char) : Bool :=
  letter.isAlphanum || "!#$%&'*+-.^_`|~".toList.contains letter

/-- A method or the name of a header. -/
def isToken (text : String) : Bool :=
  !text.isEmpty && text.all isTokenLetter

/-- The value of a header. -/
def isHeaderValue (text : String) : Bool :=
  text.all fun letter => letter = '\t' || (' ' ≤ letter && letter ≠ '\x7f')

/-- A scheme whose requests could be sent. -/
def isSendable (scheme : String) : Bool :=
  scheme = "http" || scheme = "https"

/-- Why a request is not sent. -/
def refusal (request : WebRequest) : Refusal :=
  if !isToken request.method then
    .rejected ("invalid HTTP method '" ++ request.method ++ "'")
  else
    match Web.scheme request.url with
    | .error reason =>
      .rejected ("invalid URL '" ++ request.url ++ "': " ++ reason.message)
    | .ok scheme =>
      if !isSendable scheme then .unsupported ("http_request over '" ++ scheme ++ "'")
      else if !request.headers.all fun header => isToken header.1 && isHeaderValue header.2 then
        .rejected "builder error"
      else .rejected ("error sending request for url (" ++ request.url ++ ")")

/-- The host of the command line, with the answer that users give. -/
def host (response : Option Interaction) : Host where
  perform _ _ := .now (.ok ())
  request _ request := .now (.error (refusal request))
  await _ _ := .now (.ok response)

end ChatFlow.Console
