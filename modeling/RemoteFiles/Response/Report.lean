import RemoteFiles.LocalDisk
import RemoteFiles.Response.Download

/-!
# What the user sees of a response

A response is shown by its message. If the action succeeded, what is still to be done for it is
done: a remote listing is formatted, a download is saved, and a local action is carried out. If it
failed, only the message is shown and nothing is done.
-/

namespace RemoteFiles

/-- The text, with a line end unless it has one. -/
def endLine (text : String) : String :=
  if text.toList.getLast? == some '\n' then text else text ++ "\n"

/-- The line for something that went well. -/
def goodLine (text : String) : String := "[+] " ++ text ++ "\n"

/-- The line for something that went wrong. -/
def badLine (text : String) : String := "[!] " ++ text ++ "\n"

namespace Response

/-- Shows a remote listing. -/
def showListing (response : Response) : ClientM Failure Unit := do
  ClientM.print (goodLine response.message)
  match response.payloadText with
  | none => return
  | some text => do
    let items ← ClientM.require ((Listing.parse text).mapError .listing)
    ClientM.print (Listing.format items)

/-- Saves a download and shows what has become of it. -/
def showDownload (response : Response) : ClientM Failure Unit := do
  let outcome ← ClientM.mapError .request response.save
  ClientM.print (if outcome.isWritten then goodLine outcome.display else badLine outcome.display)

/-- Does an action on the local disk and shows what came of it. A failure is shown, too. -/
def showLocal (action : LocalAction) (path : Path) : ClientM Failure Unit := fun client =>
  match action.run path client with
  | .ok text client => ClientM.print (endLine text) client
  | .error failure client => ClientM.print (badLine failure.message) client

/-- Shows a response, and finishes the work that it asks for. -/
def present (response : Response) : ClientM Failure Unit := do
  if response.successful then
    match response.request.operation with
    | .ls _ => response.showListing
    | .get _ _ => response.showDownload
    | .onDisk action path => showLocal action path
    | _ => ClientM.print (goodLine response.message)
  else
    ClientM.print (badLine response.message)
    ClientM.say .debug ("status " ++ response.status.display)

end Response

end RemoteFiles
