import DisclosureRelay.Return.Page

/-!
# Navigators

How a return form is submitted: by a request to the relying service, like a browser would, or by
writing the page that does so to a file. `httpRequest` and `httpResult` are the request and what
its reply means, `pageResult` is what became of the page.
-/

namespace DisclosureRelay.Return

namespace Navigator

/-- The request that posts a form. -/
def httpRequest (form : Form) : Except Http.Fault Http.Request :=
  Http.prepare .post form.action (some "application/x-www-form-urlencoded") form.body

/-- What the reply to that request means: any answer has taken the user away. -/
def httpResult (form : Form) (reply : Http.Reply) : Except String Unit :=
  match Http.received form.action reply with
  | .ok _ => .ok ()
  | .error _ => .error ("Failed to post return form to " ++ form.action)

/-- What became of writing the page to a file. -/
def pageResult (path : String) (written : Bool) : Except String Unit :=
  if written then .ok () else .error ("Failed to write return form: " ++ Text.quoted path)

end Navigator

end DisclosureRelay.Return
