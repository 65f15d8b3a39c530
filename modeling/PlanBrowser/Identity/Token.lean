import PlanBrowser.Identity.Base64
import PlanBrowser.Json.Read
import PlanBrowser.Text.Blank
import PlanBrowser.Text.Pieces

/-!
# Session tokens and user names

A session token has pieces between dots.  The second piece holds the **claims**, a JSON object in base 64; the
server looks after the signature.  Two claims matter: the user name, and the time when the token expires, in
seconds since the first of January 1970.  An expired token is no token.

The acting user is the one who is named explicitly, else the one whom the token names, else a guest.

* `claims?` — the claims of a token;
* `usernameOf?` — the user whom a token names at a time;
* `actingUser` — the acting user;
* `tokenOfCookies?` — the token in a cookie header.
-/

namespace PlanBrowser.Identity

open PlanBrowser.Text

/-- The claims of a token. -/
def claims? (token : List Char) : Option Json :=
  match pieces '.' token with
  | _ :: payload :: _ =>
    match Base64.decode? .url (payload.reverse.dropWhile (· == '=')).reverse with
    | some bytes => (Json.readAll Json.readValue (Json.sourceOfBytes bytes)).toOption
    | none => none
  | _ => none

/-- A claim that is a whole number of a signed word. -/
def wholeClaim? (name : String) (claims : Json) : Option Int :=
  match claims.member? name with
  | some (.number n) => n.signedWord?
  | _ => none

/-- A claim that is a text. -/
def textClaim? (name : String) (claims : Json) : Option String :=
  (claims.member? name).bind Json.string?

/-- The claims have expired. -/
def hasExpired (claims : Json) (now : Int) : Bool :=
  match wholeClaim? "exp" claims with
  | some time => decide (time ≤ now)
  | none => false

/-- The text without blanks around it, if anything is left. -/
def trimmed? (s : String) : Option String :=
  let t := trim s
  if t = "" then none else some t

/-- **The user whom a token names** at a time. -/
def usernameOf? (token : String) (now : Int) : Option String :=
  match claims? token.toList with
  | none => none
  | some claims =>
    if hasExpired claims now then none else (textClaim? "username" claims).bind trimmed?

/-- The name of a user whom nobody names. -/
def guest : String := "guest"

/-- **The acting user**: named explicitly, by the token, or a guest. -/
def actingUser (explicit token : Option String) (now : Int) : String :=
  match explicit.bind trimmed? with
  | some name => name
  | none => (token.bind (usernameOf? · now)).getD guest

/-! ## Cookies -/

/-- The cookie that holds the token. -/
def tokenCookie : String := "JWT"

/-- The name and the value of a cookie. -/
def readCookie? (cs : List Char) : Option (List Char × List Char) :=
  cutFirst? '=' (trimChars cs)

/-- **The token in a cookie header**: the first cookie of its name counts, and it must not be blank. -/
def tokenOfCookies? (header : String) : Option String :=
  match ((pieces ';' header.toList).filterMap readCookie?).find? (·.1 == tokenCookie.toList) with
  | some (_, value) => trimmed? (String.ofList value)
  | none => none

end PlanBrowser.Identity
