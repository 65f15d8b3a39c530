import PlanBrowser.Text.Blank
import PlanBrowser.Url.Parse

/-!
# Proxies

Requests can go through a proxy.  It is named by a URL, or by a host alone, and must be reached by HTTP.

* `ProxyFault` — why a text names no proxy, and `ProxyFault.message`, the same in words;
* `proxyOf` — **the proxy that a text names**.
-/

namespace PlanBrowser

/-- Why a text names no proxy. -/
inductive ProxyFault where
  | noUrl (cause : Url.Fault)
  | noHost (url : String)
  | badScheme
  | badHost
  deriving Repr, DecidableEq, Inhabited

/-- **Why a text names no proxy, in words.** -/
def ProxyFault.message : ProxyFault → String
  | noUrl cause => "builder error: builder error: " ++ cause.message
  | noHost url => "builder error: builder error for url (" ++ url ++ "): URL scheme is not allowed"
  | badScheme => "builder error: unknown proxy scheme"
  | badHost => "builder error: invalid uri character"

/-- A character that a proxy's host may not hold, although a URL's host may. -/
def isForbiddenInProxy (c : Char) : Bool :=
  c == '"' || c.toNat == 0x60 || c.toNat == 0x7B || c.toNat == 0x7D

/-- The URL of a proxy that can be used. -/
def checkProxyUrl (u : Url) : Except ProxyFault Url :=
  if u.scheme ≠ "http" ∧ u.scheme ≠ "https" then .error .badScheme
  else if u.hostAndPort.any isForbiddenInProxy then .error .badHost
  else .ok u

/-- The URL that a text names when it leaves out the scheme. -/
def hostAlone? (s : String) : Option Url :=
  match Url.parse ("http://" ++ s) with
  | .ok u => if u.hasHost then some u else none
  | .error _ => none

/-- A text that names no host, unless it does so without a scheme. -/
def withoutScheme (s : String) (fault : ProxyFault) : Except ProxyFault Url :=
  match hostAlone? s with
  | some u => checkProxyUrl u
  | none => .error fault

/-- **The proxy that a text names.** -/
def proxyOf (s : String) : Except ProxyFault Url :=
  match Url.parse s with
  | .ok u => if u.hasHost then checkProxyUrl u else withoutScheme s (.noHost u.text)
  | .error .noScheme => withoutScheme s (.noUrl .noScheme)
  | .error cause => .error (.noUrl cause)

end PlanBrowser
