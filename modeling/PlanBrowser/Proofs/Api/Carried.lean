import Mathlib.Data.List.Forall2
import PlanBrowser.Api.Client

/-!
# The headers that a request carries

Every request of a client is given the client's own two headers, the cookie of the session token, and the header of
the user's line.  But a header is only added while the request has none of its name.  So the user's header, which comes
last, stands back behind every header of its name that is there before it, and then it is not sent at all.

* `Header.value?` — what some headers say under a name, where the first one of that name counts;
* `Header.value?_under` — adding default headers keeps what was said, and says more;
* `Client.exists_of_ofServer` — what a client is made of;
* `Options.headersBefore` — the client's own headers and the cookie, which come before the user's;
* `Header.KeepsOwn`, `Header.FirstDefaultCounts` — **what is assumed of the transport**;
* `Request.ownHeaders` — the headers of the request itself, which come before all defaults;
* `Request.mem_headers_iff` — a request carries what is said first;
* `Client.Call`, `Client.Call.request` — everything that can be asked of a client, and the request by which it is asked;
* `Client.sent_calls` — **each call sends one request**;
* `Client.extra_header_sent_iff` — **when the user's header is sent**, and that the cookie always is;
* `Client.content_type_of_user_not_sent` — a header that the request has itself is not sent.
-/

namespace PlanBrowser

/-! ## Adding headers -/

namespace Header

/-- What some headers say under a name: the first one of that name counts. -/
def value? (name : String) (headers : List Header) : Option String :=
  (headers.find? fun h => h.name = name).map (·.value)

theorem value?_cons (name : String) (h : Header) (headers : List Header) :
    value? name (h :: headers) = if h.name = name then some h.value else value? name headers := by
  by_cases hname : h.name = name <;> simp [value?, hname]

theorem value?_append (name : String) (headers more : List Header) :
    value? name (headers ++ more) = (value? name headers).or (value? name more) := by
  induction headers with
  | nil => simp [value?]
  | cons h headers ih =>
    rw [List.cons_append, value?_cons, value?_cons, ih]
    split <;> rfl

theorem value?_eq_none_iff (name : String) (headers : List Header) :
    value? name headers = none ↔ name ∉ headers.map (·.name) := by
  induction headers with
  | nil => simp [value?]
  | cons h headers ih =>
    rw [value?_cons, List.map_cons, List.mem_cons, not_or, ← ih]
    by_cases hname : h.name = name
    · simp [hname]
    · simp [hname, Ne.symm hname]

/-- Headers of different names say what each of them says. -/
theorem mem_iff_value? {headers : List Header} (h : (headers.map (·.name)).Nodup) (k : Header) :
    k ∈ headers ↔ value? k.name headers = some k.value := by
  induction headers with
  | nil => simp [value?]
  | cons a headers ih =>
    rw [List.map_cons, List.nodup_cons] at h
    rw [value?_cons, List.mem_cons, ih h.2]
    by_cases hname : a.name = k.name
    · have hnone : value? k.name headers = none := (value?_eq_none_iff _ _).mpr (hname ▸ h.1)
      rw [if_pos hname, hnone]
      obtain ⟨name, value⟩ := a
      obtain ⟨name', value'⟩ := k
      change name = name' at hname
      simp [hname, eq_comm]
    · have hne : k ≠ a := fun heq => hname (congrArg Header.name heq).symm
      simp [hname, hne]

/-- A header is added exactly if nothing has been said under its name. -/
theorem addTo_eq (headers : List Header) (h : Header) :
    addTo headers h = if h.name ∈ headers.map (·.name) then headers else headers ++ [h] := by
  have hany : (headers.any fun k => k.name = h.name) = true ↔ h.name ∈ headers.map (·.name) := by
    simp only [List.any_eq_true, decide_eq_true_eq, List.mem_map]
  by_cases hmem : h.name ∈ headers.map (·.name)
  · rw [addTo, if_pos (hany.mpr hmem), if_pos hmem]
  · rw [addTo, if_neg (fun h => hmem (hany.mp h)), if_neg hmem]

theorem nodup_addTo {headers : List Header} (h : (headers.map (·.name)).Nodup) (k : Header) :
    ((addTo headers k).map (·.name)).Nodup := by
  rw [addTo_eq]
  split
  · exact h
  · next hmem =>
    have hone : ([k].map (·.name)).Nodup := by simp
    rw [List.map_append, List.nodup_append]
    refine ⟨h, hone, ?_⟩
    intro a ha b hb heq
    obtain rfl : b = k.name := List.mem_singleton.mp hb
    exact hmem (heq ▸ ha)

theorem value?_addTo (name : String) (headers : List Header) (h : Header) :
    value? name (addTo headers h) = value? name (headers ++ [h]) := by
  rw [addTo_eq]
  split
  · next hmem =>
    rw [value?_append, value?_cons]
    by_cases hname : h.name = name
    · obtain ⟨value, hvalue⟩ := Option.ne_none_iff_exists'.mp fun hnone =>
        (value?_eq_none_iff name headers).mp hnone (hname ▸ hmem)
      rw [hvalue, Option.some_or]
    · rw [if_neg hname]
      exact (Option.or_none).symm
  · rfl

theorem nodup_under {headers : List Header} (h : (headers.map (·.name)).Nodup) (defaults : List Header) :
    ((under defaults headers).map (·.name)).Nodup := by
  induction defaults generalizing headers with
  | nil => exact h
  | cons d defaults ih => exact ih (nodup_addTo h d)

/-- **Default headers add to what is said**, and change nothing of it. -/
theorem value?_under (name : String) (defaults headers : List Header) :
    value? name (under defaults headers) = value? name (headers ++ defaults) := by
  induction defaults generalizing headers with
  | nil => rw [List.append_nil]; rfl
  | cons d defaults ih =>
    show value? name (under defaults (addTo headers d)) = _
    rw [ih, value?_append, value?_addTo, ← value?_append, List.append_assoc]
    rfl

/-! ## What is assumed of the transport -/

/-- **No default stands beside a header of the request**: under a name that the request has, none is added. -/
def KeepsOwn (fill : List Header → List Header → List Header) : Prop :=
  ∀ defaults headers h, h ∈ fill defaults headers → h.name ∈ headers.map (·.name) → h ∈ headers

/-- **Of several defaults of one name the first counts**, where the request has none of it. -/
def FirstDefaultCounts (fill : List Header → List Header → List Header) : Prop :=
  ∀ name defaults headers, value? name (fill defaults headers) = value? name (headers ++ defaults)

theorem keepsOwn_under : KeepsOwn under := by
  intro defaults headers h hmem hname
  induction defaults generalizing headers with
  | nil => exact hmem
  | cons d defaults ih =>
    have hadded : h ∈ addTo headers d := by
      refine ih _ hmem ?_
      rw [addTo_eq]
      split
      · exact hname
      · rw [List.map_append]
        exact List.mem_append_left _ hname
    rw [addTo_eq] at hadded
    split at hadded
    · exact hadded
    · next hfresh =>
      rcases List.mem_append.mp hadded with hown | hd
      · exact hown
      · obtain rfl := List.mem_singleton.mp hd
        exact absurd hname hfresh

theorem firstDefaultCounts_under : FirstDefaultCounts under :=
  value?_under

end Header

/-! ## One request -/

/-- **The headers of a request itself**: the kind of its body, and the credentials of its URL. -/
def Request.ownHeaders (url : Url) (body : Option Json) : List Header :=
  (if body.isSome then [⟨"content-type", "application/json"⟩] else []) ++ url.authorization?.toList

theorem Url.name_of_authorization? {url : Url} {h : Header} (hh : h ∈ url.authorization?) :
    h.name = "authorization" := by
  unfold authorization? at hh
  dsimp only at hh
  split at hh
  · cases hh
  · split at hh
    · cases hh
    · obtain rfl := Option.some.inj hh
      rfl

theorem Request.nodup_ownHeaders (url : Url) (body : Option Json) :
    ((ownHeaders url body).map (·.name)).Nodup := by
  rw [ownHeaders]
  cases hauth : url.authorization? with
  | none => cases body <;> simp
  | some h =>
    have hname : h.name = "authorization" := Url.name_of_authorization? hauth
    cases body <;> simp [hname]

theorem Request.headers_make (defaults : List Header) (method : Method) (url : Url) (body : Option Json) :
    (make defaults method url body).headers =
      Header.addTo (Header.under defaults (ownHeaders url body)) ⟨"host", String.ofList url.hostAndPort⟩ :=
  rfl

/-- **A request carries what is said first**: by itself, then by the defaults, and by its host at the end. -/
theorem Request.mem_headers_iff (defaults : List Header) (method : Method) (url : Url) (body : Option Json)
    (h : Header) :
    h ∈ (make defaults method url body).headers ↔
      Header.value? h.name (ownHeaders url body ++ defaults ++ [⟨"host", String.ofList url.hostAndPort⟩]) =
        some h.value := by
  have hnodup := Header.nodup_addTo (Header.nodup_under (nodup_ownHeaders url body) defaults)
    ⟨"host", String.ofList url.hostAndPort⟩
  rw [headers_make, Header.mem_iff_value? hnodup, Header.value?_addTo, Header.value?_append,
    Header.firstDefaultCounts_under, ← Header.value?_append]

/-- A default header is carried exactly if no header before it says anything else under its name. -/
theorem Request.mem_headers_of_default {before : List Header} {method : Method} {url : Url} {body : Option Json}
    (hnodup : ((ownHeaders url body ++ before).map (·.name)).Nodup) (h : Header) (after : List Header) :
    h ∈ (make (before ++ h :: after) method url body).headers ↔
      ∀ k ∈ ownHeaders url body ++ before, k.name = h.name → k.value = h.value := by
  have hsplit (host : Header) : ownHeaders url body ++ (before ++ h :: after) ++ [host] =
      (ownHeaders url body ++ before) ++ (h :: (after ++ [host])) := by
    simp only [List.append_assoc, List.cons_append]
  rw [mem_headers_iff, hsplit, Header.value?_append, Header.value?_cons, if_pos rfl]
  cases hvalue : Header.value? h.name (ownHeaders url body ++ before) with
  | none =>
    rw [Option.none_or]
    refine iff_of_true rfl ?_
    intro k hk hname
    exact absurd (List.mem_map_of_mem hk) (hname ▸ (Header.value?_eq_none_iff _ _).mp hvalue)
  | some value =>
    rw [Option.some_or, Option.some.injEq]
    constructor
    · intro heq k hk hname
      have hsaid := (Header.mem_iff_value? hnodup k).mp hk
      rw [hname, hvalue, heq] at hsaid
      exact (Option.some.inj hsaid).symm
    · intro hall
      have hmem := (Header.mem_iff_value? hnodup ⟨h.name, value⟩).mpr hvalue
      exact hall _ hmem rfl

/-! ## The headers of a client -/

namespace Options

/-- The cookie of the session token, if one is given. -/
def cookie (o : Options) : List Header :=
  (o.token.bind Text.given?).toList.map fun t => ⟨"cookie", "JWT=" ++ Text.trim t⟩

/-- **The default headers that come before the user's**: the client's own, and the cookie. -/
def headersBefore (o : Options) : List Header :=
  ownHeaders ++ o.cookie

theorem eq_of_cookie {token : String} {h : Header} (hread : Header.cookie token = .ok h) :
    h = ⟨"cookie", "JWT=" ++ Text.trim token⟩ := by
  unfold Header.cookie at hread
  split at hread
  · next value hvalue =>
    unfold Header.readValue? at hvalue
    split at hvalue
    · obtain rfl := Option.some.inj hvalue
      obtain rfl := Except.ok.inj hread
      rw [String.ofList_append, String.ofList_toList]
      rfl
    · cases hvalue
  · cases hread

theorem optionalHeader_cookie {o : Options} {headers : List Header}
    (h : optionalHeader Header.cookie o.token = .ok headers) : headers = o.cookie := by
  unfold optionalHeader at h
  rw [cookie]
  cases htoken : o.token.bind Text.given? with
  | none =>
    rw [htoken] at h
    exact (Except.ok.inj h).symm
  | some token =>
    rw [htoken] at h
    dsimp only at h
    cases hread : Header.cookie token with
    | error fault =>
      rw [hread] at h
      cases h
    | ok k =>
      rw [hread] at h
      rw [← Except.ok.inj h, eq_of_cookie hread]
      rfl

/-- A client with a header line has the headers that come before, and then the header of the line. -/
theorem defaultHeaders_eq {o : Options} {headers : List Header} (hheaders : o.defaultHeaders = .ok headers)
    {line : String} {h : Header} (hline : o.header.bind Text.given? = some line) (hread : Header.read line = .ok h) :
    headers = o.headersBefore ++ [h] := by
  have hextra : optionalHeader Header.read o.header = .ok [h] := by
    rw [optionalHeader, hline]
    dsimp only
    rw [hread]
  unfold defaultHeaders at hheaders
  rw [hextra] at hheaders
  cases hcookie : optionalHeader Header.cookie o.token with
  | error failure =>
    rw [hcookie] at hheaders
    cases hheaders
  | ok headers' =>
    rw [hcookie] at hheaders
    rw [headersBefore, ← optionalHeader_cookie hcookie]
    exact (Except.ok.inj hheaders).symm

end Options

namespace Client

/-- **What a client is made of**: the root of its server, and the default headers of its options. -/
theorem exists_of_ofServer {o : Options} {server : String} {c : Client} (h : ofServer o server = .ok c) :
    ∃ u headers, Url.parse server = .ok u ∧ o.defaultHeaders = .ok headers ∧ c = ⟨u.root, headers⟩ := by
  cases hparse : Url.parse server with
  | error fault =>
    simp only [ofServer, hparse] at h
    cases h
  | ok u =>
    cases hpath : u.isHierarchical with
    | false =>
      simp only [ofServer, hparse, hpath] at h
      cases h
    | true =>
      simp only [ofServer, hparse, hpath] at h
      cases hheaders : o.defaultHeaders with
      | error failure =>
        rw [hheaders] at h
        cases h
      | ok headers =>
        rw [hheaders] at h
        cases hproxy : o.checkProxy with
        | error failure =>
          rw [hproxy] at h
          cases h
        | ok _ =>
          rw [hproxy] at h
          exact ⟨u, headers, rfl, rfl, (Except.ok.inj h).symm⟩

theorem headers_of_ofServer {o : Options} {server : String} {c : Client} (h : ofServer o server = .ok c) :
    o.defaultHeaders = .ok c.headers := by
  obtain ⟨u, headers, -, hheaders, rfl⟩ := exists_of_ofServer h
  exact hheaders

theorem root_of_ofServer {o : Options} {server : String} {c : Client} {u : Url} (h : ofServer o server = .ok c)
    (hparse : Url.parse server = .ok u) : c.root = u.root := by
  obtain ⟨u', headers, hparse', -, rfl⟩ := exists_of_ofServer h
  obtain rfl : u' = u := Except.ok.inj (hparse'.symm.trans hparse)
  rfl

/-! ## All calls -/

/-- **What can be asked of a client.** -/
inductive Call where
  | plans (s : Search) (count : Option Nat)
  | savePlan (user : String) (r : SaveRequest)
  | sendFeedback (user : String) (f : Feedback)
  | summary (r : SummaryRequest)
  | deletePlan (user id : String)
  | savedPlans (user : String)
  | favorites (user : String)

/-- What a call does to the link. -/
def Call.over (c : Client) (l : Link) : Call → Link
  | plans s count => (c.plans l s count).2
  | savePlan user r => (c.savePlan l user r).2
  | sendFeedback user f => (c.sendFeedback l user f).2
  | summary r => (c.summary l r).2
  | deletePlan user id => (c.deletePlan l user id).2
  | savedPlans user => (c.savedPlans l user).2
  | favorites user => (c.favorites l user).2

/-- The method of a call. -/
def Call.method : Call → Method
  | plans _ _ => .get
  | savePlan _ _ => .post
  | sendFeedback _ _ => .post
  | summary _ => .post
  | deletePlan _ _ => .delete
  | savedPlans _ => .get
  | favorites _ => .get

/-- The URL of a call. -/
def Call.url (c : Client) : Call → Url
  | plans s count => s.dataUrl count
  | savePlan user _ => c.endpoint ["v1", "users", user, "plans"]
  | sendFeedback user _ => c.endpoint ["v1", "users", user, "feedback"]
  | summary _ => c.endpoint ["v1", "plan-summary"]
  | deletePlan user id => c.endpoint ["v1", "users", user, "plan", id]
  | savedPlans user => c.endpoint ["v1", "users", user, "plans"]
  | favorites user => c.endpoint ["v1", "users", user, "favorites"]

/-- What a call sends along. -/
def Call.body : Call → Option Json
  | savePlan _ r => some r.toJson
  | sendFeedback _ f => some f.toJson
  | summary r => some r.toJson
  | _ => none

/-- **The request of a call.** -/
def Call.request (c : Client) (call : Call) : Request :=
  .make c.headers call.method (call.url c) call.body

/-- **The headers that come before the user's** in the request of a call: those of the request itself, the client's
own, and the cookie. -/
def Call.headersBefore (c : Client) (o : Options) (call : Call) : List Header :=
  Request.ownHeaders (call.url c) call.body ++ o.headersBefore

theorem Call.over_eq (c : Client) {l : Link} (h : l.cancelled = false) (call : Call) :
    call.over c l = { l with sent := l.sent ++ [call.request c] } := by
  have hsend (url : Url) (r : Request) : (l.send url r).2 = { l with sent := l.sent ++ [r] } := by
    rw [Link.send, h]
    rfl
  cases call <;> exact hsend _ _

/-- **Each call sends one request**, and nothing else is sent. -/
theorem sent_calls (c : Client) {l : Link} (h : l.cancelled = false) (calls : List Call) :
    (calls.foldl (fun l call => call.over c l) l).sent = l.sent ++ calls.map (Call.request c) := by
  induction calls generalizing l with
  | nil => exact (List.append_nil _).symm
  | cons call calls ih =>
    have hrest := ih (l := { l with sent := l.sent ++ [call.request c] }) h
    rw [List.foldl_cons, call.over_eq c h, hrest, List.map_cons, List.append_assoc]
    rfl

/-- No two of the headers that come before the user's have one name. -/
theorem Call.nodup_headersBefore (c : Client) (o : Options) (call : Call) :
    ((call.headersBefore c o).map (·.name)).Nodup := by
  rw [headersBefore, Request.ownHeaders, Options.headersBefore, Options.ownHeaders, Options.cookie]
  cases hauth : (call.url c).authorization? with
  | none => cases o.token.bind Text.given? <;> cases call.body <;> simp
  | some h =>
    have hname : h.name = "authorization" := Url.name_of_authorization? hauth
    cases o.token.bind Text.given? <;> cases call.body <;> simp [hname]

/-- **When the user's header is sent.**  Take any client that can be made from options with a header line, over any
network.  Whatever it is asked, one request is sent for each call, in their order.  The request carries the header of
the line exactly if no header that comes before it, of the request itself, of the client or of the token, has the same
name and another value; and it carries the trimmed token as a cookie in any case, if there is one. -/
theorem extra_header_sent_iff (o : Options) (server : String) {c : Client} (hclient : ofServer o server = .ok c)
    {line : String} {h : Header} (hline : o.header.bind Text.given? = some line) (hread : Header.read line = .ok h)
    (network : Network) (calls : List Call) :
    (calls.foldl (fun l call => Call.over c l call) (Link.unused network)).sent = calls.map (Call.request c) ∧
      ∀ call ∈ calls,
        (h ∈ (call.request c).headers ↔
          ∀ k ∈ call.headersBefore c o, k.name = h.name → k.value = h.value) ∧
        ∀ token, o.token.bind Text.given? = some token →
          ⟨"cookie", "JWT=" ++ Text.trim token⟩ ∈ (call.request c).headers := by
  have hheaders : c.headers = o.headersBefore ++ [h] :=
    Options.defaultHeaders_eq (headers_of_ofServer hclient) hline hread
  have hfresh : (Link.unused network).cancelled = false := rfl
  refine ⟨c.sent_calls hfresh calls, ?_⟩
  intro call _
  have hnodup := call.nodup_headersBefore c o
  constructor
  · rw [Call.request, hheaders]
    exact Request.mem_headers_of_default hnodup h []
  · intro token htoken
    let k : Header := ⟨"cookie", "JWT=" ++ Text.trim token⟩
    have hcookie : o.cookie = [k] := by rw [Options.cookie, htoken]; rfl
    have hsplit : c.headers = Options.ownHeaders ++ k :: [h] := by
      rw [hheaders, Options.headersBefore, hcookie, List.append_assoc]
      rfl
    have hbefore : call.headersBefore c o = Request.ownHeaders (call.url c) call.body ++ Options.ownHeaders ++ [k] := by
      rw [Call.headersBefore, Options.headersBefore, hcookie, List.append_assoc]
    rw [hbefore, List.map_append, List.nodup_append] at hnodup
    obtain ⟨hnodup, -, hdisjoint⟩ := hnodup
    rw [Call.request, hsplit, Request.mem_headers_of_default hnodup k [h]]
    intro a ha hname
    exact absurd hname (hdisjoint _ (List.mem_map_of_mem ha) _ (List.mem_map_of_mem List.mem_cons_self))

/-- A header of a name of its own is sent beside the token. -/
theorem extra_header_sent_beside_token :
    let o : Options := ⟨10, none, some "X-Trace: abc", some " t "⟩
    let root : Url := ⟨"http", "", none, some (.ipv6 [0, 0, 0, 0, 0, 0, 0, 1]), none, .segments [""], false, none, none⟩
    let c : Client := ⟨root, [⟨"user-agent", "tripview/0.1.0"⟩, ⟨"accept", "application/json"⟩, ⟨"cookie", "JWT=t"⟩,
      ⟨"x-trace", "abc"⟩]⟩
    ofServer o "http://[::1]/" = .ok c ∧ o.header.bind Text.given? = some "X-Trace: abc" ∧
      Header.read "X-Trace: abc" = .ok ⟨"x-trace", "abc"⟩ ∧ o.token.bind Text.given? = some " t " ∧
      ⟨"x-trace", "abc"⟩ ∈ ((Call.deletePlan "guest" "1").request c).headers ∧
      ⟨"cookie", "JWT=t"⟩ ∈ ((Call.deletePlan "guest" "1").request c).headers := by
  intro o root c
  have hclient : ofServer o "http://[::1]/" = .ok c := by decide +kernel
  have hline : o.header.bind Text.given? = some "X-Trace: abc" := by decide +kernel
  have hread : Header.read "X-Trace: abc" = .ok ⟨"x-trace", "abc"⟩ := by decide +kernel
  have htoken : o.token.bind Text.given? = some " t " := by decide +kernel
  have htrim : "JWT=" ++ Text.trim " t " = "JWT=t" := by decide +kernel
  obtain ⟨-, hsent⟩ := extra_header_sent_iff o "http://[::1]/" hclient hline hread .unreachable [.deletePlan "guest" "1"]
  obtain ⟨hextra, hcookie⟩ := hsent _ List.mem_cons_self
  refine ⟨hclient, hline, hread, htoken, hextra.mpr ?_, htrim ▸ hcookie " t " htoken⟩
  decide +kernel

/-- **A header that the request or the client has itself is not sent.**  A user who names another kind of body is not
heard when something is sent along, whatever a transport makes of several defaults of one name; and one who names another
agent, or adds a cookie to the token, is not heard if the first default counts.  In all three cases the client is made. -/
theorem content_type_of_user_not_sent :
    let client (header : String) (token : Option String) := ofServer ⟨10, none, some header, token⟩ "http://[::1]/"
    (∃ c, client "Content-Type: text/plain" none = .ok c ∧
      Header.read "Content-Type: text/plain" = .ok ⟨"content-type", "text/plain"⟩ ∧
      ⟨"content-type", "text/plain"⟩ ∉ ((Call.summary ⟨"1"⟩).request c).headers ∧
      ∀ fill, Header.KeepsOwn fill → ⟨"content-type", "text/plain"⟩ ∉
        fill c.headers (Request.ownHeaders ((Call.summary ⟨"1"⟩).url c) (Call.summary ⟨"1"⟩).body)) ∧
    (∃ c, client "User-Agent: mine" none = .ok c ∧
      Header.read "User-Agent: mine" = .ok ⟨"user-agent", "mine"⟩ ∧
      ⟨"user-agent", "mine"⟩ ∉ ((Call.favorites "guest").request c).headers) ∧
    (∃ c, client "Cookie: lang=fr" (some "t") = .ok c ∧
      Header.read "Cookie: lang=fr" = .ok ⟨"cookie", "lang=fr"⟩ ∧
      ⟨"cookie", "lang=fr"⟩ ∉ ((Call.deletePlan "guest" "1").request c).headers) := by
  let root : Url := ⟨"http", "", none, some (.ipv6 [0, 0, 0, 0, 0, 0, 0, 1]), none, .segments [""], false, none, none⟩
  let own : List Header := Options.ownHeaders
  refine ⟨⟨⟨root, own ++ [⟨"content-type", "text/plain"⟩]⟩, ?_, ?_, ?_, ?_⟩,
    ⟨⟨root, own ++ [⟨"user-agent", "mine"⟩]⟩, ?_, ?_, ?_⟩,
    ⟨⟨root, own ++ [⟨"cookie", "JWT=t"⟩, ⟨"cookie", "lang=fr"⟩]⟩, ?_, ?_, ?_⟩⟩
  case refine_4 =>
    intro fill hfill hsent
    refine absurd (hfill _ _ _ hsent ?_) ?_ <;> decide +kernel
  all_goals decide +kernel

end Client

end PlanBrowser
