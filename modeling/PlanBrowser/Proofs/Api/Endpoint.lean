import PlanBrowser.Proofs.Api.Carried
import PlanBrowser.Proofs.Search.Page
import PlanBrowser.Proofs.Url.Segment

/-!
# The URLs of a server

Everything that is asked of a server, except for the plans of a search, is asked at a URL below its root, and of the URL
that the client was made from only the scheme, the credentials, the host and the port are left.  The path says the segments
and nothing else, so different segments never lead to one URL, as long as they are segments that come through.

* `Client.endpoint_eq` — the URL of some segments, and what is left of the server's own URL;
* `Client.endpoint_says_segments` — **the path says the segments**, and different segments have different URLs.
-/

namespace PlanBrowser

open Url Text

theorem Url.kind_of_onWeb {u : Url} (h : Search.OnWeb u) : u.kind = .special := by
  rw [kind]
  obtain h | h := h
  · rw [h]
    rfl
  · rw [h]
    rfl

namespace Client

section Server

variable {o : Options} {server : String} {c : Client} {u : Url} (hclient : ofServer o server = .ok c)
  (hparse : Url.parse server = .ok u) (hweb : Search.OnWeb u)
include hclient hparse hweb

/-- The URL of some segments has the server's scheme, credentials, host and port, and no query and no fragment. -/
theorem endpoint_eq (ss : List String) :
    c.endpoint ss =
      { u with path := .segments (ss.foldl (append .special) [""]), query := none, fragment := none } := by
  rw [endpoint, root_of_ofServer hclient hparse, below]
  have hkind : u.root.kind = .special := kind_of_onWeb hweb
  rw [hkind]
  rfl

/-- Two lists of segments lead to one URL just if they make one path, whether the credentials are written or not. -/
theorem text_endpoint_inj (ss ts : List String) :
    ((c.endpoint ss).text = (c.endpoint ts).text ↔
      ss.foldl (append .special) [""] = ts.foldl (append .special) [""]) ∧
    ((c.endpoint ss).withoutCredentials.text = (c.endpoint ts).withoutCredentials.text ↔
      ss.foldl (append .special) [""] = ts.foldl (append .special) [""]) := by
  rw [endpoint_eq hclient hparse hweb, endpoint_eq hclient hparse hweb,
    ← (areSegments_foldl ss).chars_inj (areSegments_foldl ts)]
  exact ⟨text_withPath_inj { u with query := none, fragment := none } _ _,
    text_withPath_inj { u with query := none, fragment := none, user := "", password := none } _ _⟩

/-- **The path says the segments.**  Take any client of a server on the web, and segments that come through, the first of
which is not empty.  The URL has the scheme, the credentials, the host and the port of the server's URL, whatever its path,
query and fragment are, and no query and no fragment itself.  Between the slashes of its path, behind the first one, the
segments are found again by decoding.  So no other segments of this kind lead to the same URL, nor to the same URL without
its credentials, which is the one that a request is sent to. -/
theorem endpoint_says_segments {first : String} {rest : List String} (hfirst : first ≠ "")
    (hkept : ∀ s ∈ first :: rest, IsKept s) :
    (∃ path : Path, c.endpoint (first :: rest) = { u with path := path, query := none, fragment := none } ∧
      ∃ cs, path.chars = '/' :: cs ∧ (pieces '/' cs).map segmentText? = (first :: rest).map some) ∧
    ∀ (first' : String) (rest' : List String), first' ≠ "" → (∀ s ∈ first' :: rest', IsKept s) →
      (c.endpoint (first :: rest)).text = (c.endpoint (first' :: rest')).text ∨
        (c.endpoint (first :: rest)).withoutCredentials.text = (c.endpoint (first' :: rest')).withoutCredentials.text →
      first :: rest = first' :: rest' := by
  have hsegments : AreSegments ((first :: rest).map encoded) := by
    rw [← foldl_append_root hfirst hkept]
    exact areSegments_foldl _
  constructor
  · refine ⟨.segments ((first :: rest).map encoded), ?_,
      joined ['/'] (((first :: rest).map encoded).map String.toList), chars_segments hsegments.ne_nil, ?_⟩
    · rw [endpoint_eq hclient hparse hweb, foldl_append_root hfirst hkept]
    · rw [hsegments.pieces_joined]
      exact map_segmentText?_encoded hkept
  · intro first' rest' hfirst' hkept' htext
    obtain ⟨hfull, hbare⟩ := text_endpoint_inj hclient hparse hweb (first :: rest) (first' :: rest')
    have hpath := htext.elim hfull.mp hbare.mp
    rw [foldl_append_root hfirst hkept, foldl_append_root hfirst' hkept'] at hpath
    have hsome := congrArg (List.map segmentText?) (congrArg (List.map String.toList) hpath)
    rw [map_segmentText?_encoded hkept, map_segmentText?_encoded hkept'] at hsome
    exact (List.map_inj_right fun _ _ => Option.some.inj).mp hsome

end Server

theorem endpoint_says_hostile_segments :
    let u : Url := ⟨"http", "u", some "p", some (.ipv6 [0, 0, 0, 0, 0, 0, 0, 1]), some 8080, .segments ["x"], false,
      some "q", some "f"⟩
    let c : Client := ⟨u.root, Options.ownHeaders⟩
    ofServer ⟨10, none, none, none⟩ "http://u:p@[::1]:8080/x?q#f" = .ok c ∧
      Url.parse "http://u:p@[::1]:8080/x?q#f" = .ok u ∧
      (c.endpoint ["a/..", "%2e#?", "", "é \\"]).text = "http://u:p@[::1]:8080/a%2F../%252e%23%3F//%C3%A9%20%5C" ∧
      (pieces '/' "a%2F../%252e%23%3F//%C3%A9%20%5C".toList).map segmentText? =
        [some "a/..", some "%2e#?", some "", some "é \\"] ∧
      (c.endpoint ["a/..", "%2e#?", "", "é \\"]).withoutCredentials.text ≠
        (c.endpoint ["a", "..%2e#?", "", "é \\"]).withoutCredentials.text := by
  intro u c
  have hclient : ofServer ⟨10, none, none, none⟩ "http://u:p@[::1]:8080/x?q#f" = .ok c := by decide +kernel
  have hparse : Url.parse "http://u:p@[::1]:8080/x?q#f" = .ok u := by decide +kernel
  have hkept : ∀ s ∈ ["a/..", "%2e#?", "", "é \\"], IsKept s := by decide +kernel
  have hkept' : ∀ s ∈ ["a", "..%2e#?", "", "é \\"], IsKept s := by decide +kernel
  obtain ⟨⟨path, hurl, cs, hchars, hpieces⟩, hother⟩ :=
    endpoint_says_segments hclient hparse (.inl rfl) (by decide) hkept
  refine ⟨hclient, hparse, by decide +kernel, ?_, ?_⟩
  · have hpath : (c.endpoint ["a/..", "%2e#?", "", "é \\"]).path.chars =
        '/' :: "a%2F../%252e%23%3F//%C3%A9%20%5C".toList := by decide +kernel
    rw [hurl] at hpath
    obtain rfl := List.cons_inj_right _ |>.mp (hchars.symm.trans hpath)
    exact hpieces
  · intro htext
    have hsame := hother "a" ["..%2e#?", "", "é \\"] (by decide) hkept' (.inr htext)
    exact absurd hsame (by decide)

end Client

end PlanBrowser
