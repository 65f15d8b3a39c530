import PlanBrowser.Proofs.Api.Endpoint
import PlanBrowser.Proofs.Profile.Run

/-!
# What a deletion hits

The request to delete a plan names the user in the third segment of its path and the plan in the fifth one.  If both are
segments that come through, it is the request for this plan of this user and for no other.  But an id of dots is passed
over, and the request goes to the plans themselves; an id that is dots without its tabs and ends of lines loses its place;
and two ids that differ in tabs and ends of lines only are one id to the server.  Whatever the server has confirmed, the
view drops the plans with the id that it was asked for.

* `Profile.userFront`, `Profile.planTail` — the path of a deletion, up to the user and behind;
* `Profile.planIn?` — the plan that a URL names;
* `Profile.HitsSame`, `Profile.planTail_eq_iff` — two ids that are one id to the server;
* `Profile.deletion_hits_plan_iff` — **which deletions are sent to one URL**, and which of them name their plan;
* `Profile.deletion_hits_other_plan` — ids that are not told apart, and an id that is not named at all.
-/

namespace PlanBrowser.Profile

open Url Text Client

/-! ## The path of a deletion -/

/-- The path of a deletion, up to the user. -/
def userFront (user : String) : List String :=
  append .special ["v1", "users"] user

/-- What an id that is not passed over makes of the end of the path. -/
def idTail (cs : List Char) : List String :=
  if cs = ['.', '.'] then [""]
  else if cs = ['.'] then ["plan", ""]
  else ["plan", String.ofList (percentEncode specialSegmentEscapes cs)]

/-- The path of a deletion, behind the user. -/
def planTail (id : String) : List String :=
  if IsDots id then ["plan"] else idTail (stripped id)

/-- There are three segments up to the user, unless the user is dots or two dots are left. -/
theorem userFront_cases (user : String) :
    ((¬ IsDots user ∧ stripped user ≠ ['.', '.']) ∧ ∃ s, userFront user = ["v1", "users", s]) ∨
      ((IsDots user ∨ stripped user = ['.', '.']) ∧ ∃ s, userFront user = ["v1", s]) := by
  rw [userFront, append_special]
  by_cases hdots : IsDots user
  · rw [if_pos hdots]
    exact .inr ⟨.inl hdots, _, rfl⟩
  · rw [if_neg hdots, placed]
    by_cases htwo : stripped user = ['.', '.']
    · rw [if_pos htwo]
      exact .inr ⟨.inr htwo, _, rfl⟩
    · rw [if_neg htwo]
      refine .inl ⟨⟨hdots, htwo⟩, ?_⟩
      split
      · exact ⟨_, rfl⟩
      · exact ⟨_, rfl⟩

theorem frontOf_userFront (user : String) (ss : List String) : frontOf (userFront user ++ ss) = userFront user ++ ss := by
  have hroot : userFront user ++ ss ≠ [""] := by
    obtain ⟨-, s, hs⟩ | ⟨-, s, hs⟩ := userFront_cases user
    · rw [hs]
      exact fun h => absurd (List.cons.inj h).1 (by decide)
    · rw [hs]
      exact fun h => absurd (List.cons.inj h).1 (by decide)
  rw [frontOf, if_neg hroot]

/-- **The path of a deletion.** -/
theorem foldl_append_deletion (user id : String) :
    ["v1", "users", user, "plan", id].foldl (append .special) [""] = userFront user ++ planTail id := by
  have hstart : ["v1", "users"].foldl (append .special) [""] = ["v1", "users"] := by decide +kernel
  have hplan : append .special (userFront user) "plan" = userFront user ++ ["plan"] := by
    have hkept : IsKept "plan" := by decide
    have hfront := frontOf_userFront user []
    rw [List.append_nil] at hfront
    rw [hkept.append_special, hfront]
    rfl
  have hid : append .special (userFront user ++ ["plan"]) id = userFront user ++ planTail id := by
    rw [append_special, frontOf_userFront, planTail, placed, idTail, List.dropLast_concat]
    split
    · rfl
    · split
      · rfl
      · split
        · exact List.append_assoc _ _ _
        · exact List.append_assoc _ _ _
  show append .special (append .special (append .special (["v1", "users"].foldl (append .special) [""]) user) "plan") id = _
  rw [hstart]
  show append .special (append .special (userFront user) "plan") id = _
  rw [hplan, hid]

/-! ## Two ids that are one to the server -/

/-- **Two ids are one to the server**: both are passed over, or the same is left of them. -/
def HitsSame (a b : String) : Prop :=
  IsDots a ∧ IsDots b ∨ ¬ IsDots a ∧ ¬ IsDots b ∧ stripped a = stripped b

/-- Something is left of a text that is not blank. -/
theorem stripped_ne_nil {s : String} (h : isBlankText s = false) : stripped s ≠ [] := by
  intro hnil
  rw [stripped, List.filter_eq_nil_iff] at hnil
  have hblank : isBlankText s = true := by
    rw [isBlankText, List.all_eq_true]
    intro c hc
    have hc' := hnil c hc
    simp only [Bool.and_eq_true, bne_iff_ne, ne_eq, not_and, not_not] at hc'
    by_cases htab : c = '\t'
    · rw [htab]
      rfl
    · by_cases hline : c = '\n'
      · rw [hline]
        rfl
      · rw [hc' ⟨htab, hline⟩]
        rfl
  rw [hblank] at h
  cases h

/-- What is left of an id, read from the end of the path. -/
def tailBytes : List String → List UInt8
  | [_, s] => if s = "" then Utf8.encode ['.'] else percentDecode s.toList
  | _ => Utf8.encode ['.', '.']

theorem tailBytes_idTail {cs : List Char} (h : cs ≠ []) : tailBytes (idTail cs) = Utf8.encode cs := by
  rw [idTail]
  split
  · next htwo =>
    rw [htwo]
    rfl
  · split
    · next hone =>
      rw [hone]
      rfl
    · rw [tailBytes, if_neg (ofList_percentEncode_ne_empty h), String.toList_ofList, percentDecode_percentEncode rfl]

/-- The end of the path tells what is left of an id. -/
theorem idTail_inj {cs ds : List Char} (hcs : cs ≠ []) (hds : ds ≠ []) : idTail cs = idTail ds ↔ cs = ds := by
  constructor
  · intro h
    apply Utf8.encode_inj.mp
    rw [← tailBytes_idTail hcs, h, tailBytes_idTail hds]
  · rintro rfl
    rfl

theorem idTail_ne_plan (cs : List Char) : idTail cs ≠ ["plan"] := by
  rw [idTail]
  split
  · decide
  · split <;> simp

/-- **Two ids have one end of the path just if they are one to the server.** -/
theorem planTail_eq_iff {a b : String} (ha : isBlankText a = false) (hb : isBlankText b = false) :
    planTail a = planTail b ↔ HitsSame a b := by
  rw [planTail, planTail, HitsSame]
  by_cases hda : IsDots a
  · by_cases hdb : IsDots b
    · simp [hda, hdb]
    · simp [hda, hdb, (idTail_ne_plan _).symm]
  · by_cases hdb : IsDots b
    · simp [hda, hdb, idTail_ne_plan]
    · simp [hda, hdb, idTail_inj (stripped_ne_nil ha) (stripped_ne_nil hb)]

/-! ## The plan that is named -/

/-- **The plan that a URL names**: what the fifth segment of its path says. -/
def planIn? (u : Url) : Option String :=
  (pieces '/' (u.path.chars.drop 1))[4]?.bind segmentText?

/-- The segment behind the word for plans says the id just if the id comes through. -/
theorem planTail_says_iff {id : String} (hid : isBlankText id = false) :
    ((planTail id)[1]?.bind fun s => segmentText? s.toList) = some id ↔ IsKept id := by
  rw [planTail]
  by_cases hdots : IsDots id
  · rw [if_pos hdots]
    exact iff_of_false (by simp) fun h => h.not_dots hdots
  · rw [if_neg hdots, idTail]
    by_cases htwo : stripped id = ['.', '.']
    · rw [if_pos htwo]
      exact iff_of_false (by simp) (not_isKept_of_stripped (.inr htwo))
    · rw [if_neg htwo]
      by_cases hone : stripped id = ['.']
      · rw [if_pos hone]
        refine iff_of_false ?_ (not_isKept_of_stripped (.inl hone))
        intro hsays
        obtain rfl : "" = id := Option.some.inj hsays
        cases hid
      · rw [if_neg hone]
        have hsays := segmentText?_encoded id
        rw [encoded] at hsays
        rw [List.getElem?_cons_succ, List.getElem?_cons_zero, Option.bind_some, hsays, isKept_iff, Option.some_inj,
          ← String.toList_inj, String.toList_ofList]
        exact (and_iff_right hdots).symm

/-! ## Deletions -/

section Server

variable {o : Options} {server : String} {c : Client} {u : Url} (hclient : ofServer o server = .ok c)
  (hparse : Url.parse server = .ok u) (hweb : Search.OnWeb u)
include hclient hparse hweb

/-- Two deletions for a user are sent to one URL just if the ids are one to the server. -/
theorem text_deleteRequest_eq_iff (user : String) {a b : String} (ha : isBlankText a = false)
    (hb : isBlankText b = false) :
    (deleteRequest c user a).url.text = (deleteRequest c user b).url.text ↔ HitsSame a b := by
  have htext := (text_endpoint_inj hclient hparse hweb ["v1", "users", user, "plan", a]
    ["v1", "users", user, "plan", b]).2
  rw [foldl_append_deletion, foldl_append_deletion, List.append_cancel_left_eq, planTail_eq_iff ha hb] at htext
  exact htext

/-- **A deletion names its plan** just if the id comes through and no segment in front of it is lost. -/
theorem planIn?_deleteRequest_iff (user : String) {id : String} (hid : isBlankText id = false) :
    planIn? (deleteRequest c user id).url = some id ↔
      ¬ IsDots user ∧ stripped user ≠ ['.', '.'] ∧ IsKept id := by
  have hpath : (deleteRequest c user id).url.path = .segments (userFront user ++ planTail id) := by
    show (c.endpoint ["v1", "users", user, "plan", id]).path = _
    rw [endpoint_eq hclient hparse hweb, foldl_append_deletion]
  have hsegments : AreSegments (userFront user ++ planTail id) := by
    rw [← foldl_append_deletion]
    exact areSegments_foldl _
  have hplan : planIn? (deleteRequest c user id).url =
      (userFront user ++ planTail id)[4]?.bind fun s => segmentText? s.toList := by
    rw [planIn?, hpath, chars_segments hsegments.ne_nil, List.drop_one, List.tail_cons, hsegments.pieces_joined,
      List.getElem?_map, Option.bind_map]
    rfl
  rw [hplan]
  obtain ⟨huser, s, hs⟩ | ⟨huser, s, hs⟩ := userFront_cases user
  · rw [hs]
    show ((planTail id)[1]?.bind fun s => segmentText? s.toList) = some id ↔ _
    rw [planTail_says_iff hid, ← and_assoc]
    exact (and_iff_right huser).symm
  · rw [hs]
    -- with two segments up to the user, four segments are all there are
    have hnone : (planTail id)[2]? = none := by
      rw [planTail, idTail]
      split
      · rfl
      · split
        · rfl
        · split <;> rfl
    show ((planTail id)[2]?.bind fun s => segmentText? s.toList) = some id ↔ _
    rw [hnone]
    refine iff_of_false (by simp) ?_
    rintro ⟨hdots, htwo, -⟩
    exact huser.elim hdots htwo

end Server

/-- A deletion without an error sends one request, and drops the plans with its id. -/
theorem delete_of_ok {p : Profile} {c : Client} {l : Link} {id : String} (h : (p.delete c l id).1.2 = .ok ()) :
    (p.delete c l id).2.sent = l.sent ++ [deleteRequest c p.user id] ∧
      (p.delete c l id).1.1 = { p with plans := p.plans.filter (·.id ≠ id) } := by
  have hconfirms : confirms c p.user l id = true := (deletePlan_eq_ok_iff c l p.user id).mp h
  have hopen : l.cancelled = false := by
    rw [confirms, Bool.and_eq_true, Bool.not_eq_true'] at hconfirms
    exact hconfirms.1
  constructor
  · show (l.send _ (deleteRequest c p.user id)).2.sent = _
    rw [Link.send, hopen]
    rfl
  · rw [delete_eq, if_pos hconfirms]

/-- **What a deletion hits.**  Take any client of a server on the web, any user and any two ids that are not blank.  The two
deletions are sent to one URL just if both ids are one to the server: both are dots, or none is and they differ in tabs and
ends of lines only.  A deletion names its plan just if neither the user nor the id is dots, it is not two dots that are left
of the user, and no tab and no end of a line stands in the id.  And whenever a deletion is confirmed, this very request has
been sent to the server, and the view has dropped the plans with the id that it was asked for, whatever the request named. -/
theorem deletion_hits_plan_iff {o : Options} {server : String} {c : Client} {u : Url}
    (hclient : ofServer o server = .ok c) (hparse : Url.parse server = .ok u) (hweb : Search.OnWeb u) (user : String)
    {a b : String} (ha : isBlankText a = false) (hb : isBlankText b = false) :
    ((deleteRequest c user a).url.text = (deleteRequest c user b).url.text ↔ HitsSame a b) ∧
    (planIn? (deleteRequest c user a).url = some a ↔
      ¬ IsDots user ∧ stripped user ≠ ['.', '.'] ∧ IsKept a) ∧
    ∀ (p : Profile) (l : Link), p.user = user → (p.delete c l a).1.2 = .ok () →
      (p.delete c l a).2.sent = l.sent ++ [deleteRequest c user a] ∧
        (p.delete c l a).1.1 = { p with plans := p.plans.filter (·.id ≠ a) } := by
  refine ⟨text_deleteRequest_eq_iff hclient hparse hweb user ha hb,
    planIn?_deleteRequest_iff hclient hparse hweb user ha, ?_⟩
  rintro p l rfl hok
  exact delete_of_ok hok

/-- The client of a server on this machine. -/
def localClient : Client :=
  ⟨⟨"http", "", none, some (.ipv6 [0, 0, 0, 0, 0, 0, 0, 1]), none, .segments [""], false, none, none⟩, Options.ownHeaders⟩

theorem ofServer_localClient : ofServer ⟨10, none, none, none⟩ "http://[::1]/" = .ok localClient := by
  decide +kernel

theorem deletion_hits_plan_iff_slash :
    (deleteRequest localClient "alice" "a/b").url.text ≠ (deleteRequest localClient "alice" "a%2Fb").url.text ∧
      planIn? (deleteRequest localClient "alice" "a/b").url = some "a/b" := by
  have hparse : Url.parse "http://[::1]/" = .ok localClient.root := by decide +kernel
  obtain ⟨hsame, hnames, -⟩ := deletion_hits_plan_iff ofServer_localClient hparse (.inl rfl) "alice"
    (by decide : isBlankText "a/b" = false) (by decide : isBlankText "a%2Fb" = false)
  constructor
  · intro htext
    obtain ⟨hdots, -⟩ | ⟨-, -, hstripped⟩ := hsame.mp htext
    · exact absurd hdots (by decide)
    · exact absurd hstripped (by decide)
  · exact hnames.mpr ⟨by decide, by decide, by decide⟩

/-- **A deletion hits other plans.**  Two ids that differ in a tab only are deleted at one URL, and an id of one dot is
deleted where all plans of the user are, with no fifth segment in the path. -/
theorem deletion_hits_other_plan :
    ofServer ⟨10, none, none, none⟩ "http://[::1]/" = .ok localClient ∧
      isBlankText "a\tb" = false ∧ isBlankText "ab" = false ∧ isBlankText "." = false ∧ "a\tb" ≠ "ab" ∧
      (deleteRequest localClient "alice" "a\tb").url.text = "http://[::1]/v1/users/alice/plan/ab" ∧
      (deleteRequest localClient "alice" "ab").url.text = "http://[::1]/v1/users/alice/plan/ab" ∧
      (deleteRequest localClient "alice" ".").url.text = "http://[::1]/v1/users/alice/plan" ∧
      planIn? (deleteRequest localClient "alice" ".").url = none := by
  refine ⟨ofServer_localClient, ?_⟩
  decide +kernel

end PlanBrowser.Profile
