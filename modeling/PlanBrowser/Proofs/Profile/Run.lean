import PlanBrowser.Proofs.Profile.Card

/-!
# What a profile shows after many steps

A profile is loaded, and then more of its plans are shown and plans are deleted, in any order.  How many plans are shown
and how many there are change apart from each other: a step shows three more, and a plan that is deleted lets the ones
behind it move up.  What the server answers decides which plans are gone, and nothing else does.

* `Profile.Step`, `Profile.run` — the steps of a user, one after the other;
* `Profile.confirms`, `Profile.confirmed` — whether the server confirms that a plan is deleted, and all ids for which it
  does in a run;
* `Profile.delete_eq`, `Profile.delete_of_ne_ok` — **one plan is deleted**, or nothing changes;
* `Profile.run_eq` — **a profile after a run**;
* `Profile.more_iff_hidden` — there is more to show just if a card is hidden;
* `Profile.profile_after_run` — **loading, running and showing**, as a whole.
-/

namespace PlanBrowser.Profile

/-! ## Loading -/

theorem plans_load (c : Client) (l : Link) (user : String) :
    (load c l user).1.plans =
      match (c.savedPlans l user).1 with
      | .ok reply => reply.plans
      | .error _ => [] := by
  show (((c.savedPlans l user).1.toOption.map (·.plans)).getD []) = _
  cases (c.savedPlans l user).1 with
  | ok reply => rfl
  | error failure => rfl

theorem mostSearched_load (c : Client) (l : Link) (user : String) :
    (load c l user).1.mostSearched =
      match (c.favorites (c.savedPlans l user).2 user).1 with
      | .ok reply => reply.mostSearched
      | .error _ => none := by
  show ((c.favorites (c.savedPlans l user).2 user).1.toOption.bind (·.mostSearched)) = _
  cases (c.favorites (c.savedPlans l user).2 user).1 with
  | ok reply => rfl
  | error failure => rfl

/-! ## Steps -/

/-- What the user of a profile does. -/
inductive Step where
  /-- Shows more plans. -/
  | more
  /-- Deletes the plan with an id. -/
  | delete (id : String)
  deriving Repr, DecidableEq

/-- One step of a profile over a link. -/
def step (c : Client) (s : Profile × Link) : Step → Profile × Link
  | .more => (s.1.loadMore, s.2)
  | .delete id => ((s.1.delete c s.2 id).1.1, (s.1.delete c s.2 id).2)

/-- **Some steps**, one after the other. -/
def run (c : Client) (s : Profile × Link) (steps : List Step) : Profile × Link :=
  steps.foldl (step c) s

/-! ## Deleting a plan -/

/-- The request to delete a plan of a user. -/
def deleteRequest (c : Client) (user id : String) : Request :=
  Request.make c.headers .delete (c.endpoint ["v1", "users", user, "plan", id]) none

/-- **The server confirms** that the plan is deleted: the request is sent, and it is answered with a status of the two
hundreds. -/
def confirms (c : Client) (user : String) (l : Link) (id : String) : Bool :=
  !l.cancelled &&
    match l.network l.sent (deleteRequest c user id) with
    | .answer status _ => 200 ≤ status && status ≤ 299
    | _ => false

/-- **The ids for which the server confirms** that a plan is deleted, in a run. -/
def confirmed (c : Client) (user : String) : Link → List Step → List String
  | _, [] => []
  | l, .more :: steps => confirmed c user l steps
  | l, .delete id :: steps =>
    (if confirms c user l id then [id] else []) ++ confirmed c user (c.deletePlan l user id).2 steps

/-- A plan is deleted without an error just if the server confirms it. -/
theorem deletePlan_eq_ok_iff (c : Client) (l : Link) (user id : String) :
    (c.deletePlan l user id).1 = .ok () ↔ confirms c user l id = true := by
  have hresult : (c.deletePlan l user id).1 =
      (l.send (c.endpoint ["v1", "users", user, "plan", id]) (deleteRequest c user id)).1.map fun _ => () := rfl
  rw [hresult, Link.send, confirms]
  cases l.cancelled with
  | true => simp [Except.map]
  | false =>
    cases l.network l.sent (deleteRequest c user id) with
    | answer status body =>
      by_cases h : 200 ≤ status ∧ status ≤ 299 <;> simp [Link.judge, Except.map, h]
    | broken cause => simp [Link.judge, Except.map]
    | silence => simp [Link.judge, Except.map]

/-- **One plan is deleted**, or nothing changes. -/
theorem delete_eq (p : Profile) (c : Client) (l : Link) (id : String) :
    (p.delete c l id).1.1 =
      if confirms c p.user l id then { p with plans := p.plans.filter (·.id ≠ id) } else p := by
  show p.afterDelete id (c.deletePlan l p.user id).1 = _
  split
  · next h =>
    rw [(deletePlan_eq_ok_iff c l p.user id).mpr h]
    rfl
  · next h =>
    cases hresult : (c.deletePlan l p.user id).1 with
    | ok _ => exact absurd ((deletePlan_eq_ok_iff c l p.user id).mp hresult) h
    | error failure => rfl

/-- **A deletion that fails changes nothing.** -/
theorem delete_of_ne_ok {p : Profile} {c : Client} {l : Link} {id : String} (h : (p.delete c l id).1.2 ≠ .ok ()) :
    (p.delete c l id).1.1 = p := by
  have hconfirms : ¬ confirms c p.user l id = true := fun hc => h ((deletePlan_eq_ok_iff c l p.user id).mpr hc)
  rw [delete_eq, if_neg hconfirms]

/-! ## Runs -/

/-- **A profile after a run.**  The plans for which a deletion was confirmed are gone, and three more are shown for
every step that shows more. -/
theorem run_eq (c : Client) (p : Profile) (l : Link) (steps : List Step) :
    (run c (p, l) steps).1 =
      { p with
        plans := p.plans.filter fun q => q.id ∉ confirmed c p.user l steps
        shown := p.shown + 3 * steps.count .more } := by
  induction steps generalizing p l with
  | nil =>
    show p = _
    simp [confirmed]
  | cons s steps ih =>
    cases s with
    | more =>
      show (run c (p.loadMore, l) steps).1 = _
      rw [ih]
      simp only [loadMore, pageSize, confirmed, List.count_cons_self]
      congr 1
      omega
    | delete id =>
      have hcount : (Step.delete id :: steps).count .more = steps.count .more :=
        List.count_cons_of_ne (by simp)
      show (run c ((p.delete c l id).1.1, (c.deletePlan l p.user id).2) steps).1 = _
      rw [ih, delete_eq, confirmed, hcount]
      by_cases h : confirms c p.user l id = true
      · simp only [h, if_true, List.filter_filter, List.singleton_append, List.mem_cons, not_or, Bool.decide_and]
        congr 2
        funext q
        rw [Bool.and_comm]
      · simp only [h, if_false, Bool.false_eq_true, List.nil_append]

/-! ## What is shown -/

/-- There is more to show just if a card of the page is hidden. -/
theorem more_iff_hidden (p : Profile) : p.moreVisible = true ↔ .card true ∈ signs p.document.toList := by
  have hmore : p.moreVisible = true ↔ p.shown < p.plans.length := decide_eq_true_iff
  rw [hmore, signs_document]
  constructor
  · intro h
    apply List.mem_append_left
    refine List.mem_flatMap.mpr ⟨(p.plans[p.shown], p.shown), ?_, by simp⟩
    rw [List.mem_zipIdx_iff_getElem?]
    exact List.getElem?_eq_getElem h
  · intro h
    obtain h | h := List.mem_append.mp h
    · obtain ⟨q, hq, hmem⟩ := List.mem_flatMap.mp h
      have hlt : q.2 < p.plans.length := List.snd_lt_of_mem_zipIdx hq
      have hhidden : p.shown ≤ q.2 := by
        simpa using hmem
      omega
    · split at h
      · simp at h
      · cases h

/-- **A profile from loading on.**  Load the profile of a user over any link, and then show more of its plans and delete
plans, in any order, whatever the server answers.

* A reply with the saved plans that fails leaves no plans, and a reply with the favorites that fails leaves no place that
  was searched for most often; neither changes anything about the other part.
* The plans are those that were loaded, in their order, without the ones with an id for which the server confirmed a
  deletion.  A deletion has a result just if the server confirms it, and otherwise nothing changes.
* Three plans are shown, and three more for every step that shows more.
* The cards of the plans stand in the page one after the other, in the order of the plans, and there are no others: in
  the whole page, one card is read for each plan, hidden just if its index is not below the number that is shown, and with
  it the control that deletes the plan.  After the cards there is one control that shows more plans, or there is none.
* There is that control just if there are more plans than are shown, and just if a card is hidden. -/
theorem profile_after_run (c : Client) (l : Link) (user : String) (steps : List Step) :
    let loaded := load c l user
    let p := (run c loaded steps).1
    loaded.1.plans =
        (match (c.savedPlans l user).1 with
        | .ok reply => reply.plans
        | .error _ => []) ∧
      p.mostSearched =
        (match (c.favorites (c.savedPlans l user).2 user).1 with
        | .ok reply => reply.mostSearched
        | .error _ => none) ∧
      p.plans = loaded.1.plans.filter (fun q => q.id ∉ confirmed c user loaded.2 steps) ∧
      (∀ link id, ((p.delete c link id).1.2 = .ok () ↔ confirms c user link id = true) ∧
        ((p.delete c link id).1.2 ≠ .ok () → (p.delete c link id).1.1 = p)) ∧
      p.shown = 3 + 3 * steps.count .more ∧
      (∃ before after,
        p.document.toList =
          before ++ (p.plans.zipIdx.flatMap fun q => Html.chars (savedCard q.1 user q.2 p.shown)) ++ after ∧
        signs before = [] ∧ signs after = if p.moreVisible then [.more] else []) ∧
      signs p.document.toList =
        (p.plans.zipIdx.flatMap fun q => [.card (decide (p.shown ≤ q.2)), .deletes (Html.escape q.1.id)]) ++
          (if p.moreVisible then [.more] else []) ∧
      (p.moreVisible = true ↔ .card true ∈ signs p.document.toList) := by
  intro loaded p
  have hp : p =
      { loaded.1 with
        plans := loaded.1.plans.filter fun q => q.id ∉ confirmed c user loaded.2 steps
        shown := 3 + 3 * steps.count .more } := run_eq c loaded.1 loaded.2 steps
  have huser : p.user = user := by
    rw [hp]
    rfl
  refine ⟨plans_load c l user, ?_, ?_, ?_, ?_, huser ▸ exists_document_eq p, signs_document p, more_iff_hidden p⟩
  · rw [hp]
    exact mostSearched_load c l user
  · rw [hp]
  · intro link id
    have hresult : (p.delete c link id).1.2 = .ok () ↔ confirms c p.user link id = true :=
      deletePlan_eq_ok_iff c link p.user id
    rw [huser] at hresult
    exact ⟨hresult, delete_of_ne_ok⟩
  · rw [hp]

end PlanBrowser.Profile
