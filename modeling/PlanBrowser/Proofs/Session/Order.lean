import PlanBrowser.Proofs.Session.Address

/-!
# The order of actions

Each kind of action has controls of its own to change, and none reads what another one changes: an action looks at the
batch, the search and the user, which no action touches.  So two actions can change places unless they are of one kind
and on one plan, which is to say unless they belong to one element of the page.

* `Action.element` — the element of the page that an action belongs to;
* `Action.Result`, `Session.result` — what an action returns;
* `Session.acts` — the session after some actions;
* `Action.touchControls_comm`, `Action.touchError_comm` — what two kinds of actions do to one slot;
* `Session.Fits.act_comm` — **two actions on different elements can change places**;
* `Session.Fits.asks_and_returns_act` — an action asks and returns the same after another one;
* `Session.actions_in_any_order` — **actions on different elements can be done in any order**.
-/

namespace PlanBrowser

namespace Action

/-- The control that an action belongs to. -/
def control : Action → Control
  | like _ => .like
  | save _ _ _ => .save
  | dislike _ _ => .dislike
  | summarise _ _ => .summary

/-- **The element of the page that an action belongs to**: the control, under the plan. -/
def element (a : Action) : ElementId :=
  ⟨a.control, a.index⟩

/-- What an action may return: a summary returns its text. -/
def Result : Action → Type
  | summarise _ _ => Except ActionFault String
  | _ => Except ActionFault Unit

/-- What an action on a shown plan returns: a summary its text, and any other action what is replied. -/
def returned : (a : Action) → a.Result
  | like _ => .ok ()
  | save _ _ r => r.mapError .failed
  | dislike _ r => r.mapError .failed
  | summarise _ r => .ok (summaryText r)

/-- What an action on any other plan returns. -/
def refused : (a : Action) → a.Result
  | like i => .error (.notShown i)
  | save i _ _ => .error (.notShown i)
  | dislike i _ => .error (.notShown i)
  | summarise i _ => .error (.notShown i)

/-- Two actions of different kinds change different controls. -/
theorem touchControls_comm {a b : Action} (h : a.control ≠ b.control) (c : Controls) :
    a.touchControls (b.touchControls c) = b.touchControls (a.touchControls c) := by
  cases a with
  | like i =>
    cases b with
    | like j => exact absurd rfl h
    | dislike j r => cases r <;> rfl
    | _ => rfl
  | save i now r =>
    cases b with
    | save j now' r' => exact absurd rfl h
    | dislike j r' => cases r' <;> rfl
    | _ => rfl
  | dislike i r =>
    cases b with
    | dislike j r' => exact absurd rfl h
    | _ => cases r <;> rfl
  | summarise i r =>
    cases b with
    | summarise j r' => exact absurd rfl h
    | dislike j r' => cases r' <;> rfl
    | _ => rfl

/-- Only one kind of action changes the failure of the last save. -/
theorem touchError_comm {a b : Action} (h : a.control ≠ b.control) (error : Option String) :
    a.touchError (b.touchError error) = b.touchError (a.touchError error) := by
  cases a with
  | save i now r =>
    cases b with
    | save j now' r' => exact absurd rfl h
    | _ => rfl
  | _ => rfl

end Action

namespace Session

/-- **What an action returns.** -/
def result (s : Session) : (a : Action) → a.Result
  | .like i => (s.like i).2
  | .save i now r => ((s.save i now).run (Action.save i now r).planner.reply).2
  | .dislike i r => ((s.dislike i).run (Action.dislike i r).planner.reply).2
  | .summarise i r => ((s.summarise i).run (Action.summarise i r).planner.reply).2

/-- What an action asks about a plan. -/
def asks (s : Session) (p : Plan) : Action → Option Question
  | .like _ => none
  | .save _ now _ => some (.save s.user (s.saveRequest p now))
  | .dislike _ _ => some (.feedback s.user (.ofPlan p))
  | .summarise _ _ => some (.summary ⟨p.id⟩)

/-- The session after some actions, one after the other. -/
def acts (s : Session) (as : List Action) : Session :=
  as.foldl act s

/-! ## One action -/

section

variable {s : Session} {a : Action} {p : Plan}

theorem question?_of_shown (h : a.index < s.controls.length) (hp : s.plan? a.index = some p) :
    s.question? a = s.asks p a := by
  cases a with
  | like i => rfl
  | save i now r => exact congrArg Dialogue.question? (save_of_shown h hp now)
  | dislike i r => exact congrArg Dialogue.question? (dislike_of_shown h hp)
  | summarise i r => exact congrArg Dialogue.question? (summarise_of_shown h hp)

theorem result_of_shown (h : a.index < s.controls.length) (hp : s.plan? a.index = some p) :
    s.result a = a.returned := by
  cases a with
  | like i => exact congrArg Prod.snd (like_of_shown h)
  | save i now r =>
    have heq := save_of_shown h hp now
    exact congrArg (fun d => (d.run (Action.save i now r).planner.reply).2) heq
  | dislike i r =>
    have heq := dislike_of_shown h hp
    exact congrArg (fun d => (d.run (Action.dislike i r).planner.reply).2) heq
  | summarise i r =>
    have heq := summarise_of_shown h hp
    exact congrArg (fun d => (d.run (Action.summarise i r).planner.reply).2) heq

theorem question?_of_not_shown (h : s.controls.length ≤ a.index) : s.question? a = none := by
  cases a with
  | like i => rfl
  | save i now r => exact congrArg Dialogue.question? (save_of_not_shown h now)
  | dislike i r => exact congrArg Dialogue.question? (dislike_of_not_shown h)
  | summarise i r => exact congrArg Dialogue.question? (summarise_of_not_shown h)

theorem result_of_not_shown (h : s.controls.length ≤ a.index) : s.result a = a.refused := by
  cases a with
  | like i => exact congrArg Prod.snd (like_of_not_shown h)
  | save i now r =>
    have heq := save_of_not_shown h now
    exact congrArg (fun d => (d.run (Action.save i now r).planner.reply).2) heq
  | dislike i r =>
    have heq := dislike_of_not_shown h
    exact congrArg (fun d => (d.run (Action.dislike i r).planner.reply).2) heq
  | summarise i r =>
    have heq := summarise_of_not_shown h
    exact congrArg (fun d => (d.run (Action.summarise i r).planner.reply).2) heq

end

/-! ## Two actions -/

/-- Two changes of a list change places if they change different entries, or an entry alike in either order. -/
theorem modify_modify_comm {α : Type} {f g : α → α} {i j : Nat} (h : i = j → ∀ a, f (g a) = g (f a))
    (l : List α) : (l.modify i f).modify j g = (l.modify j g).modify i f := by
  by_cases hij : i = j
  · subst hij
    have hfg : g ∘ f = f ∘ g := funext fun a => (h rfl a).symm
    rw [List.modify_modify_eq, List.modify_modify_eq, hfg]
  · exact List.modify_modify_ne f g l hij

/-- **Two actions on different elements can change places.** -/
theorem Fits.act_comm {s : Session} (h : s.Fits) {a b : Action} (hab : a.element ≠ b.element) :
    (s.act a).act b = (s.act b).act a := by
  have hcontrol (hindex : a.index = b.index) : a.control ≠ b.control := by
    intro hcontrol
    apply hab
    rw [Action.element, Action.element, hcontrol, hindex]
  have hcontrols : (s.controls.modify a.index a.touchControls).modify b.index b.touchControls =
      (s.controls.modify b.index b.touchControls).modify a.index a.touchControls :=
    modify_modify_comm (fun hindex c => Action.touchControls_comm (hcontrol hindex) c) s.controls
  have herrors : (s.saveErrors.modify a.index a.touchError).modify b.index b.touchError =
      (s.saveErrors.modify b.index b.touchError).modify a.index a.touchError :=
    modify_modify_comm (fun hindex error => Action.touchError_comm (hcontrol hindex) error) s.saveErrors
  rw [(h.act a).act_eq, (h.act b).act_eq, h.act_eq a, h.act_eq b]
  show { s with controls := _, saveErrors := _ } = { s with controls := _, saveErrors := _ }
  rw [hcontrols, herrors]

@[simp] theorem act_plan? (s : Session) (a : Action) (i : Nat) : (s.act a).plan? i = s.plan? i := by
  rw [act_frame]
  rfl

/-- What an action asks comes from the search and the user, which no action changes. -/
theorem act_asks (s : Session) (b : Action) : (s.act b).asks = s.asks := by
  rw [act_frame]
  rfl

/-- **An action asks and returns the same after another action**, whichever it is. -/
theorem Fits.asks_and_returns_act {s : Session} (h : s.Fits) (b a : Action) :
    (s.act b).question? a = s.question? a ∧ (s.act b).result a = s.result a := by
  have hlen : (s.act b).controls.length = s.controls.length := (h.sameBut_act b).length_controls
  by_cases hi : a.index < s.visible
  · have hs : a.index < s.controls.length := h.length_controls ▸ hi
    have ht : a.index < (s.act b).controls.length := hlen ▸ hs
    obtain ⟨p, hp⟩ := exists_plan?_of_lt_visible hi
    have hq : (s.act b).plan? a.index = some p := (s.act_plan? b a.index).trans hp
    rw [question?_of_shown hs hp, question?_of_shown ht hq, result_of_shown hs hp, result_of_shown ht hq,
      act_asks]
    exact ⟨rfl, rfl⟩
  · have hs : s.controls.length ≤ a.index := h.length_controls ▸ Nat.le_of_not_lt hi
    have ht : (s.act b).controls.length ≤ a.index := hlen ▸ hs
    rw [question?_of_not_shown hs, question?_of_not_shown ht, result_of_not_shown hs, result_of_not_shown ht]
    exact ⟨rfl, rfl⟩

/-! ## Many actions -/

/-- **Actions on different elements can be done in any order.** -/
theorem Fits.acts_perm {s : Session} (h : s.Fits) {as bs : List Action} (hperm : as.Perm bs)
    (hnodup : (as.map Action.element).Nodup) : s.acts as = s.acts bs := by
  induction hperm generalizing s with
  | nil => rfl
  | cons a _ ih => exact ih (h.act a) (List.nodup_cons.mp hnodup).2
  | swap a b as =>
    have hab : b.element ≠ a.element := by
      intro heq
      apply (List.nodup_cons.mp hnodup).1
      rw [heq]
      exact List.mem_cons_self
    show ((s.act b).act a).acts as = ((s.act a).act b).acts as
    rw [h.act_comm hab]
  | trans hfirst _ ihFirst ihSecond =>
    exact (ihFirst h hnodup).trans (ihSecond h ((hfirst.map _).nodup_iff.mp hnodup))

/-- Whatever actions come before, an action asks and returns what it would at first. -/
theorem Fits.asks_and_returns_acts {s : Session} (h : s.Fits) (bs : List Action) (a : Action) :
    (s.acts bs).question? a = s.question? a ∧ (s.acts bs).result a = s.result a := by
  induction bs generalizing s with
  | nil => exact ⟨rfl, rfl⟩
  | cons b bs ih =>
    obtain ⟨hquestion, hresult⟩ := ih (h.act b)
    obtain ⟨hquestion', hresult'⟩ := h.asks_and_returns_act b a
    exact ⟨hquestion.trans hquestion', hresult.trans hresult'⟩

/-- **Actions can be done in any order.**  In every state, and whatever is replied to each of them, two actions that
differ in kind or in their plan lead to the same session in either order, each of them asks the same in either order,
and each of them returns the same.  So actions that all differ lead to the same session in whatever order they are done;
and whatever actions come before, an action asks and returns what it would at first. -/
theorem actions_in_any_order (s : Session) (hs : s.Reachable) :
    (∀ a b : Action, a.control ≠ b.control ∨ a.index ≠ b.index →
      (s.act a).act b = (s.act b).act a ∧
      ((s.act b).question? a = s.question? a ∧ (s.act a).question? b = s.question? b) ∧
      ((s.act b).result a = s.result a ∧ (s.act a).result b = s.result b)) ∧
    (∀ as bs : List Action, as.Perm bs → (as.map Action.element).Nodup → s.acts as = s.acts bs) ∧
    (∀ (bs : List Action) (a : Action),
      (s.acts bs).question? a = s.question? a ∧ (s.acts bs).result a = s.result a) := by
  have hfits : s.Fits := hs.fits
  refine ⟨?_, fun as bs => hfits.acts_perm, hfits.asks_and_returns_acts⟩
  intro a b hab
  have helement : a.element ≠ b.element := by
    intro heq
    rcases hab with hcontrol | hindex
    · exact hcontrol (congrArg ElementId.control heq)
    · exact hindex (congrArg ElementId.index heq)
  obtain ⟨hquestion, hresult⟩ := hfits.asks_and_returns_act b a
  obtain ⟨hquestion', hresult'⟩ := hfits.asks_and_returns_act a b
  exact ⟨hfits.act_comm helement, ⟨hquestion, hquestion'⟩, ⟨hresult, hresult'⟩⟩

/-- A plan is disliked, saved and summarised, and another one saved, in two orders. -/
theorem actions_in_two_orders :
    let s := (start default "guest" 2 5).after (.ready (some ⟨["a", "b"].map Plan.named, [], ""⟩))
    let dislike : Action := .dislike 0 (.ok ())
    let save : Action := .save 0 ⟨0, 0⟩ (.error (.timedOut "http://planner/"))
    let summarise : Action := .summarise 0 (.ok ⟨"By the sea."⟩)
    let saveOther : Action := .save 1 ⟨0, 0⟩ (.ok ())
    s.Reachable ∧ s.acts [dislike, save, summarise, saveOther] = s.acts [saveOther, summarise, save, dislike] := by
  intro s dislike save summarise saveOther
  have hs : s.Reachable := (Reachable.start default "guest" 2 5).after _
  have hperm : [dislike, save, summarise, saveOther].Perm [saveOther, summarise, save, dislike] :=
    (List.reverse_perm [saveOther, summarise, save, dislike])
  exact ⟨hs, (actions_in_any_order s hs).2.1 _ _ hperm (by decide)⟩

end Session

end PlanBrowser
