import PlanBrowser.Profile
import PlanBrowser.Proofs.Html.Marks
import PlanBrowser.Proofs.Session.Output

/-!
# What the texts of a page cannot change

The results page and the profile page show texts of all kinds: names and addresses of places, links, ids of plans, the
name of the user, summaries.  None of them adds to the markup, wherever it stands.  So two pages that show equally many
things in the same state have the same marks in the same order, whatever the things are called.

* `Session.outline`, `Profile.outline` — what is shown, apart from all texts;
* `marks_planItem`, `marks_savedCard` — the marks of an item and of a card;
* `Session.Fits.marks_document`, `Profile.marks_document` — the marks of the two pages, part by part;
* `same_marks_of_same_outline` — **two pages of one outline have the same marks**.
-/

namespace PlanBrowser

open Html (Piece flag marks marks_append marks_cons_markup marks_cons_text marks_cons_number)

/-- What the controls of a plan look like, apart from their texts. -/
def Controls.flags (c : Controls) : List Bool :=
  [c.saveDisabled, c.likeDisabled, c.dislikeDisabled, c.refreshVisible, c.summaryDisabled]

/-- **What a session shows, apart from all texts**: for each shown plan the number of its stops and the looks of its
controls, and whether there is the control that loads more. -/
def Session.outline (s : Session) : List (Nat × List Bool) × Bool :=
  (s.snapshot.plans.map fun p => (p.plan.stops.length, p.controls.flags), s.moreVisible)

/-- **What a profile shows, apart from all texts**: for each plan the number of its places, how many plans are shown,
and whether a place was searched for most often. -/
def Profile.outline (p : Profile) : List Nat × Nat × Bool :=
  (p.plans.map (·.stops.length), p.shown, p.mostSearched.isSome)

/-- Lists of things that agree in what their texts depend on are written alike. -/
theorem flatMap_eq_of_map_eq {α β γ : Type} {key : α → γ} {f g : α → List β} {as bs : List α}
    (h : as.map key = bs.map key) (hfg : ∀ a b, key a = key b → f a = g b) : as.flatMap f = bs.flatMap g := by
  induction as generalizing bs with
  | nil =>
    rw [List.map_eq_nil_iff.mp h.symm]
    rfl
  | cons a as ih =>
    cases bs with
    | nil => cases h
    | cons b bs =>
      obtain ⟨hhead, htail⟩ := List.cons.inj h
      rw [List.flatMap_cons, List.flatMap_cons, hfg a b hhead, ih htail]

theorem Html.marks_flatMap {α : Type} (f : α → List Char) (as : List α) :
    marks (as.flatMap f) = as.flatMap fun a => marks (f a) :=
  List.filter_flatMap

/-- The marks of the pieces of several things. -/
theorem Html.marks_chars_flatMap {α : Type} (f : α → List Piece) (as : List α) :
    marks (chars (as.flatMap f)) = as.flatMap fun a => marks (chars (f a)) := by
  rw [chars, List.flatMap_assoc]
  exact marks_flatMap (fun a => chars (f a)) as

/-- Equally many things that are written with the same marks. -/
theorem Html.marks_flatMap_of_length_eq {α : Type} {f : α → List Piece} {as bs : List α} (h : as.length = bs.length)
    (hf : ∀ a b, marks (chars (f a)) = marks (chars (f b))) :
    marks (chars (as.flatMap f)) = marks (chars (bs.flatMap f)) := by
  have hcount : as.map (fun _ => ()) = bs.map fun _ => () := by
    rw [List.map_const', List.map_const', h]
  rw [marks_chars_flatMap, marks_chars_flatMap]
  exact flatMap_eq_of_map_eq hcount fun a b _ => hf a b

theorem Html.marks_render (ps : List Piece) : marks (render ps).toList = marks (chars ps) := by
  rw [render, String.toList_ofList]

/-! ## The item of a plan -/

namespace PlanItem

theorem marks_heading (p q : Plan) (i j : Nat) :
    marks (Html.chars (heading p i)) = marks (Html.chars (heading q j)) := by
  simp only [heading, marks_cons_markup, marks_cons_text, marks_cons_number]

theorem marks_table {ss ts : List Stop} (h : ss.length = ts.length) :
    marks (Html.chars (table ss)) = marks (Html.chars (table ts)) := by
  have hrow (s t : Stop) : marks (Html.chars (row s)) = marks (Html.chars (row t)) := by
    simp only [row, marks_cons_markup, marks_cons_text]
  simp only [table, Html.chars_append, marks_append, Html.marks_flatMap_of_length_eq h hrow]

theorem marks_toolbar (i j : Nat) (u v : String) {c d : Controls} (h : c.flags = d.flags) :
    marks (Html.chars (toolbar i u c)) = marks (Html.chars (toolbar j v d)) := by
  have hbutton (control : Control) (look : Look) (disabled visible : Bool) :
      marks (Html.chars (button ⟨control, i⟩ look disabled visible)) =
        marks (Html.chars (button ⟨control, j⟩ look disabled visible)) := by
    simp only [button, flag, marks_cons_markup, marks_cons_text]
  simp only [Controls.flags, List.cons.injEq, and_true] at h
  obtain ⟨hsave, hlike, hdislike, hrefresh, hsummary⟩ := h
  simp only [toolbar, flag, Html.chars_append, marks_append, marks_cons_markup, marks_cons_text, marks_cons_number,
    hbutton, hsave, hlike, hdislike, hrefresh, hsummary]

theorem marks_dialog (i j : Nat) (c d : Controls) :
    marks (Html.chars (dialog i c)) = marks (Html.chars (dialog j d)) := by
  simp only [dialog, marks_cons_markup, marks_cons_text, marks_cons_number]

end PlanItem

/-- **The marks of an item** depend on the number of stops and on the looks of the controls only. -/
theorem marks_planItem {p q : Plan} {c d : Controls} (hstops : p.stops.length = q.stops.length)
    (hflags : c.flags = d.flags) (i j : Nat) (u v : String) :
    marks (Html.chars (planItem p i u c)) = marks (Html.chars (planItem q j v d)) := by
  simp only [planItem, Html.chars_append, marks_append]
  rw [PlanItem.marks_heading p q i j, PlanItem.marks_table hstops, PlanItem.marks_toolbar i j u v hflags,
    PlanItem.marks_dialog i j c d]

/-! ## The results page -/

theorem Page.marks_beforeItems (destination user destination' user' : String) :
    marks (Html.chars (beforeItems destination user)) = marks (Html.chars (beforeItems destination' user')) := by
  simp only [beforeItems, opening, Html.chars_append, marks_append, marks_cons_markup, marks_cons_text]

theorem ShownPlan.marks_fragment {p q : ShownPlan}
    (h : (p.plan.stops.length, p.controls.flags) = (q.plan.stops.length, q.controls.flags)) :
    marks p.fragment.html.toList = marks q.fragment.html.toList := by
  obtain ⟨hstops, hflags⟩ := Prod.mk.inj h
  have hitem := marks_planItem hstops hflags p.index q.index p.detailLink q.detailLink
  simpa only [fragment, Fragment.ofPlan, Html.marks_render] using hitem

/-- **The marks of the results page**: those of its front, of the items, and of its end. -/
theorem Session.Fits.marks_document {s : Session} (h : s.Fits) :
    marks s.document.toList =
      marks (Html.chars (Page.beforeItems s.title s.user)) ++
        s.snapshot.plans.flatMap (fun p => marks p.fragment.html.toList) ++
        marks (Html.chars (Page.afterItems (!s.moreVisible))) := by
  rw [document, resultsPage_toList, marks_append, marks_append, List.flatMap_map, Html.marks_flatMap,
    h.shownFragments_eq, List.flatMap_map]

/-! ## The profile page -/

/-- The marks of a card depend on the number of places, and on whether the card is hidden. -/
theorem marks_savedCard {p q : SavedPlan} (h : p.stops.length = q.stops.length) (user user' : String)
    (i shown : Nat) :
    marks (Html.chars (savedCard p user i shown)) = marks (Html.chars (savedCard q user' i shown)) := by
  have hline (s t : SavedStop) : marks (Html.chars s.line) = marks (Html.chars t.line) := by
    simp only [SavedStop.line, marks_cons_markup, marks_cons_text]
  simp only [savedCard, flag, Html.chars_append, marks_append, marks_cons_markup, marks_cons_text,
    Html.marks_flatMap_of_length_eq h hline]

/-- The marks of the cards of a profile depend on its outline only. -/
theorem Profile.marks_cards {p q : Profile} (hstops : p.plans.map (·.stops.length) = q.plans.map (·.stops.length))
    (hshown : p.shown = q.shown) :
    marks (p.cards.flatMap String.toList) = marks (q.cards.flatMap String.toList) := by
  have hnumbered : p.plans.zipIdx.map (Prod.map (·.stops.length) id) =
      q.plans.zipIdx.map (Prod.map (·.stops.length) id) := by
    rw [← List.zipIdx_map, ← List.zipIdx_map, hstops]
  have hcard (a : SavedPlan × Nat) (b : SavedPlan × Nat)
      (h : Prod.map (·.stops.length) id a = Prod.map (·.stops.length) id b) :
      marks (Html.render (savedCard a.1 p.user a.2 p.shown)).toList =
        marks (Html.render (savedCard b.1 q.user b.2 q.shown)).toList := by
    obtain ⟨hlength, hindex⟩ := Prod.mk.inj h
    change a.2 = b.2 at hindex
    rw [Html.marks_render, Html.marks_render, hindex, hshown]
    exact marks_savedCard hlength p.user q.user b.2 q.shown
  rw [cards, cards, List.mapIdx_eq_zipIdx_map, List.mapIdx_eq_zipIdx_map, List.flatMap_map, List.flatMap_map,
    Html.marks_flatMap, Html.marks_flatMap]
  exact flatMap_eq_of_map_eq hnumbered hcard

theorem Page.marks_mostSearchedCard {place place' : Option String} (h : place.isSome = place'.isSome) :
    marks (Html.chars ((place.map mostSearchedCard).getD [])) =
      marks (Html.chars ((place'.map mostSearchedCard).getD [])) := by
  cases place <;> cases place'
  · rfl
  · cases h
  · cases h
  · simp only [Option.map_some, Option.getD_some, mostSearchedCard, marks_cons_markup, marks_cons_text]

/-- **The marks of the profile page** depend on the outline of the profile only. -/
theorem Profile.marks_document {p q : Profile} (h : p.outline = q.outline) :
    marks p.document.toList = marks q.document.toList := by
  simp only [outline, Prod.mk.injEq] at h
  obtain ⟨hstops, hshown, hplace⟩ := h
  have hcount : p.cards.length = q.cards.length := by
    have hlength := congrArg List.length hstops
    simpa only [cards, List.length_mapIdx, List.length_map] using hlength
  simp only [document, profilePage, Html.marks_render, Page.profile, Page.opening, flag, Html.chars_append,
    marks_append, marks_cons_markup, marks_cons_text, Html.chars_map_markup, marks_cards hstops hshown,
    Page.marks_mostSearchedCard hplace, hshown, hcount]

/-! ## Both pages -/

/-- **Two pages of one outline have the same marks.**  Take any two sessions that show equally many plans, with equally
many stops in each and with controls that are enabled, shown and disabled alike, and that both have or both lack the
control that loads more.  Then the angle brackets and the quotation marks of their results pages are the same, in the
same order, whatever the location, the user, the plans, their links and the texts of their controls are.  So it is for
the profile pages of two profiles with equally many plans, equally many places in each, of which equally many are shown,
if a place was searched for most often in both or in neither. -/
theorem same_marks_of_same_outline :
    (∀ s s' : Session, s.Reachable → s'.Reachable → s.outline = s'.outline →
      marks s.document.toList = marks s'.document.toList) ∧
    (∀ p p' : Profile, p.outline = p'.outline → marks p.document.toList = marks p'.document.toList) := by
  refine ⟨fun s s' hs hs' h => ?_, fun p p' => Profile.marks_document⟩
  obtain ⟨hplans, hmore⟩ := Prod.mk.inj h
  rw [hs.fits.marks_document, hs'.fits.marks_document, hmore,
    Page.marks_beforeItems s.title s.user s'.title s'.user,
    flatMap_eq_of_map_eq hplans fun p q => ShownPlan.marks_fragment]

/-- A plan with an id that tries to end its attribute, and one with an id that does not; and two such users. -/
theorem same_marks_of_hostile_texts :
    let hostile := "\"><script>alert('x')</script>"
    let s := (Session.start default hostile 1 1).after (.ready (some ⟨[Plan.named hostile], [hostile], hostile⟩))
    let s' := (Session.start default "guest" 1 1).after (.ready (some ⟨[Plan.named "a"], [], "Paris"⟩))
    let p := Profile.start hostile [] (some hostile)
    let p' := Profile.start "guest" [] (some "Paris")
    s.Reachable ∧ s'.Reachable ∧ s.outline = s'.outline ∧ marks s.document.toList = marks s'.document.toList ∧
      p.outline = p'.outline ∧ marks p.document.toList = marks p'.document.toList := by
  intro hostile s s' p p'
  have hs : s.Reachable := (Session.Reachable.start default hostile 1 1).after _
  have hs' : s'.Reachable := (Session.Reachable.start default "guest" 1 1).after _
  have houtline : s.outline = s'.outline := rfl
  have hprofile : p.outline = p'.outline := rfl
  exact ⟨hs, hs', houtline, same_marks_of_same_outline.1 s s' hs hs' houtline, hprofile,
    same_marks_of_same_outline.2 p p' hprofile⟩

end PlanBrowser
