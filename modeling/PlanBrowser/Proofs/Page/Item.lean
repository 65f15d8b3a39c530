import PlanBrowser.Page.PlanItem
import PlanBrowser.Proofs.Html.Reading

/-!
# What the item of a plan tells

The item of a plan is one text, put together from markup, from the index of the plan, and from texts that a planner
sends.  Whatever these texts are, the item tells all of them apart, and how many stops there are, and what the controls
look like.  The only thing that runs together is the time of a stop, in which the start and the end are one text.

The parts of an item are read from the front, each with whatever follows it.

* `Stop.Line`, `Stop.line` — what the row of a stop shows;
* `PlanItem.heading_inj`, `PlanItem.row_inj`, `PlanItem.button_inj`, … — what each part tells, and that it says where it
  ends;
* `PlanItem.rows_inj` — **the rows tell the stops**, by induction on both lists;
* `Fragment.html_eq_iff` — **when two items are the same**.
-/

namespace PlanBrowser

open Html (Piece flag chars chars_cons_inj chars_text_inj chars_number_inj chars_flag_inj not_prefix_chars_flag
  not_prefix_chars_markup chars_text_joined endsText_literal isMark_quote isMark_open)

/-- What the row of a stop shows. -/
structure Stop.Line where
  icon : String
  link : String
  name : String
  address : String
  /-- The time of the visit, from start to end. -/
  time : String
  deriving DecidableEq

/-- **What the row of a stop shows** of it; the start and the end of the visit are one text. -/
def Stop.line (s : Stop) : Stop.Line :=
  ⟨s.icon, s.link, s.name, s.address, s.start.shown ++ " - " ++ s.finish.shown⟩

namespace PlanItem

variable {ps qs : List Piece}

/-- A heading tells the index and the id. -/
theorem heading_inj {p q : Plan} {i j : Nat} :
    chars (heading p i ++ ps) = chars (heading q j ++ qs) ↔ i = j ∧ p.id = q.id ∧ chars ps = chars qs := by
  simp only [heading, List.cons_append, List.nil_append, chars_cons_inj, chars_text_inj, chars_number_inj,
    endsText_literal, isMark_quote, isMark_open]
  constructor
  · rintro ⟨hindex, hid, -, -, -, -, -, -, hrest⟩
    exact ⟨hindex, hid, hrest⟩
  · rintro ⟨rfl, hid, hrest⟩
    exact ⟨rfl, hid, rfl, rfl, rfl, rfl, rfl, rfl, hrest⟩

/-! ## The table -/

/-- A row tells what it shows. -/
theorem row_inj {s t : Stop} :
    chars (row s ++ ps) = chars (row t ++ qs) ↔ s.line = t.line ∧ chars ps = chars qs := by
  have hdash : Html.escapeChars " - ".toList = " - ".toList := rfl
  simp only [row, List.cons_append, List.nil_append, chars_cons_inj, chars_text_joined _ _ hdash, chars_text_inj,
    endsText_literal, isMark_quote, isMark_open, Stop.line, Stop.Line.mk.injEq]
  constructor
  · rintro ⟨hicon, htime, hlink, hname, haddress, hrest⟩
    exact ⟨⟨hicon, hlink, hname, haddress, htime⟩, hrest⟩
  · rintro ⟨⟨hicon, hlink, hname, haddress, htime⟩, hrest⟩
    exact ⟨hicon, htime, hlink, hname, haddress, hrest⟩

/-- The end of the rows. -/
def rowsEnd : Piece :=
  .markup "        </tbody>\n      </table>\n"

/-- The end of the rows does not look like a row. -/
theorem row_ne_rowsEnd (s : Stop) : chars (row s ++ ps) ≠ chars (rowsEnd :: qs) := by
  intro h
  have hprefix : "        </tbody>\n      </table>\n".toList <+: chars (rowsEnd :: qs) := List.prefix_append _ _
  rw [← h] at hprefix
  exact absurd hprefix (not_prefix_chars_markup (by decide))

/-- **The rows tell the stops**, each of them and how many there are. -/
theorem rows_inj {ss ts : List Stop} :
    chars (ss.flatMap row ++ rowsEnd :: ps) = chars (ts.flatMap row ++ rowsEnd :: qs) ↔
      ss.map Stop.line = ts.map Stop.line ∧ chars ps = chars qs := by
  induction ss generalizing ts with
  | nil =>
    cases ts with
    | nil =>
      rw [List.flatMap_nil, List.nil_append, List.nil_append, chars_cons_inj, and_iff_right rfl]
    | cons t ts =>
      rw [List.flatMap_cons, List.append_assoc]
      exact ⟨fun h => absurd h.symm (row_ne_rowsEnd t), nofun⟩
  | cons s ss ih =>
    cases ts with
    | nil =>
      rw [List.flatMap_cons, List.append_assoc]
      exact ⟨fun h => absurd h (row_ne_rowsEnd s), nofun⟩
    | cons t ts =>
      rw [List.flatMap_cons, List.flatMap_cons, List.append_assoc, List.append_assoc, row_inj, ih, List.map_cons,
        List.map_cons, List.cons.injEq, and_assoc]

theorem table_inj {ss ts : List Stop} :
    chars (table ss ++ ps) = chars (table ts ++ qs) ↔ ss.map Stop.line = ts.map Stop.line ∧ chars ps = chars qs := by
  simp only [table, List.append_assoc, List.cons_append, List.nil_append, chars_cons_inj]
  exact rows_inj

/-! ## The controls -/

/-- A control tells whether it is disabled, and whether it is there. -/
theorem button_inj (key : ElementId) (look : Look) {disabled visible disabled' visible' : Bool} :
    chars (button key look disabled visible ++ ps) = chars (button key look disabled' visible' ++ qs) ↔
      disabled = disabled' ∧ visible = visible' ∧ chars ps = chars qs := by
  -- behind the attributes stands the icon, which begins like neither of them
  have hstyle (rs : List Piece) : ¬ " style=\"display: none\"".toList <+: chars (.markup "><i class=\"" :: rs) :=
    not_prefix_chars_markup (by decide)
  have hdisabled (visible : Bool) (rs : List Piece) :
      ¬ " disabled".toList <+: chars (flag visible " style=\"display: none\"" :: .markup "><i class=\"" :: rs) :=
    not_prefix_chars_flag (not_prefix_chars_markup (by decide)) (not_prefix_chars_markup (by decide))
  simp only [button, List.cons_append, List.nil_append, chars_cons_inj]
  rw [chars_flag_inj (hdisabled _ _) (hdisabled _ _), chars_flag_inj (hstyle _) (hstyle _)]
  simp only [chars_cons_inj, Bool.not_inj_iff]

/-- The row of controls tells the link to the details, and all of the control state but the summary. -/
theorem toolbar_inj {i : Nat} {d e : String} {c c' : Controls} :
    chars (toolbar i d c ++ ps) = chars (toolbar i e c' ++ qs) ↔
      d = e ∧ { c with summaryBody := "" } = { c' with summaryBody := "" } ∧ chars ps = chars qs := by
  have hdisabled (rs : List Piece) : ¬ " disabled".toList <+: chars (.markup ">" :: rs) :=
    not_prefix_chars_markup (by decide)
  simp only [toolbar, List.append_assoc, List.cons_append, List.nil_append, chars_cons_inj, button_inj, chars_text_inj,
    chars_flag_inj (hdisabled _) (hdisabled _), endsText_literal, isMark_quote, isMark_open,
    Controls.mk.injEq, true_and, and_true]
  constructor
  · rintro ⟨hlike, hdislike, hrefresh, htitle, hsave, hdetails, hsummary, hlabel, hrest⟩
    exact ⟨hdetails, ⟨hsave, htitle, hlike, hdislike, hrefresh, hsummary, hlabel⟩, hrest⟩
  · rintro ⟨hdetails, ⟨hsave, htitle, hlike, hdislike, hrefresh, hsummary, hlabel⟩, hrest⟩
    exact ⟨hlike, hdislike, hrefresh, htitle, hsave, hdetails, hsummary, hlabel, hrest⟩

/-- The dialog tells the summary. -/
theorem dialog_inj {i : Nat} {c c' : Controls} :
    chars (dialog i c ++ ps) = chars (dialog i c' ++ qs) ↔ c.summaryBody = c'.summaryBody ∧ chars ps = chars qs := by
  simp only [dialog, List.cons_append, List.nil_append, chars_cons_inj, chars_text_inj, endsText_literal, isMark_open]

end PlanItem

/-! ## Items -/

/-- The summary, and the rest of the control state. -/
theorem Controls.eq_of_summaryBody_eq {c c' : Controls}
    (hrest : { c with summaryBody := "" } = { c' with summaryBody := "" }) (h : c.summaryBody = c'.summaryBody) :
    c = c' := by
  calc c = { { c with summaryBody := "" } with summaryBody := c.summaryBody } := rfl
    _ = { { c' with summaryBody := "" } with summaryBody := c'.summaryBody } := by rw [hrest, h]
    _ = c' := rfl

/-- **When two items are the same**: they have the same index, id, link to the details and control state, and their
stops show the same things, one by one. -/
theorem Fragment.html_eq_iff (p q : Plan) (i j : Nat) (d e : String) (c c' : Controls) :
    (Fragment.ofPlan p i d c).html = (Fragment.ofPlan q j e c').html ↔
      i = j ∧ p.id = q.id ∧ d = e ∧ c = c' ∧ p.stops.map Stop.line = q.stops.map Stop.line := by
  have hparts (p : Plan) (i : Nat) (d : String) (c : Controls) :
      planItem p i d c = PlanItem.heading p i ++ (PlanItem.table p.stops ++ (PlanItem.toolbar i d c ++
        (PlanItem.dialog i c ++ []))) := by
    simp only [planItem, List.append_assoc, List.append_nil]
  show String.ofList (chars (planItem p i d c)) = String.ofList (chars (planItem q j e c')) ↔ _
  rw [String.ofList_inj, hparts, hparts, PlanItem.heading_inj, PlanItem.table_inj]
  constructor
  · rintro ⟨rfl, hid, hstops, h⟩
    obtain ⟨hdetails, hcontrols, h⟩ := PlanItem.toolbar_inj.mp h
    obtain ⟨hsummary, -⟩ := PlanItem.dialog_inj.mp h
    exact ⟨rfl, hid, hdetails, Controls.eq_of_summaryBody_eq hcontrols hsummary, hstops⟩
  · rintro ⟨rfl, hid, rfl, rfl, hstops⟩
    exact ⟨rfl, hid, hstops, rfl⟩

/-- Two visits with other starts and other ends, which are not told apart. -/
example :
    Stop.line { Stop.blank with start := ⟨"noon"⟩, finish := ⟨"two - three"⟩ } =
      Stop.line { Stop.blank with start := ⟨"noon - two"⟩, finish := ⟨"three"⟩ } := by
  decide

end PlanBrowser
