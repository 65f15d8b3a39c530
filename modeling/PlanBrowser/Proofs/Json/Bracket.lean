import PlanBrowser.Json.Source
import PlanBrowser.Proofs.Json.Numeral

/-!
# Reading what stands between brackets

Between two brackets stand the items of a list or the members of an object, with commas between them.  In front of each,
and in front of the closing bracket, there may be blanks.  Whatever the items are, and whoever reads them: the reader skips
the blanks, leaves the next item or member to whoever reads it, and goes on where that ends.

* `Json.Gaps`, `Json.BeginsItem` — blanks, and a text that a reader of items takes for one;
* `Json.listed`, `Json.bracketed` — written items or members, with commas between them and blanks in front;
* `Json.nextItem_listed`, `Json.items_next`, `Json.items_close` — **the reader of items goes on by one item**, or ends;
* `Json.members_next`, `Json.members_close` — the same of members.
-/

namespace PlanBrowser.Json

/-- Blanks. -/
def Gaps (cs : List Char) : Prop :=
  ∀ c ∈ cs, isGap c = true

/-- The comma in front of an item or a member, unless it is the first. -/
def comma (first : Bool) : List Char :=
  if first then [] else [',']

/-- Written items or members, each after its comma and the blanks `inner`. -/
def listed (inner : List Char) : Bool → List (List Char) → List Char
  | _, [] => []
  | first, w :: ws => comma first ++ (inner ++ w) ++ listed inner false ws

/-- **What stands between brackets**: written items or members, and the blanks `outer` in front of the closing bracket.
Between brackets with nothing in them there are no blanks. -/
def bracketed (inner outer : List Char) : List (List Char) → List Char
  | [] => []
  | w :: ws => listed inner true (w :: ws) ++ outer

/-- The text begins like an item: neither with a blank, nor with what may stand after an item. -/
def BeginsItem (w : List Char) : Prop :=
  ∃ c cs, w = c :: cs ∧ isGap c = false ∧ c ≠ ',' ∧ c ≠ ']'

theorem BeginsItem.ne_nil {w : List Char} (h : BeginsItem w) : w ≠ [] := by
  obtain ⟨c, cs, rfl, -⟩ := h
  exact List.cons_ne_nil c cs

/-! ## Blanks -/

theorem skipBlanks_gaps {cs : List Char} (h : Gaps cs) (rest : Source) :
    skipBlanks (cs.map some ++ rest) = skipBlanks rest := by
  induction cs with
  | nil => rfl
  | cons c cs ih =>
    have hc : isGap c = true := h c List.mem_cons_self
    rw [List.map_cons, List.cons_append, skipBlanks, if_pos hc]
    exact ih fun c' hc' => h c' (List.mem_cons_of_mem c hc')

theorem skipBlanks_cons {c : Char} (h : isGap c = false) (rest : Source) :
    skipBlanks (some c :: rest) = some c :: rest := by
  rw [skipBlanks, h]
  rfl

/-- Blanks are skipped up to a character that is no blank. -/
theorem skipBlanks_gaps_cons {cs : List Char} (h : Gaps cs) {c : Char} (hc : isGap c = false) (rest : Source) :
    skipBlanks (cs.map some ++ some c :: rest) = some c :: rest := by
  rw [skipBlanks_gaps h, skipBlanks_cons hc]

theorem gaps_nil : Gaps [] :=
  List.forall_mem_nil _

/-- No number goes on in blanks. -/
theorem EndsNumber.gaps {cs : List Char} (h : Gaps cs) {rest : Source} (hrest : EndsNumber rest) :
    EndsNumber (cs.map some ++ rest) := by
  cases cs with
  | nil => exact hrest
  | cons g cs =>
    have hg : isGap g = true := h g List.mem_cons_self
    simp only [isGap, Bool.or_eq_true, decide_eq_true_eq] at hg
    rcases hg with ((rfl | rfl) | rfl) | rfl <;> exact ⟨rfl, by decide, by decide, by decide⟩

theorem isGap_of_isDigit {c : Char} (hc : c.isDigit = true) : isGap c = false := by
  simp [isGap, ne_of_isDigit hc]

/-- After an item come the next one or the closing bracket, and no number goes on there. -/
theorem endsNumber_listed (inner : List Char) {outer : List Char} (houter : Gaps outer) (close : Char)
    (hclose : close.isDigit = false ∧ close ≠ '.' ∧ close ≠ 'e' ∧ close ≠ 'E') (ws : List (List Char))
    (rest : Source) :
    EndsNumber ((listed inner false ws).map some ++ (outer.map some ++ some close :: rest)) := by
  cases ws with
  | nil => exact EndsNumber.gaps houter hclose
  | cons w ws => exact ⟨rfl, by decide, by decide, by decide⟩

/-- There are no more items than characters. -/
theorem length_le_listed (inner : List Char) {ws : List (List Char)} (h : ∀ w ∈ ws, w ≠ []) (first : Bool) :
    ws.length ≤ (listed inner first ws).length := by
  induction ws generalizing first with
  | nil => exact Nat.zero_le _
  | cons w ws ih =>
    rw [List.forall_mem_cons] at h
    have hrest := ih h.2 false
    have hone : 0 < w.length := List.length_pos_iff.mpr h.1
    simp only [listed, List.length_append, List.length_cons]
    omega

/-! ## Items -/

section Items

variable {α : Type} {item : Reader α} {inner outer : List Char} {rest : Source}

/-- After its comma and its blanks comes an item. -/
theorem nextItem_listed (hinner : Gaps inner) {w : List Char} (hw : BeginsItem w) (first : Bool) :
    nextItem first ((comma first ++ (inner ++ w)).map some ++ rest) = .ok (some (w.map some ++ rest)) := by
  obtain ⟨c, cs, rfl, hgap, hcomma, hclose⟩ := hw
  have hskip : skipBlanks ((inner ++ c :: cs).map some ++ rest) = (c :: cs).map some ++ rest := by
    rw [List.map_append, List.append_assoc]
    exact skipBlanks_gaps_cons hinner hgap _
  cases first with
  | true =>
    show nextItem true ((inner ++ c :: cs).map some ++ rest) = _
    rw [nextItem, hskip]
    split <;> simp_all
  | false =>
    show nextItem false (some ',' :: ((inner ++ c :: cs).map some ++ rest)) = _
    rw [nextItem, skipBlanks_cons (by decide)]
    simp only [Bool.false_eq_true, if_false]
    rw [hskip]
    split <;> simp_all

theorem nextItem_close (houter : Gaps outer) (first : Bool) :
    nextItem first (outer.map some ++ some ']' :: rest) = .ok none := by
  rw [nextItem, skipBlanks_gaps_cons houter (by decide)]
  rfl

theorem closeList_close (houter : Gaps outer) : closeList (outer.map some ++ some ']' :: rest) = .ok rest := by
  rw [closeList, skipBlanks_gaps_cons houter (by decide)]
  rfl

/-- Blanks in front of a comma or of the closing bracket are skipped. -/
theorem items_gaps {cs : List Char} (h : Gaps cs) (fuel : Nat) (first : Bool) (acc : List α) (src : Source) :
    items item fuel first acc (cs.map some ++ src) = items item fuel first acc src := by
  cases fuel with
  | zero => rfl
  | succ fuel => rw [items, items, nextItem, nextItem, closeList, closeList, skipBlanks_gaps h]

/-- After its comma and its blanks an item is left to its reader. -/
theorem items_next (hinner : Gaps inner) {w : List Char} (hw : BeginsItem w) (fuel : Nat) (first : Bool)
    (acc : List α) :
    items item (fuel + 1) first acc ((comma first ++ (inner ++ w)).map some ++ rest) =
      item (w.map some ++ rest) >>= fun x => items item fuel false (x.1 :: acc) x.2 := by
  rw [items, nextItem_listed hinner hw]
  rfl

theorem items_close (houter : Gaps outer) (fuel : Nat) (first : Bool) (acc : List α) :
    items item (fuel + 1) first acc (outer.map some ++ some ']' :: rest) = .ok (acc.reverse, rest) := by
  rw [items, nextItem_close houter]
  show (closeList (outer.map some ++ some ']' :: rest) >>= fun src => .ok (acc.reverse, src)) = _
  rw [closeList_close houter]
  rfl

end Items

/-! ## Members -/

section Members

variable {σ : Type} {member : σ → String → Reader σ} {inner outer : List Char} {rest : Source}

/-- Blanks in front of a comma or of the closing brace are skipped. -/
theorem members_gaps {cs : List Char} (h : Gaps cs) (fuel : Nat) (first : Bool) (st : σ) (src : Source) :
    members member fuel first st (cs.map some ++ src) = members member fuel first st src := by
  cases fuel with
  | zero => rfl
  | succ fuel => rw [members, members, nextKey, nextKey, closeObject, closeObject, skipBlanks_gaps h]

/-- After its comma, its blanks and its name a member is left to its reader. -/
theorem members_next (hinner : Gaps inner) {key : String} {src : Source}
    (hkey : textTail [] src = .ok (key, rest)) (fuel : Nat) (first : Bool) (st : σ) :
    members member (fuel + 1) first st ((comma first).map some ++ (inner.map some ++ some '"' :: src)) =
      member st key rest >>= fun x => members member fuel false x.1 x.2 := by
  have hnext : nextKey first ((comma first).map some ++ (inner.map some ++ some '"' :: src)) = .ok (some src) := by
    cases first with
    | true =>
      show nextKey true (inner.map some ++ some '"' :: src) = _
      rw [nextKey, skipBlanks_gaps_cons hinner (by decide)]
      rfl
    | false =>
      show nextKey false (some ',' :: (inner.map some ++ some '"' :: src)) = _
      rw [nextKey, skipBlanks_cons (by decide)]
      simp only [Bool.false_eq_true, if_false]
      rw [skipBlanks_gaps_cons hinner (by decide)]
      rfl
  rw [members, hnext]
  show (textTail [] src >>= fun x => member st x.1 x.2 >>= fun y => members member fuel false y.1 y.2) = _
  rw [hkey]
  rfl

theorem members_close (houter : Gaps outer) (fuel : Nat) (first : Bool) (st : σ) :
    members member (fuel + 1) first st (outer.map some ++ some '}' :: rest) = .ok (st, rest) := by
  have hnext : nextKey first (outer.map some ++ some '}' :: rest) = .ok none := by
    rw [nextKey, skipBlanks_gaps_cons houter (by decide)]
    rfl
  have hclosed : closeObject (outer.map some ++ some '}' :: rest) = .ok rest := by
    rw [closeObject, skipBlanks_gaps_cons houter (by decide)]
    rfl
  rw [members, hnext]
  show (closeObject (outer.map some ++ some '}' :: rest) >>= fun src => .ok (st, src)) = _
  rw [hclosed]
  rfl

end Members

end PlanBrowser.Json
