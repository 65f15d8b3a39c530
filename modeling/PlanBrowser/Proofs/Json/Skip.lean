import PlanBrowser.Proofs.Json.Follow

/-!
# Values that nobody looks at

A member of a record that has none of the known names is passed over, whatever its value is.  The value is not taken apart:
it is walked through with the brackets that are open, so it may nest to any depth, and its numerals may stand for numbers
beyond every double.  The walk takes at most two steps for each character, which is less than it may take.

* `Json.Skips`, `Json.SkipsPart` — a value is passed over, in so many steps, and an item or a member;
* `Json.skipNested_listed` — everything between two brackets is passed over;
* `Json.skipValue_spelled` — **every value is passed over**.
-/

namespace PlanBrowser.Json

/-- The character that closes a bracket. -/
def Bracket.close : Bracket → Char
  | .list => ']'
  | .object => '}'

/-- **The value is passed over**, up to where no number goes on, in less than two steps for each character. -/
def Skips (w : List Char) : Prop :=
  ∃ k, k + 1 ≤ 2 * w.length ∧ ∀ gap, Gaps gap → ∀ rest, EndsNumber rest → ∀ fuel stack,
    skipNested (fuel + k) .value stack (gap.map some ++ (w.map some ++ rest)) =
      skipNested fuel (.after false) stack rest

/-- **An item or a member is passed over**, from its comma on. -/
def SkipsPart (b : Bracket) (w : List Char) : Prop :=
  ∃ k, k ≤ 2 * w.length ∧ ∀ rest, EndsNumber rest → ∀ first fuel stack,
    skipNested (fuel + k) (.after first) (b :: stack) ((comma first).map some ++ (w.map some ++ rest)) =
      skipNested fuel (.after false) (b :: stack) rest

/-! ## One step -/

/-- The way to the value of an item or a member: a member has a name. -/
def Bracket.enter (b : Bracket) (src : Source) : Except Fault Source :=
  match b with
  | .list => .ok src
  | .object => skipKey src

/-- **What a step at a value does**: a scalar is passed over, and a bracket is opened. -/
theorem skipNested_value (fuel : Nat) (stack : List Bracket) (src : Source) :
    skipNested (fuel + 1) .value stack src =
      skipHead (skipBlanks src) >>= fun x =>
        match x with
        | (some b, src) => skipNested fuel (.after true) (b :: stack) src
        | (none, src) => skipNested fuel (.after false) stack src :=
  rfl

/-- **What a step after a value does**: the innermost bracket is closed, or the next value is sought in it. -/
theorem skipNested_after (fuel : Nat) (fresh : Bool) (b : Bracket) (stack : List Bracket) (src : Source) :
    skipNested (fuel + 1) (.after fresh) (b :: stack) src =
      match skipBlanks src, b with
      | [], _ => .error .ended
      | some ']' :: rest, .list => skipNested fuel (.after false) stack rest
      | some '}' :: rest, .object => skipNested fuel (.after false) stack rest
      | some ',' :: rest, _ =>
        if fresh then .error .grammar else b.enter rest >>= skipNested fuel .value (b :: stack)
      | src, _ =>
        if fresh then b.enter src >>= skipNested fuel .value (b :: stack) else .error .grammar := by
  cases b <;> rfl

/-- Blanks in front of a comma or of a closing bracket are skipped. -/
theorem skipNested_gaps {gap : List Char} (hgap : Gaps gap) (fuel : Nat) (fresh : Bool) (b : Bracket)
    (stack : List Bracket) (src : Source) :
    skipNested fuel (.after fresh) (b :: stack) (gap.map some ++ src) =
      skipNested fuel (.after fresh) (b :: stack) src := by
  cases fuel with
  | zero => rfl
  | succ fuel =>
    rw [skipNested_after, skipNested_after, skipBlanks_gaps hgap]

theorem skipNested_close {b : Bracket} {src rest : Source} (h : skipBlanks src = some b.close :: rest) (fuel : Nat)
    (fresh : Bool) (stack : List Bracket) :
    skipNested (fuel + 1) (.after fresh) (b :: stack) src = skipNested fuel (.after false) stack rest := by
  rw [skipNested_after, h]
  cases b <;> rfl

theorem skipNested_comma {b : Bracket} {src rest : Source} (h : skipBlanks src = some ',' :: rest) (fuel : Nat)
    (stack : List Bracket) :
    skipNested (fuel + 1) (.after false) (b :: stack) src =
      b.enter rest >>= skipNested fuel .value (b :: stack) := by
  rw [skipNested_after, h]
  cases b <;> rfl

theorem skipNested_first {b : Bracket} {c : Char} {src rest : Source} (h : skipBlanks src = some c :: rest)
    (hcomma : c ≠ ',') (hclose : c ≠ b.close) (fuel : Nat) (stack : List Bracket) :
    skipNested (fuel + 1) (.after true) (b :: stack) src =
      b.enter (some c :: rest) >>= skipNested fuel .value (b :: stack) := by
  rw [skipNested_after, h]
  cases b <;> simp [Bracket.close] at hclose <;> simp [hcomma, hclose, Bracket.enter, bind, Except.bind]

/-- A scalar is passed over in one step. -/
theorem skips_of_skipHead {w : List Char} (hlength : 0 < w.length) (hbegins : BeginsItem w)
    (h : ∀ rest, EndsNumber rest → skipHead (w.map some ++ rest) = .ok (none, rest)) : Skips w := by
  refine ⟨1, by omega, ?_⟩
  intro gap hgap rest hrest fuel stack
  obtain ⟨c, cs, rfl, hc, -⟩ := hbegins
  have hhead := h rest hrest
  rw [List.map_cons, List.cons_append] at hhead ⊢
  rw [skipNested_value, skipBlanks_gaps_cons hgap hc, hhead]
  rfl

/-- A bracket is opened in one step. -/
theorem skipNested_open {gap : List Char} (hgap : Gaps gap) {c : Char} {b : Bracket} {src : Source}
    (hc : isGap c = false) (hhead : skipHead (some c :: src) = .ok (some b, src)) (fuel : Nat)
    (stack : List Bracket) :
    skipNested (fuel + 1) .value stack (gap.map some ++ some c :: src) =
      skipNested fuel (.after true) (b :: stack) src := by
  rw [skipNested_value, skipBlanks_gaps_cons hgap hc, hhead]
  rfl

theorem skipHead_numeral (x : Numeral) {rest : Source} (hrest : EndsNumber rest) :
    skipHead (x.text.map some ++ rest) = .ok (none, rest) := by
  have hskip := skipNumber_numeral x hrest
  cases hnegative : x.negative with
  | true =>
    rw [Numeral.text, hnegative, if_pos rfl, List.map_cons, List.cons_append, skipHead, hskip]
    rfl
  | false =>
    obtain ⟨c, cs, hc, hunsigned, htext⟩ := Numeral.text_eq_cons hnegative
    rw [hunsigned, List.map_cons, List.cons_append] at hskip
    rw [htext, List.map_cons, List.cons_append]
    rw [skipHead]
    · rw [digit?, if_pos hc, hskip]
      rfl
    all_goals
      intro h
      exact ne_of_isDigit hc rfl (Option.some.inj h)

/-! ## Between brackets -/

/-- **Everything between two brackets is passed over**, and then the bracket is closed. -/
theorem skipNested_listed {b : Bracket} {ws : List (List Char)} (hws : ∀ w ∈ ws, SkipsPart b w) {gap : List Char}
    (hgap : Gaps gap) (first : Bool) :
    ∃ k, k ≤ 2 * (listed [] first ws).length + 1 ∧ ∀ rest fuel stack,
      skipNested (fuel + k) (.after first) (b :: stack)
          ((listed [] first ws).map some ++ (gap.map some ++ some b.close :: rest)) =
        skipNested fuel (.after false) stack rest := by
  induction ws generalizing first with
  | nil =>
    refine ⟨1, by simp [listed], ?_⟩
    intro rest fuel stack
    have hgap' : isGap b.close = false := by cases b <;> rfl
    rw [listed, List.map_nil, List.nil_append]
    exact skipNested_close (skipBlanks_gaps_cons hgap hgap' rest) fuel first stack
  | cons w ws ih =>
    rw [List.forall_mem_cons] at hws
    obtain ⟨k, hk, hw⟩ := hws.1
    obtain ⟨k', hk', hrest⟩ := ih hws.2 false
    refine ⟨k' + k, ?_, ?_⟩
    · simp only [listed, List.nil_append, List.length_append]
      omega
    · intro rest fuel stack
      have hclose : b.close.isDigit = false ∧ b.close ≠ '.' ∧ b.close ≠ 'e' ∧ b.close ≠ 'E' := by
        cases b <;> decide
      have hends := endsNumber_listed [] hgap b.close hclose ws rest
      have hsource : (listed [] first (w :: ws)).map some ++ (gap.map some ++ some b.close :: rest) =
          (comma first).map some ++ (w.map some ++
            ((listed [] false ws).map some ++ (gap.map some ++ some b.close :: rest))) := by
        simp [listed]
      rw [hsource, ← Nat.add_assoc, hw _ hends first (fuel + k') stack]
      exact hrest rest fuel stack

/-- A value between blanks is passed over, up to a comma or a closing bracket. -/
theorem Part.skipNested_value {p : Part} {k : Nat} (h : ∀ gap, Gaps gap → ∀ rest, EndsNumber rest → ∀ fuel stack,
      skipNested (fuel + k) .value stack (gap.map some ++ (p.word.map some ++ rest)) =
        skipNested fuel (.after false) stack rest)
    {gap : List Char} (hgap : Gaps gap) {rest : Source} (hrest : EndsNumber rest) (fuel : Nat) (b : Bracket)
    (stack : List Bracket) :
    skipNested (fuel + k) .value (b :: stack)
        (gap.map some ++ (p.word.map some ++ (p.after.map some ++ rest))) =
      skipNested fuel (.after false) (b :: stack) rest := by
  rw [h gap hgap _ (hrest.gaps p.gaps_after)]
  exact skipNested_gaps p.gaps_after fuel false b stack rest

/-- An item is passed over if its value is. -/
theorem Part.skipsPart {p : Part} (hp : Spells p.word p.value) (h : Skips p.word) : SkipsPart .list p.text := by
  obtain ⟨k, hk, hskip⟩ := h
  refine ⟨k + 1, ?_, ?_⟩
  · simp only [Part.text, List.length_append]
    omega
  · intro rest hrest first fuel stack
    have hsource : p.text.map some ++ rest =
        p.before.map some ++ (p.word.map some ++ (p.after.map some ++ rest)) := by simp [Part.text]
    rw [hsource, ← Nat.add_assoc]
    cases first with
    | false =>
      have hblanks := skipBlanks_cons (c := ',') rfl
        (p.before.map some ++ (p.word.map some ++ (p.after.map some ++ rest)))
      exact (skipNested_comma hblanks (fuel + k) stack).trans
        (p.skipNested_value hskip p.gaps_before hrest fuel .list stack)
    | true =>
      -- the blanks in front of the first item are skipped along with those of the bracket
      obtain ⟨c, cs, hcs, hc, hcomma, hclose⟩ := hp.beginsItem
      have hvalue := p.skipNested_value hskip gaps_nil hrest fuel .list stack
      have hblanks := skipBlanks_gaps_cons p.gaps_before hc (cs.map some ++ (p.after.map some ++ rest))
      rw [hcs] at hvalue ⊢
      exact (skipNested_first (b := .list) hblanks hcomma hclose (fuel + k) stack).trans hvalue

/-- The name of a member is passed over, and its colon. -/
theorem Entry.skipKey_name (e : Entry) {gap : List Char} (hgap : Gaps gap) (rest : Source) :
    skipKey (gap.map some ++ some '"' :: (e.marked.map some ++ some '"' :: (e.tail.map some ++ rest))) =
      .ok (e.before.map some ++ (e.word.map some ++ rest)) := by
  rw [skipKey, skipBlanks_gaps_cons hgap (by decide)]
  simp only [skipText_spelled e.spells_name, bind, Except.bind]
  exact colon_tail e rest

/-- A member is passed over if its value is. -/
theorem Entry.skipsPart {e : Entry} (h : Skips e.word) : SkipsPart .object e.text := by
  obtain ⟨k, hk, hskip⟩ := h
  refine ⟨k + 1, ?_, ?_⟩
  · simp only [Entry.text, Part.text, List.length_append, List.length_cons]
    omega
  · intro rest hrest first fuel stack
    have hsource : e.text.map some ++ rest = e.lead.map some ++ some '"' :: (e.marked.map some ++ some '"' ::
        (e.tail.map some ++ (e.after.map some ++ rest))) := by simp [Entry.text, Entry.tail, Part.text]
    have hvalue := e.skipNested_value hskip e.gaps_before hrest fuel .object stack
    rw [hsource, ← Nat.add_assoc]
    cases first with
    | false =>
      have hblanks := skipBlanks_cons (c := ',') rfl (e.lead.map some ++ some '"' ::
        (e.marked.map some ++ some '"' :: (e.tail.map some ++ (e.after.map some ++ rest))))
      refine (skipNested_comma hblanks (fuel + k) stack).trans ?_
      rw [Bracket.enter, e.skipKey_name e.gaps_lead]
      exact hvalue
    | true =>
      have hblanks := skipBlanks_gaps_cons e.gaps_lead (c := '"') rfl
        (e.marked.map some ++ some '"' :: (e.tail.map some ++ (e.after.map some ++ rest)))
      refine (skipNested_first hblanks (by decide) (by decide) (fuel + k) stack).trans ?_
      have hname := e.skipKey_name gaps_nil (e.after.map some ++ rest)
      rw [List.map_nil, List.nil_append] at hname
      rw [Bracket.enter, hname]
      exact hvalue

/-- A bracket is passed over if everything in it is. -/
theorem skips_of_skipsPart {b : Bracket} {opening : Char} (hopening : isGap opening = false)
    (hhead : ∀ src, skipHead (some opening :: src) = .ok (some b, src)) {ws : List (List Char)}
    (hws : ∀ w ∈ ws, SkipsPart b w) {inner : List Char} (hinner : Gaps inner) :
    Skips (opening :: (listed [] true ws ++ inner ++ [b.close])) := by
  obtain ⟨k, hk, hskip⟩ := skipNested_listed hws hinner true
  refine ⟨k + 1, ?_, ?_⟩
  · simp only [List.length_cons, List.length_append, List.length_nil]
    omega
  · intro gap hgap rest _ fuel stack
    rw [source_closed, ← Nat.add_assoc, skipNested_open hgap hopening (hhead _)]
    exact hskip rest fuel stack

/-! ## Every value -/

theorem skips_spelled {w : List Char} {v : Written} (hw : Spells w v) : Skips w := by
  induction hw with
  | null => exact skips_of_skipHead (by decide) Spells.null.beginsItem fun _ _ => rfl
  | true => exact skips_of_skipHead (by decide) Spells.true.beginsItem fun _ _ => rfl
  | false => exact skips_of_skipHead (by decide) Spells.false.beginsItem fun _ _ => rfl
  | number x =>
    have hbegins := (Spells.number x).beginsItem
    exact skips_of_skipHead (List.length_pos_iff.mpr hbegins.ne_nil) hbegins fun _ => skipHead_numeral x
  | @string cs s h =>
    refine skips_of_skipHead (by simp) (Spells.string h).beginsItem fun rest _ => ?_
    have hsource : ('"' :: (cs ++ ['"'])).map some ++ rest = some '"' :: (cs.map some ++ some '"' :: rest) := by simp
    rw [hsource, skipHead, skipText_spelled h]
    rfl
  | list hinner hparts ih =>
    exact skips_of_skipsPart (b := .list) rfl (fun _ => rfl)
      (List.forall_mem_map.mpr fun p hp => p.skipsPart (hparts p hp) (ih p hp)) hinner
  | object hinner hentries ih =>
    exact skips_of_skipsPart (b := .object) rfl (fun _ => rfl)
      (List.forall_mem_map.mpr fun e he => e.skipsPart (ih e he)) hinner

/-- **Every value is passed over**, however deep its brackets nest and whatever its numerals stand for. -/
theorem skipValue_spelled {w : List Char} {v : Written} (hw : Spells w v) {gap : List Char} (hgap : Gaps gap)
    {rest : Source} (hrest : EndsNumber rest) : skipValue (gap.map some ++ (w.map some ++ rest)) = .ok rest := by
  obtain ⟨k, hk, hskip⟩ := skips_spelled hw
  have hlength : k < 3 * (gap.map some ++ (w.map some ++ rest)).length + 3 := by
    simp only [List.length_append, List.length_map]
    omega
  obtain ⟨fuel, hfuel⟩ : ∃ n, 3 * (gap.map some ++ (w.map some ++ rest)).length + 3 = n + 1 + k :=
    ⟨3 * (gap.map some ++ (w.map some ++ rest)).length + 3 - k - 1, by omega⟩
  rw [skipValue, hfuel, hskip gap hgap rest hrest]
  rfl

end PlanBrowser.Json
