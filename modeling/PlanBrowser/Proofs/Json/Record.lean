import PlanBrowser.Proofs.Json.Skip

/-!
# What a reader makes of a record

A record is given as an object, whose members come in any order among others that nobody looks at, or as a list of its
members' values in their order.  Both ways come to the same: for each member there is a value or there is none, and what is
there is put into the record.  Members are put into different places, so their order does not matter.

* `Json.Written.Gives` — **what a value gives for each of some names**, if it is an object or a list of that kind;
* `Json.Rule`, `Json.Schema`, `Json.Follows` — what is known of a member, what is known of a record, and a reader of the
  member that does as the rule says;
* `Json.Applied`, `Json.Complete` — the values that are given are put in, and what must be given is;
* `Json.readInOrder_parts`, `Json.folds_memberStep` — a record that is given as a list, and as an object;
* `Json.reads_record` — **what a reader makes of a record**.
-/

namespace PlanBrowser.Json

/-! ## What a value gives -/

/-- The values of the members of one name. -/
def valuesOf (name : String) (ms : List (String × Written)) : List Written :=
  (ms.filter fun m => m.1 = name).map (·.2)

/-- The items come first, in their order, and after them there is nothing. -/
def InOrder : List Written → List (Option Written) → Prop
  | [], os => ∀ o ∈ os, o = none
  | v :: vs, some v' :: os => v' = v ∧ InOrder vs os
  | _ :: _, _ => False

/-- **What a value gives for each of some names.**  An object has at most one member of each name, and perhaps others.
A list has the values in the order of the names; the last ones may be missing. -/
def Written.Gives (names : List String) : Written → List (Option Written) → Prop
  | .object ms, os => List.Forall₂ (fun name o => valuesOf name ms = o.toList) names os
  | .list vs, os => os.length = names.length ∧ InOrder vs os
  | _, _ => False

theorem valuesOf_cons (name : String) (m : String × Written) (ms : List (String × Written)) :
    valuesOf name (m :: ms) = if m.1 = name then m.2 :: valuesOf name ms else valuesOf name ms := by
  by_cases h : m.1 = name <;> simp [valuesOf, h]

/-- No name is repeated, and each has its one value or none. -/
theorem forall₂_valuesOf {names : List String} {ms : List (String × Written)} {os : List (Option Written)} :
    List.Forall₂ (fun name o => valuesOf name ms = o.toList) names os ↔
      (∀ name ∈ names, (valuesOf name ms).length ≤ 1) ∧ os = names.map fun name => (valuesOf name ms).head? := by
  have hone (l : List Written) (o : Option Written) : l = o.toList ↔ l.length ≤ 1 ∧ o = l.head? := by
    cases o with
    | none => cases l <;> simp
    | some v =>
      rcases l with _ | ⟨v', _ | ⟨v'', l⟩⟩ <;> simp [eq_comm]
  induction names generalizing os with
  | nil => simp
  | cons name names ih =>
    rw [List.forall₂_cons_left_iff, List.forall_mem_cons, List.map_cons]
    simp only [ih]
    simp only [hone]
    constructor
    · rintro ⟨o, os', ⟨hlength, rfl⟩, ⟨hrest, rfl⟩, rfl⟩
      exact ⟨⟨hlength, hrest⟩, rfl⟩
    · rintro ⟨⟨hlength, hrest⟩, rfl⟩
      exact ⟨_, _, ⟨hlength, rfl⟩, ⟨hrest, rfl⟩, rfl⟩

/-! ## Rules -/

/-- **What is known of a member** of a record of type `σ`. -/
structure Rule (σ : Type) where
  name : String
  /-- The record is refused without this member. -/
  required : Bool
  /-- What the member's value makes of the record. -/
  tells : Written → (σ → σ) → Prop

section Rules

variable {σ α : Type}

/-- A member whose value tells something that is put into the record. -/
def rule (name : String) (required : Bool) (R : Written → α → Prop) (put : α → σ → σ) : Rule σ :=
  ⟨name, required, fun v f => ∃ a, R v a ∧ f = put a⟩

/-- The reader of a member does as the rule says. -/
structure Follows (depth : Nat) (f : Field σ) (r : Rule σ) : Prop where
  name_eq : f.name = r.name
  required_eq : f.required = r.required
  reads : Reads (f.read depth) r.tells

theorem follows_field {depth : Nat} {r : Nat → Reader α} {R : Written → α → Prop} (h : Reads (r depth) R)
    (name : String) (required : Bool) (put : α → σ → σ) :
    Follows depth (field name required r put) (rule name required R put) :=
  ⟨rfl, rfl, h.map put⟩

/-- A member whose value is read in the same way at every depth. -/
theorem follows_flat {depth : Nat} {r : Reader α} {R : Written → α → Prop} (h : Reads r R) (name : String)
    (required : Bool) (put : α → σ → σ) :
    Follows depth (field name required (fun _ => r) put) (rule name required R put) :=
  ⟨rfl, rfl, h.map put⟩

/-- It does not matter which of two members is put in first. -/
def Rule.Commutes (r r' : Rule σ) : Prop :=
  ∀ v put, r.tells v put → ∀ v' put', r'.tells v' put' → ∀ st, put' (put st) = put (put' st)

theorem commutes_rule {β : Type} {name name' : String} {required required' : Bool} {R : Written → α → Prop}
    {R' : Written → β → Prop} {put : α → σ → σ} {put' : β → σ → σ}
    (h : ∀ a b st, put' b (put a st) = put a (put' b st)) :
    (rule name required R put).Commutes (rule name' required' R' put') := by
  rintro v _ ⟨a, -, rfl⟩ v' _ ⟨b, -, rfl⟩ st
  exact h a b st

/-- **What is known of a record**: rules for members of different names, which are put into different places. -/
structure Schema (σ : Type) where
  rules : List (Rule σ)
  nodup_names : (rules.map Rule.name).Nodup := by simp [rule]
  commute : rules.Pairwise Rule.Commutes := by
    simp only [List.pairwise_cons, List.forall_mem_cons, List.not_mem_nil, false_imp_iff, implies_true,
      List.Pairwise.nil, and_true]
    try and_intros
    all_goals exact commutes_rule fun _ _ _ => rfl

/-- **The values that are given are put in**, in the order of the rules. -/
def Applied : List (Rule σ) → List (Option Written) → σ → σ → Prop
  | [], [], st, st' => st' = st
  | _ :: rs, none :: os, st, st' => Applied rs os st st'
  | r :: rs, some v :: os, st, st' => ∃ put, r.tells v put ∧ Applied rs os (put st) st'
  | _, _, _, _ => False

/-- **What must be given is given.** -/
def Complete (rules : List (Rule σ)) (os : List (Option Written)) : Prop :=
  List.Forall₂ (fun r o => r.required = true → o.isSome = true) rules os

/-- **What a value tells of a record** that starts as `empty`. -/
def TellsRecord (rules : List (Rule σ)) (empty : σ) (v : Written) (s : σ) : Prop :=
  ∃ os, v.Gives (rules.map Rule.name) os ∧ Complete rules os ∧ Applied rules os empty s

/-- **What is told of a member that may be missing**: it is then as it was. -/
def Told (R : Written → α → Prop) (d : α) : Option Written → α → Prop
  | none, a => a = d
  | some v, a => R v a

/-- A value that is given is put in, and else its place is left as it was. -/
theorem applied_rule {name : String} {required : Bool} {R : Written → α → Prop} {put : α → σ → σ} {d : α}
    {rules : List (Rule σ)} {o : Option Written} {os : List (Option Written)} {st st' : σ} (hd : put d st = st) :
    Applied (rule name required R put :: rules) (o :: os) st st' ↔
      ∃ a, Told R d o a ∧ Applied rules os (put a st) st' := by
  cases o with
  | none =>
    constructor
    · intro h
      exact ⟨d, rfl, hd.symm ▸ h⟩
    · rintro ⟨a, rfl, h⟩
      exact hd ▸ h
  | some v =>
    constructor
    · rintro ⟨put', ⟨a, ha, rfl⟩, h⟩
      exact ⟨a, ha, h⟩
    · rintro ⟨a, ha, h⟩
      exact ⟨put a, ⟨a, ha, rfl⟩, h⟩

/-- The reader that knows a member of a name is the one of the rule for that name. -/
theorem find?_follows {depth : Nat} {fields : List (Field σ)} {rules : List (Rule σ)}
    (h : List.Forall₂ (Follows depth) fields rules) (name : String) :
    (fields.find? (fun f => f.name = name) = none ∧ rules.find? (fun r => r.name = name) = none) ∨
      ∃ f r, fields.find? (fun f => f.name = name) = some f ∧ rules.find? (fun r => r.name = name) = some r ∧
        Follows depth f r := by
  induction h with
  | nil => exact .inl ⟨rfl, rfl⟩
  | @cons f r fields rules hf _ ih =>
    by_cases hname : r.name = name
    · refine .inr ⟨f, r, ?_, ?_, hf⟩
      · simp [hf.name_eq, hname]
      · simp [hname]
    · simpa [hf.name_eq, hname] using ih

/-! ## A record that is given as a list -/

theorem readInOrder_gaps {gap : List Char} (hgap : Gaps gap) (depth : Nat) (fields : List (Field σ)) (first : Bool)
    (st : σ) (src : Source) :
    readInOrder depth fields first st (gap.map some ++ src) = readInOrder depth fields first st src := by
  induction fields with
  | nil => rw [readInOrder, readInOrder, closeList, closeList, skipBlanks_gaps hgap]
  | cons f fields ih => rw [readInOrder, readInOrder, nextItem, nextItem, skipBlanks_gaps hgap, ih]

/-- A list does not end where there is one more item. -/
theorem closeList_listed {p : Part} (hp : Spells p.word p.value) (first : Bool) (src rest : Source) :
    closeList ((comma first ++ (p.before ++ p.word)).map some ++ src) ≠ .ok rest := by
  obtain ⟨c, cs, hcs, hc, -, hclose⟩ := hp.beginsItem
  cases first with
  | true =>
    have hsource : (comma true ++ (p.before ++ p.word)).map some ++ src =
        p.before.map some ++ some c :: (cs.map some ++ src) := by simp [comma, hcs]
    rw [hsource, closeList, skipBlanks_gaps_cons p.gaps_before hc]
    simp [hclose]
  | false =>
    have hsource : (comma false ++ (p.before ++ p.word)).map some ++ src =
        some ',' :: ((p.before ++ p.word).map some ++ src) := by simp [comma]
    rw [hsource, closeList, skipBlanks_cons (by decide)]
    simp

/-- **A record that is given as a list.** -/
theorem readInOrder_parts {depth : Nat} {fields : List (Field σ)} {rules : List (Rule σ)}
    (h : List.Forall₂ (Follows depth) fields rules) {parts : List Part}
    (hspells : ∀ p ∈ parts, Spells p.word p.value) {gap : List Char} (hgap : Gaps gap) (rest : Source) (first : Bool)
    (st st' : σ) (src : Source) :
    readInOrder depth fields first st
        ((listed [] first (parts.map Part.text)).map some ++ (gap.map some ++ some ']' :: rest)) = .ok (st', src) ↔
      src = rest ∧ ∃ os, (os.length = rules.length ∧ InOrder (parts.map Part.value) os) ∧ Complete rules os ∧
        Applied rules os st st' := by
  induction h generalizing parts first st with
  | nil =>
    rw [readInOrder]
    cases parts with
    | nil =>
      rw [List.map_nil, listed, List.map_nil, List.nil_append, closeList_close hgap]
      simp only [bind, Except.bind, pure, Except.pure, Except.ok.injEq, Prod.mk.injEq, List.length_nil,
        List.length_eq_zero_iff]
      constructor
      · rintro ⟨rfl, rfl⟩
        exact ⟨rfl, [], ⟨rfl, List.forall_mem_nil _⟩, .nil, rfl⟩
      · rintro ⟨rfl, os, ⟨rfl, -⟩, -, happlied⟩
        exact ⟨happlied.symm, rfl⟩
    | cons p parts =>
      rw [List.forall_mem_cons] at hspells
      rw [listed_parts_cons, bind_eq_ok]
      constructor
      · rintro ⟨src', hclosed, -⟩
        exact absurd hclosed (closeList_listed hspells.1 first _ _)
      · rintro ⟨-, os, ⟨hlength, horder⟩, -, -⟩
        rw [List.length_nil, List.length_eq_zero_iff] at hlength
        subst hlength
        exact absurd horder id
  | @cons f r fields rules hf _ ih =>
    rw [readInOrder]
    cases parts with
    | nil =>
      have hnone : ∀ p ∈ ([] : List Part), Spells p.word p.value := List.forall_mem_nil _
      have hrest := ih hnone first st
      rw [List.map_nil, listed, List.map_nil, List.nil_append] at hrest ⊢
      rw [nextItem_close hgap]
      simp only [bind, Except.bind, hf.required_eq]
      cases hrequired : r.required with
      | true =>
        rw [if_pos rfl]
        refine iff_of_false (fun h => by cases h) ?_
        rintro ⟨-, os, ⟨-, horder⟩, hcomplete, -⟩
        obtain ⟨o, os', ho, -, rfl⟩ := List.forall₂_cons_left_iff.mp hcomplete
        rw [horder o List.mem_cons_self] at ho
        exact absurd (ho hrequired) (by decide)
      | false =>
        rw [if_neg (by decide), hrest]
        refine and_congr_right fun _ => ?_
        constructor
        · rintro ⟨os, ⟨hlength, horder⟩, hcomplete, happlied⟩
          refine ⟨none :: os, ⟨by simp [hlength], ?_⟩, .cons (by simp [hrequired]) hcomplete, happlied⟩
          exact List.forall_mem_cons.mpr ⟨rfl, horder⟩
        · rintro ⟨os, ⟨hlength, horder⟩, hcomplete, happlied⟩
          obtain ⟨o, os', -, hcomplete', rfl⟩ := List.forall₂_cons_left_iff.mp hcomplete
          obtain rfl := horder o List.mem_cons_self
          refine ⟨os', ⟨by simpa using hlength, ?_⟩, hcomplete', happlied⟩
          exact fun o ho => horder o (List.mem_cons_of_mem _ ho)
    | cons p parts =>
      rw [List.forall_mem_cons] at hspells
      have hrest := ih hspells.2 false
      have hends := endsNumber_listed [] hgap ']' (by decide) (parts.map Part.text) rest
      have hread := hf.reads _ _ hspells.1 [] gaps_nil _ (hends.gaps p.gaps_after)
      rw [listed_parts_cons, nextItem_listed p.gaps_before hspells.1.beginsItem]
      show (f.read depth _ >>= fun x => readInOrder depth fields false (x.1 st) x.2) = _ ↔ _
      rw [bind_eq_ok]
      constructor
      · rintro ⟨⟨put, src'⟩, hput, hread'⟩
        obtain ⟨rfl, hput'⟩ := (hread put src').mp hput
        rw [readInOrder_gaps p.gaps_after] at hread'
        obtain ⟨rfl, os, ⟨hlength, horder⟩, hcomplete, happlied⟩ := (hrest _).mp hread'
        exact ⟨rfl, some p.value :: os, ⟨by simp [hlength], rfl, horder⟩, .cons (fun _ => rfl) hcomplete, put, hput',
          happlied⟩
      · rintro ⟨rfl, os, ⟨hlength, horder⟩, hcomplete, happlied⟩
        obtain ⟨o, os', -, hcomplete', rfl⟩ := List.forall₂_cons_left_iff.mp hcomplete
        cases o with
        | none => exact absurd horder id
        | some v =>
          obtain ⟨rfl, horder⟩ := horder
          obtain ⟨put, hput, happlied⟩ := happlied
          refine ⟨(put, _), (hread put _).mpr ⟨rfl, hput⟩, ?_⟩
          rw [readInOrder_gaps p.gaps_after]
          exact (hrest _).mpr ⟨rfl, os', ⟨by simpa using hlength, horder⟩, hcomplete', happlied⟩

/-! ## A record that is given as an object -/

/-- A member of an object is put into the record if its name is known and new. -/
def MemberStep (rules : List (Rule σ)) (st : σ × List String) (m : String × Written) (st' : σ × List String) : Prop :=
  match rules.find? fun r => r.name = m.1 with
  | none => st' = st
  | some r => m.1 ∉ st.2 ∧ ∃ put, r.tells m.2 put ∧ st' = (put st.1, m.1 :: st.2)

/-- A member is read as far as its name is known, and else passed over. -/
theorem readMember_tail {depth : Nat} {fields : List (Field σ)} {rules : List (Rule σ)}
    (h : List.Forall₂ (Follows depth) fields rules) {e : Entry} (he : Spells e.word e.value) {rest : Source}
    (hrest : EndsNumber rest) (st st' : σ × List String) (src : Source) :
    readMember fields depth st e.name (e.tail.map some ++ rest) = .ok (st', src) ↔
      src = rest ∧ MemberStep rules st e.member st' := by
  rw [readMember, MemberStep]
  rcases find?_follows h e.name with ⟨hfield, hrule⟩ | ⟨f, r, hfield, hrule, hf⟩
  · rw [hfield, show rules.find? (fun r => r.name = e.member.1) = none from hrule]
    simp only [colon_tail, bind, Except.bind, skipValue_spelled he e.gaps_before hrest, pure, Except.pure,
      Except.ok.injEq, Prod.mk.injEq]
    exact ⟨fun h => ⟨h.2.symm, h.1.symm⟩, fun h => ⟨h.2.symm, h.1.symm⟩⟩
  · rw [hfield, show rules.find? (fun r => r.name = e.member.1) = some r from hrule]
    by_cases hseen : e.name ∈ st.2
    · simp only [if_pos hseen]
      exact iff_of_false (fun h => by cases h) fun hok => hok.2.1 hseen
    · simp only [if_neg hseen, colon_tail]
      have hread := hf.reads _ _ he e.before e.gaps_before rest hrest
      show (f.read depth _ >>= fun x => Except.ok ((x.1 st.1, e.name :: st.2), x.2)) = _ ↔ _
      rw [bind_eq_ok]
      constructor
      · rintro ⟨⟨put, src'⟩, hput, heq⟩
        obtain ⟨rfl, hput'⟩ := (hread put src').mp hput
        cases heq
        exact ⟨rfl, hseen, put, hput', rfl⟩
      · rintro ⟨rfl, -, put, hput, rfl⟩
        exact ⟨(put, src), (hread put src).mpr ⟨rfl, hput⟩, rfl⟩

theorem applied_none {rules : List (Rule σ)} {st st' : σ} :
    Applied rules (rules.map fun _ => none) st st' ↔ st' = st := by
  induction rules with
  | nil => rfl
  | cons r rules ih => exact ih

/-- **One more value is put in first**: it could as well be put in later, when the turn of its member comes. -/
theorem applied_given {rules : List (Rule σ)} (hnames : (rules.map Rule.name).Nodup)
    (hcommute : rules.Pairwise Rule.Commutes) (given given' : String → Option Written) {r : Rule σ} (hr : r ∈ rules)
    {v : Written} (hnone : given r.name = none) (hsome : given' r.name = some v)
    (hother : ∀ name, name ≠ r.name → given' name = given name) (st st' : σ) :
    Applied rules (rules.map fun r => given' r.name) st st' ↔
      ∃ put, r.tells v put ∧ Applied rules (rules.map fun r => given r.name) (put st) st' := by
  induction rules generalizing st with
  | nil => cases hr
  | cons q rules ih =>
    rw [List.map_cons, List.nodup_cons] at hnames
    rw [List.pairwise_cons] at hcommute
    rw [List.map_cons, List.map_cons]
    rcases List.mem_cons.mp hr with rfl | hr
    · have hsame : rules.map (fun q => given' q.name) = rules.map fun q => given q.name := by
        refine List.map_congr_left fun q hq => hother q.name fun hname => hnames.1 ?_
        exact hname ▸ List.mem_map_of_mem hq
      rw [hsome, hnone, hsame]
      rfl
    · have hname : q.name ≠ r.name := fun hname => hnames.1 (hname ▸ List.mem_map_of_mem hr)
      have ih := ih hnames.2 hcommute.2 hr
      rw [hother q.name hname]
      cases given q.name with
      | none => exact ih st
      | some u =>
        show (∃ put, q.tells u put ∧ Applied rules _ (put st) st') ↔
          ∃ put, r.tells v put ∧ ∃ put', q.tells u put' ∧ Applied rules _ (put' (put st)) st'
        constructor
        · rintro ⟨put', hput', happlied⟩
          obtain ⟨put, hput, happlied⟩ := (ih _).mp happlied
          exact ⟨put, hput, put', hput', hcommute.1 r hr u put' hput' v put hput st ▸ happlied⟩
        · rintro ⟨put, hput, put', hput', happlied⟩
          refine ⟨put', hput', (ih _).mpr ⟨put, hput, ?_⟩⟩
          exact (hcommute.1 r hr u put' hput' v put hput st).symm ▸ happlied

/-- There may still be a value of this name, and not more than one. -/
def Fresh (name : String) (seen : List String) (ms : List (String × Written)) : Prop :=
  (valuesOf name ms).length ≤ 1 ∧ (name ∈ seen → valuesOf name ms = [])

/-- There is a value of this name, or there has been one. -/
def Found (name : String) (seen : List String) (ms : List (String × Written)) : Prop :=
  name ∈ seen ∨ valuesOf name ms ≠ []

theorem valuesOf_cons_of_ne {name : String} {m : String × Written} (h : m.1 ≠ name) (ms : List (String × Written)) :
    valuesOf name (m :: ms) = valuesOf name ms := by
  rw [valuesOf_cons, if_neg h]

theorem fresh_cons (name : String) (seen : List String) (m : String × Written) (ms : List (String × Written)) :
    Fresh name seen (m :: ms) ↔ (name = m.1 → m.1 ∉ seen) ∧ Fresh name (m.1 :: seen) ms := by
  by_cases h : m.1 = name
  · subst h
    simp [Fresh, valuesOf_cons]
    grind
  · simp [Fresh, valuesOf_cons_of_ne h, Ne.symm h]

theorem found_cons (name : String) (seen : List String) (m : String × Written) (ms : List (String × Written)) :
    Found name seen (m :: ms) ↔ Found name (m.1 :: seen) ms := by
  by_cases h : m.1 = name
  · subst h
    simp [Found, valuesOf_cons]
  · simp [Found, valuesOf_cons_of_ne h, Ne.symm h]

/-- **A record that is given as an object**: its members are put in one after the other, which comes to what they give in
the order of the rules. -/
theorem folds_memberStep {rules : List (Rule σ)} (hnames : (rules.map Rule.name).Nodup)
    (hcommute : rules.Pairwise Rule.Commutes) (ms : List (String × Written)) (st st' : σ) (seen : List String) :
    (∃ seen', Folds (MemberStep rules) (st, seen) ms (st', seen') ∧
        ∀ r ∈ rules, r.required = true → r.name ∈ seen') ↔
      (∀ r ∈ rules, Fresh r.name seen ms) ∧ (∀ r ∈ rules, r.required = true → Found r.name seen ms) ∧
        Applied rules (rules.map fun r => (valuesOf r.name ms).head?) st st' := by
  induction ms generalizing st seen with
  | nil =>
    have hnil (name : String) : valuesOf name [] = [] := rfl
    simp only [Folds, Fresh, Found, hnil, List.head?_nil, applied_none, Prod.mk.injEq]
    constructor
    · rintro ⟨seen', ⟨rfl, rfl⟩, hrequired⟩
      exact ⟨fun r _ => ⟨by simp, fun _ => trivial⟩, fun r hr h => .inl (hrequired r hr h), rfl⟩
    · rintro ⟨-, hrequired, rfl⟩
      refine ⟨seen, ⟨rfl, rfl⟩, fun r hr h => ?_⟩
      simpa using hrequired r hr h
  | cons m ms ih =>
    cases hfind : rules.find? fun r => r.name = m.1 with
    | none =>
      -- nobody looks at the member
      have hvalues (r : Rule σ) (hr : r ∈ rules) : valuesOf r.name (m :: ms) = valuesOf r.name ms := by
        refine valuesOf_cons_of_ne (fun hname => ?_) ms
        have hnone := List.find?_eq_none.mp hfind r hr
        simp [hname] at hnone
      have hheads : (rules.map fun r => (valuesOf r.name (m :: ms)).head?) =
          rules.map fun r => (valuesOf r.name ms).head? :=
        List.map_congr_left fun r hr => by rw [hvalues r hr]
      have hstep (st'' : σ × List String) : MemberStep rules (st, seen) m st'' ↔ st'' = (st, seen) := by
        rw [MemberStep, hfind]
      simp only [Folds, hstep, exists_eq_left, ih, hheads]
      refine and_congr ?_ (and_congr ?_ Iff.rfl)
      · exact forall₂_congr fun r hr => by rw [Fresh, Fresh, hvalues r hr]
      · exact forall₂_congr fun r hr => by rw [Found, Found, hvalues r hr]
    | some r =>
      have hr : r ∈ rules := List.mem_of_find?_eq_some hfind
      have hname : r.name = m.1 := by simpa using List.find?_some hfind
      have hstep (st'' : σ × List String) : MemberStep rules (st, seen) m st'' ↔
          m.1 ∉ seen ∧ ∃ put, r.tells m.2 put ∧ st'' = (put st, m.1 :: seen) := by
        rw [MemberStep, hfind]
      have hput (hnone : valuesOf m.1 ms = []) := applied_given hnames hcommute
        (fun name => (valuesOf name ms).head?) (fun name => (valuesOf name (m :: ms)).head?) hr (v := m.2)
        (by simp [hname, hnone]) (by simp [hname, valuesOf_cons])
        (fun name hne => by simp [valuesOf_cons_of_ne (hname ▸ Ne.symm hne)]) st st'
      have hfound : (∀ q ∈ rules, q.required = true → Found q.name seen (m :: ms)) ↔
          ∀ q ∈ rules, q.required = true → Found q.name (m.1 :: seen) ms :=
        forall₂_congr fun q _ => imp_congr_right fun _ => found_cons q.name seen m ms
      rw [hfound]
      constructor
      · rintro ⟨seen', ⟨mid, hmid, hfolds⟩, hrequired⟩
        obtain ⟨hnew, put, htells, rfl⟩ := (hstep mid).mp hmid
        obtain ⟨hfresh, hgiven, happlied⟩ := (ih (put st) (m.1 :: seen)).mp ⟨seen', hfolds, hrequired⟩
        have hnone : valuesOf m.1 ms = [] := hname ▸ (hfresh r hr).2 (hname ▸ List.mem_cons_self)
        refine ⟨fun q hq => ?_, hgiven, (hput hnone).mpr ⟨put, htells, happlied⟩⟩
        exact (fresh_cons q.name seen m ms).mpr ⟨fun _ => hnew, hfresh q hq⟩
      · rintro ⟨hfresh, hgiven, happlied⟩
        have hrest (q : Rule σ) (hq : q ∈ rules) := (fresh_cons q.name seen m ms).mp (hfresh q hq)
        have hnew : m.1 ∉ seen := (hrest r hr).1 hname
        have hnone : valuesOf m.1 ms = [] := hname ▸ (hrest r hr).2.2 (hname ▸ List.mem_cons_self)
        obtain ⟨put, htells, happlied⟩ := (hput hnone).mp happlied
        obtain ⟨seen', hfolds, hrequired⟩ := (ih (put st) (m.1 :: seen)).mpr
          ⟨fun q hq => (hrest q hq).2, hgiven, happlied⟩
        exact ⟨seen', ⟨_, (hstep _).mpr ⟨hnew, put, htells, rfl⟩, hfolds⟩, hrequired⟩

/-! ## Records -/

/-- What an object gives, said of its rules. -/
theorem tellsRecord_object {rules : List (Rule σ)} {empty s : σ} {ms : List (String × Written)} :
    TellsRecord rules empty (.object ms) s ↔
      (∀ r ∈ rules, Fresh r.name [] ms) ∧ (∀ r ∈ rules, r.required = true → Found r.name [] ms) ∧
        Applied rules (rules.map fun r => (valuesOf r.name ms).head?) empty s := by
  have hcomplete : Complete rules (rules.map fun r => (valuesOf r.name ms).head?) ↔
      ∀ r ∈ rules, r.required = true → Found r.name [] ms := by
    rw [Complete, List.forall₂_map_right_iff, List.forall₂_same]
    refine forall₂_congr fun r _ => imp_congr_right fun _ => ?_
    cases hvalues : valuesOf r.name ms <;> simp [Found, hvalues]
  have hfresh : (∀ name ∈ rules.map Rule.name, (valuesOf name ms).length ≤ 1) ↔ ∀ r ∈ rules, Fresh r.name [] ms := by
    simp [Fresh]
  rw [TellsRecord, ← hcomplete, ← hfresh]
  simp only [Written.Gives, forall₂_valuesOf, List.map_map]
  constructor
  · rintro ⟨os, ⟨hlength, rfl⟩, hrest⟩
    exact ⟨hlength, hrest⟩
  · rintro ⟨hlength, hrest⟩
    exact ⟨_, ⟨hlength, rfl⟩, hrest⟩

theorem tellsRecord_list {rules : List (Rule σ)} {empty s : σ} {vs : List Written} :
    TellsRecord rules empty (.list vs) s ↔
      ∃ os, (os.length = rules.length ∧ InOrder vs os) ∧ Complete rules os ∧ Applied rules os empty s := by
  simp only [TellsRecord, Written.Gives, List.length_map]

/-- All fields that must be there have been seen. -/
theorem any_required {depth : Nat} {fields : List (Field σ)} {rules : List (Rule σ)}
    (h : List.Forall₂ (Follows depth) fields rules) (seen : List String) :
    (fields.any fun f => f.required && !seen.contains f.name) = false ↔
      ∀ r ∈ rules, r.required = true → r.name ∈ seen := by
  induction h with
  | nil => simp
  | cons hf _ ih =>
    rw [List.any_cons, Bool.or_eq_false_iff, List.forall_mem_cons, ih, hf.name_eq, hf.required_eq]
    simp

/-- **What a reader makes of a record**, if it reads each member as the schema says. -/
theorem reads_record {depth : Nat} {fields : List (Field σ)} {S : Schema σ}
    (h : List.Forall₂ (Follows depth) fields S.rules) (empty : σ) :
    Reads (readRecord fields empty (depth + 1)) (TellsRecord S.rules empty) := by
  have hrefuses : Refuses (readRecord fields empty (depth + 1)) fun c => c ≠ '[' ∧ c ≠ '{' := by
    intro gap hgap c hc hne src x
    rw [readRecord, skipBlanks_gaps_cons hgap hc]
    simp [hne.1, hne.2]
  intro w v hw
  by_cases hlist : ∃ vs, v = .list vs
  · obtain ⟨vs, rfl⟩ := hlist
    cases hw with
    | @list parts inner hinner hparts =>
      intro gap hgap rest hrest s src
      have hread := readInOrder_parts h hparts hinner rest true empty s src
      rw [tellsRecord_list, source_closed, readRecord, skipBlanks_gaps_cons hgap (by decide)]
      exact hread
  by_cases hobject : ∃ ms, v = .object ms
  · obtain ⟨ms, rfl⟩ := hobject
    cases hw with
    | @object entries inner hinner hentries =>
      intro gap hgap rest hrest s src
      have hread (st : σ × List String) (src : Source) := members_object
        (fun e he st rest hrest => readMember_tail h (hentries e he) hrest st) hinner rest (empty, []) st src rfl
      rw [tellsRecord_object, ← folds_memberStep S.nodup_names S.commute, source_closed, readRecord,
        skipBlanks_gaps_cons hgap (by decide)]
      show (members (readMember fields depth) _ true (empty, []) _ >>= _) = _ ↔ _
      rw [bind_eq_ok]
      constructor
      · rintro ⟨⟨⟨st, seen⟩, src'⟩, hmembers, hend⟩
        obtain ⟨rfl, hfolds⟩ := (hread _ src').mp hmembers
        cases hany : fields.any fun f => f.required && !seen.contains f.name with
        | true =>
          simp only [hany] at hend
          cases hend
        | false =>
          simp only [hany] at hend
          cases hend
          exact ⟨rfl, seen, hfolds, (any_required h seen).mp hany⟩
      · rintro ⟨rfl, seen, hfolds, hrequired⟩
        refine ⟨((s, seen), src), (hread _ src).mpr ⟨rfl, hfolds⟩, ?_⟩
        simp only [(any_required h seen).mpr hrequired]
        rfl
  · refine hrefuses.readsAs hw (fun c hc => ⟨?_, ?_⟩) ?_
    · rintro rfl
      exact hlist (Written.of_beginsWith_bracket hc)
    · rintro rfl
      exact hobject (Written.of_beginsWith_brace hc)
    · rintro s ⟨os, hgives, -⟩
      cases v with
      | list vs => exact hlist ⟨vs, rfl⟩
      | object ms => exact hobject ⟨ms, rfl⟩
      | _ => exact hgives

end Rules

end PlanBrowser.Json
