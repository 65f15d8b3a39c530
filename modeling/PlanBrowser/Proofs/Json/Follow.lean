import Mathlib.Data.List.Forall2
import PlanBrowser.Json.Read
import PlanBrowser.Proofs.Json.Written
import PlanBrowser.Proofs.Result

/-!
# What readers make of a value

A reader is given a text, but what it makes of the text depends on the value alone, whichever text of the value it is
given.  So a reader is described by a relation between values and what it makes of them: it accepts the texts of the
values for which there is something, and it goes on right after the value.

The descriptions are put together as the readers are.  A reader of items or members is described by what the reader of
one of them does.

* `Json.ReadsAs`, `Json.Reads` — a reader makes of one text, or of all texts of all values, what a relation says;
* `Json.items_parts`, `Json.members_entries` — **what stands between brackets**;
* `Json.reads_text`, `Json.reads_flag`, `Json.reads_word` — scalars;
* `Json.reads_value`, `Json.reads_list`, `Json.reads_map` — any value, lists, and objects with arbitrary names.
-/

namespace PlanBrowser.Json

/-! ## The first character of a value -/

/-- A text of the value begins with this character. -/
def Written.BeginsWith (c : Char) : Written → Prop
  | .null => c = 'n'
  | .bool true => c = 't'
  | .bool false => c = 'f'
  | .number x => if x.negative then c = '-' else c.isDigit = true
  | .string _ => c = '"'
  | .list _ => c = '['
  | .object _ => c = '{'

theorem Spells.begins {w : List Char} {v : Written} (h : Spells w v) : ∃ c cs, w = c :: cs ∧ v.BeginsWith c := by
  cases h with
  | null => exact ⟨_, _, rfl, rfl⟩
  | true => exact ⟨_, _, rfl, rfl⟩
  | false => exact ⟨_, _, rfl, rfl⟩
  | number x =>
    simp only [Written.BeginsWith]
    cases hnegative : x.negative with
    | true =>
      rw [Numeral.text, hnegative]
      exact ⟨_, _, rfl, rfl⟩
    | false =>
      obtain ⟨c, cs, hc, -, htext⟩ := Numeral.text_eq_cons hnegative
      exact ⟨c, cs, htext, hc⟩
  | string h => exact ⟨_, _, rfl, rfl⟩
  | list hgap h => exact ⟨_, _, rfl, rfl⟩
  | object hgap h => exact ⟨_, _, rfl, rfl⟩

/-- A value begins with no blank, and with nothing that may stand after an item. -/
theorem Written.BeginsWith.isGap_eq_false {c : Char} {v : Written} (h : v.BeginsWith c) :
    isGap c = false ∧ c ≠ ',' ∧ c ≠ ']' := by
  cases v with
  | null => cases h; exact ⟨rfl, by decide, by decide⟩
  | bool b => cases b <;> cases h <;> exact ⟨rfl, by decide, by decide⟩
  | number x =>
    simp only [BeginsWith] at h
    split at h
    · cases h; exact ⟨rfl, by decide, by decide⟩
    · exact ⟨isGap_of_isDigit h, ne_of_isDigit h rfl, ne_of_isDigit h rfl⟩
  | string s => cases h; exact ⟨rfl, by decide, by decide⟩
  | list vs => cases h; exact ⟨rfl, by decide, by decide⟩
  | object ms => cases h; exact ⟨rfl, by decide, by decide⟩

theorem Spells.beginsItem {w : List Char} {v : Written} (h : Spells w v) : BeginsItem w := by
  obtain ⟨c, cs, rfl, hc⟩ := h.begins
  exact ⟨c, cs, rfl, hc.isGap_eq_false⟩

/-- A number begins with no character that is neither a digit nor a minus sign. -/
theorem Written.BeginsWith.ne_of_number {c d : Char} {x : Numeral} (h : (Written.number x).BeginsWith c)
    (hminus : '-' ≠ d) (hdigit : d.isDigit = false) : c ≠ d := by
  simp only [BeginsWith] at h
  split at h
  · exact h ▸ hminus
  · exact ne_of_isDigit h hdigit

/-! ## Descriptions of readers -/

section Readers

variable {α : Type}

/-- The value is this text. -/
def IsText (v : Written) (s : String) : Prop :=
  v = .string s

/-- The value is this truth value. -/
def IsFlag (v : Written) (b : Bool) : Prop :=
  v = .bool b

/-- The value is this natural number, written as a plain unsigned integer. -/
def IsWord (v : Written) (n : UInt64) : Prop :=
  v = .number (.plain n.toNat)

/-- **What a reader of any value makes of the value**, if its brackets nest no deeper than that. -/
def IsValue (depth : Nat) (v : Written) (j : Json) : Prop :=
  v.nesting ≤ depth ∧ v.value? = some j

/-- The value is a list, and each of its items is what the relation says, in order. -/
def IsList (R : Written → α → Prop) (v : Written) (as : List α) : Prop :=
  ∃ vs, v = .list vs ∧ List.Forall₂ R vs as

/-- The member has this name, and its value is what the relation says. -/
def IsEntry (R : Written → α → Prop) (m : String × Written) (e : String × α) : Prop :=
  e.1 = m.1 ∧ R m.2 e.2

/-- The value is an object, and what the relation says of each member is put into the map under the member's name. -/
def IsMap (R : Written → α → Prop) (v : Written) (m : OrderedMap α) : Prop :=
  ∃ ms es, v = .object ms ∧ List.Forall₂ (IsEntry R) ms es ∧ m = .ofEntries es

/-- **The reader makes of this text of a value what the relation says**, and goes on right after it. -/
def ReadsAs (r : Reader α) (R : Written → α → Prop) (w : List Char) (v : Written) : Prop :=
  ∀ gap, Gaps gap → ∀ rest, EndsNumber rest → ∀ a src,
    r (gap.map some ++ (w.map some ++ rest)) = .ok (a, src) ↔ src = rest ∧ R v a

/-- **The reader makes of every value what the relation says.** -/
def Reads (r : Reader α) (R : Written → α → Prop) : Prop :=
  ∀ w v, Spells w v → ReadsAs r R w v

/-- The same relation, said differently. -/
theorem Reads.congr {r : Reader α} {R R' : Written → α → Prop} (h : Reads r R) (hR : ∀ v a, R v a ↔ R' v a) :
    Reads r R' := by
  intro w v hw gap hgap rest hrest a src
  rw [h w v hw gap hgap rest hrest, hR]

/-- The reader makes something else of what another one has read. -/
theorem Reads.map {β : Type} {r : Reader α} {R : Written → α → Prop} (h : Reads r R) (f : α → β) :
    Reads (fun src => (r src).map fun x => (f x.1, x.2)) fun v b => ∃ a, R v a ∧ b = f a := by
  intro w v hw gap hgap rest hrest b src
  rw [map_eq_ok]
  constructor
  · rintro ⟨⟨a, src'⟩, hread, heq⟩
    obtain ⟨rfl, rfl⟩ := Prod.mk.inj heq
    obtain ⟨rfl, ha⟩ := (h w v hw gap hgap rest hrest a src').mp hread
    exact ⟨rfl, a, ha, rfl⟩
  · rintro ⟨rfl, a, ha, rfl⟩
    exact ⟨(a, src), (h w v hw gap hgap src hrest a src).mpr ⟨rfl, ha⟩, rfl⟩

/-- **Only what is read to its end is a whole text.** -/
theorem Reads.readAll {r : Nat → Reader α} {R : Written → α → Prop} (h : Reads (r maxDepth) R) {cs : List Char}
    {v : Written} (hcs : SpellsDocument cs v) (a : α) : readAll r (cs.map some) = .ok a ↔ R v a := by
  obtain ⟨before, word, after, rfl, hbefore, hafter, hword⟩ := hcs
  have hends : EndsNumber (after.map some) := by
    have hends := EndsNumber.gaps hafter (show EndsNumber [] from trivial)
    rwa [List.append_nil] at hends
  have hskip : skipBlanks (after.map some) = [] := by
    have hskip := skipBlanks_gaps hafter []
    rwa [List.append_nil] at hskip
  have hread (b : α) (src : Source) := h word v hword before hbefore (after.map some) hends b src
  rw [Json.readAll, List.map_append, List.map_append, bind_eq_ok]
  constructor
  · rintro ⟨⟨b, src⟩, hok, hrest⟩
    obtain ⟨rfl, hb⟩ := (hread b src).mp hok
    simp only [hskip] at hrest
    cases hrest
    exact hb
  · intro ha
    refine ⟨(a, after.map some), (hread a _).mpr ⟨rfl, ha⟩, ?_⟩
    simp only [hskip]
    rfl

/-- The reader refuses what begins with such a character. -/
def Refuses (r : Reader α) (p : Char → Prop) : Prop :=
  ∀ gap, Gaps gap → ∀ c, isGap c = false → p c → ∀ src x, r (gap.map some ++ some c :: src) ≠ .ok x

/-- What the reader refuses and the relation does not say anything about. -/
theorem Refuses.readsAs {r : Reader α} {p : Char → Prop} (h : Refuses r p) {R : Written → α → Prop} {w : List Char}
    {v : Written} (hw : Spells w v) (hp : ∀ c, v.BeginsWith c → p c) (hR : ∀ a, ¬ R v a) : ReadsAs r R w v := by
  obtain ⟨c, cs, rfl, hc⟩ := hw.begins
  intro gap hgap rest hrest a src
  exact iff_of_false (h gap hgap c hc.isGap_eq_false.1 (hp c hc) _ _) fun hok => hR a hok.2

end Readers

/-! ## Between brackets -/

section Brackets

variable {gap : List Char} {rest : Source}

theorem listed_parts_cons (first : Bool) (p : Part) (parts : List Part) (src : Source) :
    (listed [] first ((p :: parts).map Part.text)).map some ++ src =
      (comma first ++ (p.before ++ p.word)).map some ++
        (p.after.map some ++ ((listed [] false (parts.map Part.text)).map some ++ src)) := by
  simp [listed, Part.text]

/-- **Items are read, all of them or none.** -/
theorem items_parts {α : Type} {item : Reader α} {R : Written → α → Prop} {parts : List Part}
    (hspells : ∀ p ∈ parts, Spells p.word p.value) (hitem : ∀ p ∈ parts, ReadsAs item R p.word p.value)
    (hgap : Gaps gap) {fuel : Nat} (hfuel : parts.length < fuel) (first : Bool) (acc as : List α) (src : Source) :
    items item fuel first acc
        ((listed [] first (parts.map Part.text)).map some ++ (gap.map some ++ some ']' :: rest)) = .ok (as, src) ↔
      src = rest ∧ ∃ bs, List.Forall₂ R (parts.map Part.value) bs ∧ as = acc.reverse ++ bs := by
  induction parts generalizing fuel first acc with
  | nil =>
    obtain ⟨fuel, rfl⟩ : ∃ n, fuel = n + 1 := ⟨fuel - 1, by omega⟩
    rw [List.map_nil, listed, List.map_nil, List.nil_append, items_close hgap]
    simp [eq_comm, and_comm]
  | cons p parts ih =>
    rw [List.length_cons] at hfuel
    obtain ⟨fuel, rfl⟩ : ∃ n, fuel = n + 1 := ⟨fuel - 1, by omega⟩
    rw [List.forall_mem_cons] at hspells hitem
    have hends := endsNumber_listed [] hgap ']' (by decide) (parts.map Part.text) rest
    have hread := hitem.1 [] gaps_nil _ (hends.gaps p.gaps_after)
    rw [listed_parts_cons, items_next p.gaps_before hspells.1.beginsItem, bind_eq_ok]
    constructor
    · rintro ⟨⟨a, src'⟩, ha, hrest⟩
      obtain ⟨rfl, haR⟩ := (hread a src').mp ha
      rw [items_gaps p.gaps_after] at hrest
      obtain ⟨rfl, bs, hbs, rfl⟩ := (ih hspells.2 hitem.2 (by omega) false (a :: acc)).mp hrest
      exact ⟨rfl, a :: bs, .cons haR hbs, by simp⟩
    · rintro ⟨rfl, bs, hbs, rfl⟩
      obtain ⟨a, bs', haR, hbs', rfl⟩ := List.forall₂_cons_left_iff.mp hbs
      refine ⟨(a, _), (hread a _).mpr ⟨rfl, haR⟩, ?_⟩
      rw [items_gaps p.gaps_after]
      exact (ih hspells.2 hitem.2 (by omega) false (a :: acc)).mpr ⟨rfl, bs', hbs', by simp⟩

/-- The members of an object take a state to another one, one after the other. -/
def Folds {σ β : Type} (step : σ → β → σ → Prop) : σ → List β → σ → Prop
  | st, [], st' => st' = st
  | st, b :: bs, st' => ∃ mid, step st b mid ∧ Folds step mid bs st'

/-- What stands after the name of a member, up to the end of its value. -/
def Entry.tail (e : Entry) : List Char :=
  e.between ++ ':' :: (e.before ++ e.word)

theorem listed_entries_cons (first : Bool) (e : Entry) (entries : List Entry) (src : Source) :
    (listed [] first ((e :: entries).map Entry.text)).map some ++ src =
      (comma first).map some ++ (e.lead.map some ++ some '"' :: (e.marked.map some ++ some '"' ::
        (e.tail.map some ++ (e.after.map some ++ ((listed [] false (entries.map Entry.text)).map some ++ src))))) := by
  simp [listed, Entry.text, Entry.tail, Part.text]

/-- **Members are read, all of them or none.** -/
theorem members_entries {σ : Type} {member : σ → String → Reader σ} {step : σ → String × Written → σ → Prop}
    {entries : List Entry}
    (hmember : ∀ e ∈ entries, ∀ st rest, EndsNumber rest → ∀ st' src,
      member st e.name (e.tail.map some ++ rest) = .ok (st', src) ↔ src = rest ∧ step st e.member st')
    (hgap : Gaps gap) {fuel : Nat} (hfuel : entries.length < fuel) (first : Bool) (st st' : σ) (src : Source) :
    members member fuel first st
        ((listed [] first (entries.map Entry.text)).map some ++ (gap.map some ++ some '}' :: rest)) =
          .ok (st', src) ↔
      src = rest ∧ Folds step st (entries.map Entry.member) st' := by
  induction entries generalizing fuel first st with
  | nil =>
    obtain ⟨fuel, rfl⟩ : ∃ n, fuel = n + 1 := ⟨fuel - 1, by omega⟩
    rw [List.map_nil, listed, List.map_nil, List.nil_append, members_close hgap]
    simp [Folds, eq_comm, and_comm]
  | cons e entries ih =>
    rw [List.length_cons] at hfuel
    obtain ⟨fuel, rfl⟩ : ∃ n, fuel = n + 1 := ⟨fuel - 1, by omega⟩
    rw [List.forall_mem_cons] at hmember
    have hkey (src : Source) : textTail [] (e.marked.map some ++ some '"' :: src) = .ok (e.name, src) := by
      have hread := textTail_spelled e.spells_name [] src
      rwa [List.reverse_nil, List.nil_append, String.ofList_toList] at hread
    have hends := endsNumber_listed [] hgap '}' (by decide) (entries.map Entry.text) rest
    have hread := hmember.1 st _ (hends.gaps e.gaps_after)
    rw [listed_entries_cons, members_next e.gaps_lead (hkey _), bind_eq_ok]
    constructor
    · rintro ⟨⟨mid, src'⟩, hmid, hrest⟩
      obtain ⟨rfl, hstep⟩ := (hread mid src').mp hmid
      rw [members_gaps e.gaps_after] at hrest
      obtain ⟨rfl, hfolds⟩ := (ih hmember.2 (by omega) false mid).mp hrest
      exact ⟨rfl, mid, hstep, hfolds⟩
    · rintro ⟨rfl, mid, hstep, hfolds⟩
      refine ⟨(mid, _), (hread mid _).mpr ⟨rfl, hstep⟩, ?_⟩
      rw [members_gaps e.gaps_after]
      exact (ih hmember.2 (by omega) false mid).mpr ⟨rfl, hfolds⟩

/-- After the name of a member come blanks and a colon. -/
theorem colon_tail (e : Entry) (rest : Source) :
    colon (e.tail.map some ++ rest) = .ok (e.before.map some ++ (e.word.map some ++ rest)) := by
  have htail : e.tail.map some ++ rest =
      e.between.map some ++ some ':' :: (e.before.map some ++ (e.word.map some ++ rest)) := by
    simp [Entry.tail]
  rw [htail, colon, skipBlanks_gaps_cons e.gaps_between (by decide)]
  rfl

end Brackets

/-! ## Scalars -/

theorem Written.of_beginsWith_quote {v : Written} (h : v.BeginsWith '"') : ∃ s, v = .string s := by
  cases v with
  | string s => exact ⟨s, rfl⟩
  | bool b => cases b <;> simp [BeginsWith] at h
  | number x => exact absurd rfl (h.ne_of_number (by decide) rfl)
  | _ => simp [BeginsWith] at h

theorem Written.of_beginsWith_bracket {v : Written} (h : v.BeginsWith '[') : ∃ vs, v = .list vs := by
  cases v with
  | list vs => exact ⟨vs, rfl⟩
  | bool b => cases b <;> simp [BeginsWith] at h
  | number x => exact absurd rfl (h.ne_of_number (by decide) rfl)
  | _ => simp [BeginsWith] at h

theorem Written.of_beginsWith_brace {v : Written} (h : v.BeginsWith '{') : ∃ ms, v = .object ms := by
  cases v with
  | object ms => exact ⟨ms, rfl⟩
  | bool b => cases b <;> simp [BeginsWith] at h
  | number x => exact absurd rfl (h.ne_of_number (by decide) rfl)
  | _ => simp [BeginsWith] at h

/-- **A text.** -/
theorem reads_text : Reads readText IsText := by
  have hrefuses : Refuses readText (· ≠ '"') := by
    intro gap hgap c hc hne src x
    rw [readText, skipBlanks_gaps_cons hgap hc]
    simp [hne]
  intro w v hw
  by_cases hv : ∃ s, v = .string s
  · obtain ⟨s, rfl⟩ := hv
    cases hw with
    | @string cs _ h =>
      intro gap hgap rest hrest a src
      have hsource : gap.map some ++ (('"' :: (cs ++ ['"'])).map some ++ rest) =
          gap.map some ++ some '"' :: (cs.map some ++ some '"' :: rest) := by simp
      have hread := textTail_spelled h [] rest
      rw [List.reverse_nil, List.nil_append, String.ofList_toList, List.map_nil] at hread
      rw [hsource, readText, skipBlanks_gaps_cons hgap (by decide)]
      simp [hread, IsText, eq_comm, and_comm]
  · refine hrefuses.readsAs hw ?_ fun s hs => hv ⟨s, hs⟩
    rintro c hc rfl
    exact hv (Written.of_beginsWith_quote hc)

/-- **A truth value.** -/
theorem reads_flag : Reads readFlag IsFlag := by
  have hrefuses : Refuses readFlag fun c => c ≠ 't' ∧ c ≠ 'f' := by
    intro gap hgap c hc hne src x
    rw [readFlag, skipBlanks_gaps_cons hgap hc]
    simp [hne.1, hne.2]
  intro w v hw
  by_cases hv : ∃ b, v = .bool b
  · obtain ⟨b, rfl⟩ := hv
    cases hw with
    | _ =>
      intro gap hgap rest hrest a src
      rw [readFlag, List.map_cons, List.cons_append, skipBlanks_gaps_cons hgap (by decide)]
      simp [keyword, Except.map, IsFlag, eq_comm, and_comm]
  · refine hrefuses.readsAs hw ?_ fun b hb => hv ⟨b, hb⟩
    intro c hc
    constructor
    · rintro rfl
      cases v with
      | bool b => exact hv ⟨b, rfl⟩
      | number x => exact absurd rfl (hc.ne_of_number (by decide) rfl)
      | _ => simp [Written.BeginsWith] at hc
    · rintro rfl
      cases v with
      | bool b => exact hv ⟨b, rfl⟩
      | number x => exact absurd rfl (hc.ne_of_number (by decide) rfl)
      | _ => simp [Written.BeginsWith] at hc

/-- A numeral is met where a number may stand. -/
theorem numberHere?_numeral (x : Numeral) {rest : Source} (hrest : EndsNumber rest) :
    numberHere? (x.text.map some ++ rest) = some (x.number.map (·, rest)) := by
  have hread := readNumber_numeral x hrest
  cases hnegative : x.negative with
  | true =>
    rw [hnegative] at hread
    rw [Numeral.text, hnegative, if_pos rfl, List.map_cons, List.cons_append, numberHere?, hread]
  | false =>
    obtain ⟨c, cs, hc, hunsigned, htext⟩ := Numeral.text_eq_cons hnegative
    rw [hnegative, hunsigned, List.map_cons, List.cons_append] at hread
    rw [htext, List.map_cons, List.cons_append]
    have hminus : c ≠ '-' := ne_of_isDigit hc rfl
    rw [numberHere?]
    · rw [digit?, if_pos hc, hread]
      rfl
    · exact fun h => hminus (Option.some.inj h)

/-- No number is met where a value of another kind begins. -/
theorem numberHere?_eq_none {c : Char} (hminus : c ≠ '-') (hdigit : c.isDigit = false) (src : Source) :
    numberHere? (some c :: src) = none := by
  simp [numberHere?, hminus, digit?, hdigit]

theorem skipBlanks_numeral {gap : List Char} (hgap : Gaps gap) (x : Numeral) (rest : Source) :
    skipBlanks (gap.map some ++ (x.text.map some ++ rest)) = x.text.map some ++ rest := by
  obtain ⟨c, cs, hcs, hc⟩ := (Spells.number x).begins
  rw [hcs, List.map_cons, List.cons_append, skipBlanks_gaps_cons hgap hc.isGap_eq_false.1]

/-- **A natural number that a word holds.** -/
theorem reads_word : Reads readWord IsWord := by
  have hrefuses : Refuses readWord fun c => c ≠ '-' ∧ c.isDigit = false := by
    intro gap hgap c hc hne src x
    rw [readWord, skipBlanks_gaps_cons hgap hc, numberHere?_eq_none hne.1 hne.2]
    intro h
    cases h
  intro w v hw
  by_cases hv : ∃ x, v = .number x
  · obtain ⟨x, rfl⟩ := hv
    cases hw with
    | _ =>
      intro gap hgap rest hrest a src
      rw [readWord, skipBlanks_numeral hgap, numberHere?_numeral x hrest]
      simp only [IsWord, Written.number.injEq, ← x.number_eq_natural_iff a]
      cases x.number with
      | error f => simp [Except.map, bind, Except.bind]
      | ok n => cases n <;> simp [Except.map, bind, Except.bind, eq_comm, and_comm, pure, Except.pure, throw,
          throwThe, MonadExceptOf.throw]
  · refine hrefuses.readsAs hw ?_ fun n hn => hv ⟨_, hn⟩
    intro c hc
    cases v with
    | number x => exact absurd ⟨x, rfl⟩ hv
    | bool b => cases b <;> cases hc <;> exact ⟨by decide, rfl⟩
    | _ => cases hc; exact ⟨by decide, rfl⟩

/-! ## Lists, objects and any value -/

section Nested

variable {α : Type}

/-- There are fewer items than characters up to the closing bracket. -/
theorem length_lt_listed {ws : List (List Char)} (h : ∀ w ∈ ws, w ≠ []) (gap : List Char) (close : Char)
    (rest : Source) :
    ws.length < ((listed [] true ws).map some ++ (gap.map some ++ some close :: rest)).length + 1 := by
  have hle := length_le_listed [] h true
  simp only [List.length_append, List.length_map, List.length_cons]
  omega

theorem Part.text_ne_nil {p : Part} (h : Spells p.word p.value) : p.text ≠ [] := by
  intro hnil
  rw [Part.text, List.append_eq_nil_iff, List.append_eq_nil_iff] at hnil
  exact h.beginsItem.ne_nil hnil.2.1

theorem Entry.text_ne_nil (e : Entry) : e.text ≠ [] := by
  simp [Entry.text]

/-- **What stands between the brackets of a list is read to the closing bracket.** -/
theorem items_list {item : Reader α} {R : Written → α → Prop} {parts : List Part} {gap : List Char}
    (hspells : ∀ p ∈ parts, Spells p.word p.value) (hitem : ∀ p ∈ parts, ReadsAs item R p.word p.value)
    (hgap : Gaps gap) (rest : Source) (as : List α) (src : Source) {inner : Source}
    (hinner : inner = (listed [] true (parts.map Part.text)).map some ++ (gap.map some ++ some ']' :: rest)) :
    items item (inner.length + 1) true [] inner = .ok (as, src) ↔
      src = rest ∧ List.Forall₂ R (parts.map Part.value) as := by
  have hne : ∀ w ∈ parts.map Part.text, w ≠ [] :=
    List.forall_mem_map.mpr fun p hp => Part.text_ne_nil (hspells p hp)
  have hfuel := length_lt_listed hne gap ']' rest
  rw [List.length_map, ← hinner] at hfuel
  rw [hinner] at hfuel ⊢
  rw [items_parts hspells hitem hgap hfuel]
  simp

/-- **What stands between the braces of an object is read to the closing brace.** -/
theorem members_object {σ : Type} {member : σ → String → Reader σ} {step : σ → String × Written → σ → Prop}
    {entries : List Entry} {gap : List Char}
    (hmember : ∀ e ∈ entries, ∀ st rest, EndsNumber rest → ∀ st' src,
      member st e.name (e.tail.map some ++ rest) = .ok (st', src) ↔ src = rest ∧ step st e.member st')
    (hgap : Gaps gap) (rest : Source) (st st' : σ) (src : Source) {inner : Source}
    (hinner : inner = (listed [] true (entries.map Entry.text)).map some ++ (gap.map some ++ some '}' :: rest)) :
    members member (inner.length + 1) true st inner = .ok (st', src) ↔
      src = rest ∧ Folds step st (entries.map Entry.member) st' := by
  have hne : ∀ w ∈ entries.map Entry.text, w ≠ [] := List.forall_mem_map.mpr fun e _ => e.text_ne_nil
  have hfuel := length_lt_listed hne gap '}' rest
  rw [List.length_map, ← hinner] at hfuel
  rw [hinner] at hfuel ⊢
  exact members_entries hmember hgap hfuel true st st' src

theorem source_closed (opening close : Char) (ws : List (List Char)) (gap : List Char) (rest : Source) :
    (opening :: (listed [] true ws ++ gap ++ [close])).map some ++ rest =
      some opening :: ((listed [] true ws).map some ++ (gap.map some ++ some close :: rest)) := by
  simp

/-- **A list of values of one shape.** -/
theorem reads_list {item : Nat → Reader α} {depth : Nat} {R : Written → α → Prop} (h : Reads (item depth) R) :
    Reads (readList item (depth + 1)) (IsList R) := by
  have hrefuses : Refuses (readList item (depth + 1)) (· ≠ '[') := by
    intro gap hgap c hc hne src x
    rw [readList, skipBlanks_gaps_cons hgap hc]
    simp [hne]
  intro w v hw
  by_cases hv : ∃ vs, v = .list vs
  · obtain ⟨vs, rfl⟩ := hv
    cases hw with
    | @list parts inner hinner hparts =>
      intro gap hgap rest hrest as src
      have hitem (p : Part) (hp : p ∈ parts) : ReadsAs (item depth) R p.word p.value := h _ _ (hparts p hp)
      have hread := items_list hparts hitem hinner rest as src rfl
      rw [source_closed, readList, skipBlanks_gaps_cons hgap (by decide)]
      simpa [IsList] using hread
  · refine hrefuses.readsAs hw ?_ fun _ has => hv ⟨has.choose, has.choose_spec.1⟩
    rintro c hc rfl
    exact hv (Written.of_beginsWith_bracket hc)

/-- A member is put into a map under its name. -/
def PutsEntry (R : Written → α → Prop) (st : OrderedMap α) (m : String × Written) (st' : OrderedMap α) : Prop :=
  ∃ a, R m.2 a ∧ st' = st.insert m.1 a

/-- Members that are put into a map, one after the other. -/
theorem folds_putsEntry {R : Written → α → Prop} {st st' : OrderedMap α} {ms : List (String × Written)} :
    Folds (PutsEntry R) st ms st' ↔
      ∃ es, List.Forall₂ (IsEntry R) ms es ∧ st' = es.foldl (fun m e => m.insert e.1 e.2) st := by
  induction ms generalizing st with
  | nil => simp [Folds]
  | cons m ms ih =>
    rw [Folds]
    constructor
    · rintro ⟨mid, ⟨a, ha, rfl⟩, hrest⟩
      obtain ⟨es, hes, rfl⟩ := ih.mp hrest
      exact ⟨(m.1, a) :: es, .cons ⟨rfl, ha⟩ hes, rfl⟩
    · rintro ⟨es, hes, rfl⟩
      obtain ⟨e, es', ⟨hname, ha⟩, hes', rfl⟩ := List.forall₂_cons_left_iff.mp hes
      refine ⟨st.insert m.1 e.2, ⟨e.2, ha, rfl⟩, ih.mpr ⟨es', hes', ?_⟩⟩
      rw [List.foldl_cons, hname]

theorem readEntry_tail {item : Reader α} {R : Written → α → Prop} {e : Entry} (h : ReadsAs item R e.word e.value)
    {rest : Source} (hrest : EndsNumber rest) (m m' : OrderedMap α) (src : Source) :
    readEntry item m e.name (e.tail.map some ++ rest) = .ok (m', src) ↔
      src = rest ∧ PutsEntry R m e.member m' := by
  have hread := h e.before e.gaps_before rest hrest
  rw [readEntry, colon_tail]
  show (item _ >>= _) = _ ↔ _
  rw [bind_eq_ok]
  constructor
  · rintro ⟨⟨a, src'⟩, ha, hput⟩
    obtain ⟨rfl, haR⟩ := (hread a src').mp ha
    cases hput
    exact ⟨rfl, a, haR, rfl⟩
  · rintro ⟨rfl, a, haR, rfl⟩
    exact ⟨(a, src), (hread a src).mpr ⟨rfl, haR⟩, rfl⟩

/-- **What stands between the braces of an object is put into a map.** -/
theorem members_map {item : Reader α} {R : Written → α → Prop} {entries : List Entry} {gap : List Char}
    (hitem : ∀ e ∈ entries, ReadsAs item R e.word e.value) (hgap : Gaps gap) (rest : Source)
    (m : OrderedMap α) (src : Source) {inner : Source}
    (hinner : inner = (listed [] true (entries.map Entry.text)).map some ++ (gap.map some ++ some '}' :: rest)) :
    members (readEntry item) (inner.length + 1) true .empty inner = .ok (m, src) ↔
      src = rest ∧ ∃ es, List.Forall₂ (IsEntry R) (entries.map Entry.member) es ∧ m = .ofEntries es := by
  rw [members_object (fun e he st rest hrest => readEntry_tail (hitem e he) hrest st) hgap rest .empty m src hinner]
  exact and_congr_right fun _ => folds_putsEntry

/-- **An object from arbitrary names to values of one shape.** -/
theorem reads_map {item : Nat → Reader α} {depth : Nat} {R : Written → α → Prop} (h : Reads (item depth) R) :
    Reads (readMap item (depth + 1)) (IsMap R) := by
  have hrefuses : Refuses (readMap item (depth + 1)) (· ≠ '{') := by
    intro gap hgap c hc hne src x
    rw [readMap, skipBlanks_gaps_cons hgap hc]
    simp [hne]
  intro w v hw
  by_cases hv : ∃ ms, v = .object ms
  · obtain ⟨ms, rfl⟩ := hv
    cases hw with
    | @object entries inner hinner hentries =>
      intro gap hgap rest hrest m src
      have hitem (e : Entry) (he : e ∈ entries) : ReadsAs (item depth) R e.word e.value := h _ _ (hentries e he)
      have hread := members_map hitem hinner rest m src rfl
      rw [source_closed, readMap, skipBlanks_gaps_cons hgap (by decide)]
      refine hread.trans (and_congr_right fun _ => ?_)
      constructor
      · rintro ⟨es, hes, rfl⟩
        exact ⟨_, es, rfl, hes, rfl⟩
      · rintro ⟨ms, es, hms, hes, rfl⟩
        cases hms
        exact ⟨es, hes, rfl⟩
  · refine hrefuses.readsAs hw ?_ fun _ hm => hv ⟨hm.choose, hm.choose_spec.choose_spec.1⟩
    rintro c hc rfl
    exact hv (Written.of_beginsWith_brace hc)

/-! ## Any value -/

/-- Blanks in front of a value are skipped. -/
theorem readValue_gaps {cs : List Char} (h : Gaps cs) (depth : Nat) (rest : Source) :
    readValue depth (cs.map some ++ rest) = readValue depth rest := by
  unfold readValue
  rw [skipBlanks_gaps h]

theorem readValue_mark (depth : Nat) (src : Source) :
    readValue depth (some '"' :: src) = (textTail [] src).map fun x => (.string x.1, x.2) := by
  unfold readValue
  rfl

theorem readValue_list (depth : Nat) (src : Source) :
    readValue (depth + 1) (some '[' :: src) =
      (items (readValue depth) (src.length + 1) true [] src).map fun x => (.array x.1, x.2) := by
  rw [readValue.eq_def]
  rfl

theorem readValue_object (depth : Nat) (src : Source) :
    readValue (depth + 1) (some '{' :: src) =
      (members (readEntry (readValue depth)) (src.length + 1) true .empty src).map fun x =>
        (.object x.1.entries, x.2) := by
  rw [readValue.eq_def]
  rfl

/-- What a reader makes of items, and how deep brackets nest in them. -/
theorem forall₂_values {depth : Nat} {vs : List Written} {js : List Json} :
    List.Forall₂ (IsValue depth) vs js ↔
      Written.nestingItems vs ≤ depth ∧ Written.values? vs = some js := by
  induction vs generalizing js with
  | nil => simp [Written.nestingItems, Written.values?, eq_comm]
  | cons v vs ih =>
    rw [Written.nestingItems, Written.values?, List.forall₂_cons_left_iff]
    simp only [ih, Nat.max_le, Option.bind_eq_bind, Option.bind_eq_some_iff, Option.some.injEq]
    constructor
    · rintro ⟨j, js', hj, hjs, rfl⟩
      exact ⟨⟨hj.1, hjs.1⟩, j, hj.2, js', hjs.2, rfl⟩
    · rintro ⟨hdepth, j, hj, js', hjs, rfl⟩
      exact ⟨j, js', ⟨hdepth.1, hj⟩, ⟨hdepth.2, hjs⟩, rfl⟩

/-- What a reader makes of members, and how deep brackets nest in them. -/
theorem forall₂_entries {depth : Nat} {ms : List (String × Written)} {es : List (String × Json)} :
    List.Forall₂ (IsEntry (IsValue depth)) ms es ↔
      Written.nestingMembers ms ≤ depth ∧ Written.entries? ms = some es := by
  induction ms generalizing es with
  | nil => simp [Written.nestingMembers, Written.entries?, eq_comm]
  | cons m ms ih =>
    rw [Written.nestingMembers, Written.entries?, List.forall₂_cons_left_iff]
    simp only [ih, Nat.max_le, Option.bind_eq_bind, Option.bind_eq_some_iff, Option.some.injEq]
    constructor
    · rintro ⟨e, es', he, hes, rfl⟩
      exact ⟨⟨he.2.1, hes.1⟩, e.2, he.2.2, es', hes.2, by rw [← he.1]⟩
    · rintro ⟨hdepth, j, hj, es', hes, rfl⟩
      exact ⟨(m.1, j), es', ⟨rfl, hdepth.1, hj⟩, ⟨hdepth.2, hes⟩, rfl⟩

/-- A number is read where any value may stand. -/
theorem readValue_numeral (depth : Nat) (x : Numeral) {rest : Source} (hrest : EndsNumber rest) :
    readValue depth (x.text.map some ++ rest) = (x.number.map (·, rest)).map fun y => (.number y.1, y.2) := by
  have hhere := numberHere?_numeral x hrest
  obtain ⟨c, cs, hcs, hc⟩ := (Spells.number x).begins
  rw [hcs, List.map_cons, List.cons_append] at hhere ⊢
  unfold readValue
  rw [skipBlanks_cons hc.isGap_eq_false.1]
  -- no other value begins with that character
  split
  case h_1 h => cases h
  case h_8 =>
    rw [hhere]
  all_goals
    next h => exact absurd (Option.some.inj (List.cons.inj h).1) (hc.ne_of_number (by decide) rfl)

/-- **Any value**, as deep as brackets may nest. -/
theorem readsAs_value {w : List Char} {v : Written} (hw : Spells w v) (depth : Nat) :
    ReadsAs (readValue depth) (IsValue depth) w v := by
  induction hw generalizing depth with
  | null =>
    intro gap hgap rest hrest j src
    rw [readValue_gaps hgap]
    unfold readValue
    simp [skipBlanks, isGap, keyword, Except.map, IsValue, Written.nesting, Written.value?, eq_comm, and_comm]
  | true =>
    intro gap hgap rest hrest j src
    rw [readValue_gaps hgap]
    unfold readValue
    simp [skipBlanks, isGap, keyword, Except.map, IsValue, Written.nesting, Written.value?, eq_comm, and_comm]
  | false =>
    intro gap hgap rest hrest j src
    rw [readValue_gaps hgap]
    unfold readValue
    simp [skipBlanks, isGap, keyword, Except.map, IsValue, Written.nesting, Written.value?, eq_comm, and_comm]
  | number x =>
    intro gap hgap rest hrest j src
    rw [IsValue, readValue_gaps hgap, readValue_numeral depth x hrest, Written.value?]
    cases x.number <;> simp [Except.map, Except.toOption, Written.nesting, eq_comm, and_comm]
  | @string cs s h =>
    intro gap hgap rest hrest j src
    have hsource : ('"' :: (cs ++ ['"'])).map some ++ rest = some '"' :: (cs.map some ++ some '"' :: rest) := by simp
    have hread := textTail_spelled h [] rest
    rw [List.reverse_nil, List.nil_append, String.ofList_toList, List.map_nil] at hread
    rw [readValue_gaps hgap, hsource, readValue_mark, hread]
    simp [Except.map, IsValue, Written.nesting, Written.value?, eq_comm, and_comm]
  | @list parts inner hinner hparts ih =>
    intro gap hgap rest hrest j src
    rw [IsValue, readValue_gaps hgap, source_closed, Written.nesting, Written.value?]
    cases depth with
    | zero =>
      unfold readValue
      simp [skipBlanks, isGap]
    | succ depth =>
      have hread (js : List Json) (src : Source) := items_list hparts (fun p hp => ih p hp depth) hinner rest js
        src rfl
      rw [readValue_list, map_eq_ok, Nat.add_le_add_iff_right]
      simp only [Prod.exists, hread, forall₂_values, Prod.mk.injEq, Option.map_eq_some_iff]
      constructor
      · rintro ⟨js, src', ⟨rfl, hdepth, hjs⟩, rfl, rfl⟩
        exact ⟨rfl, hdepth, js, hjs, rfl⟩
      · rintro ⟨rfl, hdepth, js, hjs, rfl⟩
        exact ⟨js, src, ⟨rfl, hdepth, hjs⟩, rfl, rfl⟩
  | @object entries inner hinner hentries ih =>
    intro gap hgap rest hrest j src
    rw [IsValue, readValue_gaps hgap, source_closed, Written.nesting, Written.value?]
    cases depth with
    | zero =>
      unfold readValue
      simp [skipBlanks, isGap]
    | succ depth =>
      have hread (m : OrderedMap Json) (src : Source) := members_map (fun e he => ih e he depth) hinner rest m src rfl
      rw [readValue_object, map_eq_ok, Nat.add_le_add_iff_right]
      simp only [Prod.exists, hread, forall₂_entries, Prod.mk.injEq, Option.map_eq_some_iff]
      constructor
      · rintro ⟨m, src', ⟨rfl, es, ⟨hdepth, hes⟩, rfl⟩, rfl, rfl⟩
        exact ⟨rfl, hdepth, es, hes, congrArg Json.object (OrderedMap.entries_ofEntries es).symm⟩
      · rintro ⟨rfl, hdepth, es, hes, rfl⟩
        exact ⟨_, src, ⟨rfl, es, ⟨hdepth, hes⟩, rfl⟩, congrArg Json.object (OrderedMap.entries_ofEntries es), rfl⟩

/-- **Any value**, as deep as brackets may nest. -/
theorem reads_value (depth : Nat) : Reads (readValue depth) (IsValue depth) :=
  fun _ _ hw => readsAs_value hw depth

end Nested

end PlanBrowser.Json
