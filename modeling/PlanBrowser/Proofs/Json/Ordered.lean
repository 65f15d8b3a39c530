import PlanBrowser.Proofs.Json.Record
import PlanBrowser.Proofs.Json.Roundtrip

/-!
# Values that are read back as they are

A reader lists the members of an object in ascending order of their names, each name once.  Of a value that is like this
already it makes the value itself, so what has been read once is read back unchanged.

* `KeyMap.ofEntries_of_ascending`, `OrderedMap.ofEntries_entries` — a map is the map of its entries;
* `Json.Ordered` — values of that kind;
* `Json.Ordered.sorted_eq`, `Json.isValue_written` — a reader would change nothing about such a value;
* `Json.Yields`, `Json.yields_value` — **whatever text it is given, a reader yields ordered values only**, which nest as
  deep as brackets may;
* `Json.yields_list`, `Json.yields_record` — what readers of lists and records yield.
-/

namespace PlanBrowser

namespace KeyMap

variable {α : Type}

/-- A key that comes after all others is added at the end. -/
theorem insert_eq_append {m : List (String × α)} {key : String} (h : ∀ e ∈ m, e.1 < key) (value : α) :
    insert key value m = m ++ [(key, value)] := by
  induction m with
  | nil => rfl
  | cons e rest ih =>
    rw [List.forall_mem_cons] at h
    have hne : key ≠ e.1 := fun heq => String.lt_irrefl _ (heq ▸ h.1)
    rw [insert, if_neg hne, if_neg (String.lt_asymm h.1), ih h.2]
    rfl

/-- **Entries in order are their own map.** -/
theorem ofEntries_of_ascending {es : List (String × α)} (h : Ascending es) : ofEntries es = es := by
  have hfold (m es : List (String × α)) (h : Ascending (m ++ es)) :
      es.foldl (fun m e => insert e.1 e.2 m) m = m ++ es := by
    induction es generalizing m with
    | nil => simp
    | cons e es ih =>
      have hlast : ∀ e' ∈ m, e'.1 < e.1 := fun e' he' =>
        (List.pairwise_append.mp h).2.2 e' he' e List.mem_cons_self
      rw [List.foldl_cons, insert_eq_append hlast, ih, List.append_assoc]
      · rfl
      · rw [List.append_assoc]
        exact h
  exact hfold [] es h

end KeyMap

/-- **A map is the map of its entries.** -/
theorem OrderedMap.ofEntries_entries {α : Type} (m : OrderedMap α) : ofEntries m.entries = m :=
  ext_entries ((entries_ofEntries m.entries).trans (KeyMap.ofEntries_of_ascending m.ascending))

namespace Json

/-! ## Ordered values -/

/-- **The members of each object in a value are in ascending order of their names**, each name once. -/
inductive Ordered : Json → Prop
  | null : Ordered .null
  | bool (b : Bool) : Ordered (.bool b)
  | number (n : Number) : Ordered (.number n)
  | string (s : String) : Ordered (.string s)
  | array {vs : List Json} (h : ∀ v ∈ vs, Ordered v) : Ordered (.array vs)
  | object {ms : List (String × Json)} (hnames : KeyMap.Ascending ms) (h : ∀ m ∈ ms, Ordered m.2) :
      Ordered (.object ms)

/-- **A reader would change nothing about an ordered value.** -/
theorem Ordered.sorted_eq {v : Json} (h : v.Ordered) : v.sorted = v := by
  induction h with
  | null => rfl
  | bool b => rfl
  | number n => rfl
  | string s => rfl
  | @array vs _ ih =>
    rw [sorted, sortedItems_eq, List.map_congr_left ih, List.map_id']
  | @object ms hnames _ ih =>
    have hsame : (ms.map fun m => (m.1, m.2.sorted)) = ms := by
      have hmap : (ms.map fun m => (m.1, m.2.sorted)) = ms.map id :=
        List.map_congr_left fun m hm => by rw [ih m hm]; rfl
      rw [hmap, List.map_id]
    rw [sorted, sortedMembers_eq, hsame, KeyMap.ofEntries_of_ascending hnames]

/-- **A written value is read as itself**, if it is ordered. -/
theorem isValue_written {v : Json} (h : v.Integral) (hordered : v.Ordered) {depth : Nat}
    (hdepth : v.nesting ≤ depth) : IsValue depth v.written v :=
  ⟨(nesting_written v).symm ▸ hdepth, (value?_written h).trans (congrArg some hordered.sorted_eq)⟩

/-! ## What readers yield -/

section Yields

variable {α σ : Type}

/-- **Whatever the reader makes of any source has the property.** -/
def Yields (r : Reader α) (P : α → Prop) : Prop :=
  ∀ src a rest, r src = .ok (a, rest) → P a

theorem yields_any (r : Reader α) : Yields r fun _ => True :=
  fun _ _ _ _ => trivial

theorem Yields.readAll {r : Nat → Reader α} {P : α → Prop} (h : Yields (r maxDepth) P) {src : Source} {a : α}
    (hread : readAll r src = .ok a) : P a := by
  rw [Json.readAll, bind_eq_ok] at hread
  obtain ⟨⟨a', rest⟩, ha, hend⟩ := hread
  have hP := h src a' rest ha
  simp only at hend
  split at hend
  · cases hend
    exact hP
  · cases hend

/-- What a reader of items has gathered keeps the property. -/
theorem items_yields {item : Reader α} {P : α → Prop} (h : Yields item P) {fuel : Nat} {first : Bool} {acc as : List α}
    {src rest : Source} (hacc : ∀ a ∈ acc, P a) (hread : items item fuel first acc src = .ok (as, rest)) :
    ∀ a ∈ as, P a := by
  induction fuel generalizing first acc src with
  | zero => cases hread
  | succ fuel ih =>
    rw [items, bind_eq_ok] at hread
    obtain ⟨next, -, hread⟩ := hread
    cases next with
    | none =>
      obtain ⟨_, -, hend⟩ := bind_eq_ok.mp hread
      cases hend
      simpa using hacc
    | some next =>
      obtain ⟨⟨a, src⟩, ha, hread⟩ := bind_eq_ok.mp hread
      exact ih (List.forall_mem_cons.mpr ⟨h next a src ha, hacc⟩) hread

/-- What a reader of members has gathered keeps a property that each member keeps. -/
theorem members_yields {member : σ → String → Reader σ} {P : σ → Prop}
    (h : ∀ st key, P st → Yields (member st key) P) {fuel : Nat} {first : Bool} {st st' : σ} {src rest : Source}
    (hst : P st) (hread : members member fuel first st src = .ok (st', rest)) : P st' := by
  induction fuel generalizing first st src with
  | zero => cases hread
  | succ fuel ih =>
    rw [members, bind_eq_ok] at hread
    obtain ⟨next, -, hread⟩ := hread
    cases next with
    | none =>
      obtain ⟨_, -, hend⟩ := bind_eq_ok.mp hread
      cases hend
      exact hst
    | some next =>
      obtain ⟨⟨key, value⟩, -, hread⟩ := bind_eq_ok.mp hread
      obtain ⟨⟨mid, src⟩, hmid, hread⟩ := bind_eq_ok.mp hread
      exact ih (h st key hst value mid src hmid) hread

/-- The values of a map keep the property. -/
theorem readEntry_yields {item : Reader α} {P : α → Prop} (h : Yields item P) {m : OrderedMap α} (key : String)
    (hm : ∀ e ∈ m.entries, P e.2) : Yields (readEntry item m key) fun m => ∀ e ∈ m.entries, P e.2 := by
  intro src m' rest hread
  rw [readEntry, bind_eq_ok] at hread
  obtain ⟨value, -, hread⟩ := hread
  obtain ⟨⟨a, src⟩, ha, hput⟩ := bind_eq_ok.mp hread
  cases hput
  intro e he
  rcases KeyMap.mem_insert he with rfl | he
  · exact h value a rest ha
  · exact hm e he

theorem nestingItems_le {depth : Nat} {vs : List Json} (h : ∀ v ∈ vs, v.nesting ≤ depth) :
    nestingItems vs ≤ depth := by
  induction vs with
  | nil => exact Nat.zero_le _
  | cons v vs ih =>
    rw [List.forall_mem_cons] at h
    exact Nat.max_le.mpr ⟨h.1, ih h.2⟩

theorem nestingMembers_le {depth : Nat} {ms : List (String × Json)} (h : ∀ m ∈ ms, m.2.nesting ≤ depth) :
    nestingMembers ms ≤ depth := by
  induction ms with
  | nil => exact Nat.zero_le _
  | cons m ms ih =>
    rw [List.forall_mem_cons] at h
    exact Nat.max_le.mpr ⟨h.1, ih h.2⟩

/-- An ordered value, in which brackets nest no deeper than that. -/
def OrderedTo (depth : Nat) (v : Json) : Prop :=
  v.Ordered ∧ v.nesting ≤ depth

/-- **A reader yields ordered values only**, which nest as deep as brackets may. -/
theorem yields_value (depth : Nat) : Yields (readValue depth) (OrderedTo depth) := by
  -- a scalar is in order and does not nest, and inside a bracket there is one level less
  induction depth using Nat.strongRecOn with
  | ind depth ih =>
    intro src v rest hread
    rw [readValue.eq_def] at hread
    simp only at hread
    split at hread
    · cases hread
    · obtain ⟨_, -, heq⟩ := map_eq_ok.mp hread
      cases heq
      exact ⟨.null, Nat.zero_le _⟩
    · obtain ⟨_, -, heq⟩ := map_eq_ok.mp hread
      cases heq
      exact ⟨.bool true, Nat.zero_le _⟩
    · obtain ⟨_, -, heq⟩ := map_eq_ok.mp hread
      cases heq
      exact ⟨.bool false, Nat.zero_le _⟩
    · obtain ⟨_, -, heq⟩ := map_eq_ok.mp hread
      cases heq
      exact ⟨.string _, Nat.zero_le _⟩
    · cases depth with
      | zero => cases hread
      | succ depth =>
        obtain ⟨_, hitems, heq⟩ := map_eq_ok.mp hread
        cases heq
        have hvs := items_yields (ih depth (Nat.lt_succ_self _)) (List.forall_mem_nil _) hitems
        exact ⟨.array fun v hv => (hvs v hv).1, Nat.succ_le_succ (nestingItems_le fun v hv => (hvs v hv).2)⟩
    · cases depth with
      | zero => cases hread
      | succ depth =>
        obtain ⟨⟨m, _⟩, hmembers, heq⟩ := map_eq_ok.mp hread
        cases heq
        have hms := members_yields (fun m key hm => readEntry_yields (ih depth (Nat.lt_succ_self _)) key hm)
          (List.forall_mem_nil _) hmembers
        exact ⟨.object m.ascending fun e he => (hms e he).1,
          Nat.succ_le_succ (nestingMembers_le fun e he => (hms e he).2)⟩
    · split at hread
      · obtain ⟨_, -, heq⟩ := map_eq_ok.mp hread
        cases heq
        exact ⟨.number _, Nat.zero_le _⟩
      · cases hread

/-- **What a reader of a list yields**: brackets may nest one level less in its items. -/
theorem yields_list {item : Nat → Reader α} {P : Nat → α → Prop} (h : ∀ depth, Yields (item depth) (P depth))
    (depth : Nat) : Yields (readList item depth) fun as => ∃ d, depth = d + 1 ∧ ∀ a ∈ as, P d a := by
  intro src as rest hread
  rw [readList] at hread
  split at hread
  · cases depth with
    | zero => cases hread
    | succ depth => exact ⟨depth, rfl, items_yields (h depth) (List.forall_mem_nil _) hread⟩
  · cases hread

/-! ## What readers of records yield -/

/-- Whatever is read for the member, the record keeps the property. -/
def Field.Keeps (f : Field σ) (depth : Nat) (P : σ → Prop) : Prop :=
  Yields (f.read depth) fun put => ∀ s, P s → P (put s)

theorem keeps_field {r : Nat → Reader α} {depth : Nat} {P : σ → Prop} {Q : α → Prop} (h : Yields (r depth) Q)
    (name : String) (required : Bool) {put : α → σ → σ} (hput : ∀ a s, Q a → P s → P (put a s)) :
    (field name required r put).Keeps depth P := by
  intro src f rest hread
  obtain ⟨⟨a, src'⟩, ha, heq⟩ := map_eq_ok.mp hread
  cases heq
  exact fun s hs => hput a s (h src a rest ha) hs

/-- A member that leaves alone what the property is about. -/
theorem keeps_untouched {r : Nat → Reader α} {depth : Nat} {P : σ → Prop} (name : String) (required : Bool)
    {put : α → σ → σ} (hput : ∀ a s, P s → P (put a s)) : (field name required r put).Keeps depth P :=
  keeps_field (yields_any _) name required fun a s _ => hput a s

theorem readInOrder_yields {fields : List (Field σ)} {depth : Nat} {P : σ → Prop}
    (h : ∀ f ∈ fields, f.Keeps depth P) {first : Bool} {st st' : σ} {src rest : Source} (hst : P st)
    (hread : readInOrder depth fields first st src = .ok (st', rest)) : P st' := by
  induction fields generalizing first st src with
  | nil =>
    rw [readInOrder, bind_eq_ok] at hread
    obtain ⟨_, -, hend⟩ := hread
    cases hend
    exact hst
  | cons f fields ih =>
    rw [List.forall_mem_cons] at h
    rw [readInOrder, bind_eq_ok] at hread
    obtain ⟨next, -, hread⟩ := hread
    cases next with
    | none =>
      simp only at hread
      split at hread
      · cases hread
      · exact ih h.2 hst hread
    | some next =>
      obtain ⟨⟨put, src⟩, hput, hread⟩ := bind_eq_ok.mp hread
      exact ih h.2 (h.1 next put src hput st hst) hread

theorem readMember_yields {fields : List (Field σ)} {depth : Nat} {P : σ → Prop}
    (h : ∀ f ∈ fields, f.Keeps depth P) (st : σ × List String) (key : String) (hst : P st.1) :
    Yields (readMember fields depth st key) fun st => P st.1 := by
  intro src st' rest hread
  rw [readMember] at hread
  split at hread
  · obtain ⟨_, -, hread⟩ := bind_eq_ok.mp hread
    obtain ⟨_, -, hend⟩ := bind_eq_ok.mp hread
    cases hend
    exact hst
  · next f hfind =>
    split at hread
    · cases hread
    · obtain ⟨value, -, hread⟩ := bind_eq_ok.mp hread
      obtain ⟨⟨put, src'⟩, hput, hend⟩ := bind_eq_ok.mp hread
      cases hend
      exact h f (List.mem_of_find?_eq_some hfind) value put rest hput st.1 hst

/-- **What a reader of records yields**: a property of the empty record that every member keeps. -/
theorem yields_record {fields : List (Field σ)} {empty : σ} {P : Nat → σ → Prop} (hempty : ∀ depth, P depth empty)
    (h : ∀ depth, ∀ f ∈ fields, f.Keeps depth (P depth)) (depth : Nat) :
    Yields (readRecord fields empty depth) fun s => ∃ d, depth = d + 1 ∧ P d s := by
  intro src s rest hread
  rw [readRecord] at hread
  split at hread
  · cases depth with
    | zero => cases hread
    | succ depth => exact ⟨depth, rfl, readInOrder_yields (h depth) (hempty depth) hread⟩
  · cases depth with
    | zero => cases hread
    | succ depth =>
      obtain ⟨⟨⟨st, seen⟩, src'⟩, hmembers, hend⟩ := bind_eq_ok.mp hread
      have hst : P depth st := members_yields (P := fun st => P depth st.1)
        (fun st key hst => readMember_yields (h depth) st key hst) (hempty depth) hmembers
      simp only at hend
      split at hend
      · cases hend
      · cases hend
        exact ⟨depth, rfl, hst⟩
  · cases hread

end Yields

end Json

end PlanBrowser
